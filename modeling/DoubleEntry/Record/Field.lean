import DoubleEntry.Error
import DoubleEntry.Json.Value
import DoubleEntry.Time.Reading

/-!
# Values inside records

Records are exchanged as JSON objects.  Reading is strict about kinds and ranges
but checks no rule of the books; besides its object form a record can be read from
the list of all its values in order, and a classification from an object whose
only member is its name with the value `null`.
-/

namespace DoubleEntry

class Recorded (α : Type) where
  toJson : α → Json
  ofJson? : Json → Option α

namespace Recorded

instance : Recorded String := ⟨.text, Json.text?⟩

instance : Recorded Money where
  toJson amount := .integer amount.minorUnits
  ofJson? json := json.integer?.bind Money.ofInt?

instance {kind : RecordKind} : Recorded (Id kind) where
  toJson id := .text (toString id)
  ofJson? json := json.text?.bind Id.ofString?

instance : Recorded Instant where
  toJson time := .text time.toData
  ofJson? json := json.text?.bind Instant.ofString?

instance : Recorded UInt64 where
  toJson version := .ofNat version.toNat
  ofJson? json := json.natural?.map UInt64.ofNat

def className? : Json → Option String
  | .text name => some name
  | .object [(name, .null)] => some name
  | _ => none

instance {α : Type} [Coded α] : Recorded α where
  toJson value := .text (Coded.name value)
  ofJson? json := (className? json).bind Coded.ofName?

instance {α : Type} [Recorded α] : Recorded (List α) where
  toJson values := .list (values.map toJson)
  ofJson? json := json.list?.bind fun items => items.mapM ofJson?

instance {α : Type} [Recorded α] : Recorded (Option α) where
  toJson
    | some value => toJson value
    | none => .null
  ofJson?
    | .null => some none
    | json => some <$> ofJson? json

end Recorded

structure FieldName where
  name : String
  isRequired : Bool
  deriving DecidableEq, Repr

def Json.required (names : List String) : List FieldName := names.map (⟨·, true⟩)

def Json.fields? (json : Json) (names : List FieldName) : Option (List Json) :=
  match json with
  | object _ => names.mapM fun field =>
    match json.member? field.name with
    | some value => some value
    | none => if field.isRequired then none else some null
  | list items => if items.length = names.length then some items else none
  | _ => none

end DoubleEntry
