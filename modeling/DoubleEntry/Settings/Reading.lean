import DoubleEntry.Decimal.Notation
import DoubleEntry.Json.Value
import DoubleEntry.Settings
import DoubleEntry.Text.Digits

/-!
# Reading settings

Settings are read from one JSON object with a section for each group, or from
lists that give the same values by position.  What is absent keeps its standard
value.  How single values are read is a parameter: a stored document has values
of the right kind, while values that come from outside as text are converted.
-/

namespace DoubleEntry

/-- How single values are read, and whether a list may be longer than needed. -/
structure ValueReading where
  text? : Json → Option String
  flag? : Json → Option Bool
  count? : Json → Option Nat
  allowsSurplus : Bool

namespace ValueReading

def strict : ValueReading where
  text? := Json.text?
  flag? := Json.bool?
  count? := Json.natural?
  allowsSurplus := false

/-! ## Conversions -/

/-- Lower case as far as it leads to ASCII letters; the Kelvin sign is a capital `k`. -/
def lowerChar (c : Char) : Char := if c = '\u212a' then 'k' else c.toLower

def lower (s : String) : String := s.map lowerChar

def countOfText? (s : String) : Option Nat :=
  (Text.unsigned? s.toList).filter fun n => n < 0x10000000000000000

/-- The nearest count, a half going up; counts end before `2 ^ 64`. -/
def countOfFloat (x : Float) : Nat :=
  let ⟨mantissa, exponent⟩ := Dyadic.ofFloat x
  let rounded := match exponent with
    | .ofNat e => mantissa * Nat.pow 2 e
    | .negSucc e => (mantissa + Nat.pow 2 e) / Nat.pow 2 (e + 1)
  if x < 0 then 0 else min rounded 0xffffffffffffffff

def textOfFloat (x : Float) : String :=
  Decimal.signOf x ++ ((Dyadic.ofFloat x).shortest .upper).positional

def convertText? : Json → Option String
  | .text value => some value
  | .bool value => some (if value then "true" else "false")
  | .integer value => some (toString value)
  | .float value => some (textOfFloat value)
  | _ => none

def convertFlag? : Json → Option Bool
  | .bool value => some value
  | .integer value => some (value ≠ 0)
  | .float value => some (value != 0)
  | .text value =>
    let word := lower value
    if word ∈ ["1", "true", "on", "yes"] then some true
    else if word ∈ ["0", "false", "off", "no"] then some false
    else none
  | _ => none

def convertCount? : Json → Option Nat
  | .integer value => if 0 ≤ value then some value.toNat else none
  | .bool value => some (if value then 1 else 0)
  | .float value => some (countOfFloat value)
  | .text value =>
    let word := lower value
    if word ∈ ["true", "on", "yes"] then some 1
    else if word ∈ ["false", "off", "no"] then some 0
    else countOfText? value
  | _ => none

def converting : ValueReading where
  text? := convertText?
  flag? := convertFlag?
  count? := convertCount?
  allowsSurplus := true

end ValueReading

namespace Settings

def members? (reading : ValueReading) (names : List String) (json : Json) :
    Option (List (Option Json)) :=
  match json with
  | .object _ => some (names.map json.member?)
  | .list items =>
    if items.length ≤ names.length || reading.allowsSurplus then
      some (names.mapIdx fun position _ => items[position]?)
    else none
  | _ => none

def valueOr {α : Type} (read? : Json → Option α) (standard : α) : Option Json → Option α
  | some json => read? json
  | none => some standard

def ledger? (reading : ValueReading) (json : Json) : Option LedgerSettings := do
  let standard := LedgerSettings.standard
  let names := ["banking_reserve_reference", "reservations_reference", "premiums_reference",
    "allow_closed_period_posting"]
  let [bankingReserve, reservations, premiums, allow] ← members? reading names json | none
  return ⟨⟨← valueOr reading.text? standard.refs.bankingReserve bankingReserve,
    ← valueOr reading.text? standard.refs.reservations reservations,
    ← valueOr reading.text? standard.refs.premiums premiums⟩,
    ← valueOr reading.flag? standard.allowClosedPeriodPosting allow⟩

def store? (reading : ValueReading) (json : Json) : Option StoreSettings := do
  let [timeout] ← members? reading ["lock_timeout_ms"] json | none
  return ⟨← valueOr reading.count? StoreSettings.standard.lockTimeoutMs timeout⟩

def logging? (reading : ValueReading) (json : Json) : Option LoggingSettings := do
  let standard := LoggingSettings.standard
  let [filter, asJson] ← members? reading ["filter", "json"] json | none
  return ⟨← valueOr reading.text? standard.filter filter,
    ← valueOr reading.flag? standard.json asJson⟩

def ofJson? (reading : ValueReading) (json : Json) : Option Settings := do
  let [ledger, store, logging] ← members? reading ["ledger", "store", "logging"] json | none
  return ⟨← valueOr (ledger? reading) .standard ledger, ← valueOr (store? reading) .standard store,
    ← valueOr (logging? reading) .standard logging⟩

end Settings

end DoubleEntry
