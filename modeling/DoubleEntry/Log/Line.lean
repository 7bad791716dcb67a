import DoubleEntry.Json.Writing
import DoubleEntry.Log.Event

/-!
# Log lines

An event is written as one JSON object or as plain text.  A text that is shown as
it is may hold line ends, so the plain form of one event can take several lines.
-/

namespace DoubleEntry

namespace Field

def toJson : Field → Json
  | .shown value => .text value
  | .text value => .text value
  | .number value => .ofNat value
  | .flag value => .bool value

def toPlain : Field → String
  | .shown value => value
  | .text value => Text.quoted value
  | .number value => toString value
  | .flag value => toString value

end Field

namespace Event

def fieldsJson (event : Event) : Json :=
  .object (("message", .text event.message) ::
    event.fields.map fun (name, field) => (name, field.toJson))

def toJsonLine (time : String) (event : Event) : String :=
  Json.write (.object [("timestamp", .text time), ("level", .text event.level.name),
    ("fields", event.fieldsJson), ("target", .text event.source.target)])

def toPlainText (time : String) (event : Event) : String :=
  let fields := event.fields.map fun (name, field) => " " ++ name ++ "=" ++ field.toPlain
  time ++ " " ++ event.level.name ++ " " ++ event.source.target ++ ": " ++ event.message
    ++ String.join fields

def lines (json : Bool) (time : String) (event : Event) : List String :=
  if json then [event.toJsonLine time] else (event.toPlainText time).splitOn "\n"

end Event

end DoubleEntry
