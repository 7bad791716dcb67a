import DoubleEntry.Json.Path
import DoubleEntry.Json.Reading
import DoubleEntry.Settings.Environment
import DoubleEntry.Settings.Reading

/-!
# Layers of settings

Settings come from files and from environment variables.  The layers are merged
one after another, a later one over an earlier one: the file `default`, the file of
the run mode, and the variables `BANKER__SECTION__KEY`.  In each layer a key is the
path of the place that its value is for.
-/

namespace DoubleEntry.Environment

def assign (settings : Json) (key : String) (value : Json) : Json :=
  match Json.Path.ofString? key with
  | some path => settings.put path value
  | none => settings

def fileLayer? (text : String) : Option (List (String × Json)) :=
  match Json.read? text with
  | some (.object members) => some members
  | _ => none

def variableStart : String := "banker__"

def keyOfVariable? (name : String) : Option String :=
  let name := ValueReading.lower name
  if variableStart.toList.isPrefixOf name.toList then
    some (String.ofList (name.toList.drop variableStart.length) |>.replace "__" ".")
  else none

def variableLayer (environment : Environment) : List (String × Json) :=
  environment.values.filterMap fun (name, value) =>
    (keyOfVariable? name).map fun key => (key, .text value)

def layers? (environment : Environment) : Option (List (List (String × Json))) := do
  let files := ["default", environment.runMode].filterMap environment.document?
  return (← files.mapM fileLayer?) ++ [environment.variableLayer]

def settings? (environment : Environment) : Option Settings := do
  let layers ← environment.layers?
  let merged := layers.flatten.foldl (fun settings (key, value) => assign settings key value)
    (.object [])
  Settings.ofJson? .converting merged

end DoubleEntry.Environment
