import DoubleEntry.Settings.Files

/-!
# Environment

What the program finds around it when it starts: variables, and files in the
directory `config`.  The run mode names one of the files.
-/

namespace DoubleEntry

structure Environment where
  values : List (String × String)
  file? : String → Option String

namespace Environment

def valueOf? (environment : Environment) (name : String) : Option String :=
  (environment.values.find? fun v => v.1 == name).map Prod.snd

def runMode (environment : Environment) : String :=
  (environment.valueOf? "RUN_MODE").getD "development"

/-! ## Documents -/

def extension : String := "json"

def exactPath (name : String) : String := "config/" ++ name

/-- The path with the extension.  A name that has an extension keeps it: another one is put behind
the path to give way. -/
def extendedPath? (name : String) : Option String :=
  let path := exactPath name
  Path.withExtension? extension
    (if (Path.extension? path).isSome then path ++ ".placeholder" else path)

/-- The file with exactly the name goes before the one with the extension.  It must have the
extension itself. -/
def document? (environment : Environment) (name : String) : Option String :=
  match environment.file? (exactPath name) with
  | some text => if Path.extension? (exactPath name) = some extension then some text else none
  | none => (extendedPath? name).bind environment.file?

def paths (environment : Environment) : List String :=
  ["default", environment.runMode].flatMap fun name =>
    exactPath name :: (extendedPath? name).toList

def filesOf (documents : List (String × String)) : Files :=
  documents.foldl
    (fun files (name, text) => files.write (exactPath (name ++ "." ++ extension)) text) .empty

end Environment

end DoubleEntry
