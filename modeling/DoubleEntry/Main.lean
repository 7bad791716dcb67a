import DoubleEntry.Json.Reading
import DoubleEntry.Log.Line
import DoubleEntry.Seeding
import Std.Time.DateTime.Timestamp

/-!
# The seeding program

Reads the environment, the configuration files in the directory `config` and the
clock, seeds a store, prints the log on standard output and complaints on standard
error, and exits with 1 if the run failed.
-/

namespace DoubleEntry.CommandLine

def splitAtZeros (bytes : List UInt8) : List (List UInt8) :=
  bytes.foldl
    (fun groups byte =>
      match groups with
      | [] => [[byte]]
      | group :: rest => if byte = 0 then [] :: group :: rest else (byte :: group) :: rest)
    [[]]

def variableOf? (reversed : List UInt8) : Option (String × String) := do
  let text ← String.fromUTF8? ⟨reversed.reverse.toArray⟩
  let cs := text.toList
  guard ('=' ∈ cs)
  return (String.ofList (cs.takeWhile (· ≠ '=')),
    String.ofList ((cs.dropWhile (· ≠ '=')).drop 1))

def readValues : IO (List (String × String)) := do
  let bytes ← IO.FS.readBinFile "/proc/self/environ"
  return ((splitAtZeros bytes.toList).filterMap variableOf?).reverse

def readFile (path : String) : IO (Option String) := do
  try
    return some (← IO.FS.readFile path)
  catch _ => return none

def readEnvironment : IO Environment := do
  let values ← readValues
  let files ← (Environment.paths ⟨values, fun _ => none⟩).mapM fun path =>
    return (path, ← readFile path)
  return ⟨values, fun path => (files.lookup path).join⟩

def surroundings (nanos : Nat) : Surroundings :=
  let seconds := nanos / 1000000000
  let now := (Instant.of? seconds (nanos % 1000000000)).getD .epoch
  let millis := nanos / 1000000
  let offset := nanos % 1000000 * Nat.pow 2 40
  ⟨fun serial => Uuid.series millis (offset + serial), fun _ => now⟩

def readClock : IO Nat :=
  return (← Std.Time.Timestamp.now).toNanosecondsSinceUnixEpoch.val.toNat

def run : IO UInt32 := do
  let surroundings := surroundings (← readClock)
  let report := Seeding.report surroundings (← readEnvironment)
  let time := (surroundings.clock 0).toData
  for event in report.events do
    for line in event.lines report.asJson time do
      IO.println line
  for complaint in report.complaints do
    IO.eprintln complaint
  return if report.succeeded then 0 else 1

end DoubleEntry.CommandLine

def main : IO UInt32 := DoubleEntry.CommandLine.run
