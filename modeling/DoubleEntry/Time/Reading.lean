import DoubleEntry.Text.Blank
import DoubleEntry.Text.Digits
import DoubleEntry.Text.Reader
import DoubleEntry.Time.Instant

/-!
# Reading instants

A written instant is a date, a `T` or a blank, a time of day and an offset from
Coordinated Universal Time, which is applied.  Blanks may stand before a number
and before a sign, numbers may leave out leading zeros, and a year with a sign
may have any number of digits.
-/

namespace DoubleEntry.Instant

open Text (Reader)
open Text.Reader

namespace Reader

def skipBlanks : Reader Unit := modify (·.dropWhile Text.isBlank)

def digits (limit : Option Nat) : Reader (List Char) := do
  let rest ← get
  let all := rest.takeWhile Char.isDigit
  let taken := match limit with
    | some n => all.take n
    | none => all
  guard (!taken.isEmpty)
  set (rest.drop taken.length)
  return taken

def number (limit : Nat) : Reader Nat := do
  skipBlanks
  return Text.numberOf (← digits (some limit))

def year : Reader Int := do
  skipBlanks
  match ← get with
  | '-' :: rest => set rest; return -(Text.numberOf (← digits none) : Int)
  | '+' :: rest => set rest; return Text.numberOf (← digits none)
  | _ => return Text.numberOf (← digits (some 4))

def separated (sign : Char) (limit : Nat) : Reader Nat := do
  skipBlanks
  expect sign
  number limit

def date : Reader Calendar.Date := do
  let year ← year
  let month ← separated '-' 2
  let day ← separated '-' 2
  return ⟨year, month, day⟩

/-- Nanoseconds after a point; digits beyond the ninth are dropped. -/
def fraction : Reader Nat := do
  match ← get with
  | '.' :: rest =>
    set rest
    let taken ← digits (some 9)
    modify (·.dropWhile Char.isDigit)
    return Text.numberOf taken * Nat.pow 10 (9 - taken.length)
  | _ => return 0

/-- Seconds since midnight and nanoseconds, a sixtieth second being a leap second. -/
def timeOfDay : Reader (Nat × Nat) := do
  let hour ← number 2
  let minute ← separated ':' 2
  let second ← separated ':' 2
  guard (hour ≤ 23 && minute ≤ 59 && second ≤ 60)
  let nanos ← fraction
  let ofMinute := hour * 3600 + minute * 60
  if second = 60 then return (ofMinute + 59, nanos + 1000000000)
  else return (ofMinute + second, nanos)

def twoDigits : Reader Nat := do
  let tens ← next
  let ones ← next
  guard (tens.isDigit && ones.isDigit)
  return Text.digitValue tens * 10 + Text.digitValue ones

def signedOffset : Reader Int := do
  let sign ← next
  guard (sign = '+' || sign = '-' || sign = '\u2212')
  let hours ← twoDigits
  modify (·.dropWhile fun c => c = ':' || Text.isBlank c)
  let minutes ← twoDigits
  guard (minutes ≤ 59)
  let seconds : Int := hours * 3600 + minutes * 60
  return if sign = '+' then seconds else -seconds

def offset : Reader Int := do
  skipBlanks
  let rest ← get
  if (rest.take 3).map Char.toLower = ['u', 't', 'c'] then
    set (rest.drop 3)
    return 0
  match rest with
  | 'Z' :: rest => set rest; return 0
  | 'z' :: rest => set rest; return 0
  | _ => signedOffset

def instant : Reader Instant := do
  let date ← date
  let between ← next
  guard (between = 't' || between = 'T' || between = ' ')
  let (second, nanos) ← timeOfDay
  let offset ← offset
  skipBlanks
  guard (← get).isEmpty
  guard (date.isValid && offset.natAbs < 86400)
  match of? (date.toDays * 86400) 0 with
  | some midnight => of? (midnight.seconds + second - offset) nanos
  | none => failure

end Reader

def ofString? (s : String) : Option Instant := (Reader.instant.run s.toList).map Prod.fst

end DoubleEntry.Instant
