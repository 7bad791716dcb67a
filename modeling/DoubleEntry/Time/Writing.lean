import DoubleEntry.Time.Instant

/-!
# Writing instants

An instant has two written forms that differ in the sign between date and time
and in the mark of the zone.  Both give the fraction of a second in the fewest
groups of three digits that lose nothing; a leap second is the sixtieth.
-/

namespace DoubleEntry.Instant

structure Style where
  between : String
  zone : String
  deriving DecidableEq, Repr

def Style.data : Style := ⟨"T", "Z"⟩

def Style.prose : Style := ⟨" ", " UTC"⟩

def padded (width n : Nat) : String :=
  let digits := toString n
  "".pushn '0' (width - digits.length) ++ digits

/-- Four digits; outside the years 0 to 9999 a sign comes first. -/
def yearText (year : Int) : String :=
  if year < 0 then "-" ++ padded 4 year.natAbs
  else if 9999 < year then "+" ++ padded 4 year.natAbs
  else padded 4 year.natAbs

def fractionText (nanos : Nat) : String :=
  if nanos = 0 then ""
  else if nanos % 1000000 = 0 then "." ++ padded 3 (nanos / 1000000)
  else if nanos % 1000 = 0 then "." ++ padded 6 (nanos / 1000)
  else "." ++ padded 9 nanos

def write (style : Style) (t : Instant) : String :=
  let date := t.date
  let ofDay := (t.seconds % 86400).toNat
  let leap := t.nanos / 1000000000
  let second := ofDay % 60 + leap
  let dateText := yearText date.year ++ "-" ++ padded 2 date.month ++ "-" ++ padded 2 date.day
  let timeText := padded 2 (ofDay / 3600) ++ ":" ++ padded 2 (ofDay / 60 % 60) ++ ":"
    ++ padded 2 second ++ fractionText (t.nanos % 1000000000)
  dateText ++ style.between ++ timeText ++ style.zone

def toData (t : Instant) : String := t.write .data

def toProse (t : Instant) : String := t.write .prose

instance : ToString Instant := ⟨toProse⟩

end DoubleEntry.Instant
