import DoubleEntry.Time.Calendar

/-!
# Instants

A point on the time line of Coordinated Universal Time, as seconds from the epoch
and nanoseconds.  The nanoseconds of a leap second run on from one thousand
million, so a second has room for two thousand million of them and `rank` lists
all instants in their order.
-/

namespace DoubleEntry

/-- The first second of the year -262143. -/
def Instant.firstSecond : Int := -8334601228800

/-- The last second of the year 262142. -/
def Instant.lastSecond : Int := 8210266876799

structure Instant where
  seconds : Int
  nanos : Nat
  first_le : Instant.firstSecond ≤ seconds
  le_last : seconds ≤ Instant.lastSecond
  nanos_lt : nanos < 2000000000
  deriving DecidableEq, Repr

namespace Instant

def of? (seconds : Int) (nanos : Nat) : Option Instant :=
  if h : firstSecond ≤ seconds ∧ seconds ≤ lastSecond ∧ nanos < 2000000000 then
    some ⟨seconds, nanos, h.1, h.2.1, h.2.2⟩
  else none

def epoch : Instant := ⟨0, 0, by decide, by decide, by decide⟩

instance : Inhabited Instant := ⟨epoch⟩

def rank (t : Instant) : Nat := (t.seconds - firstSecond).toNat * 2000000000 + t.nanos

instance : LE Instant := ⟨fun a b => a.rank ≤ b.rank⟩

instance : LT Instant := ⟨fun a b => a.rank < b.rank⟩

instance (a b : Instant) : Decidable (a ≤ b) := inferInstanceAs (Decidable (a.rank ≤ b.rank))

instance (a b : Instant) : Decidable (a < b) := inferInstanceAs (Decidable (a.rank < b.rank))

theorem le_def {a b : Instant} : a ≤ b ↔ a.rank ≤ b.rank := Iff.rfl

theorem lt_def {a b : Instant} : a < b ↔ a.rank < b.rank := Iff.rfl

theorem rank_inj {a b : Instant} : a.rank = b.rank ↔ a = b := by
  constructor
  · intro h
    obtain ⟨s, n, hs, _, hn⟩ := a
    obtain ⟨s', n', hs', _, hn'⟩ := b
    simp only [rank] at h
    obtain rfl : n = n' := by omega
    obtain rfl : s = s' := by omega
    rfl
  · rintro rfl
    rfl

def latest (a b : Instant) : Instant := if a ≤ b then b else a

def date (t : Instant) : Calendar.Date := Calendar.Date.ofDays (t.seconds / 86400)

def year (t : Instant) : Int := t.date.year

def startOfYear? (year : Int) : Option Instant :=
  of? (Calendar.Date.toDays ⟨year, 1, 1⟩ * 86400) 0

end Instant

end DoubleEntry
