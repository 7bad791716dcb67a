import DoubleEntry.Time.Instant

/-!
# Years begin before they go on

The date of a day is found by way of an era of 400 years that begin in March.  Whatever
the day, its year began on that day or before (`Instant.startOfYear_le`).
-/

namespace DoubleEntry

namespace Calendar

private theorem yearOfEra_starts {day year : Int} (lower : 0 ≤ day) (upper : day < 146097)
    (isYear : (day - day / 1460 + day / 36524 - day / 146096) / 365 = year) :
    0 ≤ year ∧ year < 400 ∧ 365 * year + year / 4 - year / 100 ≤ day := by
  -- the leap days that the estimate takes off: one in four years, but for three of the centuries
  have centuries : day / 36524 - day / 146096 ≤ 3 := by omega
  have fours : 25 * (day / 36524) ≤ day / 1460 := by omega
  have spent : 365 * year ≤ day - day / 1460 + day / 36524 - day / 146096 := by omega
  have within : 0 ≤ year ∧ year < 400 := by omega
  have leaps : year / 4 - year / 100 ≤ day / 1460 - (day / 36524 - day / 146096) := by
    have whole : year / 4 ≤ day / 1460 := by omega
    by_cases few : day / 36524 - day / 146096 ≤ year / 100
    · omega
    · have rest : year / 4 ≤ 25 * (year / 100) + 24 := by omega
      omega
  omega

private theorem exists_yearOfEra (days : Int) : ∃ era year dayOfYear : Int,
    0 ≤ year ∧ year < 400 ∧ 0 ≤ dayOfYear ∧
    days = era * 146097 + (365 * year + year / 4 - year / 100) + dayOfYear - 719468 ∧
    (Date.ofDays days).year = year + era * 400 + if 306 ≤ dayOfYear then 1 else 0 := by
  let era := (days + 719468) / 146097
  let day := days + 719468 - era * 146097
  let year := (day - day / 1460 + day / 36524 - day / 146096) / 365
  let dayOfYear := day - (365 * year + year / 4 - year / 100)
  obtain ⟨nonneg, fits, starts⟩ :=
    yearOfEra_starts (by omega : 0 ≤ day) (by omega) (rfl : _ = year)
  refine ⟨era, year, dayOfYear, nonneg, fits, by omega, by omega, ?_⟩
  have january : (if (5 * dayOfYear + 2) / 153 < 10 then (5 * dayOfYear + 2) / 153 + 3
      else (5 * dayOfYear + 2) / 153 - 9) ≤ 2 ↔ 306 ≤ dayOfYear := by
    split <;> omega
  simp only [← january]
  rfl

private theorem toDays_newYear (year : Int) : Date.toDays ⟨year, 1, 1⟩ =
    (year - 1) / 400 * 146097 + ((year - 1 - (year - 1) / 400 * 400) * 365 +
      (year - 1 - (year - 1) / 400 * 400) / 4 - (year - 1 - (year - 1) / 400 * 400) / 100 + 306) -
      719468 := by
  simp [Date.toDays]

private theorem toDays_startOfYear_le (days : Int) :
    Date.toDays ⟨(Date.ofDays days).year, 1, 1⟩ ≤ days := by
  obtain ⟨era, year, dayOfYear, nonneg, fits, started, isDay, isYear⟩ := exists_yearOfEra days
  rw [toDays_newYear, isYear, isDay]
  split
  · rw [show year + era * 400 + 1 - 1 = year + era * 400 by omega,
      show (year + era * 400) / 400 = era by omega]
    omega
  · by_cases first : year = 0
    · rw [show (year + era * 400 + 0 - 1) / 400 = era - 1 by omega]
      omega
    · rw [show (year + era * 400 + 0 - 1) / 400 = era by omega]
      omega

end Calendar

namespace Instant

theorem startOfYear_le {time start : Instant} (starts : startOfYear? time.year = some start) :
    start ≤ time := by
  rw [startOfYear?, of?] at starts
  split at starts
  · cases starts
    have before := Calendar.toDays_startOfYear_le (time.seconds / 86400)
    have same : time.year = (Calendar.Date.ofDays (time.seconds / 86400)).year := rfl
    rw [← same] at before
    rw [le_def, rank, rank]
    simp only
    omega
  · cases starts

theorem getD_startOfYear_le (time : Instant) :
    (startOfYear? time.year).getD time ≤ time := by
  cases starts : startOfYear? time.year with
  | some start => exact startOfYear_le starts
  | none => exact Nat.le_refl _

end Instant

end DoubleEntry
