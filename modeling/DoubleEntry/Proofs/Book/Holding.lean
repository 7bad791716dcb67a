import DoubleEntry.Book.Reservation
import DoubleEntry.Proofs.Outcome

/-!
# What a reservation holds

Of every reservation that comes about by reserving, charging and releasing, the
status says how much is charged: all of it when it is settled, less otherwise.  Only
a reservation that is neither settled nor released can be charged, and only such a
one has anything to give back.
-/

namespace DoubleEntry.Reservation

structure Consistent (reservation : Reservation) : Prop where
  held_pos : 0 < reservation.held.minorUnits
  charged_nonneg : 0 ≤ reservation.charged.minorUnits
  charged_le : reservation.charged.minorUnits ≤ reservation.held.minorUnits
  settled_iff : reservation.status = .settled ↔ reservation.charged = reservation.held
  charged_lt : reservation.status = .released →
    reservation.charged.minorUnits < reservation.held.minorUnits

variable {reservation charged released : Reservation} {amount remaining : Money}

theorem Consistent.committed (consistent : reservation.Consistent) :
    reservation.committed.Consistent :=
  ⟨consistent.held_pos, consistent.charged_nonneg, consistent.charged_le, consistent.settled_iff,
    consistent.charged_lt⟩

theorem create_eq {id : ReservationId} {createdAt : Instant} {businessReference : String}
    {payer : Account} (creates : create id createdAt businessReference payer amount =
      .ok reservation) :
    0 < amount.minorUnits ∧ reservation = ⟨id, Text.trim businessReference, payer.id,
      payer.reference, amount, .zero, .held, createdAt, 0⟩ := by
  simp only [create] at creates
  split at creates
  · cases creates
  · split at creates
    · cases creates
    next positive =>
      cases creates
      exact ⟨by simpa [Money.isPositive] using positive, rfl⟩

theorem create_consistent {id : ReservationId} {createdAt : Instant} {businessReference : String}
    {payer : Account} (creates : create id createdAt businessReference payer amount =
      .ok reservation) : reservation.Consistent := by
  obtain ⟨positive, rfl⟩ := create_eq creates
  refine ⟨positive, Int.le_refl 0, Int.le_of_lt positive, ?_, nofun⟩
  constructor
  · nofun
  · intro same
    rw [← show Money.zero = amount from same] at positive
    exact absurd positive (Int.lt_irrefl 0)

/-! ## What is left -/

theorem remaining_of_final (isFinal : reservation.status ≠ .held) :
    reservation.remaining = .zero := by
  rw [remaining]
  split
  next held => exact absurd held isFinal
  all_goals rfl

theorem Consistent.remaining_eq (consistent : reservation.Consistent)
    (isHeld : reservation.status = .held) : reservation.remaining.minorUnits =
      reservation.held.minorUnits - reservation.charged.minorUnits := by
  have := consistent.charged_nonneg
  have := consistent.charged_le
  have := reservation.held.upper
  let left : Money := ⟨reservation.held.minorUnits - reservation.charged.minorUnits,
    by omega, by omega⟩
  have subtracts : reservation.held.sub reservation.charged = .ok left :=
    Money.sub_eq_ok_iff.mpr rfl
  rw [remaining, isHeld]
  simp only [subtracts]
  rfl

private theorem Consistent.remaining_of_unreleased (consistent : reservation.Consistent)
    (unreleased : reservation.status ≠ .released) : reservation.remaining.minorUnits =
      reservation.held.minorUnits - reservation.charged.minorUnits := by
  cases status : reservation.status with
  | held => exact consistent.remaining_eq status
  | settled =>
      have isFinal : reservation.status ≠ .held := by simp [status]
      rw [remaining_of_final isFinal, consistent.settled_iff.mp status, Int.sub_self]
      rfl
  | released => exact absurd status unreleased

/-! ## Charging and releasing -/

theorem charge_eq (charges : reservation.charge amount = .ok charged) :
    0 < amount.minorUnits ∧ amount.minorUnits ≤ reservation.remaining.minorUnits ∧
      ∃ total, total.minorUnits = reservation.charged.minorUnits + amount.minorUnits ∧
        charged = { reservation with
          charged := total
          status := if total = reservation.held then .settled else reservation.status } := by
  rw [Reservation.charge] at charges
  split at charges
  · cases charges
  next positive =>
    split at charges
    · cases charges
    next fits =>
      simp only [bind_eq_ok_iff, pure_eq_ok_iff, lift_eq_ok_iff, Money.add_eq_ok_iff] at charges
      obtain ⟨total, isTotal, same⟩ := charges
      exact ⟨by simpa [Money.isPositive] using positive, Int.not_lt.mp fits, total, isTotal,
        same.symm⟩

theorem Consistent.charge (consistent : reservation.Consistent)
    (charges : reservation.charge amount = .ok charged) :
    reservation.status = .held ∧ charged.Consistent ∧ ∃ total status,
      charged = { reservation with charged := total, status } ∧ status ≠ .released ∧
      total.minorUnits = reservation.charged.minorUnits + amount.minorUnits := by
  obtain ⟨positive, fits, total, isTotal, rfl⟩ := charge_eq charges
  have isHeld : reservation.status = .held := by
    refine Decidable.byContradiction fun isFinal => ?_
    rw [remaining_of_final isFinal] at fits
    exact absurd positive (Int.not_lt.mpr fits)
  rw [consistent.remaining_eq isHeld] at fits
  have nonneg := consistent.charged_nonneg
  refine ⟨isHeld, ⟨consistent.held_pos, ?_, ?_, ?_, ?_⟩, total, _, rfl, ?_, isTotal⟩
  · show 0 ≤ total.minorUnits
    omega
  · show total.minorUnits ≤ reservation.held.minorUnits
    omega
  · by_cases all : total = reservation.held <;> simp [all, isHeld]
  · by_cases all : total = reservation.held <;> simp [all, isHeld]
  · by_cases all : total = reservation.held <;> simp [all, isHeld]

theorem Consistent.remaining_charge (consistent : reservation.Consistent)
    (charges : reservation.charge amount = .ok charged) : charged.remaining.minorUnits =
      reservation.remaining.minorUnits - amount.minorUnits := by
  obtain ⟨isHeld, consistent', total, status, rfl, unreleased, isTotal⟩ :=
    consistent.charge charges
  rw [consistent'.remaining_of_unreleased unreleased, consistent.remaining_eq isHeld]
  show reservation.held.minorUnits - total.minorUnits = _
  omega

theorem Consistent.release (consistent : reservation.Consistent)
    (releases : reservation.release = (remaining, released)) (left : remaining.isZero = false) :
    reservation.status = .held ∧ released = { reservation with status := .released } ∧
      released.Consistent ∧ remaining.minorUnits =
        reservation.held.minorUnits - reservation.charged.minorUnits := by
  cases releases
  have isHeld : reservation.status = .held := by
    refine Decidable.byContradiction fun isFinal => ?_
    rw [remaining_of_final isFinal] at left
    cases left
  have isLeft := consistent.remaining_eq isHeld
  have positive : reservation.charged.minorUnits < reservation.held.minorUnits := by
    have := consistent.charged_le
    have : reservation.remaining.minorUnits ≠ 0 := by simpa [Money.isZero] using left
    omega
  refine ⟨isHeld, by rw [isHeld], ?_, isLeft⟩
  refine ⟨consistent.held_pos, consistent.charged_nonneg, consistent.charged_le, ?_,
    fun _ => positive⟩
  rw [isHeld]
  constructor
  · nofun
  · intro same
    rw [same] at positive
    exact absurd positive (Int.lt_irrefl _)

theorem Consistent.remaining_release (consistent : reservation.Consistent)
    (releases : reservation.release = (remaining, released)) (left : remaining.isZero = false) :
    released.remaining.minorUnits =
      reservation.remaining.minorUnits - remaining.minorUnits := by
  obtain ⟨isHeld, rfl, -, isLeft⟩ := consistent.release releases left
  rw [consistent.remaining_eq isHeld, isLeft, Int.sub_self]
  rfl

end DoubleEntry.Reservation
