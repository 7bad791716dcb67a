import DoubleEntry.Proofs.Journal.Reckoning
import Mathlib

/-!
# The two sides of a list of lines

The lines are counted with a check after every addition.  All amounts are positive, so
no sum on the way is above the last one, and the count succeeds exactly if the two
sides as exact integers have a representation (`foldlM_count_eq_ok_iff`).
-/

namespace DoubleEntry

/-! ## Exact sums -/

namespace Line

def Positive (lines : List Line) : Prop := ∀ line ∈ lines, 0 < line.amount.minorUnits

def share (side : EntryType) (line : Line) : Int :=
  if line.entryType = side then line.amount.minorUnits else 0

def total (side : EntryType) (lines : List Line) : Int := (lines.map (share side)).sum

variable {side : EntryType} {line : Line} {lines : List Line}

@[simp] theorem total_nil (side : EntryType) : total side [] = 0 := rfl

@[simp] theorem total_cons (side : EntryType) (line : Line) (lines : List Line) :
    total side (line :: lines) = line.share side + total side lines := by
  simp [total]

theorem Positive.tail (positive : Positive (line :: lines)) :
    0 < line.amount.minorUnits ∧ Positive lines :=
  List.forall_mem_cons.mp positive

theorem share_nonneg (positive : 0 < line.amount.minorUnits) (side : EntryType) :
    0 ≤ line.share side := by
  unfold share
  split <;> omega

theorem Positive.total_nonneg (positive : Positive lines) (side : EntryType) :
    0 ≤ total side lines := by
  induction lines with
  | nil => simp
  | cons line rest ih =>
      have first := share_nonneg positive.tail.1 side
      have others := ih positive.tail.2
      rw [total_cons]
      omega

end Line

/-! ## Checked sums -/

namespace Totals

def side (totals : Totals) : EntryType → Money
  | .debit => totals.debit
  | .credit => totals.credit

theorem forall_side_iff {p : EntryType → Prop} : (∀ side, p side) ↔ p .debit ∧ p .credit :=
  ⟨fun all => ⟨all .debit, all .credit⟩, fun both side => by cases side <;> simp [both]⟩

theorem ext_side_iff {totals others : Totals} : totals = others ↔
    ∀ side, (totals.side side).minorUnits = (others.side side).minorUnits := by
  rw [forall_side_iff, side, side, ← Money.ext_iff, side, side, ← Money.ext_iff]
  cases totals
  cases others
  rw [mk.injEq]

private theorem count_eq_ok_iff {totals after : Totals} {line : Line} :
    totals.count line = .ok after ↔ 0 < line.amount.minorUnits ∧
      ∀ side, (after.side side).minorUnits =
        (totals.side side).minorUnits + line.share side := by
  by_cases positive : 0 < line.amount.minorUnits
  case neg =>
    simp [count, Money.isPositive, positive, bind, Except.bind, throw, throwThe,
      MonadExceptOf.throw]
  case pos =>
    have passes : line.amount.isPositive = true := decide_eq_true positive
    simp only [count, passes, positive, forall_side_iff, Line.share, side]
    cases line.entryType <;>
      simp only [Bool.not_true, Bool.false_eq_true, if_false, if_true, bind_eq_ok_iff,
        lift_eq_ok_iff, Money.add_eq_ok_iff, pure_eq_ok_iff, ext_side_iff, forall_side_iff, side,
        true_and, reduceCtorEq, Int.add_zero]
    case debit =>
      constructor
      · rintro ⟨_, added, same, kept⟩
        exact ⟨same ▸ added, kept.symm⟩
      · rintro ⟨added, kept⟩
        exact ⟨_, added, rfl, kept.symm⟩
    case credit =>
      constructor
      · rintro ⟨_, added, kept, same⟩
        exact ⟨kept.symm, same ▸ added⟩
      · rintro ⟨kept, added⟩
        exact ⟨_, added, kept.symm, rfl⟩

theorem count_eq_error_iff {totals : Totals} {line : Line} {e : LedgerError} :
    totals.count line = .error e ↔
      line.amount.minorUnits ≤ 0 ∧ e = .nonPositiveAmount line.amount ∨
      0 < line.amount.minorUnits ∧
        ¬ Money.InRange ((totals.side line.entryType).minorUnits + line.amount.minorUnits) ∧
        e = .overflow ⟨totals.side line.entryType, '+', line.amount⟩ := by
  by_cases positive : 0 < line.amount.minorUnits
  case neg =>
    have refused := Int.not_lt.mp positive
    simp [count, Money.isPositive, positive, refused, bind, Except.bind, throw, throwThe,
      MonadExceptOf.throw, eq_comm]
  case pos =>
    have passes : line.amount.isPositive = true := decide_eq_true positive
    have accepted : ¬ line.amount.minorUnits ≤ 0 := Int.not_le.mpr positive
    simp only [count, passes, positive, accepted, side]
    cases line.entryType <;>
      simp [bind_eq_error_iff, lift_add_eq_error_iff, pure, Except.pure]

theorem foldlM_count_eq_ok_iff {lines : List Line} {start totals : Totals} :
    lines.foldlM count start = .ok totals ↔ Line.Positive lines ∧
      ∀ side, (totals.side side).minorUnits =
        (start.side side).minorUnits + Line.total side lines := by
  induction lines generalizing start with
  | nil =>
      rw [List.foldlM_nil, pure_eq_ok_iff]
      simp [Line.Positive, Totals.ext_side_iff, eq_comm]
  | cons line rest ih =>
      rw [List.foldlM_cons, bind_eq_ok_iff]
      constructor
      · rintro ⟨middle, counted, rest_counted⟩
        obtain ⟨above, adds⟩ := count_eq_ok_iff.mp counted
        obtain ⟨positive, sums⟩ := ih.mp rest_counted
        refine ⟨List.forall_mem_cons.mpr ⟨above, positive⟩, fun side => ?_⟩
        rw [sums, adds, Line.total_cons]
        omega
      · rintro ⟨positive, sums⟩
        obtain ⟨above, positive⟩ := positive.tail
        have inside (side : EntryType) : Money.InRange
            ((start.side side).minorUnits + line.share side) := by
          have added := sums side
          have least := Line.share_nonneg above side
          have others := positive.total_nonneg side
          have lower := (start.side side).lower
          have upper := (totals.side side).upper
          rw [Line.total_cons] at added
          constructor <;> omega
        let middle : Totals := ⟨⟨_, (inside .debit).1, (inside .debit).2⟩,
          ⟨_, (inside .credit).1, (inside .credit).2⟩⟩
        have adds (side : EntryType) : (middle.side side).minorUnits =
            (start.side side).minorUnits + line.share side := by
          cases side <;> rfl
        refine ⟨middle, count_eq_ok_iff.mpr ⟨above, adds⟩, ih.mpr ⟨positive, fun side => ?_⟩⟩
        rw [sums, adds, Line.total_cons]
        omega

theorem isBalanced_iff {totals : Totals} :
    totals.isBalanced ↔ (totals.side .debit).minorUnits = (totals.side .credit).minorUnits := by
  rw [isBalanced, decide_eq_true_eq, Money.ext_iff, side, side]

theorem ofLines_eq_ok_iff {lines : List Line} {totals : Totals} :
    ofLines lines = .ok totals ↔ 2 ≤ lines.length ∧ Line.Positive lines ∧
      Line.total .debit lines = Line.total .credit lines ∧
      ∀ side, (totals.side side).minorUnits = Line.total side lines := by
  by_cases enough : lines.length < 2
  case pos =>
    simp [ofLines, enough, bind, Except.bind, throw, throwThe, MonadExceptOf.throw]
  case neg =>
    have zero (side : EntryType) : (Totals.side ⟨.zero, .zero⟩ side).minorUnits = 0 := by
      cases side <;> rfl
    simp only [ofLines, enough, if_false, bind_eq_ok_iff, foldlM_count_eq_ok_iff, zero,
      Int.zero_add]
    constructor
    · rintro ⟨counted, ⟨positive, sums⟩, checked⟩
      split at checked
      next balanced =>
        cases checked
        rw [isBalanced_iff, sums, sums] at balanced
        exact ⟨by omega, positive, balanced, sums⟩
      next => cases checked
    · rintro ⟨-, positive, balanced, sums⟩
      refine ⟨totals, ⟨positive, sums⟩, ?_⟩
      rw [if_pos (isBalanced_iff.mpr (by rw [sums, sums, balanced]))]
      rfl

end Totals

end DoubleEntry
