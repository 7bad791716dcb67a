import DoubleEntry.Proofs.Journal.Totals

/-!
# The first fault of a list of lines

The lines are counted in their order, and each is checked right before it is added.  The
fault that is told is therefore that of the first line that has one, whatever its kind
(`Totals.verdict_iff`): an amount that is not positive comes first only where the amounts
before it can be added up (`Totals.not_always_nonPositive`).
-/

namespace DoubleEntry

namespace Line

variable {side : EntryType} {line : Line} {lines before after : List Line}

private theorem total_concat (side : EntryType) (lines : List Line) (line : Line) :
    total side (lines ++ [line]) = total side lines + line.share side := by
  simp [total]

private theorem share_own (line : Line) : line.share line.entryType = line.amount.minorUnits :=
  if_pos rfl

structure Reaches (lines before : List Line) (line : Line) (after : List Line) : Prop where
  split : lines = before ++ line :: after
  positive : Positive before
  fits : ∀ side, total side before ≤ 0x7FFFFFFFFFFFFFFF

private theorem Positive.inRange (positive : Positive lines)
    (fits : ∀ side, total side lines ≤ 0x7FFFFFFFFFFFFFFF) (side : EntryType) :
    Money.InRange (total side lines) := by
  have nonneg := positive.total_nonneg side
  have fits := fits side
  constructor <;> omega

end Line

namespace Totals

/-! ## Verdicts -/

/-- What a list of lines comes to. -/
inductive Verdict (lines : List Line) : Except LedgerError Totals → Prop where
  | tooFew (few : lines.length < 2) : Verdict lines (.error (.insufficientEntries lines.length))
  | nonPositive {before after : List Line} {line : Line} (enough : 2 ≤ lines.length)
      (reaches : Line.Reaches lines before line after) (refused : line.amount.minorUnits ≤ 0) :
      Verdict lines (.error (.nonPositiveAmount line.amount))
  | overflows {before after : List Line} {line : Line} {sum : Money} (enough : 2 ≤ lines.length)
      (reaches : Line.Reaches lines before line after) (positive : 0 < line.amount.minorUnits)
      (exact : sum.minorUnits = Line.total line.entryType before)
      (beyond : 0x7FFFFFFFFFFFFFFF < Line.total line.entryType (before ++ [line])) :
      Verdict lines (.error (.overflow ⟨sum, '+', line.amount⟩))
  | unbalanced {totals : Totals} (enough : 2 ≤ lines.length) (positive : Line.Positive lines)
      (exact : ∀ side, (totals.side side).minorUnits = Line.total side lines)
      (differ : Line.total .debit lines ≠ Line.total .credit lines) :
      Verdict lines (.error (.unbalancedTransaction totals.debit totals.credit))
  | balanced {totals : Totals} (enough : 2 ≤ lines.length) (positive : Line.Positive lines)
      (exact : ∀ side, (totals.side side).minorUnits = Line.total side lines)
      (level : Line.total .debit lines = Line.total .credit lines) :
      Verdict lines (.ok totals)

variable {lines before after : List Line} {line : Line} {totals : Totals} {e : LedgerError}
  {result : Except LedgerError Totals}

private theorem foldlM_count_zero_eq_ok_iff : lines.foldlM count ⟨.zero, .zero⟩ = .ok totals ↔
    Line.Positive lines ∧ ∀ side, (totals.side side).minorUnits = Line.total side lines := by
  have zero (side : EntryType) : (Totals.side ⟨.zero, .zero⟩ side).minorUnits = 0 := by
    cases side <;> rfl
  simp only [foldlM_count_eq_ok_iff, zero, Int.zero_add]

private theorem reaches_of_counted (split : lines = before ++ line :: after)
    (counted : before.foldlM count ⟨.zero, .zero⟩ = .ok totals) :
    Line.Reaches lines before line after ∧
      ∀ side, (totals.side side).minorUnits = Line.total side before := by
  obtain ⟨positive, exact⟩ := foldlM_count_zero_eq_ok_iff.mp counted
  refine ⟨⟨split, positive, fun side => ?_⟩, exact⟩
  have upper := (totals.side side).upper
  rw [exact] at upper
  omega

private theorem exists_counted (reaches : Line.Reaches lines before line after) :
    ∃ totals, before.foldlM count ⟨.zero, .zero⟩ = .ok totals ∧
      ∀ side, (totals.side side).minorUnits = Line.total side before := by
  have inRange := reaches.positive.inRange reaches.fits
  let totals : Totals := ⟨⟨_, (inRange .debit).1, (inRange .debit).2⟩,
    ⟨_, (inRange .credit).1, (inRange .credit).2⟩⟩
  have exact (side : EntryType) : (totals.side side).minorUnits = Line.total side before := by
    cases side <;> rfl
  exact ⟨totals, foldlM_count_zero_eq_ok_iff.mpr ⟨reaches.positive, exact⟩, exact⟩

private theorem outside_iff (reaches : Line.Reaches lines before line after)
    (positive : 0 < line.amount.minorUnits)
    (exact : ∀ side, (totals.side side).minorUnits = Line.total side before) :
    ¬ Money.InRange ((totals.side line.entryType).minorUnits + line.amount.minorUnits) ↔
      0x7FFFFFFFFFFFFFFF < Line.total line.entryType (before ++ [line]) := by
  have nonneg := reaches.positive.total_nonneg line.entryType
  rw [exact, Line.total_concat, Line.share_own, Money.InRange]
  omega

/-! ## Counting and comparing -/

private theorem ofLines_of_few (few : lines.length < 2) :
    ofLines lines = .error (.insufficientEntries lines.length) := by
  rw [ofLines, if_pos few]
  rfl

private theorem ofLines_of_counted (enough : 2 ≤ lines.length)
    (counted : lines.foldlM count ⟨.zero, .zero⟩ = .ok totals) :
    ofLines lines = if totals.isBalanced then .ok totals
      else .error (.unbalancedTransaction totals.debit totals.credit) := by
  rw [ofLines, if_neg (Nat.not_lt.mpr enough), counted]
  cases balanced : totals.isBalanced <;>
    simp [balanced, bind, Except.bind, pure, Except.pure, throw, throwThe, MonadExceptOf.throw]

private theorem ofLines_of_refused (enough : 2 ≤ lines.length)
    (reaches : Line.Reaches lines before line after)
    (counted : before.foldlM count ⟨.zero, .zero⟩ = .ok totals)
    (refused : totals.count line = .error e) : ofLines lines = .error e := by
  have fails : lines.foldlM count ⟨.zero, .zero⟩ = .error e :=
    foldlM_eq_error_iff.mpr ⟨before, line, after, totals, reaches.split, counted, refused⟩
  rw [ofLines, if_neg (Nat.not_lt.mpr enough), fails]
  rfl

private theorem ofLines_of_verdict (verdict : Verdict lines result) : ofLines lines = result := by
  cases verdict with
  | tooFew few => exact ofLines_of_few few
  | nonPositive enough reaches refused =>
      obtain ⟨totals, counted, -⟩ := exists_counted reaches
      exact ofLines_of_refused enough reaches counted (count_eq_error_iff.mpr (.inl ⟨refused, rfl⟩))
  | @overflows _ _ line sum enough reaches positive exact beyond =>
      obtain ⟨totals, counted, exacts⟩ := exists_counted reaches
      have isSum : totals.side line.entryType = sum :=
        Money.ext ((exacts line.entryType).trans exact.symm)
      refine ofLines_of_refused enough reaches counted
        (count_eq_error_iff.mpr (.inr ⟨positive, ?_, by rw [isSum]⟩))
      exact (outside_iff reaches positive exacts).mpr beyond
  | @unbalanced totals enough positive exact differ =>
      have counted := foldlM_count_zero_eq_ok_iff.mpr ⟨positive, exact⟩
      rw [← exact .debit, ← exact .credit, Ne, ← isBalanced_iff] at differ
      rw [ofLines_of_counted enough counted, if_neg differ]
  | @balanced totals enough positive exact level =>
      have counted := foldlM_count_zero_eq_ok_iff.mpr ⟨positive, exact⟩
      rw [← exact .debit, ← exact .credit, ← isBalanced_iff] at level
      rw [ofLines_of_counted enough counted, if_pos level]

private theorem exists_verdict (lines : List Line) : ∃ result, Verdict lines result := by
  by_cases few : lines.length < 2
  · exact ⟨_, .tooFew few⟩
  have enough : 2 ≤ lines.length := Nat.not_lt.mp few
  cases counted : lines.foldlM count ⟨.zero, .zero⟩ with
  | ok totals =>
      obtain ⟨positive, exact⟩ := foldlM_count_zero_eq_ok_iff.mp counted
      by_cases level : Line.total .debit lines = Line.total .credit lines
      · exact ⟨_, .balanced enough positive exact level⟩
      · exact ⟨_, .unbalanced enough positive exact level⟩
  | error e =>
      obtain ⟨before, line, after, totals, split, counted, refused⟩ :=
        foldlM_eq_error_iff.mp counted
      obtain ⟨reaches, exact⟩ := reaches_of_counted split counted
      rcases count_eq_error_iff.mp refused with ⟨refused, -⟩ | ⟨positive, outside, -⟩
      · exact ⟨_, .nonPositive enough reaches refused⟩
      · exact ⟨_, .overflows enough reaches positive (exact line.entryType)
          ((outside_iff reaches positive exact).mp outside)⟩

/-- Counting comes to the verdict, and to no other.  Of several faults, that of the first faulty
line is told. -/
theorem verdict_iff : Verdict lines result ↔ ofLines lines = result := by
  refine ⟨ofLines_of_verdict, ?_⟩
  rintro rfl
  obtain ⟨result, verdict⟩ := exists_verdict lines
  rwa [ofLines_of_verdict verdict]

/-- The debits overflow before the count gets to the amount of zero. -/
theorem not_always_nonPositive : ¬ ∀ (lines : List Line) (line : Line), 2 ≤ lines.length →
    (lines.find? fun line => line.amount.minorUnits ≤ 0) = some line →
      ofLines lines = .error (.nonPositiveAmount line.amount) := by
  intro always
  let debit (amount : Money) : Line := ⟨⟨⟨⟨1⟩⟩, ⟨⟨2⟩⟩⟩, .asset, .debit, amount⟩
  let most : Money := ⟨0x7FFFFFFFFFFFFFFF, by decide, by decide⟩
  let one : Money := ⟨1, by decide, by decide⟩
  have overflows : ofLines [debit most, debit one, debit .zero] =
      .error (.overflow ⟨most, '+', one⟩) := rfl
  have told := always [debit most, debit one, debit .zero] (debit .zero) (by decide) rfl
  rw [overflows] at told
  cases told

end Totals

end DoubleEntry
