import DoubleEntry.Proofs.Service.Fitting

/-!
# How a posting between two balances ends

A positive amount in a ledger that covers the posting can always be drafted and
prepared.  After that only the two end amounts matter: a protected balance below zero
is refused, an end amount out of range is an overflow, and otherwise both balances
move by the exact amount.
-/

namespace DoubleEntry

/-! ## End amounts -/

def Money.InRange (units : Int) : Prop := -0x8000000000000000 ≤ units ∧ units < 0x8000000000000000

instance (units : Int) : Decidable (Money.InRange units) := inferInstanceAs (Decidable (_ ∧ _))

theorem Money.inRange (amount : Money) : Money.InRange amount.minorUnits :=
  ⟨amount.lower, amount.upper⟩

theorem lift_add_eq_error_iff {a b : Money} {e : LedgerError} :
    Overflow.lift (a.add b) = .error e ↔
      ¬ Money.InRange (a.minorUnits + b.minorUnits) ∧ e = .overflow ⟨a, '+', b⟩ := by
  rw [lift_eq_error_iff, Money.add, Money.checked]
  by_cases inRange : Money.InRange (a.minorUnits + b.minorUnits)
  · have some : Money.ofInt? (a.minorUnits + b.minorUnits) = some ⟨_, inRange.1, inRange.2⟩ :=
      dif_pos inRange
    simp [some, inRange]
  · have none : Money.ofInt? (a.minorUnits + b.minorUnits) = none := dif_neg inRange
    simp [none, inRange, eq_comm]

theorem projected_of_inRange {balance : Balance} {effect : Money}
    (inRange : Money.InRange (balance.endAmount.minorUnits + effect.minorUnits)) :
    ∃ endAmount, balance.projected effect = .ok endAmount ∧
      endAmount.minorUnits = balance.endAmount.minorUnits + effect.minorUnits :=
  ⟨⟨_, inRange.1, inRange.2⟩, projected_eq_ok_iff.mpr rfl, rfl⟩

theorem projected_eq_error_iff {balance : Balance} {effect : Money} {e : LedgerError} :
    balance.projected effect = .error e ↔
      ¬ Money.InRange (balance.endAmount.minorUnits + effect.minorUnits) ∧
        e = .overflow ⟨balance.endAmount, '+', effect⟩ :=
  lift_add_eq_error_iff

/-! ## Preparing -/

/-- The posting is drafted and prepared; the two balances are to move by these effects. -/
structure Prepares (ledger : Ledger) (debited credited : Balance) (posting : Bank.Posting)
    (ids : PostingIds) (time : Instant) (draft : Draft) (prepared : Prepared)
    (debitEffect creditEffect : Money) : Prop where
  drafted : Bank.transferDraft ledger debited credited posting time = .ok draft
  isPrepared : draft.prepare ids = .ok prepared
  debit_units : debitEffect.minorUnits = EntryType.debit.units debited.accountType posting.amount
  credit_units : creditEffect.minorUnits =
    EntryType.credit.units credited.accountType posting.amount
  deltas : prepared.deltas = [⟨debited.key, debitEffect⟩, ⟨credited.key, creditEffect⟩] ∨
    prepared.deltas = [⟨credited.key, creditEffect⟩, ⟨debited.key, debitEffect⟩]
  transaction : prepared.transaction = {
    id := ids.transaction
    ledgerId := ledger.id
    description := posting.description
    accountingTime := posting.time
    transactionTime := time
    entries := [(debitLine debited posting.amount).toEntry (ids.entry 0),
      (creditLine credited posting.amount).toEntry (ids.entry 1)]
    total := posting.amount }

theorem exists_effect (entryType : EntryType) (accountType : AccountType) {amount : Money}
    (positive : amount.isPositive = true) :
    ∃ effect : Money, entryType.effect accountType amount = .ok effect := by
  have above : 0 < amount.minorUnits := of_decide_eq_true positive
  have negated : ∃ effect : Money, amount.neg = .ok effect := by
    have upper := amount.upper
    exact ⟨⟨-amount.minorUnits, by omega, by omega⟩, Money.neg_eq_ok_iff.mpr rfl⟩
  cases entryType <;> cases accountType
  · exact ⟨amount, rfl⟩
  · exact negated
  · exact negated
  · exact ⟨amount, rfl⟩

private theorem exists_ofLines_pair {first second : Line} (apart : first.balance ≠ second.balance)
    (positive : first.amount.isPositive = true) (positive' : second.amount.isPositive = true) :
    ∃ deltas, Delta.ofLines [first, second] = .ok deltas := by
  obtain ⟨effect, isEffect⟩ := exists_effect first.entryType first.accountType positive
  obtain ⟨effect', isEffect'⟩ := exists_effect second.entryType second.accountType positive'
  have added : ∃ deltas,
      Delta.accumulate second.balance effect' [⟨first.balance, effect⟩] = .ok deltas := by
    rw [Delta.accumulate]
    cases order : compare second.balance first.balance with
    | lt => exact ⟨_, rfl⟩
    | eq => exact absurd (BalanceKey.eq_of_compare order).symm apart
    | gt => exact ⟨_, rfl⟩
  obtain ⟨deltas, added⟩ := added
  refine ⟨deltas, ?_⟩
  simp only [Delta.ofLines, List.foldlM_cons, List.foldlM_nil, Delta.count, bind_eq_ok_iff,
    pure_eq_ok_iff]
  exact ⟨_, ⟨effect, isEffect, rfl⟩, deltas, ⟨effect', isEffect', added⟩, rfl⟩

theorem exists_prepares {ledger : Ledger} {debited credited : Balance} {posting : Bank.Posting}
    (ids : PostingIds) (time : Instant) (covers : ledger.covers posting.time = true)
    (positive : posting.amount.isPositive = true) (debited_in : debited.key.ledgerId = ledger.id)
    (credited_in : credited.key.ledgerId = ledger.id) (apart : debited.key ≠ credited.key) :
    ∃ draft prepared debitEffect creditEffect,
      Prepares ledger debited credited posting ids time draft prepared debitEffect
        creditEffect := by
  let draft : Draft := ⟨ledger.id, posting.description, posting.time, time,
    [debitLine debited posting.amount, creditLine credited posting.amount]⟩
  have linesApart : (debitLine debited posting.amount).balance ≠
    (creditLine credited posting.amount).balance := apart
  obtain ⟨deltas, counted⟩ := exists_ofLines_pair linesApart positive positive
  obtain ⟨debitEffect, creditEffect, isDebit, isCredit, shape⟩ := ofLines_pair linesApart counted
  have inside : draft.lines.find? (fun line => line.balance.ledgerId ≠ draft.ledgerId) = none := by
    simp [draft, debitLine, creditLine, debited_in, credited_in]
  have isPrepared : ∃ prepared, draft.prepare ids = .ok prepared ∧ prepared.deltas = deltas := by
    rw [Draft.prepare, inside]
    simp only [bind_eq_ok_iff, lift_eq_ok_iff, pure_eq_ok_iff]
    exact ⟨_, ⟨_, totals_pair positive, deltas, counted, rfl⟩, rfl⟩
  obtain ⟨prepared, isPrepared, rfl⟩ := isPrepared
  obtain ⟨-, totals, counted', -, isTransaction⟩ := prepare_eq_ok_iff.mp isPrepared
  cases (totals_pair positive).symm.trans counted'
  exact ⟨draft, prepared, debitEffect, creditEffect,
    transferDraft_eq_ok_iff.mpr ⟨covers, positive, debited_in, credited_in, rfl⟩, isPrepared,
    isDebit, isCredit, shape, isTransaction⟩

/-- What is drawn for a posting does not change its effect. -/
theorem Prepares.effects_eq {ledger : Ledger} {debited credited : Balance} {posting : Bank.Posting}
    {ids ids' : PostingIds} {time time' : Instant} {draft draft' : Draft}
    {prepared prepared' : Prepared} {debitEffect creditEffect debitEffect' creditEffect' : Money}
    (prepares : Prepares ledger debited credited posting ids time draft prepared debitEffect
      creditEffect)
    (prepares' : Prepares ledger debited credited posting ids' time' draft' prepared' debitEffect'
      creditEffect') :
    debitEffect' = debitEffect ∧ creditEffect' = creditEffect ∧
      prepared'.deltas = prepared.deltas := by
  refine ⟨Money.ext (prepares'.debit_units.trans prepares.debit_units.symm),
    Money.ext (prepares'.credit_units.trans prepares.credit_units.symm), ?_⟩
  obtain ⟨-, -, -, -, rfl⟩ := transferDraft_eq_ok_iff.mp prepares.drafted
  obtain ⟨-, -, -, -, rfl⟩ := transferDraft_eq_ok_iff.mp prepares'.drafted
  obtain ⟨-, _, -, netted, -⟩ := prepare_eq_ok_iff.mp prepares.isPrepared
  obtain ⟨-, _, -, netted', -⟩ := prepare_eq_ok_iff.mp prepares'.isPrepared
  exact Except.ok.inj (netted'.symm.trans netted)

/-! ## Applying -/

section Applying

variable {ledger : Ledger} {debited credited : Balance} {posting : Bank.Posting}
  {ids : PostingIds} {time : Instant} {draft : Draft} {prepared : Prepared}
  {debitEffect creditEffect : Money}

private theorem apply_pair_of_projected (apart : debited.key ≠ credited.key)
    (deltas : prepared.deltas = [⟨debited.key, debitEffect⟩, ⟨credited.key, creditEffect⟩] ∨
      prepared.deltas = [⟨credited.key, creditEffect⟩, ⟨debited.key, debitEffect⟩])
    {debitedEnd creditedEnd : Money} (debits : debited.projected debitEffect = .ok debitedEnd)
    (credits : credited.projected creditEffect = .ok creditedEnd) :
    prepared.apply [debited, credited] = .ok (prepared.transaction,
      [{ debited with endAmount := debitedEnd }, { credited with endAmount := creditedEnd }]) := by
  have first := (outcome_pair apart debitEffect).1.trans debits
  have second := (outcome_pair apart creditEffect).2.trans credits
  rcases deltas with deltas | deltas <;>
    simp [Prepared.apply, deltas, first, second, bind, Except.bind, pure, Except.pure,
      Balance.settle, apart]

/-! ## Three ways to end -/

theorem Prepares.deltaFor (prepares : Prepares ledger debited credited posting ids time draft
      prepared debitEffect creditEffect) (apart : debited.key ≠ credited.key) :
    prepared.deltaFor debited.key = debitEffect ∧ prepared.deltaFor credited.key = creditEffect :=
  deltaFor_pair apart prepares.deltas

theorem Prepared.permits_of_nonneg {balance : Balance} {effect : Money}
    (isEffect : prepared.deltaFor balance.key = effect)
    (covered : balance.isOverdraftProtected = true →
      Money.InRange (balance.endAmount.minorUnits + effect.minorUnits) ∧
        0 ≤ balance.endAmount.minorUnits + effect.minorUnits) : prepared.Permits balance := by
  intro isProtected
  obtain ⟨inRange, nonneg⟩ := covered isProtected
  obtain ⟨endAmount, projected, units⟩ := projected_of_inRange inRange
  refine ⟨endAmount, isEffect ▸ projected, ?_⟩
  rw [Money.isNegative, decide_eq_false_iff_not, units]
  omega

def Prepared.Clears (prepared : Prepared) (debited credited : Balance) : Prop :=
  prepared.Permits debited ∧ prepared.Permits credited ∧
    ∃ result, prepared.apply [debited, credited] = .ok result

theorem Prepares.posted (prepares : Prepares ledger debited credited posting ids time draft
      prepared debitEffect creditEffect) (apart : debited.key ≠ credited.key)
    (debited_fits : Money.InRange (debited.endAmount.minorUnits + debitEffect.minorUnits))
    (credited_fits : Money.InRange (credited.endAmount.minorUnits + creditEffect.minorUnits))
    (debited_covered : debited.isOverdraftProtected = true →
      0 ≤ debited.endAmount.minorUnits + debitEffect.minorUnits)
    (credited_covered : credited.isOverdraftProtected = true →
      0 ≤ credited.endAmount.minorUnits + creditEffect.minorUnits) :
    ∃ debitedEnd creditedEnd : Money,
      debitedEnd.minorUnits = debited.endAmount.minorUnits + debitEffect.minorUnits ∧
      creditedEnd.minorUnits = credited.endAmount.minorUnits + creditEffect.minorUnits ∧
      Posted ledger debited credited posting ids time draft prepared prepared.transaction
        [{ debited with endAmount := debitedEnd }, { credited with endAmount := creditedEnd }] := by
  obtain ⟨debitChange, creditChange⟩ := prepares.deltaFor apart
  obtain ⟨debitedEnd, debits, debitUnits⟩ := projected_of_inRange debited_fits
  obtain ⟨creditedEnd, credits, creditUnits⟩ := projected_of_inRange credited_fits
  exact ⟨debitedEnd, creditedEnd, debitUnits, creditUnits, prepares.drafted, prepares.isPrepared,
    Prepared.permits_of_nonneg debitChange fun isProtected =>
      ⟨debited_fits, debited_covered isProtected⟩,
    Prepared.permits_of_nonneg creditChange fun isProtected =>
      ⟨credited_fits, credited_covered isProtected⟩,
    apply_pair_of_projected apart prepares.deltas debits credits⟩

theorem Posted.redrawn {ids' : PostingIds} {time' : Instant} {draft' : Draft}
    {prepared' : Prepared} {transaction : Transaction} {balances : List Balance}
    (posted : Posted ledger debited credited posting ids time draft prepared transaction balances)
    (prepares : Prepares ledger debited credited posting ids' time' draft' prepared' debitEffect
      creditEffect) (same : prepared'.deltas = prepared.deltas) :
    Posted ledger debited credited posting ids' time' draft' prepared' prepared'.transaction
      balances := by
  obtain ⟨transaction', deltas⟩ := prepared'
  cases same
  obtain ⟨endAmounts, moved, -, settled⟩ := Prepared.apply_eq_ok_iff.mp posted.applied
  exact ⟨prepares.drafted, prepares.isPrepared, posted.permits_debited, posted.permits_credited,
    Prepared.apply_eq_ok_iff.mpr ⟨endAmounts, moved, rfl, settled⟩⟩

end Applying

end DoubleEntry
