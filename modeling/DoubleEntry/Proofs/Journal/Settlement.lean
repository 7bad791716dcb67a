import DoubleEntry.Proofs.Outcome
import DoubleEntry.Service.Postings

/-!
# What a posting does to two balances

`Posted` puts together the pure steps of a posting: the draft is prepared, neither
balance becomes overdrawn, and the changes are applied.  `Posted.settled` reads off
the result for two different balances: one debit, one credit, and end amounts that
moved by what the entries are worth.
-/

namespace DoubleEntry

theorem Money.zero_add (amount : Money) : Money.zero.add amount = .ok amount :=
  Money.add_eq_ok_iff.mpr (Int.zero_add _).symm

/-! ## The worth of an entry -/

/-- The signed change that an entry makes, as an exact integer. -/
def EntryType.units (entryType : EntryType) (accountType : AccountType) (amount : Money) : Int :=
  match entryType, accountType with
  | .debit, .asset | .credit, .liability => amount.minorUnits
  | .credit, .asset | .debit, .liability => -amount.minorUnits

def Entry.units (entry : Entry) : Int := entry.entryType.units entry.accountType entry.amount

theorem EntryType.effect_eq_ok_iff {entryType : EntryType} {accountType : AccountType}
    {amount effect : Money} : entryType.effect accountType amount = .ok effect ↔
      effect.minorUnits = entryType.units accountType amount := by
  have same : Except.ok amount = (Except.ok effect : Except Overflow Money) ↔
      effect.minorUnits = amount.minorUnits := by
    rw [Except.ok.injEq, Money.ext_iff]
    exact eq_comm
  cases entryType <;> cases accountType <;>
    simp only [EntryType.effect, EntryType.units, same, Money.neg_eq_ok_iff]

theorem Entry.effect_eq_ok_iff {entry : Entry} {effect : Money} :
    entry.effect = .ok effect ↔ effect.minorUnits = entry.units :=
  EntryType.effect_eq_ok_iff

/-! ## Comparing keys -/

theorem Id.eq_of_compare {kind : RecordKind} {a b : Id kind} (same : compare a b = .eq) :
    a = b := by
  obtain ⟨⟨a⟩⟩ := a
  obtain ⟨⟨b⟩⟩ := b
  have bits : a.toNat = b.toNat := Nat.compare_eq_eq.mp same
  rw [BitVec.eq_of_toNat_eq bits]

theorem BalanceKey.eq_of_compare {a b : BalanceKey} (same : compare a b = .eq) : a = b := by
  obtain ⟨ledger, account⟩ := a
  obtain ⟨ledger', account'⟩ := b
  have parts : (compare ledger ledger').then (compare account account') = .eq := same
  rw [Ordering.then_eq_eq] at parts
  rw [Id.eq_of_compare parts.1, Id.eq_of_compare parts.2]

/-! ## Two lines -/

def debitLine (balance : Balance) (amount : Money) : Line :=
  ⟨balance.key, balance.accountType, .debit, amount⟩

def creditLine (balance : Balance) (amount : Money) : Line :=
  ⟨balance.key, balance.accountType, .credit, amount⟩

theorem draft_eq_ok_iff {ledger : Ledger} {description : String}
    {accountingTime transactionTime : Instant} {draft : Draft} :
    ledger.draft description accountingTime transactionTime = .ok draft ↔
      ledger.covers accountingTime = true ∧
      draft = ⟨ledger.id, description, accountingTime, transactionTime, []⟩ := by
  rw [Ledger.draft]
  split
  next covers => simp [covers, eq_comm]
  next outside => simp [outside]

theorem post_eq_ok_iff {draft result : Draft} {entryType : EntryType} {balance : Balance}
    {amount : Money} : draft.post entryType balance amount = .ok result ↔
      amount.isPositive = true ∧ balance.key.ledgerId = draft.ledgerId ∧
      result = { draft with
        lines := draft.lines ++ [⟨balance.key, balance.accountType, entryType, amount⟩] } := by
  rw [Draft.post]
  split
  next refused => simp_all
  next positive =>
    split
    next elsewhere => simp [elsewhere]
    next same =>
      rw [Except.ok.injEq, eq_comm]
      simp_all

theorem transferDraft_eq_ok_iff {ledger : Ledger} {debited credited : Balance}
    {posting : Bank.Posting} {time : Instant} {draft : Draft} :
    Bank.transferDraft ledger debited credited posting time = .ok draft ↔
      ledger.covers posting.time = true ∧ posting.amount.isPositive = true ∧
      debited.key.ledgerId = ledger.id ∧ credited.key.ledgerId = ledger.id ∧
      draft = ⟨ledger.id, posting.description, posting.time, time,
        [debitLine debited posting.amount, creditLine credited posting.amount]⟩ := by
  simp only [Bank.transferDraft, bind_eq_ok_iff, Draft.debit, Draft.credit, draft_eq_ok_iff,
    post_eq_ok_iff]
  constructor
  · rintro ⟨_, ⟨covers, rfl⟩, _, ⟨positive, first, rfl⟩, _, second, rfl⟩
    exact ⟨covers, positive, first, second, rfl⟩
  · rintro ⟨covers, positive, first, second, rfl⟩
    exact ⟨_, ⟨covers, rfl⟩, _, ⟨positive, first, rfl⟩, positive, second, rfl⟩

theorem ofLines_pair {first second : Line} {deltas : List Delta}
    (apart : first.balance ≠ second.balance)
    (counted : Delta.ofLines [first, second] = .ok deltas) :
    ∃ firstEffect secondEffect : Money,
      firstEffect.minorUnits = first.entryType.units first.accountType first.amount ∧
      secondEffect.minorUnits = second.entryType.units second.accountType second.amount ∧
      (deltas = [⟨first.balance, firstEffect⟩, ⟨second.balance, secondEffect⟩] ∨
        deltas = [⟨second.balance, secondEffect⟩, ⟨first.balance, firstEffect⟩]) := by
  simp only [Delta.ofLines, List.foldlM_cons, List.foldlM_nil, Delta.count, bind_eq_ok_iff,
    EntryType.effect_eq_ok_iff, pure_eq_ok_iff, exists_eq_right] at counted
  obtain ⟨_, ⟨firstEffect, isFirst, started⟩, secondEffect, isSecond, added⟩ := counted
  cases started
  refine ⟨firstEffect, secondEffect, isFirst, isSecond, ?_⟩
  rw [Delta.accumulate] at added
  cases order : compare second.balance first.balance with
  | lt =>
      rw [order] at added
      cases added
      exact .inr rfl
  | eq => exact absurd (BalanceKey.eq_of_compare order).symm apart
  | gt =>
      rw [order] at added
      cases added
      exact .inl rfl

theorem prepare_eq_ok_iff {draft : Draft} {ids : PostingIds} {prepared : Prepared} :
    draft.prepare ids = .ok prepared ↔
      (∀ line ∈ draft.lines, line.balance.ledgerId = draft.ledgerId) ∧
      ∃ totals, Totals.ofLines draft.lines = .ok totals ∧
        Delta.ofLines draft.lines = .ok prepared.deltas ∧
        prepared.transaction = {
          id := ids.transaction
          ledgerId := draft.ledgerId
          description := draft.description
          accountingTime := draft.accountingTime
          transactionTime := draft.transactionTime
          entries := draft.lines.mapIdx fun position line => line.toEntry (ids.entry position)
          total := totals.debit } := by
  rw [Draft.prepare]
  split
  next line elsewhere =>
    have differs := List.find?_some elsewhere
    have outside : ¬ ∀ line ∈ draft.lines, line.balance.ledgerId = draft.ledgerId := fun inside =>
      of_decide_eq_true differs (inside line (List.mem_of_find?_eq_some elsewhere))
    simp [outside, bind, Except.bind, throw, throwThe, MonadExceptOf.throw]
  next inside =>
    have inside : ∀ line ∈ draft.lines, line.balance.ledgerId = draft.ledgerId := by
      simpa using Option.eq_none_iff_forall_ne_some.mpr inside
    simp only [bind_eq_ok_iff, lift_eq_ok_iff, pure_eq_ok_iff]
    constructor
    · rintro ⟨totals, counted, deltas, changes, rfl⟩
      exact ⟨inside, totals, counted, changes, rfl⟩
    · rintro ⟨-, totals, counted, changes, isTransaction⟩
      exact ⟨totals, counted, _, changes, by rw [← isTransaction]⟩

theorem prepare_eq_error_cases {draft : Draft} {ids : PostingIds} {e : LedgerError}
    (fails : draft.prepare ids = .error e) :
    (∃ line ∈ draft.lines, line.balance.ledgerId ≠ draft.ledgerId) ∨
      Totals.ofLines draft.lines = .error e ∨ ∃ cause, e = .overflow cause := by
  rw [Draft.prepare] at fails
  split at fails
  next line elsewhere =>
    have differs := List.find?_some elsewhere
    exact .inl ⟨line, List.mem_of_find?_eq_some elsewhere, of_decide_eq_true differs⟩
  next =>
    rcases bind_eq_error_iff.mp fails with fails | ⟨_, -, fails⟩
    · exact .inr (.inl fails)
    · rcases bind_eq_error_iff.mp fails with fails | ⟨_, -, fails⟩
      · obtain ⟨cause, -, rfl⟩ := lift_eq_error_iff.mp fails
        exact .inr (.inr ⟨cause, rfl⟩)
      · cases fails

def Balance.settleAll (changes : List (Delta × Money)) (balances : List Balance) : List Balance :=
  changes.foldl
    (fun balances (delta, endAmount) => settle delta.balance endAmount balances) balances

theorem Prepared.apply_eq_ok_iff {prepared : Prepared} {transaction : Transaction}
    {balances after : List Balance} : prepared.apply balances = .ok (transaction, after) ↔
      ∃ endAmounts, prepared.deltas.mapM (outcome balances) = .ok endAmounts ∧
        prepared.transaction = transaction ∧
        Balance.settleAll (prepared.deltas.zip endAmounts) balances = after := by
  simp only [apply, bind_eq_ok_iff, pure_eq_ok_iff, Prod.mk.injEq, Balance.settleAll]

theorem Prepared.apply_eq_error_iff {prepared : Prepared} {balances : List Balance}
    {e : LedgerError} : prepared.apply balances = .error e ↔
      prepared.deltas.mapM (outcome balances) = .error e := by
  simp [apply, bind_eq_error_iff, pure, Except.pure]

theorem outcome_pair {debited credited : Balance} (apart : debited.key ≠ credited.key)
    (effect : Money) :
    Prepared.outcome [debited, credited] ⟨debited.key, effect⟩ = debited.projected effect ∧
      Prepared.outcome [debited, credited] ⟨credited.key, effect⟩ = credited.projected effect := by
  simp [Prepared.outcome, apart]

theorem apply_pair {prepared : Prepared} {debited credited : Balance}
    {debitEffect creditEffect : Money} {transaction : Transaction} {balances : List Balance}
    (apart : debited.key ≠ credited.key)
    (deltas : prepared.deltas = [⟨debited.key, debitEffect⟩, ⟨credited.key, creditEffect⟩] ∨
      prepared.deltas = [⟨credited.key, creditEffect⟩, ⟨debited.key, debitEffect⟩])
    (applied : prepared.apply [debited, credited] = .ok (transaction, balances)) :
    ∃ debitedEnd creditedEnd, debited.projected debitEffect = .ok debitedEnd ∧
      credited.projected creditEffect = .ok creditedEnd ∧ prepared.transaction = transaction ∧
      balances = [{ debited with endAmount := debitedEnd },
        { credited with endAmount := creditedEnd }] := by
  obtain ⟨endAmounts, moved, isTransaction, settled⟩ := Prepared.apply_eq_ok_iff.mp applied
  have ofDebited (effect : Money) := (outcome_pair apart effect).1
  have ofCredited (effect : Money) := (outcome_pair apart effect).2
  rcases deltas with deltas | deltas
  · simp only [deltas, List.mapM_cons, List.mapM_nil, ofDebited, ofCredited, bind_eq_ok_iff,
      pure_eq_ok_iff] at moved settled
    obtain ⟨debitedEnd, isDebited, _, ⟨creditedEnd, isCredited, _, rfl, rfl⟩, rfl⟩ := moved
    refine ⟨debitedEnd, creditedEnd, isDebited, isCredited, isTransaction, ?_⟩
    rw [← settled]
    simp [Balance.settleAll, Balance.settle, apart]
  · simp only [deltas, List.mapM_cons, List.mapM_nil, ofDebited, ofCredited, bind_eq_ok_iff,
      pure_eq_ok_iff] at moved settled
    obtain ⟨creditedEnd, isCredited, _, ⟨debitedEnd, isDebited, _, rfl, rfl⟩, rfl⟩ := moved
    refine ⟨debitedEnd, creditedEnd, isDebited, isCredited, isTransaction, ?_⟩
    rw [← settled]
    simp [Balance.settleAll, Balance.settle, apart]

theorem apply_pair_eq_error {prepared : Prepared} {debited credited : Balance}
    {debitEffect creditEffect : Money} {e : LedgerError} (apart : debited.key ≠ credited.key)
    (deltas : prepared.deltas = [⟨debited.key, debitEffect⟩, ⟨credited.key, creditEffect⟩] ∨
      prepared.deltas = [⟨credited.key, creditEffect⟩, ⟨debited.key, debitEffect⟩])
    (fails : prepared.apply [debited, credited] = .error e) :
    debited.projected debitEffect = .error e ∨ credited.projected creditEffect = .error e := by
  obtain ⟨delta, member, fails⟩ := mapM_eq_error (Prepared.apply_eq_error_iff.mp fails)
  have own : delta = ⟨debited.key, debitEffect⟩ ∨ delta = ⟨credited.key, creditEffect⟩ := by
    rcases deltas with deltas | deltas
    · simpa [deltas] using member
    · simpa [deltas, or_comm] using member
  rcases own with rfl | rfl
  · exact .inl ((outcome_pair apart debitEffect).1 ▸ fails)
  · exact .inr ((outcome_pair apart creditEffect).2 ▸ fails)

theorem deltaFor_pair {prepared : Prepared} {debited credited : BalanceKey}
    {debitEffect creditEffect : Money} (apart : debited ≠ credited)
    (deltas : prepared.deltas = [⟨debited, debitEffect⟩, ⟨credited, creditEffect⟩] ∨
      prepared.deltas = [⟨credited, creditEffect⟩, ⟨debited, debitEffect⟩]) :
    prepared.deltaFor debited = debitEffect ∧ prepared.deltaFor credited = creditEffect := by
  rcases deltas with deltas | deltas <;> simp [Prepared.deltaFor, deltas, apart, apart.symm]

/-! ## A posting as a whole -/

def Prepared.Permits (prepared : Prepared) (balance : Balance) : Prop :=
  balance.isOverdraftProtected = true → ∃ projected,
    balance.projected (prepared.deltaFor balance.key) = .ok projected ∧
      projected.isNegative = false

def PostingIds.ofThree (transaction first second : Uuid) : PostingIds :=
  ⟨⟨transaction⟩, fun position => if position = 0 then ⟨first⟩ else ⟨second⟩⟩

structure Posted (ledger : Ledger) (debited credited : Balance) (posting : Bank.Posting)
    (ids : PostingIds) (time : Instant) (draft : Draft) (prepared : Prepared)
    (transaction : Transaction) (balances : List Balance) : Prop where
  drafted : Bank.transferDraft ledger debited credited posting time = .ok draft
  isPrepared : draft.prepare ids = .ok prepared
  permits_debited : prepared.Permits debited
  permits_credited : prepared.Permits credited
  applied : prepared.apply [debited, credited] = .ok (transaction, balances)

/-- What a posting between two balances comes to. -/
structure Settled (ledger : Ledger) (debited credited : Balance) (posting : Bank.Posting)
    (ids : PostingIds) (transaction : Transaction) (debitedEnd creditedEnd : Money) : Prop where
  covers : ledger.covers posting.time = true
  positive : posting.amount.isPositive = true
  ledgerId : transaction.ledgerId = ledger.id
  accountingTime : transaction.accountingTime = posting.time
  entries : transaction.entries = [(debitLine debited posting.amount).toEntry (ids.entry 0),
    (creditLine credited posting.amount).toEntry (ids.entry 1)]
  debitedEnd_eq : debitedEnd.minorUnits = debited.endAmount.minorUnits +
    EntryType.debit.units debited.accountType posting.amount
  creditedEnd_eq : creditedEnd.minorUnits = credited.endAmount.minorUnits +
    EntryType.credit.units credited.accountType posting.amount
  debited_covered : debited.isOverdraftProtected = true → 0 ≤ debitedEnd.minorUnits
  credited_covered : credited.isOverdraftProtected = true → 0 ≤ creditedEnd.minorUnits

private theorem Prepared.Permits.nonneg {prepared : Prepared} {balance : Balance}
    {effect endAmount : Money}
    (permits : prepared.Permits balance) (isEffect : prepared.deltaFor balance.key = effect)
    (projected : balance.projected effect = .ok endAmount)
    (isProtected : balance.isOverdraftProtected = true) : 0 ≤ endAmount.minorUnits := by
  obtain ⟨amount, again, nonneg⟩ := permits isProtected
  rw [isEffect, projected] at again
  cases again
  simpa [Money.isNegative] using nonneg

theorem projected_eq_ok_iff {balance : Balance} {effect endAmount : Money} :
    balance.projected effect = .ok endAmount ↔
      endAmount.minorUnits = balance.endAmount.minorUnits + effect.minorUnits := by
  rw [Balance.projected, lift_eq_ok_iff, Money.add_eq_ok_iff]

theorem Posted.settled {ledger : Ledger} {debited credited : Balance} {posting : Bank.Posting}
    {ids : PostingIds} {time : Instant} {draft : Draft} {prepared : Prepared}
    {transaction : Transaction} {balances : List Balance} (apart : debited.key ≠ credited.key)
    (posted : Posted ledger debited credited posting ids time draft prepared transaction balances) :
    ∃ debitedEnd creditedEnd,
      balances = [{ debited with endAmount := debitedEnd },
        { credited with endAmount := creditedEnd }] ∧
      Settled ledger debited credited posting ids transaction debitedEnd creditedEnd := by
  obtain ⟨covers, positive, first, second, rfl⟩ := transferDraft_eq_ok_iff.mp posted.drafted
  obtain ⟨-, totals, _, counted, isTransaction⟩ := prepare_eq_ok_iff.mp posted.isPrepared
  obtain ⟨debitEffect, creditEffect, isDebit, isCredit, shape⟩ := ofLines_pair apart counted
  have shape : prepared.deltas = [⟨debited.key, debitEffect⟩, ⟨credited.key, creditEffect⟩] ∨
      prepared.deltas = [⟨credited.key, creditEffect⟩, ⟨debited.key, debitEffect⟩] := shape
  obtain ⟨debitedEnd, creditedEnd, debitedMoves, creditedMoves, rfl, rfl⟩ :=
    apply_pair apart shape posted.applied
  obtain ⟨debitChange, creditChange⟩ := deltaFor_pair apart shape
  refine ⟨debitedEnd, creditedEnd, rfl, ?_⟩
  constructor
  case covers => exact covers
  case positive => exact positive
  case ledgerId => rw [isTransaction]
  case accountingTime => rw [isTransaction]
  case entries => rw [isTransaction]; rfl
  case debitedEnd_eq => rw [projected_eq_ok_iff.mp debitedMoves, isDebit]; rfl
  case creditedEnd_eq => rw [projected_eq_ok_iff.mp creditedMoves, isCredit]; rfl
  case debited_covered => exact posted.permits_debited.nonneg debitChange debitedMoves
  case credited_covered => exact posted.permits_credited.nonneg creditChange creditedMoves

end DoubleEntry
