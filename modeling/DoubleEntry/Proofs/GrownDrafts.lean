import DoubleEntry.Proofs.Journal.Applying
import DoubleEntry.Proofs.Journal.Totals
import Mathlib

/-!
# Drafts grown leg by leg

A transaction can be planned in two ways: its draft grows from a ledger one leg at a
time, with a check for every leg, or the draft is written down at once and checked as
a whole.  The checks come in different orders and so may fail differently, but they
accept the same plans, and what is accepted is the same transaction except for the
identifiers that it draws (`Plan.grows_as_whole`).
-/

namespace DoubleEntry

/-! ## Two ways to a draft -/

structure Leg where
  entryType : EntryType
  balance : Balance
  amount : Money
  deriving DecidableEq, Repr

def Leg.line (leg : Leg) : Line :=
  ⟨leg.balance.key, leg.balance.accountType, leg.entryType, leg.amount⟩

def Draft.add (draft : Draft) (leg : Leg) : Except LedgerError Draft :=
  match leg.entryType with
  | .debit => draft.debit leg.balance leg.amount
  | .credit => draft.credit leg.balance leg.amount

structure Plan where
  ledger : Ledger
  description : String
  accountingTime : Instant
  transactionTime : Instant
  legs : List Leg
  deriving DecidableEq, Repr

namespace Plan

def grow (plan : Plan) : Except LedgerError Draft := do
  let draft ← plan.ledger.draft plan.description plan.accountingTime plan.transactionTime
  plan.legs.foldlM Draft.add draft

/-- All legs at once, unchecked. -/
def whole (plan : Plan) : Draft where
  ledgerId := plan.ledger.id
  description := plan.description
  accountingTime := plan.accountingTime
  transactionTime := plan.transactionTime
  lines := plan.legs.map Leg.line

end Plan

private theorem Draft.add_eq_ok_iff {draft result : Draft} {leg : Leg} :
    draft.add leg = .ok result ↔ leg.amount.isPositive = true ∧
      leg.balance.key.ledgerId = draft.ledgerId ∧
      result = { draft with lines := draft.lines ++ [leg.line] } := by
  have posts : draft.add leg = draft.post leg.entryType leg.balance leg.amount := by
    unfold add
    cases leg.entryType <;> rfl
  rw [posts, post_eq_ok_iff]
  rfl

private theorem Draft.foldlM_add_eq_ok_iff {draft result : Draft} {legs : List Leg} :
    legs.foldlM add draft = .ok result ↔
      (∀ leg ∈ legs, leg.amount.isPositive = true ∧
        leg.balance.key.ledgerId = draft.ledgerId) ∧
      result = { draft with lines := draft.lines ++ legs.map Leg.line } := by
  induction legs generalizing draft with
  | nil =>
      rw [List.foldlM_nil, pure_eq_ok_iff, eq_comm]
      simp
  | cons leg rest ih =>
      rw [List.foldlM_cons, bind_eq_ok_iff, List.forall_mem_cons]
      constructor
      · rintro ⟨_, added, grown⟩
        obtain ⟨positive, inside, rfl⟩ := add_eq_ok_iff.mp added
        obtain ⟨others, rfl⟩ := ih.mp grown
        exact ⟨⟨⟨positive, inside⟩, others⟩, by simp⟩
      · rintro ⟨⟨⟨positive, inside⟩, others⟩, rfl⟩
        exact ⟨_, add_eq_ok_iff.mpr ⟨positive, inside, rfl⟩, ih.mpr ⟨others, by simp⟩⟩

private theorem Plan.grow_eq_ok_iff {plan : Plan} {draft : Draft} : plan.grow = .ok draft ↔
    plan.ledger.covers plan.accountingTime = true ∧
    (∀ leg ∈ plan.legs, leg.amount.isPositive = true ∧
      leg.balance.key.ledgerId = plan.ledger.id) ∧ draft = plan.whole := by
  rw [grow, bind_eq_ok_iff]
  constructor
  · rintro ⟨_, started, grown⟩
    obtain ⟨covers, rfl⟩ := draft_eq_ok_iff.mp started
    exact ⟨covers, Draft.foldlM_add_eq_ok_iff.mp grown⟩
  · rintro ⟨covers, fits⟩
    exact ⟨_, draft_eq_ok_iff.mpr ⟨covers, rfl⟩, Draft.foldlM_add_eq_ok_iff.mpr fits⟩

/-! ## Identifiers -/

def Transaction.withIds (ids : PostingIds) (transaction : Transaction) : Transaction :=
  { transaction with
    id := ids.transaction
    entries := transaction.entries.mapIdx fun position entry =>
      { entry with id := ids.entry position } }

def Prepared.withIds (ids : PostingIds) (prepared : Prepared) : Prepared :=
  { prepared with transaction := prepared.transaction.withIds ids }

private theorem Draft.prepare_withIds (draft : Draft) (ids ids' : PostingIds) :
    draft.prepare ids = (draft.prepare ids').map (Prepared.withIds ids) := by
  rw [prepare, prepare]
  split
  · rfl
  · cases Totals.ofLines draft.lines with
    | error e => rfl
    | ok totals =>
        cases Delta.ofLines draft.lines with
        | error e => rfl
        | ok deltas =>
            simp [Overflow.lift, Except.mapError, bind, Except.bind, pure, Except.pure, Except.map,
              Prepared.withIds, Transaction.withIds, Function.comp_def, Line.toEntry]

private theorem Prepared.applyInPlace_withIds (prepared : Prepared) (ids : PostingIds)
    (balances : List Balance) : (prepared.withIds ids).applyInPlace.on balances =
      (prepared.applyInPlace.on balances).map (Except.map (Transaction.withIds ids)) id := by
  have same : (prepared.withIds ids).apply balances =
      (prepared.apply balances).map (Prod.map (Transaction.withIds ids) id) := by
    unfold apply
    show prepared.deltas.mapM (outcome balances) >>= _ = _
    cases prepared.deltas.mapM (outcome balances) <;> rfl
  rw [applyInPlace_on, applyInPlace_on, same]
  cases prepared.apply balances <;> rfl

/-! ## Both ways compared -/

private theorem Totals.ofLines_eq_error {lines : List Line} {e : LedgerError}
    (positive : Line.Positive lines) (fails : ofLines lines = .error e) :
    e = .insufficientEntries lines.length ∨ (∃ cause, e = .overflow cause) ∨
      ∃ totals : Totals, e = .unbalancedTransaction totals.debit totals.credit := by
  rw [ofLines] at fails
  split at fails
  · cases fails
    exact .inl rfl
  · rcases bind_eq_error_iff.mp fails with fails | ⟨totals, -, fails⟩
    · obtain ⟨before, line, after, totals, rfl, -, fails⟩ := foldlM_eq_error_iff.mp fails
      have above := positive line (by simp)
      rcases count_eq_error_iff.mp fails with ⟨refused, -⟩ | ⟨-, -, rfl⟩
      · exact absurd refused (Int.not_le.mpr above)
      · exact .inr (.inl ⟨_, rfl⟩)
    · split at fails
      · cases fails
      · cases fails
        exact .inr (.inr ⟨totals, rfl⟩)

namespace Plan

variable {plan : Plan} {draft : Draft}

private theorem grow_of_prepared {ids : PostingIds} {prepared : Prepared}
    (covers : plan.ledger.covers plan.accountingTime = true)
    (isPrepared : plan.whole.prepare ids = .ok prepared) : plan.grow = .ok plan.whole := by
  obtain ⟨inside, _, counted, -⟩ := prepare_eq_ok_iff.mp isPrepared
  obtain ⟨-, positive, -⟩ := Totals.ofLines_eq_ok_iff.mp counted
  have listed {leg : Leg} (member : leg ∈ plan.legs) : leg.line ∈ plan.whole.lines :=
    List.mem_map_of_mem member
  exact grow_eq_ok_iff.mpr ⟨covers, fun leg member =>
    ⟨decide_eq_true (positive _ (listed member)), inside _ (listed member)⟩, rfl⟩

private theorem prepare_grown_eq_error {ids : PostingIds} {e : LedgerError}
    (grown : plan.grow = .ok draft) (fails : draft.prepare ids = .error e) :
    e = .insufficientEntries plan.legs.length ∨ (∃ cause, e = .overflow cause) ∨
      ∃ totals : Totals, e = .unbalancedTransaction totals.debit totals.credit := by
  obtain ⟨-, fits, rfl⟩ := grow_eq_ok_iff.mp grown
  rcases prepare_eq_error_cases fails with ⟨line, member, outside⟩ | fails | overflow
  · obtain ⟨leg, listed, rfl⟩ := List.mem_map.mp member
    exact absurd (fits leg listed).2 outside
  · have positive : Line.Positive plan.whole.lines := by
      intro line member
      obtain ⟨leg, listed, rfl⟩ := List.mem_map.mp member
      exact of_decide_eq_true (fits leg listed).1
    simpa [whole] using Totals.ofLines_eq_error positive fails
  · exact .inr (.inl overflow)

/-- Under any identifiers, growing a draft and writing it down at once come to the same. -/
theorem grows_as_whole (plan : Plan) (ids ids' : PostingIds) :
    ((∃ prepared, (plan.grow >>= fun draft => draft.prepare ids) = .ok prepared) ↔
      plan.ledger.covers plan.accountingTime = true ∧
      ∃ prepared, plan.whole.prepare ids' = .ok prepared) ∧
    (∀ prepared prepared', (plan.grow >>= fun draft => draft.prepare ids) = .ok prepared →
      plan.whole.prepare ids' = .ok prepared' → prepared = prepared'.withIds ids) ∧
    ∀ draft, plan.grow = .ok draft →
      (∀ e, draft.prepare ids = .error e → (∀ amount, e ≠ .nonPositiveAmount amount) ∧
        ∀ expected actual, e ≠ .balanceLedgerMismatch expected actual) ∧
      ∀ balances, (draft.carryOut ids).on balances =
        match plan.whole.prepare ids' with
        | .ok prepared =>
          (prepared.applyInPlace.on balances).map (Except.map (Transaction.withIds ids)) id
        | .error e => (.error e, balances) := by
  have renamed := plan.whole.prepare_withIds ids ids'
  refine ⟨⟨?grown, ?whole⟩, ?same, fun draft grown => ⟨?errors, ?carried⟩⟩
  case grown =>
    rintro ⟨prepared, built⟩
    obtain ⟨draft, grown, isPrepared⟩ := bind_eq_ok_iff.mp built
    obtain ⟨covers, -, rfl⟩ := grow_eq_ok_iff.mp grown
    exact ⟨covers, _, (plan.whole.prepare_withIds ids' ids).trans (by rw [isPrepared]; rfl)⟩
  case whole =>
    rintro ⟨covers, prepared, isPrepared⟩
    rw [isPrepared] at renamed
    exact ⟨_, bind_eq_ok_iff.mpr ⟨_, grow_of_prepared covers isPrepared, renamed⟩⟩
  case same =>
    intro prepared prepared' built isPrepared
    obtain ⟨draft, grown, built⟩ := bind_eq_ok_iff.mp built
    obtain ⟨-, -, rfl⟩ := grow_eq_ok_iff.mp grown
    rw [renamed, isPrepared] at built
    exact (Except.ok.inj built).symm
  case errors =>
    intro e fails
    rcases prepare_grown_eq_error grown fails with rfl | ⟨_, rfl⟩ | ⟨_, rfl⟩ <;> simp
  case carried =>
    intro balances
    obtain ⟨-, -, rfl⟩ := grow_eq_ok_iff.mp grown
    show InPlace.on (ExceptT.mk (pure (plan.whole.prepare ids)) >>= _) balances = _
    rw [renamed]
    cases plan.whole.prepare ids' with
    | error e => rfl
    | ok prepared => exact prepared.applyInPlace_withIds ids balances

/-- The first of two bad legs is told where the draft grows, the second where it is whole. -/
example : ∃ plan : Plan, plan.grow = .error (.nonPositiveAmount .zero) ∧ ∀ ids,
    plan.whole.prepare ids = .error (.balanceLedgerMismatch ⟨⟨1⟩⟩ ⟨⟨2⟩⟩) := by
  let balance (ledger : Uuid) : Balance :=
    ⟨⟨⟨ledger⟩, ⟨⟨3⟩⟩⟩, "", .asset, .current, .zero, .zero, 0⟩
  let legs : List Leg := [⟨.debit, balance ⟨1⟩, .zero⟩, ⟨.credit, balance ⟨2⟩, .zero⟩]
  exact ⟨⟨.create ⟨⟨1⟩⟩ "" .epoch, "", .epoch, .epoch, legs⟩, by decide +kernel, fun ids => rfl⟩

end Plan

end DoubleEntry
