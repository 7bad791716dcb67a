import DoubleEntry.Proofs.GrownDrafts
import DoubleEntry.Proofs.Program.Settling
import DoubleEntry.Proofs.Service.Endings
import DoubleEntry.Proofs.Transfers

/-!
# Transfers that commute

Two transfers that have no account in common can change places.  A transfer reads the
accounts, the ledgers and the balances of its own two accounts, and it changes no more
than two of these balances.  So neither of them can tell whether the other one was
first, and what they store does not collide.
-/

namespace DoubleEntry

/-- The same transaction under other identifiers, recorded at another instant. -/
def Transaction.redrawn (ids : PostingIds) (time : Instant) (transaction : Transaction) :
    Transaction :=
  { transaction.withIds ids with transactionTime := time }

def Tables.Resolves (tables : Tables) (payerReference payeeReference : String)
    (account : Account) : Prop :=
  tables.account? payerReference = some account ∨ tables.account? payeeReference = some account

namespace Transfer

structure Call where
  payerReference : String
  payeeReference : String
  posting : Bank.Posting

def Call.operation (call : Call) : Operation :=
  .transfer call.payerReference call.payeeReference call.posting

/-- The same error, or the same transaction but for what is drawn. -/
inductive Alike : Except LedgerError Outcome → Except LedgerError Outcome → Prop where
  | fails (e : LedgerError) : Alike (.error e) (.error e)
  | books (transaction : Transaction) (ids : PostingIds) (time : Instant) :
      Alike (.ok (.transaction transaction)) (.ok (.transaction (transaction.redrawn ids time)))

def committed : Except LedgerError Outcome → List Transaction
  | .ok (.transaction transaction) => [transaction]
  | _ => []

private theorem redrawn_of_prepares {ledger : Ledger} {debited credited : Balance}
    {posting : Bank.Posting} {ids ids' : PostingIds} {time time' : Instant} {draft draft' : Draft}
    {prepared prepared' : Prepared} {debitEffect creditEffect debitEffect' creditEffect' : Money}
    (prepares : Prepares ledger debited credited posting ids time draft prepared debitEffect
      creditEffect)
    (prepares' : Prepares ledger debited credited posting ids' time' draft' prepared' debitEffect'
      creditEffect') : prepared'.transaction = prepared.transaction.redrawn ids' time' := by
  rw [prepares.transaction, prepares'.transaction]
  rfl

/-! ## What a transfer reads -/

/-- Both tables have the same accounts and ledgers, and the same balances of the accounts that the
call is about. -/
structure Agree (call : Call) (tables other : Tables) : Prop where
  accounts : other.accounts = tables.accounts
  ledgers : other.ledgers = tables.ledgers
  balances : ∀ account, tables.Resolves call.payerReference call.payeeReference account →
    ∀ ledger, other.balances.get? ⟨ledger, account.id⟩ = tables.balances.get? ⟨ledger, account.id⟩

variable {surroundings : Surroundings} {settings : LedgerSettings} {world : World} {call : Call}
  {tables other : Tables} {transfer : Transfer}

theorem Agree.refl (call : Call) (tables : Tables) : Agree call tables tables :=
  ⟨rfl, rfl, fun _ _ _ => rfl⟩

private theorem Agree.account? (agree : Agree call tables other) (reference : String) :
    other.account? reference = tables.account? reference := by
  rw [Tables.account?, agree.accounts, Tables.account?]

private theorem Agree.balanceIn (agree : Agree call tables other) {account : Account}
    (resolved : tables.Resolves call.payerReference call.payeeReference account)
    (ledger : Ledger) : other.balanceIn account ledger = tables.balanceIn account ledger := by
  refine Tables.balanceIn_congr ?_ (agree.balances account resolved)
  rw [Tables.earlier, agree.ledgers, Tables.earlier]

private theorem Agree.between (agree : Agree call tables other)
    (between : Between settings tables call.payerReference call.payeeReference call.posting
      transfer) :
    Between settings other call.payerReference call.payeeReference call.posting transfer where
  positive := between.positive
  isPayer := (agree.account? _).trans between.isPayer
  isPayee := (agree.account? _).trans between.isPayee
  differ := between.differ
  stored := agree.ledgers ▸ between.stored
  covers := between.covers
  postable := between.postable

private theorem Agree.refused (agree : Agree call tables other) {e : LedgerError}
    (refused : Refused settings tables call.payerReference call.payeeReference call.posting e) :
    Refused settings other call.payerReference call.payeeReference call.posting e := by
  cases refused with
  | nonPositive below => exact .nonPositive below
  | noPayer positive missing => exact .noPayer positive ((agree.account? _).trans missing)
  | noPayee positive isPayer missing =>
      exact .noPayee positive ((agree.account? _).trans isPayer) ((agree.account? _).trans missing)
  | same positive isPayer isPayee =>
      exact .same positive ((agree.account? _).trans isPayer) ((agree.account? _).trans isPayee)
  | uncovered positive isPayer isPayee differ uncovered =>
      exact .uncovered positive ((agree.account? _).trans isPayer)
        ((agree.account? _).trans isPayee) differ (agree.ledgers ▸ uncovered)
  | closed positive isPayer isPayee differ stored covers isClosed strict =>
      exact .closed positive ((agree.account? _).trans isPayer) ((agree.account? _).trans isPayee)
        differ (agree.ledgers ▸ stored) covers isClosed strict

/-! ## What a transfer changes -/

structure Adds (stored : BalanceKey → Option Balance) (result : Except LedgerError Outcome)
    (before after : Tables) : Prop where
  accounts : after.accounts = before.accounts
  ledgers : after.ledgers = before.ledgers
  reservations : after.reservations = before.reservations
  balances : ∀ key, after.balances.get? key = (stored key).or (before.balances.get? key)
  transactions : after.transactions = before.transactions ++ committed result

private theorem Adds.atRest {stored : BalanceKey → Option Balance}
    {result : Except LedgerError Outcome} {operation : Operation}
    (adds : Adds stored result world.store.tables
      (operation.run surroundings settings world).2.store.tables)
    (rest : world.AtRest settings.refs) :
    (operation.run surroundings settings world).2.AtRest settings.refs where
  sound := (operation.run_ran surroundings rest.sound).sound rest.sound
  identified := by
    rw [Tables.Identified, adds.accounts]
    exact rest.identified
  free := (Operation.run_held surroundings settings operation world).trans rest.free

private theorem adds_nothing (e : LedgerError) (tables : Tables) :
    Adds (fun _ => none) (.error e) tables tables where
  accounts := rfl
  ledgers := rfl
  reservations := rfl
  balances _ := rfl
  transactions := (List.append_nil _).symm

def stores (transfer : Transfer) (tables : Tables) (payerEnd payeeEnd : Money)
    (key : BalanceKey) : Option Balance :=
  if (⟨transfer.ledger.id, transfer.payee.id⟩ : BalanceKey) = key then
    some (tables.settledIn transfer.payee transfer.ledger payeeEnd)
  else if (⟨transfer.ledger.id, transfer.payer.id⟩ : BalanceKey) = key then
    some (tables.settledIn transfer.payer transfer.ledger payerEnd)
  else none

private theorem adds_book (transaction : Transaction) (payerEnd payeeEnd : Money)
    (samePayer : other.balanceIn transfer.payer transfer.ledger =
      tables.balanceIn transfer.payer transfer.ledger)
    (samePayee : other.balanceIn transfer.payee transfer.ledger =
      tables.balanceIn transfer.payee transfer.ledger) :
    Adds (transfer.stores tables payerEnd payeeEnd) (.ok (.transaction transaction)) other
      (transfer.book other payerEnd payeeEnd transaction) where
  accounts := rfl
  ledgers := rfl
  reservations := rfl
  balances key := by
    simp only [book, Tables.get?_settle, Tables.settledIn, samePayer, samePayee, stores]
    split
    · rfl
    · split <;> rfl
  transactions := rfl

/-! ## One call in two worlds -/

def Call.Concerns (call : Call) (tables : Tables) (stored : BalanceKey → Option Balance) : Prop :=
  ∀ key balance, stored key = some balance → ∃ account,
    tables.Resolves call.payerReference call.payeeReference account ∧ account.id = key.accountId

/-- In every world that agrees with this one the call has the same result and stores these
balances. -/
def Call.Does (surroundings : Surroundings) (settings : LedgerSettings) (call : Call)
    (world : World) (stored : BalanceKey → Option Balance) : Prop :=
  ∀ other : World, other.AtRest settings.refs → Agree call world.store.tables other.store.tables →
    Alike (call.operation.run surroundings settings world).1
        (call.operation.run surroundings settings other).1 ∧
      Adds stored (call.operation.run surroundings settings other).1 other.store.tables
        (call.operation.run surroundings settings other).2.store.tables

private theorem does_nothing (e : LedgerError) (rest : world.AtRest settings.refs)
    (fails : ∀ other : World, other.AtRest settings.refs →
      Agree call world.store.tables other.store.tables →
        (call.operation.run surroundings settings other).1 = .error e ∧
          (call.operation.run surroundings settings other).2.store.tables = other.store.tables) :
    call.Does surroundings settings world fun _ => none := by
  intro other rest' agree
  obtain ⟨result, -⟩ := fails world rest (.refl call _)
  obtain ⟨result', same⟩ := fails other rest' agree
  rw [result, result', same]
  exact ⟨.fails e, adds_nothing e _⟩

section Posting

variable {draft : Draft} {prepared : Prepared} {debitEffect creditEffect : Money}
  (rest : world.AtRest settings.refs)
  (between : Between settings world.store.tables call.payerReference call.payeeReference
    call.posting transfer)
  (prepares : Prepares transfer.ledger
    (world.store.tables.balanceIn transfer.payer transfer.ledger)
    (world.store.tables.balanceIn transfer.payee transfer.ledger) call.posting
    (world.nextIds surroundings) (surroundings.clock world.ticks) draft prepared debitEffect
    creditEffect)
include rest between prepares

private theorem does_book {payerEnd payeeEnd : Money}
    (posted : Posted transfer.ledger
      (world.store.tables.balanceIn transfer.payer transfer.ledger)
      (world.store.tables.balanceIn transfer.payee transfer.ledger) call.posting
      (world.nextIds surroundings) (surroundings.clock world.ticks) draft prepared
      prepared.transaction
      [{ world.store.tables.balanceIn transfer.payer transfer.ledger with endAmount := payerEnd },
        { world.store.tables.balanceIn transfer.payee transfer.ledger with
          endAmount := payeeEnd }]) :
    call.Does surroundings settings world
      (transfer.stores world.store.tables payerEnd payeeEnd) := by
  intro other rest' agree
  have between' := agree.between between
  have samePayer := agree.balanceIn (.inl between.isPayer) transfer.ledger
  have samePayee := agree.balanceIn (.inr between.isPayee) transfer.ledger
  obtain ⟨draft', prepared', debitEffect', creditEffect', prepares'⟩ :=
    between'.exists_prepares rest'.sound rest'.identified (other.nextIds surroundings)
      (surroundings.clock other.ticks)
  rw [samePayer, samePayee] at prepares'
  have posted' := posted.redrawn prepares' (prepares.effects_eq prepares').2.2
  rw [← samePayer, ← samePayee] at posted'
  obtain ⟨result, -⟩ := between.run_of_posted rest posted
  obtain ⟨result', booked⟩ := between'.run_of_posted rest' posted'
  rw [Call.operation, result, result', booked, redrawn_of_prepares prepares prepares']
  exact ⟨.books _ _ _, adds_book _ payerEnd payeeEnd samePayer samePayee⟩

private theorem does_nothing_of_refused
    (refused : ¬ prepared.Clears (world.store.tables.balanceIn transfer.payer transfer.ledger)
      (world.store.tables.balanceIn transfer.payee transfer.ledger)) :
    call.Does surroundings settings world fun _ => none := by
  obtain ⟨e, fails⟩ := Bank.exists_fails_clear refused transfer.ledger call.posting.amount
  refine does_nothing e rest fun other rest' agree => ?_
  have between' := agree.between between
  obtain ⟨draft', prepared', debitEffect', creditEffect', prepares'⟩ :=
    between'.exists_prepares rest'.sound rest'.identified (other.nextIds surroundings)
      (surroundings.clock other.ticks)
  refine between'.run_of_fails_clear rest' prepares' ?_
  rw [agree.balanceIn (.inl between.isPayer), agree.balanceIn (.inr between.isPayee)]
    at prepares' ⊢
  exact fails _ _ _ _ (prepares.effects_eq prepares').2.2

end Posting

private theorem concerns_nothing (call : Call) (tables : Tables) :
    call.Concerns tables fun _ => none :=
  fun _ _ => nofun

private theorem concerns_stores
    (between : Between settings tables call.payerReference call.payeeReference call.posting
      transfer) (payerEnd payeeEnd : Money) :
    call.Concerns tables (transfer.stores tables payerEnd payeeEnd) := by
  intro key balance found
  rw [stores] at found
  split at found
  next same => exact ⟨_, .inr between.isPayee, congrArg BalanceKey.accountId same⟩
  next =>
    split at found
    next same => exact ⟨_, .inl between.isPayer, congrArg BalanceKey.accountId same⟩
    next => cases found

private theorem exists_does (surroundings : Surroundings) (call : Call)
    (rest : world.AtRest settings.refs) :
    ∃ stored, call.Does surroundings settings world stored ∧
      call.Concerns world.store.tables stored := by
  rcases refused_or_between settings world.store.tables call.payerReference call.payeeReference
    call.posting with ⟨e, refused⟩ | ⟨transfer, between⟩
  · refine ⟨_, does_nothing e rest fun other rest' agree => ?_, concerns_nothing call _⟩
    exact run_of_fails rest'.free ((agree.refused refused).fails rest'.sound rest'.identified _ _)
  · obtain ⟨draft, prepared, debitEffect, creditEffect, prepares⟩ :=
      between.exists_prepares rest.sound rest.identified (world.nextIds surroundings)
        (surroundings.clock world.ticks)
    by_cases clears : prepared.Clears
        (world.store.tables.balanceIn transfer.payer transfer.ledger)
        (world.store.tables.balanceIn transfer.payee transfer.ledger)
    · obtain ⟨permits, permits', ⟨transaction, balances⟩, applied⟩ := clears
      obtain ⟨payerEnd, payeeEnd, -, -, rfl, rfl⟩ :=
        apply_pair (between.keys_apart rest.sound rest.identified) prepares.deltas applied
      exact ⟨_, does_book rest between prepares
        ⟨prepares.drafted, prepares.isPrepared, permits, permits', applied⟩,
        concerns_stores between _ _⟩
    · exact ⟨_, does_nothing_of_refused rest between prepares clears, concerns_nothing call _⟩

/-! ## Calls without a common account -/

/-- No account stands under references of both calls. -/
def Call.Apart (tables : Tables) (first second : Call) : Prop :=
  ∀ account, tables.Resolves first.payerReference first.payeeReference account →
    ¬ tables.Resolves second.payerReference second.payeeReference account

private theorem resolves_iff {payerReference payeeReference : String} {account : Account} :
    tables.Resolves payerReference payeeReference account ↔
      ∃ reference ∈ [payerReference, payeeReference],
        tables.account? reference = some account := by
  simp [Tables.Resolves]

private theorem Call.apart_iff {first second : Call} : Call.Apart tables first second ↔
    ∀ reference ∈ [first.payerReference, first.payeeReference],
      ∀ reference' ∈ [second.payerReference, second.payeeReference],
        tables.account? reference = none ∨
          tables.account? reference ≠ tables.account? reference' := by
  constructor
  · intro apart reference ofFirst reference' ofSecond
    cases found : tables.account? reference with
    | none => exact .inl rfl
    | some account =>
        exact .inr fun same => apart account (resolves_iff.mpr ⟨_, ofFirst, found⟩)
          (resolves_iff.mpr ⟨_, ofSecond, same.symm⟩)
  · intro apart account resolved resolved'
    obtain ⟨reference, ofFirst, found⟩ := resolves_iff.mp resolved
    obtain ⟨reference', ofSecond, found'⟩ := resolves_iff.mp resolved'
    rcases apart reference ofFirst reference' ofSecond with missing | differ
    · cases found.symm.trans missing
    · exact differ (found.trans found'.symm)

instance (first second : Call) : Decidable (Call.Apart tables first second) :=
  decidable_of_iff _ Call.apart_iff.symm

private theorem Call.Apart.symm {first second : Call} (apart : Call.Apart tables first second) :
    Call.Apart tables second first :=
  fun account resolved resolved' => apart account resolved' resolved

section Apart

variable {refs : SystemRefs} {first second : Call} {stored stored' : BalanceKey → Option Balance}
  {account : Account}

private theorem mem_of_resolves (sound : tables.Sound refs)
    (resolved : tables.Resolves call.payerReference call.payeeReference account) :
    account ∈ tables.accounts.values :=
  resolved.elim sound.mem_of_account? sound.mem_of_account?

private theorem Call.Apart.stored_eq_none (apart : Call.Apart tables first second)
    (sound : tables.Sound refs) (identified : tables.Identified)
    (concerns : second.Concerns tables stored)
    (resolved : tables.Resolves first.payerReference first.payeeReference account)
    (ledger : LedgerId) : stored ⟨ledger, account.id⟩ = none := by
  cases found : stored ⟨ledger, account.id⟩ with
  | none => rfl
  | some balance =>
      obtain ⟨other, resolved', same⟩ := concerns _ balance found
      cases identified other (mem_of_resolves sound resolved') account
        (mem_of_resolves sound resolved) same
      exact absurd resolved' (apart _ resolved)

private theorem Call.Apart.agree (apart : Call.Apart tables first second)
    (sound : tables.Sound refs) (identified : tables.Identified)
    (concerns : second.Concerns tables stored) {result : Except LedgerError Outcome}
    {after : Tables} (adds : Adds stored result tables after) : Agree first tables after where
  accounts := adds.accounts
  ledgers := adds.ledgers
  balances account resolved ledger := by
    rw [adds.balances, apart.stored_eq_none sound identified concerns resolved, Option.none_or]

private theorem Call.Apart.or_comm (apart : Call.Apart tables first second)
    (sound : tables.Sound refs) (identified : tables.Identified)
    (concerns : first.Concerns tables stored) (concerns' : second.Concerns tables stored')
    (key : BalanceKey) (found : Option Balance) :
    (stored' key).or ((stored key).or found) = (stored key).or ((stored' key).or found) := by
  cases isStored : stored key with
  | none => rfl
  | some balance =>
      obtain ⟨account, resolved, same⟩ := concerns key balance isStored
      have none := apart.stored_eq_none sound identified concerns' resolved key.ledgerId
      rw [same] at none
      rw [none]
      rfl

end Apart

/-! ## Two calls in either order -/

/-- What two runs come to in either order: both have the same results, and the tables differ in the
order of the new transactions and in what was drawn for them. -/
structure Commute (first second : World → Except LedgerError Outcome × World) (world : World) :
    Prop where
  first_alike : Alike (first world).1 (first (second world).2).1
  second_alike : Alike (second world).1 (second (first world).2).1
  accounts : (second (first world).2).2.store.tables.accounts =
    (first (second world).2).2.store.tables.accounts
  ledgers : (second (first world).2).2.store.tables.ledgers =
    (first (second world).2).2.store.tables.ledgers
  reservations : (second (first world).2).2.store.tables.reservations =
    (first (second world).2).2.store.tables.reservations
  balances : ∀ key, (second (first world).2).2.store.tables.balances.get? key =
    (first (second world).2).2.store.tables.balances.get? key
  first_before : (second (first world).2).2.store.tables.transactions =
    world.store.tables.transactions ++ committed (first world).1 ++
      committed (second (first world).2).1
  second_before : (first (second world).2).2.store.tables.transactions =
    world.store.tables.transactions ++ committed (second world).1 ++
      committed (first (second world).2).1

end Transfer

/-- In every state that a system reaches, two transfers without a common account can change
places. -/
theorem System.Reachable.transfers_commute {surroundings : Surroundings}
    {settings : LedgerSettings} {world : World} {tasks : List Task}
    (reachable : System.Reachable surroundings (Admission.any.Allowed settings) ⟨world, tasks⟩)
    (distinct : surroundings.Distinct world.issued) (free : world.store.locks.held = [])
    (first second : Transfer.Call)
    (apart : Transfer.Call.Apart world.store.tables first second) :
    Transfer.Commute (first.operation.run surroundings settings)
      (second.operation.run surroundings settings) world := by
  obtain ⟨_, deeds, _, orderly⟩ := reachable.exists_orderly
  have sound := orderly.chronicle.sound
  have identified := orderly.chronicle.identified (orderly.ids_nodup distinct)
  have rest : world.AtRest settings.refs := ⟨sound, identified, free⟩
  obtain ⟨stored, does, concerns⟩ := Transfer.exists_does surroundings first rest
  obtain ⟨stored', does', concerns'⟩ := Transfer.exists_does surroundings second rest
  obtain ⟨-, adds⟩ := does world rest (.refl first _)
  obtain ⟨-, adds'⟩ := does' world rest (.refl second _)
  obtain ⟨first_alike, addsAfter⟩ := does _ (adds'.atRest rest)
    (apart.agree sound identified concerns' adds')
  obtain ⟨second_alike, addsAfter'⟩ := does' _ (adds.atRest rest)
    (apart.symm.agree sound identified concerns adds)
  constructor
  case first_alike => exact first_alike
  case second_alike => exact second_alike
  case accounts => rw [addsAfter'.accounts, adds.accounts, addsAfter.accounts, adds'.accounts]
  case ledgers => rw [addsAfter'.ledgers, adds.ledgers, addsAfter.ledgers, adds'.ledgers]
  case reservations =>
    rw [addsAfter'.reservations, adds.reservations, addsAfter.reservations, adds'.reservations]
  case balances =>
    intro key
    rw [addsAfter'.balances, adds.balances, addsAfter.balances, adds'.balances]
    exact apart.or_comm sound identified concerns concerns' key _
  case first_before => rw [addsAfter'.transactions, adds.transactions]
  case second_before => rw [addsAfter.transactions, adds'.transactions]

/-- After a rollover one account pays from what was carried over to its new balance.  Another one
pays in the closed period, where somebody opened its balance with another type than its own. -/
theorem System.Reachable.transfers_commute_periods : ∃ (settings : LedgerSettings) (world : World)
    (first second : Transfer.Call),
    (∃ tasks, System.Reachable .counting (Admission.any.Allowed settings) ⟨world, tasks⟩) ∧
    Surroundings.counting.Distinct world.issued ∧ world.store.locks.held = [] ∧
    Transfer.Call.Apart world.store.tables first second ∧
    (first.operation.run .counting settings world).1.isOk = true ∧
    (second.operation.run .counting settings world).1.isOk = true ∧
    Transfer.Commute (first.operation.run .counting settings)
      (second.operation.run .counting settings) world := by
  let lenient : LedgerSettings := { LedgerSettings.standard with allowClosedPeriodPosting := true }
  let later : Instant := ⟨100, 0, by decide, by decide, by decide⟩
  let forged : Account := ⟨⟨⟨6⟩⟩, "c", "c", .asset, .system, .epoch⟩
  have start : System.Reachable .counting (Admission.any.Allowed lenient) ⟨.empty, []⟩ := .empty
  obtain ⟨tasks, reachable⟩ := Operation.exists_reachable_runAll start [.ensureSystemAccounts,
    .openFirstLedger .epoch, .createAccount "a" "a" .liability .current,
    .createAccount "b" "b" .liability .premium, .createAccount "c" "c" .liability .current,
    .createAccount "d" "d" .asset .current,
    .deposit "a" ⟨⟨100, by decide, by decide⟩, "", .epoch⟩, .getOrCreateBalance forged .epoch,
    .closePeriodAndOpenNext later] fun _ _ _ => trivial
  refine ⟨lenient, _, ⟨"a", " b", ⟨⟨40, by decide, by decide⟩, "rent", later⟩⟩,
    ⟨"c", "d", ⟨⟨30, by decide, by decide⟩, "loan", .epoch⟩⟩, ⟨tasks, reachable⟩, ?distinct, ?free,
    ?apart, ?first, ?second,
    System.Reachable.transfers_commute reachable ?distinct ?free _ _ ?apart⟩
  case distinct => exact Surroundings.counting_distinct (by decide +kernel)
  case free => decide +kernel
  case apart => decide +kernel
  case first => decide +kernel
  case second => decide +kernel

end DoubleEntry
