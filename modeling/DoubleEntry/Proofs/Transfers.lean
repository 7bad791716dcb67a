import DoubleEntry.Proofs.Overdraft
import DoubleEntry.Proofs.Service.Rejections

/-!
# What a transfer comes to

`Transfer.judge` looks at the committed tables alone and says who pays whom in which
ledger, or what stands in the way.  Where nobody else holds a lock, a transfer does what
it says: it fails with that error, it fails because an end amount has no representation,
or it moves the two balances by the exact amount and changes nothing else.
-/

namespace DoubleEntry

structure Transfer where
  payer : Account
  payee : Account
  ledger : Ledger
  deriving DecidableEq, Repr

namespace Transfer

/-- What stands in the way first, or the transfer that is to be made. -/
def judge (settings : LedgerSettings) (tables : Tables) (payerReference payeeReference : String)
    (posting : Bank.Posting) : Except LedgerError Transfer :=
  if posting.amount.minorUnits ≤ 0 then .error (.nonPositiveAmount posting.amount)
  else match tables.account? payerReference, tables.account? payeeReference with
    | none, _ => .error (.accountNotFound (Text.trim payerReference))
    | some _, none => .error (.accountNotFound (Text.trim payeeReference))
    | some payer, some payee =>
      if payer = payee then .error (.sameAccountTransfer payer.reference)
      else match tables.ledgers.values.find? fun ledger => ledger.covers posting.time with
        | none => .error (.noLedgerForInstant posting.time)
        | some ledger =>
          if ledger.isOpen = false ∧ settings.allowClosedPeriodPosting = false then
            .error (.periodClosed ledger.name)
          else
            let held := (tables.balanceIn payer ledger).endAmount
            if payer.accountType = .liability ∧ payer.purpose ≠ .system ∧ held < posting.amount then
              .error (.overdrawn payer.reference ledger.name held posting.amount)
            else .ok ⟨payer, payee, ledger⟩

variable (transfer : Transfer) (tables : Tables) (posting : Bank.Posting)

def payerEnd : Int :=
  (tables.balanceIn transfer.payer transfer.ledger).endAmount.minorUnits +
    EntryType.debit.units transfer.payer.accountType posting.amount

def payeeEnd : Int :=
  (tables.balanceIn transfer.payee transfer.ledger).endAmount.minorUnits +
    EntryType.credit.units transfer.payee.accountType posting.amount

def entry (account : Account) (entryType : EntryType) (id : Uuid) : Entry :=
  ⟨⟨id⟩, ⟨transfer.ledger.id, account.id⟩, account.id, account.accountType, entryType,
    posting.amount⟩

def transaction (surroundings : Surroundings) (world : World) : Transaction where
  id := ⟨surroundings.uuid world.issued⟩
  ledgerId := transfer.ledger.id
  description := posting.description
  accountingTime := posting.time
  transactionTime := surroundings.clock world.ticks
  entries := [transfer.entry posting transfer.payer .debit (surroundings.uuid (world.issued + 1)),
    transfer.entry posting transfer.payee .credit (surroundings.uuid (world.issued + 2))]
  total := posting.amount

def book (payerEnd payeeEnd : Money) (transaction : Transaction) : Tables :=
  { tables with
    balances := tables.settle transfer.payee transfer.ledger payeeEnd
      (tables.settle transfer.payer transfer.ledger payerEnd tables.balances)
    transactions := tables.transactions ++ [transaction] }

/-- The sum that has no representation is that of what was held and of the change. -/
structure Explains (cause : Overflow) (held : Money) (units : Int) : Prop where
  outside : ¬ Money.InRange units
  lhs : cause.lhs = held
  operator : cause.operator = '+'
  rhs : held.minorUnits + cause.rhs.minorUnits = units

inductive Comes (surroundings : Surroundings) (settings : LedgerSettings) (world : World)
    (payerReference payeeReference : String) (posting : Bank.Posting) :
    Except LedgerError Outcome → Tables → Prop where
  | refused {e : LedgerError}
      (judged : judge settings world.store.tables payerReference payeeReference posting =
        .error e) :
      Comes surroundings settings world payerReference payeeReference posting (.error e)
        world.store.tables
  | overflows {transfer : Transfer} {cause : Overflow}
      (judged : judge settings world.store.tables payerReference payeeReference posting =
        .ok transfer)
      (explained :
        Explains cause (world.store.tables.balanceIn transfer.payer transfer.ledger).endAmount
            (transfer.payerEnd world.store.tables posting) ∨
          Explains cause (world.store.tables.balanceIn transfer.payee transfer.ledger).endAmount
            (transfer.payeeEnd world.store.tables posting)) :
      Comes surroundings settings world payerReference payeeReference posting
        (.error (.overflow cause)) world.store.tables
  | posts {transfer : Transfer} {payerEnd payeeEnd : Money}
      (judged : judge settings world.store.tables payerReference payeeReference posting =
        .ok transfer)
      (payer_moves : payerEnd.minorUnits = transfer.payerEnd world.store.tables posting)
      (payee_moves : payeeEnd.minorUnits = transfer.payeeEnd world.store.tables posting) :
      Comes surroundings settings world payerReference payeeReference posting
        (.ok (.transaction (transfer.transaction posting surroundings world)))
        (transfer.book world.store.tables payerEnd payeeEnd
          (transfer.transaction posting surroundings world))

end Transfer

/-! ## Refused -/

namespace Bank

open DoubleEntry.Action

variable {surroundings : Surroundings} {settings : LedgerSettings} {tables : Tables}
  {issued ticks : Nat} {payerReference payeeReference : String} {posting : Posting}
  {payer payee : Account} {after : Point} {e : LedgerError}

private theorem fails_transfer_nonPositive (refused : posting.amount.isPositive = false) :
    (transfer settings payerReference payeeReference posting).Fails surroundings []
      ⟨tables, issued, ticks, .empty⟩ (.nonPositiveAmount posting.amount)
      ⟨tables, issued, ticks, .empty⟩ := by
  rw [transfer]
  exact (fails_ensurePositive refused).bind _

private theorem fails_transfer_payer (positive : posting.amount.isPositive = true)
    (missing : tables.account? payerReference = none) :
    (transfer settings payerReference payeeReference posting).Fails surroundings []
      ⟨tables, issued, ticks, .empty⟩ (.accountNotFound (Text.trim payerReference))
      ⟨tables, issued, ticks, .empty⟩ := by
  rw [transfer]
  refine (yields_ensurePositive positive).bind_fails (yields_openWork.bind_fails ?_)
  exact (fails_requireAccount missing).bind _

private theorem fails_transfer_payee (positive : posting.amount.isPositive = true)
    (isPayer : tables.account? payerReference = some payer)
    (missing : tables.account? payeeReference = none) :
    (transfer settings payerReference payeeReference posting).Fails surroundings []
      ⟨tables, issued, ticks, .empty⟩ (.accountNotFound (Text.trim payeeReference))
      ⟨tables, issued, ticks, .empty⟩ := by
  rw [transfer]
  refine (yields_ensurePositive positive).bind_fails (yields_openWork.bind_fails ?_)
  refine (yields_requireAccount isPayer).bind_fails ?_
  exact (fails_requireAccount missing).bind _

private theorem fails_transfer_same (positive : posting.amount.isPositive = true)
    (isPayer : tables.account? payerReference = some payer)
    (isPayee : tables.account? payeeReference = some payer) :
    (transfer settings payerReference payeeReference posting).Fails surroundings []
      ⟨tables, issued, ticks, .empty⟩ (.sameAccountTransfer payer.reference)
      ⟨tables, issued, ticks, .empty⟩ := by
  rw [transfer]
  refine (yields_ensurePositive positive).bind_fails (yields_openWork.bind_fails ?_)
  refine (yields_requireAccount isPayer).bind_fails ((yields_requireAccount isPayee).bind_fails ?_)
  simp only [if_true]
  exact (fails_throw _ _).bind _

private theorem fails_transfer_post (positive : posting.amount.isPositive = true)
    (isPayer : tables.account? payerReference = some payer)
    (isPayee : tables.account? payeeReference = some payee) (apart : payer.id ≠ payee.id)
    (fails : (post settings payer payee posting).Fails surroundings []
      ⟨tables, issued, ticks, .empty⟩ e after) :
    (transfer settings payerReference payeeReference posting).Fails surroundings []
      ⟨tables, issued, ticks, .empty⟩ e after := by
  rw [transfer]
  refine (yields_ensurePositive positive).bind_fails (yields_openWork.bind_fails ?_)
  refine (yields_requireAccount isPayer).bind_fails ((yields_requireAccount isPayee).bind_fails ?_)
  simp only [if_neg apart]
  exact (yields_lockInOrder _).bind_fails (fails.bind _)

end Bank

/-! ## Up to the balances -/

structure World.AtRest (refs : SystemRefs) (world : World) : Prop where
  sound : world.store.tables.Sound refs
  identified : world.store.tables.Identified
  free : world.store.locks.held = []

abbrev World.nextIds (surroundings : Surroundings) (world : World) : PostingIds :=
  .ofThree (surroundings.uuid world.issued) (surroundings.uuid (world.issued + 1))
    (surroundings.uuid (world.issued + 2))

private theorem Tables.Identified.apart {refs : SystemRefs} {tables : Tables}
    (identified : tables.Identified) (sound : tables.Sound refs) {reference other : String}
    {account second : Account} (found : tables.account? reference = some account)
    (found' : tables.account? other = some second) (differ : account ≠ second) :
    account.id ≠ second.id := fun same =>
  differ (identified _ (sound.mem_of_account? found) _ (sound.mem_of_account? found') same)

namespace Transfer

variable {surroundings : Surroundings} {settings : LedgerSettings} {world : World}
  {tables : Tables} {payerReference payeeReference : String} {posting : Bank.Posting}
  {transfer : Transfer} {e : LedgerError}

/-- What stands in the way before a balance is read. -/
inductive Refused (settings : LedgerSettings) (tables : Tables)
    (payerReference payeeReference : String) (posting : Bank.Posting) : LedgerError → Prop where
  | nonPositive (below : posting.amount.isPositive = false) :
      Refused settings tables payerReference payeeReference posting
        (.nonPositiveAmount posting.amount)
  | noPayer (positive : posting.amount.isPositive = true)
      (missing : tables.account? payerReference = none) :
      Refused settings tables payerReference payeeReference posting
        (.accountNotFound (Text.trim payerReference))
  | noPayee {payer : Account} (positive : posting.amount.isPositive = true)
      (isPayer : tables.account? payerReference = some payer)
      (missing : tables.account? payeeReference = none) :
      Refused settings tables payerReference payeeReference posting
        (.accountNotFound (Text.trim payeeReference))
  | same {payer : Account} (positive : posting.amount.isPositive = true)
      (isPayer : tables.account? payerReference = some payer)
      (isPayee : tables.account? payeeReference = some payer) :
      Refused settings tables payerReference payeeReference posting
        (.sameAccountTransfer payer.reference)
  | uncovered {payer payee : Account} (positive : posting.amount.isPositive = true)
      (isPayer : tables.account? payerReference = some payer)
      (isPayee : tables.account? payeeReference = some payee) (differ : payer ≠ payee)
      (uncovered : ∀ ledger ∈ tables.ledgers.values, ledger.covers posting.time = false) :
      Refused settings tables payerReference payeeReference posting
        (.noLedgerForInstant posting.time)
  | closed {payer payee : Account} {ledger : Ledger} (positive : posting.amount.isPositive = true)
      (isPayer : tables.account? payerReference = some payer)
      (isPayee : tables.account? payeeReference = some payee) (differ : payer ≠ payee)
      (stored : ledger ∈ tables.ledgers.values) (covers : ledger.covers posting.time = true)
      (isClosed : ledger.isOpen = false) (strict : settings.allowClosedPeriodPosting = false) :
      Refused settings tables payerReference payeeReference posting (.periodClosed ledger.name)

structure Between (settings : LedgerSettings) (tables : Tables)
    (payerReference payeeReference : String) (posting : Bank.Posting) (transfer : Transfer) :
    Prop where
  positive : posting.amount.isPositive = true
  isPayer : tables.account? payerReference = some transfer.payer
  isPayee : tables.account? payeeReference = some transfer.payee
  differ : transfer.payer ≠ transfer.payee
  stored : transfer.ledger ∈ tables.ledgers.values
  covers : transfer.ledger.covers posting.time = true
  postable : transfer.ledger.isOpen = true ∨ settings.allowClosedPeriodPosting = true

theorem refused_or_between (settings : LedgerSettings) (tables : Tables)
    (payerReference payeeReference : String) (posting : Bank.Posting) :
    (∃ e, Refused settings tables payerReference payeeReference posting e) ∨
      ∃ transfer, Between settings tables payerReference payeeReference posting transfer := by
  cases positive : posting.amount.isPositive with
  | false => exact .inl ⟨_, .nonPositive positive⟩
  | true =>
  cases isPayer : tables.account? payerReference with
  | none => exact .inl ⟨_, .noPayer positive isPayer⟩
  | some payer =>
  cases isPayee : tables.account? payeeReference with
  | none => exact .inl ⟨_, .noPayee positive isPayer isPayee⟩
  | some payee =>
  by_cases differ : payer = payee
  · subst differ
    exact .inl ⟨_, .same positive isPayer isPayee⟩
  by_cases uncovered : ∀ ledger ∈ tables.ledgers.values, ledger.covers posting.time = false
  · exact .inl ⟨_, .uncovered positive isPayer isPayee differ uncovered⟩
  simp only [not_forall, Bool.not_eq_false] at uncovered
  obtain ⟨ledger, stored, covers⟩ := uncovered
  by_cases postable : ledger.isOpen = true ∨ settings.allowClosedPeriodPosting = true
  · exact .inr ⟨⟨payer, payee, ledger⟩, positive, isPayer, isPayee, differ, stored, covers,
      postable⟩
  · rw [not_or, Bool.not_eq_true, Bool.not_eq_true] at postable
    exact .inl ⟨_, .closed positive isPayer isPayee differ stored covers postable.1 postable.2⟩

theorem Refused.fails
    (refused : Refused settings tables payerReference payeeReference posting e)
    (sound : tables.Sound settings.refs) (identified : tables.Identified) (issued ticks : Nat) :
    (Bank.transfer settings payerReference payeeReference posting).Fails surroundings []
      ⟨tables, issued, ticks, .empty⟩ e ⟨tables, issued, ticks, .empty⟩ := by
  cases refused with
  | nonPositive below => exact Bank.fails_transfer_nonPositive below
  | noPayer positive missing => exact Bank.fails_transfer_payer positive missing
  | noPayee positive isPayer missing => exact Bank.fails_transfer_payee positive isPayer missing
  | same positive isPayer isPayee => exact Bank.fails_transfer_same positive isPayer isPayee
  | uncovered positive isPayer isPayee differ uncovered =>
      exact Bank.fails_transfer_post positive isPayer isPayee
        (identified.apart sound isPayer isPayee differ) (Bank.fails_post_uncovered sound uncovered)
  | closed positive isPayer isPayee differ stored covers isClosed strict =>
      exact Bank.fails_transfer_post positive isPayer isPayee
        (identified.apart sound isPayer isPayee differ)
        (Bank.fails_post_closed sound stored covers isClosed strict)

theorem run_of_fails (free : world.store.locks.held = []) {issued ticks : Nat}
    (fails : (Bank.transfer settings payerReference payeeReference posting).Fails surroundings []
      ⟨world.store.tables, world.issued, world.ticks, .empty⟩ e
      ⟨world.store.tables, issued, ticks, .empty⟩) :
    ((Operation.transfer payerReference payeeReference posting).run surroundings settings world).1 =
        .error e ∧
      ((Operation.transfer payerReference payeeReference posting).run surroundings settings
        world).2.store.tables = world.store.tables :=
  (fails.map _).run_of_free free

namespace Between

private theorem apart
    (between : Between settings tables payerReference payeeReference posting transfer)
    (sound : tables.Sound settings.refs) (identified : tables.Identified) :
    transfer.payer.id ≠ transfer.payee.id :=
  identified.apart sound between.isPayer between.isPayee between.differ

theorem keys_apart
    (between : Between settings tables payerReference payeeReference posting transfer)
    (sound : tables.Sound settings.refs) (identified : tables.Identified) :
    (tables.balanceIn transfer.payer transfer.ledger).key ≠
      (tables.balanceIn transfer.payee transfer.ledger).key := by
  rw [sound.balanceIn_key, sound.balanceIn_key]
  exact fun same => between.apart sound identified (congrArg BalanceKey.accountId same)

theorem exists_prepares
    (between : Between settings tables payerReference payeeReference posting transfer)
    (sound : tables.Sound settings.refs) (identified : tables.Identified) (ids : PostingIds)
    (time : Instant) : ∃ draft prepared debitEffect creditEffect,
      Prepares transfer.ledger (tables.balanceIn transfer.payer transfer.ledger)
        (tables.balanceIn transfer.payee transfer.ledger) posting ids time draft prepared
        debitEffect creditEffect :=
  DoubleEntry.exists_prepares ids time between.covers between.positive
    (congrArg BalanceKey.ledgerId (sound.balanceIn_key transfer.payer transfer.ledger))
    (congrArg BalanceKey.ledgerId (sound.balanceIn_key transfer.payee transfer.ledger))
    (between.keys_apart sound identified)

theorem run_of_fails_clear
    (between : Between settings world.store.tables payerReference payeeReference posting transfer)
    (rest : world.AtRest settings.refs) {draft : Draft} {prepared : Prepared}
    {debitEffect creditEffect : Money}
    (prepares : Prepares transfer.ledger
      (world.store.tables.balanceIn transfer.payer transfer.ledger)
      (world.store.tables.balanceIn transfer.payee transfer.ledger) posting
      (world.nextIds surroundings) (surroundings.clock world.ticks) draft prepared debitEffect
      creditEffect)
    (fails : (Bank.clear transfer.ledger prepared posting.amount
      (world.store.tables.balanceIn transfer.payer transfer.ledger)
      (world.store.tables.balanceIn transfer.payee transfer.ledger)).Fails surroundings []
        ⟨world.store.tables, world.issued + 3, world.ticks + 1, .empty⟩ e
        ⟨world.store.tables, world.issued + 3, world.ticks + 1, .empty⟩) :
    ((Operation.transfer payerReference payeeReference posting).run surroundings settings world).1 =
        .error e ∧
      ((Operation.transfer payerReference payeeReference posting).run surroundings settings
        world).2.store.tables = world.store.tables :=
  run_of_fails rest.free (Bank.fails_transfer_post between.positive between.isPayer
    between.isPayee (between.apart rest.sound rest.identified)
    (Bank.fails_post rest.sound between.stored between.covers between.postable prepares fails))

theorem run_of_posted
    (between : Between settings world.store.tables payerReference payeeReference posting transfer)
    (rest : world.AtRest settings.refs) {draft : Draft} {prepared : Prepared}
    {transaction : Transaction} {payerEnd payeeEnd : Money}
    (posted : Posted transfer.ledger
      (world.store.tables.balanceIn transfer.payer transfer.ledger)
      (world.store.tables.balanceIn transfer.payee transfer.ledger) posting
      (world.nextIds surroundings) (surroundings.clock world.ticks) draft prepared transaction
      [{ world.store.tables.balanceIn transfer.payer transfer.ledger with endAmount := payerEnd },
        { world.store.tables.balanceIn transfer.payee transfer.ledger with
          endAmount := payeeEnd }]) :
    ((Operation.transfer payerReference payeeReference posting).run surroundings settings world).1 =
        .ok (.transaction transaction) ∧
      ((Operation.transfer payerReference payeeReference posting).run surroundings settings
        world).2.store.tables =
          transfer.book world.store.tables payerEnd payeeEnd transaction := by
  have apart := between.apart rest.sound rest.identified
  have posts := Tables.Posts.intro between.stored between.covers between.postable posted
  have acceptable : (UnitOfWork.ofPosting _ _ ∅).Acceptable world.store.tables :=
    (posts.current rest.sound apart (by simp)).acceptable rfl rfl rfl
  have yields : (Bank.transfer settings payerReference payeeReference posting).Yields surroundings
      [] _ _ _ := Bank.yields_transfer rest.sound ⟨rfl, rfl, rfl, trivial⟩ ⟨rfl, trivial⟩
    between.isPayer between.isPayee apart posts acceptable
  have ran : ((Operation.transfer payerReference payeeReference posting).run surroundings settings
        world).1 = .ok (.transaction transaction) ∧
      ((Operation.transfer payerReference payeeReference posting).run surroundings settings
        world).2.store.tables = _ := (yields.map _).run_of_free rest.free
  rw [UnitOfWork.publish_ofPosting rest.sound transfer.ledger apart ∅] at ran
  exact ran

end Between

end Transfer

/-! ## As it was judged -/

private theorem Account.protected_iff_liability {account : Account} :
    account.Protected ↔ account.accountType = .liability ∧ account.purpose ≠ .system := by
  rw [Protected]
  cases account.purpose <;> simp

structure Tables.Kept (refs : SystemRefs) (tables : Tables) : Prop where
  sound : tables.Sound refs
  owned : tables.Owned
  labelled : tables.Labelled
  identified : tables.Identified
  solvent : tables.Solvent

private theorem Tables.Kept.atRest {refs : SystemRefs} {world : World}
    (kept : world.store.tables.Kept refs) (free : world.store.locks.held = []) :
    world.AtRest refs :=
  ⟨kept.sound, kept.identified, free⟩

private theorem Operation.Reached.keeps_books {surroundings : Surroundings}
    {settings : LedgerSettings} {world : World}
    (reached : Operation.Reached surroundings settings world)
    (distinct : surroundings.Distinct world.issued) : world.store.tables.Kept settings.refs := by
  obtain ⟨deeds, chronicle, nodup⟩ := reached.exists_distinct_chronicle distinct
  exact ⟨chronicle.sound, chronicle.owned, chronicle.labelled, chronicle.identified nodup,
    chronicle.solvent nodup⟩

namespace Transfer

variable {surroundings : Surroundings} {settings : LedgerSettings} {world : World}
  {tables : Tables} {payerReference payeeReference : String} {posting : Bank.Posting}
  {transfer : Transfer} {e : LedgerError}

def Judged (surroundings : Surroundings) (settings : LedgerSettings) (world : World)
    (payerReference payeeReference : String) (posting : Bank.Posting) : Prop :=
  Comes surroundings settings world payerReference payeeReference posting
    ((Operation.transfer payerReference payeeReference posting).run surroundings settings world).1
    ((Operation.transfer payerReference payeeReference posting).run surroundings settings
      world).2.store.tables

private theorem Refused.judge_eq (tiles : Tiles tables.ledgers.values)
    (refused : Refused settings tables payerReference payeeReference posting e) :
    judge settings tables payerReference payeeReference posting = .error e := by
  have above (positive : posting.amount.isPositive = true) : ¬ posting.amount.minorUnits ≤ 0 :=
    Int.not_le.mpr (of_decide_eq_true positive)
  cases refused with
  | nonPositive below =>
      have below : posting.amount.minorUnits ≤ 0 := Int.not_lt.mp (of_decide_eq_false below)
      simp [judge, below]
  | noPayer positive missing => simp [judge, above positive, missing]
  | noPayee positive isPayer missing => simp [judge, above positive, isPayer, missing]
  | same positive isPayer isPayee => simp [judge, above positive, isPayer, isPayee]
  | uncovered positive isPayer isPayee differ uncovered =>
      have noLedger : tables.ledgers.values.find? (fun ledger => ledger.covers posting.time) =
          none := List.find?_eq_none.mpr (by simpa using uncovered)
      simp [judge, above positive, isPayer, isPayee, differ, noLedger]
  | closed positive isPayer isPayee differ stored covers isClosed strict =>
      have isLedger := tiles.find?_covers_eq_some_iff.mpr ⟨stored, covers⟩
      simp [judge, above positive, isPayer, isPayee, differ, isLedger, isClosed, strict]

namespace Between

private theorem judge_eq
    (between : Between settings tables payerReference payeeReference posting transfer)
    (tiles : Tiles tables.ledgers.values) :
    judge settings tables payerReference payeeReference posting =
      if transfer.payer.Protected ∧
          (tables.balanceIn transfer.payer transfer.ledger).endAmount < posting.amount then
        .error (.overdrawn transfer.payer.reference transfer.ledger.name
          (tables.balanceIn transfer.payer transfer.ledger).endAmount posting.amount)
      else .ok transfer := by
  have above : ¬ posting.amount.minorUnits ≤ 0 :=
    Int.not_le.mpr (of_decide_eq_true between.positive)
  have isLedger := tiles.find?_covers_eq_some_iff.mpr ⟨between.stored, between.covers⟩
  have postable : ¬ (transfer.ledger.isOpen = false ∧
      settings.allowClosedPeriodPosting = false) := by
    simpa only [not_and_or, Bool.not_eq_false] using between.postable
  simp only [judge, above, between.isPayer, between.isPayee, between.differ, isLedger, postable,
    if_false, Account.protected_iff_liability, and_assoc]

private theorem exists_moves
    (between : Between settings world.store.tables payerReference payeeReference posting transfer)
    (kept : world.store.tables.Kept settings.refs) (surroundings : Surroundings) :
    ∃ draft prepared debitEffect creditEffect,
      Prepares transfer.ledger (world.store.tables.balanceIn transfer.payer transfer.ledger)
        (world.store.tables.balanceIn transfer.payee transfer.ledger) posting
        (world.nextIds surroundings) (surroundings.clock world.ticks) draft prepared debitEffect
        creditEffect ∧
      (world.store.tables.balanceIn transfer.payer transfer.ledger).endAmount.minorUnits +
        debitEffect.minorUnits = transfer.payerEnd world.store.tables posting ∧
      (world.store.tables.balanceIn transfer.payee transfer.ledger).endAmount.minorUnits +
        creditEffect.minorUnits = transfer.payeeEnd world.store.tables posting ∧
      prepared.transaction = transfer.transaction posting surroundings world := by
  have payerKey := kept.sound.balanceIn_key transfer.payer transfer.ledger
  have payeeKey := kept.sound.balanceIn_key transfer.payee transfer.ledger
  have payerType := kept.owned.balanceIn_accountType kept.identified
    (kept.sound.mem_of_account? between.isPayer) transfer.ledger
  have payeeType := kept.owned.balanceIn_accountType kept.identified
    (kept.sound.mem_of_account? between.isPayee) transfer.ledger
  obtain ⟨draft, prepared, debitEffect, creditEffect, prepares⟩ :=
    between.exists_prepares kept.sound kept.identified (world.nextIds surroundings)
      (surroundings.clock world.ticks)
  refine ⟨draft, prepared, debitEffect, creditEffect, prepares, ?_, ?_, ?_⟩
  · rw [payerEnd, prepares.debit_units, payerType]
  · rw [payeeEnd, prepares.credit_units, payeeType]
  · rw [prepares.transaction]
    simp only [debitLine, creditLine, Line.toEntry, payerKey, payeeKey, payerType, payeeType]
    rfl

private theorem payerEnd_of_protected (isProtected : transfer.payer.Protected) :
    transfer.payerEnd tables posting =
      (tables.balanceIn transfer.payer transfer.ledger).endAmount.minorUnits -
        posting.amount.minorUnits := by
  rw [payerEnd, isProtected.1]
  rfl

private theorem judged_of_overdrawn
    (between : Between settings world.store.tables payerReference payeeReference posting transfer)
    (kept : world.store.tables.Kept settings.refs) (free : world.store.locks.held = [])
    (isProtected : transfer.payer.Protected)
    (short : (world.store.tables.balanceIn transfer.payer transfer.ledger).endAmount <
      posting.amount) :
    Judged surroundings settings world payerReference payeeReference posting := by
  have known := kept.sound.mem_of_account? between.isPayer
  have guarded :=
    (kept.owned.balanceIn_protected_iff kept.identified known transfer.ledger).mpr isProtected
  obtain ⟨draft, prepared, debitEffect, creditEffect, prepares, payerUnits, -, -⟩ :=
    between.exists_moves kept surroundings
  have judged := between.judge_eq kept.sound.tiles
  rw [if_pos ⟨isProtected, short⟩] at judged
  have nonneg := (kept.solvent.balanceIn_nonneg kept.owned kept.identified known isProtected
    transfer.ledger).2
  have short : (world.store.tables.balanceIn transfer.payer transfer.ledger).endAmount.minorUnits <
    posting.amount.minorUnits := short
  have limit := posting.amount.upper
  rw [payerEnd_of_protected isProtected] at payerUnits
  have negative : (world.store.tables.balanceIn transfer.payer transfer.ledger).endAmount.minorUnits
      + debitEffect.minorUnits < 0 := by omega
  have inRange : Money.InRange ((world.store.tables.balanceIn transfer.payer
      transfer.ledger).endAmount.minorUnits + debitEffect.minorUnits) := ⟨by omega, by omega⟩
  obtain ⟨result, same⟩ := between.run_of_fails_clear (kept.atRest free) prepares
    (Bank.fails_clear_overdrawn prepares (between.keys_apart kept.sound kept.identified)
      posting.amount guarded inRange negative)
  rw [Judged, result, same, kept.labelled.balanceIn_reference kept.identified known]
  exact .refused judged

private theorem payer_covered
    (between : Between settings tables payerReference payeeReference posting transfer)
    (kept : tables.Kept settings.refs)
    (enough : ¬ (transfer.payer.Protected ∧
      (tables.balanceIn transfer.payer transfer.ledger).endAmount < posting.amount))
    (guarded : (tables.balanceIn transfer.payer transfer.ledger).isOverdraftProtected = true) :
    Money.InRange (transfer.payerEnd tables posting) ∧ 0 ≤ transfer.payerEnd tables posting := by
  have isProtected := (kept.owned.balanceIn_protected_iff kept.identified
    (kept.sound.mem_of_account? between.isPayer) transfer.ledger).mp guarded
  have covers : ¬ (tables.balanceIn transfer.payer transfer.ledger).endAmount.minorUnits <
    posting.amount.minorUnits := fun short => enough ⟨isProtected, short⟩
  have upper := (tables.balanceIn transfer.payer transfer.ledger).endAmount.upper
  have above : 0 < posting.amount.minorUnits := of_decide_eq_true between.positive
  rw [payerEnd_of_protected isProtected, Money.InRange]
  omega

private theorem payee_covered
    (between : Between settings tables payerReference payeeReference posting transfer)
    (kept : tables.Kept settings.refs)
    (guarded : (tables.balanceIn transfer.payee transfer.ledger).isOverdraftProtected = true) :
    0 ≤ transfer.payeeEnd tables posting := by
  have known := kept.sound.mem_of_account? between.isPayee
  have isProtected :=
    (kept.owned.balanceIn_protected_iff kept.identified known transfer.ledger).mp guarded
  have nonneg := (kept.solvent.balanceIn_nonneg kept.owned kept.identified known isProtected
    transfer.ledger).2
  have above : 0 < posting.amount.minorUnits := of_decide_eq_true between.positive
  have units : EntryType.credit.units .liability posting.amount = posting.amount.minorUnits := rfl
  rw [payeeEnd, isProtected.1, units]
  omega

private theorem judged_of_outside
    (between : Between settings world.store.tables payerReference payeeReference posting transfer)
    (kept : world.store.tables.Kept settings.refs) (free : world.store.locks.held = [])
    (enough : ¬ (transfer.payer.Protected ∧
      (world.store.tables.balanceIn transfer.payer transfer.ledger).endAmount < posting.amount))
    (outside : ¬ Money.InRange (transfer.payerEnd world.store.tables posting) ∨
      ¬ Money.InRange (transfer.payeeEnd world.store.tables posting)) :
    Judged surroundings settings world payerReference payeeReference posting := by
  obtain ⟨draft, prepared, debitEffect, creditEffect, prepares, payerUnits, payeeUnits, -⟩ :=
    between.exists_moves kept surroundings
  have judged := between.judge_eq kept.sound.tiles
  rw [if_neg enough] at judged
  have payer_covered := between.payer_covered kept enough
  have payee_covered := between.payee_covered kept
  rw [← payerUnits] at payer_covered
  rw [← payeeUnits] at payee_covered
  rw [← payerUnits, ← payeeUnits] at outside
  obtain ⟨cause, explained, fails⟩ := Bank.exists_overflow prepares
    (between.keys_apart kept.sound kept.identified) posting.amount payer_covered payee_covered
    outside
  obtain ⟨result, same⟩ := between.run_of_fails_clear (kept.atRest free) prepares
    (fails surroundings [] _)
  rw [payerUnits, payeeUnits] at explained
  rw [Judged, result, same]
  refine .overflows judged ?_
  rcases explained with ⟨beyond, rfl⟩ | ⟨beyond, rfl⟩
  · exact .inl ⟨beyond, rfl, rfl, payerUnits⟩
  · exact .inr ⟨beyond, rfl, rfl, payeeUnits⟩

private theorem judged_of_inside
    (between : Between settings world.store.tables payerReference payeeReference posting transfer)
    (kept : world.store.tables.Kept settings.refs) (free : world.store.locks.held = [])
    (enough : ¬ (transfer.payer.Protected ∧
      (world.store.tables.balanceIn transfer.payer transfer.ledger).endAmount < posting.amount))
    (payer_inside : Money.InRange (transfer.payerEnd world.store.tables posting))
    (payee_inside : Money.InRange (transfer.payeeEnd world.store.tables posting)) :
    Judged surroundings settings world payerReference payeeReference posting := by
  obtain ⟨draft, prepared, debitEffect, creditEffect, prepares, payerUnits, payeeUnits, drawn⟩ :=
    between.exists_moves kept surroundings
  have judged := between.judge_eq kept.sound.tiles
  rw [if_neg enough] at judged
  rw [← payerUnits] at payer_inside
  rw [← payeeUnits] at payee_inside
  have payer_above : (world.store.tables.balanceIn transfer.payer
      transfer.ledger).isOverdraftProtected = true →
        0 ≤ (world.store.tables.balanceIn transfer.payer transfer.ledger).endAmount.minorUnits +
          debitEffect.minorUnits := by
    rw [payerUnits]
    exact fun guarded => (between.payer_covered kept enough guarded).2
  have payee_above : (world.store.tables.balanceIn transfer.payee
      transfer.ledger).isOverdraftProtected = true →
        0 ≤ (world.store.tables.balanceIn transfer.payee transfer.ledger).endAmount.minorUnits +
          creditEffect.minorUnits := by
    rw [payeeUnits]
    exact between.payee_covered kept
  obtain ⟨payerEnd, payeeEnd, payer_moves, payee_moves, posted⟩ :=
    prepares.posted (between.keys_apart kept.sound kept.identified) payer_inside payee_inside
      payer_above payee_above
  obtain ⟨result, booked⟩ := between.run_of_posted (kept.atRest free) posted
  rw [Judged, result, booked, drawn]
  exact .posts judged (payer_moves.trans payerUnits) (payee_moves.trans payeeUnits)

end Between

private theorem judged_of_free (kept : world.store.tables.Kept settings.refs)
    (free : world.store.locks.held = []) (payerReference payeeReference : String)
    (posting : Bank.Posting) :
    Judged surroundings settings world payerReference payeeReference posting := by
  rcases refused_or_between settings world.store.tables payerReference payeeReference posting with
    ⟨e, refused⟩ | ⟨transfer, between⟩
  · obtain ⟨result, same⟩ := run_of_fails free
      (refused.fails kept.sound kept.identified world.issued world.ticks)
    rw [Judged, result, same]
    exact .refused (refused.judge_eq kept.sound.tiles)
  · by_cases short : transfer.payer.Protected ∧
        (world.store.tables.balanceIn transfer.payer transfer.ledger).endAmount < posting.amount
    · exact between.judged_of_overdrawn kept free short.1 short.2
    by_cases inside : Money.InRange (transfer.payerEnd world.store.tables posting) ∧
        Money.InRange (transfer.payeeEnd world.store.tables posting)
    · exact between.judged_of_inside kept free short inside.1 inside.2
    · exact between.judged_of_outside kept free short (not_and_or.mp inside)

end Transfer

/-- In every state that operations reach, a transfer that runs alone is judged by the committed
tables and then does exactly what it says. -/
theorem Operation.Reached.transferred {surroundings : Surroundings} {settings : LedgerSettings}
    {world : World} (reached : Operation.Reached surroundings settings world)
    (distinct : surroundings.Distinct world.issued) (free : world.store.locks.held = [])
    (payerReference payeeReference : String) (posting : Bank.Posting) :
    Transfer.Comes surroundings settings world payerReference payeeReference posting
      ((Operation.transfer payerReference payeeReference posting).run surroundings settings world).1
      ((Operation.transfer payerReference payeeReference posting).run surroundings settings
        world).2.store.tables :=
  Transfer.judged_of_free (reached.keeps_books distinct) free payerReference payeeReference posting

theorem Operation.Reached.transferred_carried : ∃ (world : World) (transfer : Transfer)
    (posting : Bank.Posting),
    Operation.Reached .counting .standard world ∧
    Surroundings.counting.Distinct world.issued ∧ world.store.locks.held = [] ∧
    Transfer.judge .standard world.store.tables " a" "b" posting = .ok transfer ∧
    transfer.ledger.opensAt = posting.time ∧
    transfer.payerEnd world.store.tables posting = 60 ∧
    transfer.payeeEnd world.store.tables posting = 40 ∧
    Transfer.Comes .counting .standard world " a" "b" posting
      ((Operation.transfer " a" "b" posting).run .counting .standard world).1
      ((Operation.transfer " a" "b" posting).run .counting .standard world).2.store.tables := by
  let second : Instant := ⟨100, 0, by decide, by decide, by decide⟩
  let payer : Account := ⟨⟨⟨4⟩⟩, "a", "a", .liability, .current, .epoch⟩
  let payee : Account := ⟨⟨⟨5⟩⟩, "b", "b", .liability, .premium, .epoch⟩
  have start : Operation.Reachable .counting .standard .empty := .empty
  have reachable := start.runAll [.ensureSystemAccounts, .openFirstLedger .epoch,
    .createAccount "a" "a" .liability .current, .createAccount "b" "b" .liability .premium,
    .deposit "a" ⟨⟨100, by decide, by decide⟩, "", .epoch⟩, .closePeriodAndOpenNext second]
    (by simp [Operation.Admissible])
  refine ⟨_, ⟨payer, payee, ⟨⟨⟨9⟩⟩, "1970", second, none, 1⟩⟩,
    ⟨⟨40, by decide, by decide⟩, "rent", second⟩, .inTurn reachable, ?distinct, ?free, ?judged, rfl,
    ?payerEnd, ?payeeEnd, Operation.Reached.transferred (.inTurn reachable) ?distinct ?free _ _ _⟩
  case distinct => exact Surroundings.counting_distinct (by decide +kernel)
  case free => decide +kernel
  case judged => decide +kernel
  case payerEnd => decide +kernel
  case payeeEnd => decide +kernel

end DoubleEntry
