import DoubleEntry.Proofs.Service.Bookings
import DoubleEntry.Proofs.Service.Identity

/-!
# Journal and balances reconcile

Journal and balances are separate tables.  In every state that operations reach they
agree: a balance has moved by what the entries in its name are worth, every entry
names a stored balance, and in each ledger assets and liabilities have moved by the
same amount.
-/

namespace DoubleEntry

def Balance.change (balance : Balance) : Int :=
  balance.endAmount.minorUnits - balance.startAmount.minorUnits

/-- An entry is against the account of the balance that it names, and its worth is its effect. -/
structure Entry.WellFormed (entry : Entry) : Prop where
  account : entry.accountId = entry.balance.accountId
  effect : ∃ effect, entry.effect = .ok effect ∧ effect.minorUnits = entry.units

namespace Tables

def entries (tables : Tables) : List Entry := tables.transactions.flatMap Transaction.entries

def posted (tables : Tables) (key : BalanceKey) : Int :=
  ((tables.entries.filter fun entry => entry.balance = key).map Entry.units).sum

def moved (tables : Tables) (ledger : LedgerId) (accountType : AccountType) : Int :=
  ((tables.balances.values.filter fun balance =>
    balance.key.ledgerId = ledger ∧ balance.accountType = accountType).map Balance.change).sum

def Homed (tables : Tables) : Prop :=
  ∀ transaction ∈ tables.transactions, ∀ entry ∈ transaction.entries, ∃ balance,
    tables.balances.get? entry.balance = some balance ∧
    entry.balance.ledgerId = transaction.ledgerId ∧ balance.accountType = entry.accountType

structure Reconciled (tables : Tables) : Prop where
  changes : ∀ balance ∈ tables.balances.values, balance.change = tables.posted balance.key
  entries : ∀ entry ∈ tables.entries, entry.WellFormed
  homes : ∀ transaction ∈ tables.transactions, ∀ entry ∈ transaction.entries,
    ∃ balance ∈ tables.balances.values, balance.key = entry.balance ∧
      balance.key.ledgerId = transaction.ledgerId ∧ balance.accountType = entry.accountType
  balanced : ∀ ledger ∈ tables.ledgers.values,
    tables.moved ledger.id .asset = tables.moved ledger.id .liability

end Tables

/-! ## Entries of a settled posting -/

namespace Settled

variable {ledger : Ledger} {debited credited : Balance} {posting : Bank.Posting} {ids : PostingIds}
  {transaction : Transaction} {debitedEnd creditedEnd : Money}

theorem sum_entries
    (settled : Settled ledger debited credited posting ids transaction debitedEnd creditedEnd)
    (passes : Entry → Bool) : ((transaction.entries.filter passes).map Entry.units).sum =
      (if passes ((debitLine debited posting.amount).toEntry (ids.entry 0)) then
        debitedEnd.minorUnits - debited.endAmount.minorUnits else 0) +
      (if passes ((creditLine credited posting.amount).toEntry (ids.entry 1)) then
        creditedEnd.minorUnits - credited.endAmount.minorUnits else 0) := by
  have debit : ((debitLine debited posting.amount).toEntry (ids.entry 0)).units =
      debitedEnd.minorUnits - debited.endAmount.minorUnits := by
    have moves := settled.debitedEnd_eq
    show EntryType.debit.units debited.accountType posting.amount = _
    omega
  have credit : ((creditLine credited posting.amount).toEntry (ids.entry 1)).units =
      creditedEnd.minorUnits - credited.endAmount.minorUnits := by
    have moves := settled.creditedEnd_eq
    show EntryType.credit.units credited.accountType posting.amount = _
    omega
  rw [settled.entries]
  simp only [List.filter_cons, List.filter_nil]
  split <;> split <;> simp [debit, credit]

private theorem wellFormed
    (settled : Settled ledger debited credited posting ids transaction debitedEnd creditedEnd) :
    ∀ entry ∈ transaction.entries, entry.WellFormed := by
  have positive : 0 < posting.amount.minorUnits := of_decide_eq_true settled.positive
  have upper := posting.amount.upper
  have represented (entryType : EntryType) (accountType : AccountType) :
      ∃ effect : Money, effect.minorUnits = entryType.units accountType posting.amount := by
    let negated : Money := ⟨-posting.amount.minorUnits, by omega, by omega⟩
    cases entryType <;> cases accountType
    · exact ⟨posting.amount, rfl⟩
    · exact ⟨negated, rfl⟩
    · exact ⟨negated, rfl⟩
    · exact ⟨posting.amount, rfl⟩
  intro entry member
  rw [settled.entries] at member
  have shape : entry.amount = posting.amount ∧ entry.accountId = entry.balance.accountId := by
    simp only [List.mem_cons, List.not_mem_nil, or_false] at member
    rcases member with rfl | rfl <;> exact ⟨rfl, rfl⟩
  obtain ⟨effect, isEffect⟩ := represented entry.entryType entry.accountType
  rw [← shape.1] at isEffect
  exact ⟨shape.2, effect, Entry.effect_eq_ok_iff.mpr isEffect, isEffect⟩

end Settled

/-! ## What a commit keeps -/

namespace Tables

variable {settings : LedgerSettings} {asked : Account → Prop} {tables before after : Tables}
  {account : Account} {ledger : Ledger}

@[simp] theorem change_opening (ledger : Ledger) (account : Account) (amount : Money) :
    (Balance.opening ledger account amount).change = 0 :=
  Int.sub_self amount.minorUnits

private theorem change_settledIn (account : Account) (ledger : Ledger) (endAmount : Money) :
    (tables.settledIn account ledger endAmount).change =
      (tables.balanceIn account ledger).change +
        (endAmount.minorUnits - (tables.balanceIn account ledger).endAmount.minorUnits) := by
  simp only [Balance.change, settledIn, Balance.committed]
  omega

private theorem share_settle {balances : Table BalanceKey Balance} {endAmount : Money}
    {key : BalanceKey}
    (same : balances.get? ⟨ledger.id, account.id⟩ = tables.balances.get? ⟨ledger.id, account.id⟩) :
    Table.share Balance.change ((tables.settle account ledger endAmount balances).get? key) =
      Table.share Balance.change (balances.get? key) +
        if (⟨ledger.id, account.id⟩ : BalanceKey) = key then
          endAmount.minorUnits - (tables.balanceIn account ledger).endAmount.minorUnits else 0 := by
  rw [get?_settle]
  split
  next isKey =>
    rw [← isKey, same, share_eq_balanceIn change_opening]
    exact change_settledIn account ledger endAmount
  next => rw [Int.add_zero]

private theorem posted_append {transaction : Transaction} (key : BalanceKey)
    (added : after.transactions = before.transactions ++ [transaction]) :
    after.posted key = before.posted key +
      ((transaction.entries.filter fun entry => entry.balance = key).map Entry.units).sum := by
  simp [posted, entries, added]

namespace Booked

private theorem changes (sound : before.Sound settings.refs)
    (booked : before.Booked settings asked after)
    (agree : ∀ key, Table.share Balance.change (before.balances.get? key) = before.posted key)
    (key : BalanceKey) :
    Table.share Balance.change (after.balances.get? key) = after.posted key := by
  cases booked with
  | nothing balances transactions =>
      rw [balances, posted, entries, transactions]
      exact agree key
  | @opening account ledger _ _ missing balances transactions =>
      have same : after.posted key = before.posted key := by
        rw [posted, posted, entries, entries, transactions]
      rw [balances, share_settle rfl, same, agree key, Int.sub_self, ite_self, Int.add_zero]
  | @posting payer payee ledger _ _ _ _ _ _ _ apart _ _ settled balances transactions =>
      have keysApart : (⟨ledger.id, payer.id⟩ : BalanceKey) ≠ ⟨ledger.id, payee.id⟩ :=
        fun same => apart (congrArg BalanceKey.accountId same)
      rw [balances, share_settle (by rw [get?_settle, if_neg keysApart]), share_settle rfl,
        posted_append key transactions, settled.sum_entries, agree key, Int.add_assoc]
      simp only [Line.toEntry, debitLine, creditLine, sound.balanceIn_key, decide_eq_true_eq]

private theorem wellFormed (booked : before.Booked settings asked after)
    (hold : ∀ entry ∈ before.entries, entry.WellFormed) :
    ∀ entry ∈ after.entries, entry.WellFormed := by
  intro entry member
  cases booked with
  | nothing _ transactions =>
      rw [entries, transactions] at member
      exact hold entry member
  | opening _ _ _ _ transactions =>
      rw [entries, transactions] at member
      exact hold entry member
  | posting _ _ _ _ _ settled _ transactions =>
      rw [entries, transactions, List.flatMap_append, List.mem_append] at member
      rcases member with member | member
      · exact hold entry member
      · exact settled.wellFormed entry (by simpa using member)

private theorem homed (sound : before.Sound settings.refs)
    (booked : before.Booked settings asked after) (homed : before.Homed) : after.Homed := by
  have stays : ∀ transaction ∈ before.transactions, ∀ entry ∈ transaction.entries, ∃ balance,
      after.balances.get? entry.balance = some balance ∧
      entry.balance.ledgerId = transaction.ledgerId ∧ balance.accountType = entry.accountType := by
    intro transaction member entry among
    obtain ⟨balance, found, inside, sameType⟩ := homed transaction member entry among
    obtain ⟨endAmount, version, kept⟩ := booked.keeps found
    exact ⟨_, kept, inside, sameType⟩
  cases booked with
  | nothing _ transactions => rwa [Homed, transactions]
  | opening _ _ _ _ transactions => rwa [Homed, transactions]
  | @posting payer payee ledger posting _ transaction debitedEnd creditedEnd _ _ apart _ _ settled
      balances transactions =>
      intro transaction' member entry among
      rw [transactions, List.mem_append, List.mem_singleton] at member
      rcases member with member | rfl
      · exact stays transaction' member entry among
      · have keysApart : (⟨ledger.id, payer.id⟩ : BalanceKey) ≠ ⟨ledger.id, payee.id⟩ :=
          fun same => apart (congrArg BalanceKey.accountId same)
        rw [settled.entries, List.mem_cons, List.mem_singleton] at among
        rw [settled.ledgerId, balances]
        rcases among with rfl | rfl
        · refine ⟨before.settledIn payer ledger debitedEnd, ?_, ?_, rfl⟩
          · simp [Line.toEntry, debitLine, sound.balanceIn_key, keysApart.symm]
          · simp [Line.toEntry, debitLine, sound.balanceIn_key]
        · refine ⟨before.settledIn payee ledger creditedEnd, ?_, ?_, rfl⟩
          · simp [Line.toEntry, creditLine, sound.balanceIn_key]
          · simp [Line.toEntry, creditLine, sound.balanceIn_key]

end Booked

/-! ## Assets and liabilities -/

def weight (ledger : LedgerId) (balance : Balance) : Int :=
  if balance.key.ledgerId = ledger then
    match balance.accountType with
    | .asset => balance.change
    | .liability => -balance.change
  else 0

private theorem weight_opening (id : LedgerId) (ledger : Ledger) (account : Account)
    (amount : Money) : weight id (.opening ledger account amount) = 0 := by
  rw [weight, change_opening]
  split
  · cases (Balance.opening ledger account amount).accountType <;> rfl
  · rfl

private theorem sum_weight (tables : Tables) (ledger : LedgerId) :
    (tables.balances.values.map (weight ledger)).sum =
      tables.moved ledger .asset - tables.moved ledger .liability := by
  rw [moved, moved]
  induction tables.balances.values with
  | nil => rfl
  | cons balance rest ih =>
      rw [List.map_cons, List.sum_cons, ih, weight]
      by_cases inside : balance.key.ledgerId = ledger
      · cases kind : balance.accountType
        · simp [inside, kind]
          omega
        · simp [inside, kind]
          omega
      · simp [inside]

private theorem weight_settledIn (sound : tables.Sound settings.refs) (id : LedgerId)
    {endAmount amount : Money} {entryType : EntryType}
    (moves : endAmount.minorUnits = (tables.balanceIn account ledger).endAmount.minorUnits +
      entryType.units (tables.balanceIn account ledger).accountType amount) :
    weight id (tables.settledIn account ledger endAmount) =
      weight id (tables.balanceIn account ledger) +
        if ledger.id = id then entryType.units .asset amount else 0 := by
  have sameKey : (tables.settledIn account ledger endAmount).key.ledgerId = ledger.id :=
    congrArg BalanceKey.ledgerId (sound.balanceIn_key account ledger)
  have sameType : (tables.settledIn account ledger endAmount).accountType =
      (tables.balanceIn account ledger).accountType := rfl
  have change : (tables.settledIn account ledger endAmount).change =
      (tables.balanceIn account ledger).change +
        entryType.units (tables.balanceIn account ledger).accountType amount := by
    rw [change_settledIn, moves]
    omega
  rw [weight, weight, sameKey, sound.balanceIn_key, sameType, change]
  split
  next =>
    cases (tables.balanceIn account ledger).accountType
    · rfl
    · cases entryType <;> simp only [EntryType.units] <;> omega
  next => rfl

private theorem Booked.balanced (sound : before.Sound settings.refs)
    (booked : before.Booked settings asked after) (id : LedgerId) :
    (after.balances.values.map (weight id)).sum = (before.balances.values.map (weight id)).sum := by
  cases booked with
  | nothing balances => rw [balances]
  | @opening account ledger _ _ missing balances =>
      have stays : weight id (before.settledIn account ledger
          (before.balanceIn account ledger).endAmount) =
            weight id (before.balanceIn account ledger) := rfl
      rw [balances, sum_settle (weight_opening id) rfl, stays]
      omega
  | @posting payer payee ledger posting _ _ _ _ _ _ apart _ _ settled balances =>
      have keysApart : (⟨ledger.id, payer.id⟩ : BalanceKey) ≠ ⟨ledger.id, payee.id⟩ :=
        fun same => apart (congrArg BalanceKey.accountId same)
      rw [balances, sum_settle (weight_opening id) (by rw [get?_settle, if_neg keysApart]),
        sum_settle (weight_opening id) rfl, weight_settledIn sound id settled.debitedEnd_eq,
        weight_settledIn sound id settled.creditedEnd_eq]
      simp only [EntryType.units]
      split <;> omega

end Tables

/-! ## Along a run -/

namespace Chronicle

variable {surroundings : Surroundings} {settings : LedgerSettings} {admission : Admission}
  {deeds : List Deed} {tables : Tables}

theorem changes (chronicle : Chronicle surroundings settings admission deeds tables)
    (key : BalanceKey) :
    Table.share Balance.change (tables.balances.get? key) = tables.posted key := by
  induction chronicle generalizing key with
  | nothing => rfl
  | deed deed voucher _ _ chronicle ih =>
      exact (voucher.booked chronicle.sound).changes chronicle.sound ih key

theorem wellFormed (chronicle : Chronicle surroundings settings admission deeds tables) :
    ∀ entry ∈ tables.entries, entry.WellFormed := by
  induction chronicle with
  | nothing => simp [Tables.entries, Tables.empty]
  | deed deed voucher _ _ chronicle ih => exact (voucher.booked chronicle.sound).wellFormed ih

theorem homed (chronicle : Chronicle surroundings settings admission deeds tables) :
    tables.Homed := by
  induction chronicle with
  | nothing => simp [Tables.Homed, Tables.empty]
  | deed deed voucher _ _ chronicle ih =>
      exact (voucher.booked chronicle.sound).homed chronicle.sound ih

theorem balanced (chronicle : Chronicle surroundings settings admission deeds tables)
    (ledger : LedgerId) :
    tables.moved ledger .asset = tables.moved ledger .liability := by
  have level : (tables.balances.values.map (Tables.weight ledger)).sum = 0 := by
    induction chronicle with
    | nothing => rfl
    | deed deed voucher _ _ chronicle ih =>
        rw [(voucher.booked chronicle.sound).balanced chronicle.sound, ih]
  rw [Tables.sum_weight] at level
  omega

end Chronicle

/-- Journal and balances reconcile in every state that operations reach. -/
theorem Operation.Reached.reconciled {surroundings : Surroundings} {settings : LedgerSettings}
    {world : World} (reached : Operation.Reached surroundings settings world) :
    world.store.tables.Reconciled := by
  obtain ⟨deeds, chronicle⟩ := reached.exists_chronicle
  have keyed := chronicle.sound.balances
  constructor
  case changes =>
    intro balance member
    rw [← chronicle.changes, keyed.get?_name member, Table.share]
  case entries => exact chronicle.wellFormed
  case homes =>
    intro transaction member entry among
    obtain ⟨balance, found, inside, sameType⟩ := chronicle.homed transaction member entry among
    have named := keyed.name_of_get? found
    refine ⟨balance, keyed.mem_of_get? found, named, ?_, sameType⟩
    rw [named]
    exact inside
  case balanced => exact fun ledger _ => chronicle.balanced ledger.id

/-- A deposit that comes while a withdrawal is under way: both are booked, and they reconcile. -/
theorem Operation.Reached.reconciled_withdrawal : ∃ system,
    System.Reachable .counting (Operation.Allowed .standard) system ∧
    system.world.store.tables.transactions.length = 2 ∧
    system.world.store.tables.balances.values.map (fun balance => balance.endAmount.minorUnits) =
      [70, 70] ∧ system.world.store.tables.Reconciled := by
  have first : Operation.Run .counting .standard _ _ :=
    ((Operation.Run.empty.start .ensureSystemAccounts trivial).start
      (.openFirstLedger .epoch) trivial).start (.createAccount "a" "a" .liability .current) trivial
  have second := first.start (.deposit "a" ⟨⟨100, by decide, by decide⟩, "", .epoch⟩) trivial
  have third := second.start (.withdraw "a" ⟨⟨30, by decide, by decide⟩, "", .epoch⟩) trivial
  have run := third.follow (List.replicate 20 0 ++ List.replicate 10 1 ++ List.replicate 10 2 ++
    [4, 4] ++ List.replicate 30 3 ++ List.replicate 30 4)
  refine ⟨_, run.reachable, ?_, ?_, Operation.Reached.reconciled (.together run.reachable)⟩
  · decide +kernel
  · decide +kernel

end DoubleEntry
