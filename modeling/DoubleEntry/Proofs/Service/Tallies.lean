import DoubleEntry.Proofs.Journal.Reckoning
import DoubleEntry.Proofs.Service.Ownership

/-!
# Postings of a first period

While there is one ledger, nothing is carried over: every balance starts at zero and ends
at the sum of what was posted to its account.  `Tables.Tallies` says so of the committed
tables and a list of movements, and each posting adds its movement to the list.
-/

namespace DoubleEntry

/-! ## Movements -/

structure Movement where
  payer : Account
  payee : Account
  amount : Money
  deriving DecidableEq, Repr

namespace Movement

def effect (counted : Account → Bool) (movement : Movement) : Int :=
  (if counted movement.payer then
      EntryType.debit.units movement.payer.accountType movement.amount else 0) +
    if counted movement.payee then
      EntryType.credit.units movement.payee.accountType movement.amount else 0

def tally (counted : Account → Bool) (movements : List Movement) : Int :=
  (movements.map (effect counted)).sum

def turnover (movements : List Movement) : Int :=
  (movements.map fun movement => movement.amount.minorUnits).sum

@[simp] theorem tally_concat (counted : Account → Bool) (movements : List Movement)
    (movement : Movement) :
    tally counted (movements ++ [movement]) =
      tally counted movements + movement.effect counted := by
  simp [tally]

private theorem turnover_concat (movements : List Movement) (movement : Movement) :
    turnover (movements ++ [movement]) = turnover movements + movement.amount.minorUnits := by
  simp [turnover]

private theorem tally_bounds (counted : Account → Bool) {movements : List Movement}
    (positive : ∀ movement ∈ movements, 0 < movement.amount.minorUnits) :
    -2 * turnover movements ≤ tally counted movements ∧
      tally counted movements ≤ 2 * turnover movements := by
  induction movements using List.reverseRecOn with
  | nil => simp [tally, turnover]
  | append_singleton movements movement ih =>
      have above := positive movement (by simp)
      have before := ih fun other member => positive other (List.mem_append_left _ member)
      have bounded : -2 * movement.amount.minorUnits ≤ movement.effect counted ∧
          movement.effect counted ≤ 2 * movement.amount.minorUnits := by
        simp only [effect, EntryType.units]
        grind
      rw [tally_concat, turnover_concat]
      omega

end Movement

namespace Tables

def endIn (ledger : LedgerId) (accountType : AccountType) (balance : Balance) : Int :=
  if balance.key.ledgerId = ledger ∧ balance.accountType = accountType then
    balance.endAmount.minorUnits else 0

def closing (tables : Tables) (ledger : LedgerId) (accountType : AccountType) : Int :=
  (tables.balances.values.map (endIn ledger accountType)).sum

structure Tallies (refs : SystemRefs) (ledger : Ledger) (movements : List Movement)
    (tables : Tables) : Prop where
  sound : tables.Sound refs
  identified : tables.Identified
  ledgers : tables.ledgers.values = [ledger]
  isOpen : ledger.isOpen = true
  balances : ∀ account ∈ tables.accounts.values, ∃ endAmount version,
    endAmount.minorUnits = Movement.tally (·.id = account.id) movements ∧
    tables.balanceIn account ledger =
      { Balance.opening ledger account .zero with endAmount, version }
  solvent : ∀ account ∈ tables.accounts.values, account.Protected →
    0 ≤ Movement.tally (·.id = account.id) movements
  positive : ∀ movement ∈ movements, 0 < movement.amount.minorUnits
  transactions : tables.transactions.length = movements.length
  closing : ∀ accountType, tables.closing ledger.id accountType =
    Movement.tally (·.accountType = accountType) movements

structure Affords (ledger : Ledger) (movements : List Movement) (payer payee : Account)
    (posting : Bank.Posting) (tables : Tables) : Prop where
  isPayer : payer ∈ tables.accounts.values
  isPayee : payee ∈ tables.accounts.values
  apart : payer.id ≠ payee.id
  positive : posting.amount.isPositive = true
  covers : ledger.covers posting.time = true
  small : 2 * Movement.turnover movements + posting.amount.minorUnits < 0x8000000000000000
  enough : payer.Protected →
    posting.amount.minorUnits ≤ Movement.tally (·.id = payer.id) movements

namespace Tallies

variable {settings : LedgerSettings} {refs : SystemRefs} {ledger : Ledger}
  {movements : List Movement} {tables after : Tables} {account payer payee : Account}

private theorem stored (tallies : Tallies refs ledger movements tables) :
    ledger ∈ tables.ledgers.values := by
  rw [tallies.ledgers]
  exact List.mem_singleton_self ledger

private theorem inRange (tallies : Tallies refs ledger movements tables) (counted : Account → Bool)
    {units limit : Int} (small : 2 * Movement.turnover movements + limit < 0x8000000000000000)
    (within : -limit ≤ units ∧ units ≤ limit) :
    Money.InRange (Movement.tally counted movements + units) := by
  have bounds := Movement.tally_bounds counted tallies.positive
  rw [Money.InRange]
  omega

private theorem identified_iff (tallies : Tallies refs ledger movements tables)
    (known : account ∈ tables.accounts.values) (known' : payee ∈ tables.accounts.values) :
    payee.id = account.id ↔ payee = account :=
  ⟨tallies.identified payee known' account known, congrArg Account.id⟩

theorem endAmount (tallies : Tallies refs ledger movements tables)
    (known : account ∈ tables.accounts.values) :
    (tables.balanceIn account ledger).endAmount.minorUnits =
      Movement.tally (·.id = account.id) movements := by
  obtain ⟨endAmount, version, units, isBalance⟩ := tallies.balances account known
  rw [isBalance]
  exact units

private theorem accountType (tallies : Tallies refs ledger movements tables)
    (known : account ∈ tables.accounts.values) :
    (tables.balanceIn account ledger).accountType = account.accountType := by
  obtain ⟨endAmount, version, units, isBalance⟩ := tallies.balances account known
  rw [isBalance]
  rfl

private theorem protected_of (tallies : Tallies refs ledger movements tables)
    (known : account ∈ tables.accounts.values)
    (isProtected : (tables.balanceIn account ledger).isOverdraftProtected = true) :
    account.Protected := by
  obtain ⟨endAmount, version, units, isBalance⟩ := tallies.balances account known
  rw [isBalance] at isProtected
  exact Account.protected_iff.mpr isProtected

theorem tally_of_missing (tallies : Tallies refs ledger movements tables)
    (known : account ∈ tables.accounts.values)
    (missing : tables.balances.get? ⟨ledger.id, account.id⟩ = none) :
    Movement.tally (·.id = account.id) movements = 0 := by
  obtain ⟨endAmount, version, units, isBalance⟩ := tallies.balances account known
  rw [balanceIn_of_missing missing] at isBalance
  have nothing : endAmount = .zero :=
    (congrArg Balance.endAmount isBalance).symm.trans (congrArg Balance.startAmount isBalance)
  rw [← units, nothing]
  rfl

theorem exists_stored (tallies : Tallies refs ledger movements tables)
    (known : account ∈ tables.accounts.values)
    (moved : Movement.tally (·.id = account.id) movements ≠ 0) : ∃ balance,
    tables.balances.get? ⟨ledger.id, account.id⟩ = some balance ∧
      balance.endAmount.minorUnits = Movement.tally (·.id = account.id) movements := by
  have units := tallies.endAmount known
  cases found : tables.balances.get? ⟨ledger.id, account.id⟩ with
  | some balance =>
      rw [balanceIn_of_stored found] at units
      exact ⟨balance, rfl, units⟩
  | none => exact absurd (tallies.tally_of_missing known found) moved

private theorem share_endIn (tallies : Tallies refs ledger movements tables)
    (known : account ∈ tables.accounts.values) (accountType : AccountType) :
    Table.share (endIn ledger.id accountType) (tables.balances.get? ⟨ledger.id, account.id⟩) =
      if account.accountType = accountType then Movement.tally (·.id = account.id) movements
      else 0 := by
  cases found : tables.balances.get? ⟨ledger.id, account.id⟩ with
  | some balance =>
      obtain ⟨endAmount, version, units, isBalance⟩ := tallies.balances account known
      rw [balanceIn_of_stored found] at isBalance
      subst isBalance
      simp [Table.share, endIn, Balance.opening, units]
  | none =>
      rw [tallies.tally_of_missing known found, Table.share]
      exact (ite_self _).symm

/-! ## Postings -/

section Posting

variable {posting : Bank.Posting} {payerEnd payeeEnd : Money}

theorem exists_settledIn (tallies : Tallies refs ledger movements tables)
    (known : account ∈ tables.accounts.values) (endAmount : Money) : ∃ version,
    tables.settledIn account ledger endAmount =
      { Balance.opening ledger account .zero with endAmount, version } := by
  obtain ⟨_, version, _, isBalance⟩ := tallies.balances account known
  exact ⟨version + 1, by rw [settledIn, isBalance]; rfl⟩

private theorem endIn_settledIn (tallies : Tallies refs ledger movements tables)
    (known : account ∈ tables.accounts.values) (endAmount : Money) (accountType : AccountType) :
    endIn ledger.id accountType (tables.settledIn account ledger endAmount) =
      if account.accountType = accountType then endAmount.minorUnits else 0 := by
  obtain ⟨version, settled⟩ := tallies.exists_settledIn known endAmount
  simp [settled, endIn, Balance.opening]

private theorem posted (tallies : Tallies refs ledger movements tables)
    (isPayer : payer ∈ tables.accounts.values) (isPayee : payee ∈ tables.accounts.values)
    (apart : payer.id ≠ payee.id) {amount : Money} (positive : 0 < amount.minorUnits)
    (enough : payer.Protected → amount.minorUnits ≤ Movement.tally (·.id = payer.id) movements)
    (payer_ends : payerEnd.minorUnits = Movement.tally (·.id = payer.id) movements +
      EntryType.debit.units payer.accountType amount)
    (payee_ends : payeeEnd.minorUnits = Movement.tally (·.id = payee.id) movements +
      EntryType.credit.units payee.accountType amount)
    (sound : after.Sound refs) (accounts : after.accounts = tables.accounts)
    (ledgers : after.ledgers = tables.ledgers) {transaction : Transaction}
    (balances : after.balances = tables.settle payee ledger payeeEnd
      (tables.settle payer ledger payerEnd tables.balances))
    (transactions : after.transactions = tables.transactions ++ [transaction]) :
    Tallies refs ledger (movements ++ [⟨payer, payee, amount⟩]) after := by
  constructor
  case sound => exact sound
  case identified =>
    rw [Identified, accounts]
    exact tallies.identified
  case ledgers => rw [ledgers, tallies.ledgers]
  case isOpen => exact tallies.isOpen
  case balances =>
    rw [accounts]
    intro account known
    rw [Movement.tally_concat]
    by_cases ofPayee : payee.id = account.id
    · obtain rfl := (tallies.identified_iff known isPayee).mp ofPayee
      obtain ⟨version, settled⟩ := tallies.exists_settledIn known payeeEnd
      refine ⟨payeeEnd, version, by simp [Movement.effect, apart, payee_ends], ?_⟩
      rw [balanceIn_of_stored (by rw [balances, get?_settle, if_pos rfl]), settled]
    · have others : (⟨ledger.id, payee.id⟩ : BalanceKey) ≠ ⟨ledger.id, account.id⟩ :=
        fun same => ofPayee (congrArg BalanceKey.accountId same)
      by_cases ofPayer : payer.id = account.id
      · obtain rfl := (tallies.identified_iff known isPayer).mp ofPayer
        obtain ⟨version, settled⟩ := tallies.exists_settledIn known payerEnd
        refine ⟨payerEnd, version, by simp [Movement.effect, apart.symm, payer_ends], ?_⟩
        rw [balanceIn_of_stored (by rw [balances, get?_settle, if_neg others, get?_settle,
          if_pos rfl]), settled]
      · obtain ⟨endAmount, version, units, isBalance⟩ := tallies.balances account known
        refine ⟨endAmount, version, by simp [Movement.effect, ofPayer, ofPayee, units], ?_⟩
        rw [← isBalance]
        refine balanceIn_congr (by rw [earlier, ledgers, earlier]) fun id => ?_
        simp [balances, get?_settle, ofPayer, ofPayee]
  case solvent =>
    rw [accounts]
    intro account known isProtected
    have before := tallies.solvent account known isProtected
    rw [Movement.tally_concat]
    by_cases ofPayer : payer.id = account.id
    · obtain rfl := (tallies.identified_iff known isPayer).mp ofPayer
      have covered := enough isProtected
      simp [Movement.effect, apart.symm, EntryType.units, isProtected.1]
      omega
    · by_cases ofPayee : payee.id = account.id
      · obtain rfl := (tallies.identified_iff known isPayee).mp ofPayee
        simp [Movement.effect, apart, EntryType.units, isProtected.1]
        omega
      · simpa [Movement.effect, ofPayer, ofPayee] using before
  case positive =>
    simp only [List.forall_mem_append, List.forall_mem_singleton]
    exact ⟨tallies.positive, positive⟩
  case transactions => simp [transactions, tallies.transactions]
  case closing =>
    intro accountType
    have keysApart : (⟨ledger.id, payer.id⟩ : BalanceKey) ≠ ⟨ledger.id, payee.id⟩ :=
      fun same => apart (congrArg BalanceKey.accountId same)
    rw [Tables.closing, balances, settle, Table.sum_insert, get?_settle, if_neg keysApart, settle,
      Table.sum_insert, tallies.share_endIn isPayer, tallies.share_endIn isPayee,
      tallies.endIn_settledIn isPayer, tallies.endIn_settledIn isPayee, payer_ends, payee_ends,
      Movement.tally_concat, ← tallies.closing, Tables.closing, Movement.effect]
    by_cases first : payer.accountType = accountType <;>
      by_cases second : payee.accountType = accountType <;> simp [first, second] <;> omega

theorem exists_posts (tallies : Tallies settings.refs ledger movements tables)
    (affords : tables.Affords ledger movements payer payee posting)
    (id first second : Uuid) (time : Instant) : ∃ transaction balances,
      tables.Posts settings payer payee posting (.ofThree id first second) time transaction
        balances ∧
      ∀ reservations,
        ((UnitOfWork.ofPosting transaction balances reservations).publish tables).Sound
          settings.refs →
        Tallies settings.refs ledger (movements ++ [⟨payer, payee, posting.amount⟩])
          ((UnitOfWork.ofPosting transaction balances reservations).publish tables) := by
  obtain ⟨isPayer, isPayee, apart, positive, covers, small, enough⟩ := affords
  have above : 0 < posting.amount.minorUnits := of_decide_eq_true positive
  have keysApart : (tables.balanceIn payer ledger).key ≠ (tables.balanceIn payee ledger).key := by
    rw [tallies.sound.balanceIn_key, tallies.sound.balanceIn_key]
    exact fun same => apart (congrArg BalanceKey.accountId same)
  obtain ⟨draft, prepared, debitEffect, creditEffect, prepares⟩ :=
    exists_prepares (.ofThree id first second) time covers positive
      (congrArg BalanceKey.ledgerId (tallies.sound.balanceIn_key payer ledger))
      (congrArg BalanceKey.ledgerId (tallies.sound.balanceIn_key payee ledger)) keysApart
  have debits := prepares.debit_units
  have credits := prepares.credit_units
  rw [tallies.accountType isPayer] at debits
  rw [tallies.accountType isPayee] at credits
  have posted := prepares.posted keysApart
  rw [tallies.endAmount isPayer, tallies.endAmount isPayee, debits, credits] at posted
  have fits (counted : Account → Bool) (entryType : EntryType) (accountType : AccountType) :
      Money.InRange (Movement.tally counted movements +
        entryType.units accountType posting.amount) := by
    refine tallies.inRange counted small ?_
    cases entryType <;> cases accountType <;> simp only [EntryType.units] <;> omega
  have payer_covered (isProtected : payer.Protected) :
      0 ≤ Movement.tally (·.id = payer.id) movements +
        EntryType.debit.units payer.accountType posting.amount := by
    have covered := enough isProtected
    simp only [EntryType.units, isProtected.1]
    omega
  have payee_covered (isProtected : payee.Protected) :
      0 ≤ Movement.tally (·.id = payee.id) movements +
        EntryType.credit.units payee.accountType posting.amount := by
    have before := tallies.solvent payee isPayee isProtected
    simp only [EntryType.units, isProtected.1]
    omega
  obtain ⟨payerEnd, payeeEnd, payer_ends, payee_ends, posted⟩ :=
    posted (fits _ _ _) (fits _ _ _)
      (fun isProtected => payer_covered (tallies.protected_of isPayer isProtected))
      (fun isProtected => payee_covered (tallies.protected_of isPayee isProtected))
  refine ⟨prepared.transaction, _, .intro tallies.stored covers (.inl tallies.isOpen) posted,
    fun reservations sound => ?_⟩
  rw [UnitOfWork.publish_ofPosting tallies.sound ledger apart] at sound ⊢
  exact tallies.posted isPayer isPayee apart above enough payer_ends payee_ends sound rfl rfl rfl
    rfl

end Posting

end Tallies

end Tables

end DoubleEntry
