import DoubleEntry.Proofs.Service.Bookings
import DoubleEntry.Proofs.Service.Identity

/-!
# Whose balance it is

Every stored balance is that of a stored account in a stored ledger, and it is
classified like the account.  So whether a balance must not be overdrawn can be
asked of its account, as long as no identifier is drawn twice.
-/

namespace DoubleEntry

def Account.Protected (account : Account) : Prop :=
  account.accountType = .liability ∧ (account.purpose = .current ∨ account.purpose = .premium)

instance : DecidablePred Account.Protected := fun _ => inferInstanceAs (Decidable (_ ∧ _))

theorem Account.protected_iff {account : Account} :
    account.Protected ↔ isOverdraftProtected account.accountType account.purpose = true := by
  rw [Protected, isOverdraftProtected, Purpose.allowsOverdraft]
  cases account.accountType <;> cases account.purpose <;> decide

namespace Tables

def Owned (tables : Tables) : Prop :=
  ∀ key balance, tables.balances.get? key = some balance →
    (∃ account ∈ tables.accounts.values, account.id = key.accountId ∧
      balance.accountType = account.accountType ∧ balance.purpose = account.purpose) ∧
    ∃ ledger ∈ tables.ledgers.values, ledger.id = key.ledgerId

def Housed (tables : Tables) : Prop :=
  ∀ key balance, tables.balances.get? key = some balance →
    ∃ ledger ∈ tables.ledgers.values, ledger.id = key.ledgerId

def Identified (tables : Tables) : Prop :=
  ∀ account ∈ tables.accounts.values, ∀ other ∈ tables.accounts.values,
    account.id = other.id → account = other

variable {settings : LedgerSettings} {asked : Account → Prop} {tables before after : Tables}
  {account : Account} {ledger : Ledger}

private theorem Owned.housed (owned : tables.Owned) : tables.Housed :=
  fun key balance found => (owned key balance found).2

theorem Booked.housed (booked : before.Booked settings asked after) (housed : before.Housed)
    (continues : before.Continues after) : after.Housed := by
  intro key balance found
  have known : ∃ ledger ∈ before.ledgers.values, ledger.id = key.ledgerId := by
    rcases booked.arises found with found | ⟨_, _, ledger, stored, _, rfl, _⟩
    · exact housed key balance found
    · exact ⟨ledger, stored, rfl⟩
  obtain ⟨ledger, stored, inside⟩ := known
  obtain ⟨still, member, sameId, _⟩ := continues.remembers ledger stored
  exact ⟨still, member, sameId.trans inside⟩

private theorem Booked.owned (booked : before.Booked settings asked after) (owned : before.Owned)
    (knows : ∀ account, asked account → account ∈ before.accounts.values)
    (accounts : ∀ account ∈ before.accounts.values, account ∈ after.accounts.values)
    (continues : before.Continues after) : after.Owned := by
  have kept : ∀ {key : BalanceKey} {balance : Balance}, before.balances.get? key = some balance →
      ∃ account ∈ after.accounts.values, account.id = key.accountId ∧
        balance.accountType = account.accountType ∧ balance.purpose = account.purpose := by
    intro key balance found
    obtain ⟨account, known, classified⟩ := (owned key balance found).1
    exact ⟨account, accounts account known, classified⟩
  intro key balance found
  refine ⟨?_, booked.housed owned.housed continues key balance found⟩
  rcases booked.arises found with
    found | ⟨account, known, ledger, stored, endAmount, rfl, rfl, _⟩
  · exact kept found
  · have known := known.elim (knows account) id
    cases found' : before.balances.get? ⟨ledger.id, account.id⟩ with
    | some balance =>
        obtain ⟨version, settled⟩ := settledIn_of_stored found' endAmount
        have facts := kept found'
        rw [settled]
        exact facts
    | none =>
        rw [settledIn, balanceIn_of_missing found']
        exact ⟨account, accounts account known, rfl, rfl, rfl⟩

theorem Owned.protected_iff (owned : tables.Owned) (identified : tables.Identified)
    (known : account ∈ tables.accounts.values) {ledger : LedgerId} {balance : Balance}
    (found : tables.balances.get? ⟨ledger, account.id⟩ = some balance) :
    balance.isOverdraftProtected = true ↔ account.Protected := by
  obtain ⟨⟨owner, stored, sameId, sameType, samePurpose⟩, _⟩ := owned _ _ found
  have same : owner = account := identified owner stored account known sameId
  rw [Account.protected_iff, Balance.isOverdraftProtected, sameType, samePurpose, same]

theorem Owned.balanceIn_protected_iff (owned : tables.Owned) (identified : tables.Identified)
    (known : account ∈ tables.accounts.values) (ledger : Ledger) :
    (tables.balanceIn account ledger).isOverdraftProtected = true ↔ account.Protected := by
  cases found : tables.balances.get? ⟨ledger.id, account.id⟩ with
  | some balance =>
      rw [balanceIn_of_stored found]
      exact owned.protected_iff identified known found
  | none =>
      rw [balanceIn_of_missing found, Account.protected_iff]
      exact Iff.rfl

def Labelled (tables : Tables) : Prop :=
  ∀ key balance, tables.balances.get? key = some balance →
    ∃ account ∈ tables.accounts.values, account.id = key.accountId ∧
      balance.reference = account.reference

private theorem Booked.labelled (booked : before.Booked settings asked after)
    (labelled : before.Labelled)
    (knows : ∀ account, asked account → account ∈ before.accounts.values)
    (accounts : ∀ account ∈ before.accounts.values, account ∈ after.accounts.values) :
    after.Labelled := by
  intro key balance found
  rcases booked.arises found with
    found | ⟨account, known, ledger, _, endAmount, rfl, rfl, _⟩
  · obtain ⟨account, known, named⟩ := labelled key balance found
    exact ⟨account, accounts account known, named⟩
  · have known := known.elim (knows account) id
    cases found' : before.balances.get? ⟨ledger.id, account.id⟩ with
    | some balance =>
        obtain ⟨version, settled⟩ := settledIn_of_stored found' endAmount
        obtain ⟨owner, known', named⟩ := labelled _ _ found'
        rw [settled]
        exact ⟨owner, accounts owner known', named⟩
    | none =>
        rw [settledIn, balanceIn_of_missing found']
        exact ⟨account, accounts account known, rfl, rfl⟩

theorem Labelled.balanceIn_reference (labelled : tables.Labelled) (identified : tables.Identified)
    (known : account ∈ tables.accounts.values) (ledger : Ledger) :
    (tables.balanceIn account ledger).reference = account.reference := by
  cases found : tables.balances.get? ⟨ledger.id, account.id⟩ with
  | some balance =>
      obtain ⟨owner, stored, sameId, named⟩ := labelled _ _ found
      rw [balanceIn_of_stored found, named, identified owner stored account known sameId]
  | none =>
      rw [balanceIn_of_missing found]
      rfl

theorem Owned.balanceIn_accountType (owned : tables.Owned) (identified : tables.Identified)
    (known : account ∈ tables.accounts.values) (ledger : Ledger) :
    (tables.balanceIn account ledger).accountType = account.accountType := by
  cases found : tables.balances.get? ⟨ledger.id, account.id⟩ with
  | some balance =>
      obtain ⟨⟨owner, stored, sameId, sameType, _⟩, _⟩ := owned _ _ found
      rw [balanceIn_of_stored found, sameType, identified owner stored account known sameId]
  | none =>
      rw [balanceIn_of_missing found]
      rfl

end Tables

/-! ## Along a run -/

theorem Operation.Admissible.known {refs : SystemRefs} {tables : Tables} {operation : Operation}
    (isAdmissible : operation.Admissible tables) (sound : tables.Sound refs) :
    ∀ account, operation.Asks account → account ∈ tables.accounts.values := by
  intro account asks
  cases operation with
  | getOrCreateBalance =>
      cases asks
      exact sound.accounts.mem_of_get? isAdmissible
  | _ => cases asks

namespace Chronicle

variable {surroundings : Surroundings} {settings : LedgerSettings} {admission : Admission}
  {deeds : List Deed} {tables : Tables}

theorem owned (chronicle : Chronicle surroundings settings .known deeds tables) : tables.Owned := by
  induction chronicle with
  | nothing => exact fun _ _ found => nomatch found
  | @deed deeds tables deed voucher acceptable isAdmissible chronicle ih =>
      have sound := chronicle.sound
      exact (voucher.booked sound).owned ih
        (isAdmissible.known chronicle.sound)
        (fun _ known => UnitOfWork.mem_publish_accounts sound voucher acceptable known)
        (UnitOfWork.publish_continues sound voucher acceptable)

theorem labelled (chronicle : Chronicle surroundings settings .known deeds tables) :
    tables.Labelled := by
  induction chronicle with
  | nothing => exact fun _ _ found => nomatch found
  | @deed deeds tables deed voucher acceptable isAdmissible chronicle ih =>
      have sound := chronicle.sound
      exact (voucher.booked sound).labelled ih (isAdmissible.known sound)
        fun _ known => UnitOfWork.mem_publish_accounts sound voucher acceptable known

theorem housed (chronicle : Chronicle surroundings settings admission deeds tables) :
    tables.Housed := by
  induction chronicle with
  | nothing => exact fun _ _ found => nomatch found
  | deed deed voucher acceptable _ chronicle ih =>
      have sound := chronicle.sound
      exact (voucher.booked sound).housed ih
        (UnitOfWork.publish_continues sound voucher acceptable)

theorem identified (chronicle : Chronicle surroundings settings admission deeds tables)
    (nodup : (deeds.flatMap (Deed.ids surroundings)).Nodup) : tables.Identified :=
  fun _ stored _ stored' same => chronicle.account_eq nodup stored stored' same

end Chronicle

end DoubleEntry
