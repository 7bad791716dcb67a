import DoubleEntry.Proofs.Program.Calm
import DoubleEntry.Service.Holds

/-!
# Silent parts of operations

Whatever an operation does besides locking, saving accounts, ledgers and reservations,
committing and reporting is silent, and operations that only look something up do
nothing else.
-/

namespace DoubleEntry.Bank

open DoubleEntry.Action

theorem silent_ensurePositive (amount : Money) : (ensurePositive amount).Silent := by
  rw [ensurePositive]
  split <;> trivial

theorem silent_requireAccount (reference : String) : (requireAccount reference).Silent :=
  silent_request trivial fun _ => silent_orThrow _ _

theorem silent_requireReservation (businessReference : String) :
    (requireReservation businessReference).Silent :=
  silent_request trivial fun _ => silent_orThrow _ _

theorem silent_requireLedgerAt (time : Instant) : (requireLedgerAt time).Silent :=
  silent_request trivial fun _ => silent_orThrow _ _

theorem silent_requireOpenLedger : requireOpenLedger.Silent :=
  silent_request trivial fun _ => silent_orThrow _ _

private theorem silent_carriedFrom (account : AccountId) (steps : Nat) (ledger : Ledger) :
    (carriedFrom account steps ledger).Silent := by
  induction steps generalizing ledger with
  | zero => trivial
  | succ steps ih =>
      refine silent_request trivial fun previous => ?_
      cases previous with
      | none => trivial
      | some previous =>
          refine silent_request trivial fun balance => ?_
          cases balance with
          | none => exact ih previous
          | some balance => trivial

theorem silent_carriedAmount (account : AccountId) (ledger : Ledger) :
    (carriedAmount account ledger).Silent := by
  rw [carriedAmount]
  generalize ledger.opensAt.rank = steps
  exact silent_carriedFrom account steps ledger

theorem silent_newBalance (account : Account) (ledger : Ledger) :
    (newBalance account ledger).Silent := by
  rw [newBalance]
  refine (silent_carriedAmount account.id ledger).bind fun startAmount => ?_
  exact (silent_record (by simp [Event.level])).bind fun _ => trivial

theorem silent_loadBalance (account : Account) (ledger : Ledger) :
    (loadBalance account ledger).Silent := by
  rw [loadBalance]
  have search : (findBalance ⟨ledger.id, account.id⟩).Silent :=
    silent_request trivial fun _ => trivial
  refine search.bind fun found => ?_
  split
  · trivial
  · exact silent_newBalance account ledger

theorem silent_requirePostable (settings : LedgerSettings) (time : Instant) :
    (requirePostable settings time).Silent := by
  refine (silent_requireLedgerAt time).bind fun ledger => ?_
  split
  · exact (silent_record (by simp [Event.level])).bind fun _ => trivial
  · trivial

theorem silent_freshPostingIds : freshPostingIds.Silent :=
  silent_freshId.bind fun _ => silent_freshId.bind fun _ => silent_freshId.bind fun _ => trivial

theorem silent_checkOverdraft (ledger : Ledger) (prepared : Prepared) (amount : Money)
    (balance : Balance) : (checkOverdraft ledger prepared amount balance).Silent := by
  rw [checkOverdraft]
  split
  · refine (silent_lift _).bind fun projected => ?_
    split
    · exact (silent_record (by simp [Event.level])).bind fun _ => trivial
    · trivial
  · trivial

theorem silent_saveBalances (balances : List Balance) : (balances.forM saveBalance).Silent := by
  induction balances with
  | nil => trivial
  | cons balance rest ih => exact silent_request trivial fun _ => ih

theorem silent_post (settings : LedgerSettings) (payer payee : Account) (posting : Posting) :
    (post settings payer payee posting).Silent := by
  refine (silent_requirePostable settings posting.time).bind fun ledger => ?_
  refine (silent_loadBalance payer ledger).bind fun debited => ?_
  refine (silent_loadBalance payee ledger).bind fun credited => ?_
  refine silent_now.bind fun time => (silent_lift _).bind fun draft => ?_
  refine silent_freshPostingIds.bind fun ids => (silent_lift _).bind fun prepared => ?_
  refine (silent_checkOverdraft ledger prepared posting.amount debited).bind fun _ => ?_
  refine (silent_checkOverdraft ledger prepared posting.amount credited).bind fun _ => ?_
  refine (silent_lift _).bind fun applied => (silent_saveBalances applied.2).bind fun _ => ?_
  exact silent_request trivial fun _ => trivial

theorem silent_chargeReservation (reservation : Reservation) (amount : Money) :
    (chargeReservation reservation amount).Silent := by
  rw [chargeReservation]
  split
  · trivial
  · exact (silent_record (by simp [Event.level])).bind fun _ => trivial

/-! ## Operations that only read -/

theorem reads_lookupAccount (reference : String) : (lookupAccount reference).Reads :=
  .intro (silent_requireAccount reference).calm

theorem reads_currentLedger : currentLedger.Reads := .intro silent_requireOpenLedger.calm

theorem exists_silent_getBalance (reference : String) (time : Instant) :
    ∃ next : Unit → Action Money, getBalance reference time = (openWork >>= next) ∧
      (next ()).Silent := by
  refine ⟨_, rfl, (silent_requireAccount reference).bind fun account => ?_⟩
  refine (silent_requireLedgerAt time).bind fun ledger => ?_
  have search : (findBalance ⟨ledger.id, account.id⟩).Silent :=
    silent_request trivial fun _ => trivial
  refine search.bind fun found => ?_
  split
  · trivial
  · exact silent_carriedAmount account.id ledger

theorem reads_getBalance (reference : String) (time : Instant) :
    (getBalance reference time).Reads := by
  obtain ⟨next, same, silent⟩ := exists_silent_getBalance reference time
  rw [same]
  exact .intro silent.calm

end DoubleEntry.Bank
