import DoubleEntry.Proofs.Program.Ascending
import DoubleEntry.Proofs.Service.Calm
import DoubleEntry.Proofs.Service.Precedence

/-!
# Operations take their locks in order

An operation that creates no account asks for the locks of stored accounts in the
locking order, or for one lock only, and the rest of it is calm, so it ascends.
-/

namespace DoubleEntry

namespace Bank

open DoubleEntry.Action

/-! ## Locking -/

variable {α : Type} {refs : SystemRefs} {tables : Tables}

theorem ascends_requireAccount {before : AccountId → AccountId → Prop} {known : Account → Prop}
    {guards : List AccountId} {reference : String} {next : Account → Action α}
    (goesOn : ∀ account, known account → (next account).Ascends before known guards) :
    (requireAccount reference >>= next).Ascends before known guards := by
  rw [requireAccount, bind_assoc]
  refine ascends_findAccount fun found genuine => ?_
  cases found with
  | none => trivial
  | some account => exact goesOn account (genuine account rfl)

theorem ascends_lockInOrder {accounts : List Account} {next : Unit → Action α}
    (stored : ∀ account ∈ accounts, account ∈ tables.accounts.values)
    (goesOn : ∀ guards,
      (next ()).Ascends (tables.Precedes refs) (· ∈ tables.accounts.values) guards) :
    (lockInOrder refs accounts >>= next).Ascends (tables.Precedes refs)
      (· ∈ tables.accounts.values) [] := by
  rw [lockInOrder, bind_assoc]
  refine ascends_lockAccounts ?_ ((calm_record _).ascends_bind fun _ => goesOn _)
  rw [List.nil_append, List.pairwise_map]
  refine (ordered_pairwise refs accounts).imp_of_mem fun {a b} among among' precedes => ?_
  exact ⟨a, stored a (mem_of_mem_ordered among), b, stored b (mem_of_mem_ordered among'), rfl, rfl,
    precedes⟩

/-! ## Operations -/

variable {settings : LedgerSettings}

private theorem ascends_transfer (payerReference payeeReference : String) (posting : Posting) :
    (transfer settings payerReference payeeReference posting).Ascends
      (tables.Precedes settings.refs) (· ∈ tables.accounts.values) [] := by
  rw [transfer]
  refine (silent_ensurePositive _).calm.ascends_bind fun _ => ascends_openWork ?_
  refine ascends_requireAccount fun payer payerStored => ?_
  refine ascends_requireAccount fun payee payeeStored => ?_
  split
  · trivial
  · refine ascends_lockInOrder (by simp [payerStored, payeeStored]) fun guards => ?_
    refine (silent_post settings payer payee posting).calm.ascends_bind fun transaction => ?_
    exact ascends_commit ((calm_record _).bind fun _ => trivial)

private theorem ascends_reserve (reference businessReference : String) (posting : Posting) :
    (reserve settings reference businessReference posting).Ascends
      (tables.Precedes settings.refs) (· ∈ tables.accounts.values) [] := by
  rw [reserve]
  refine (silent_ensurePositive _).calm.ascends_bind fun _ => ascends_openWork ?_
  refine ascends_requireAccount fun payer payerStored => ?_
  refine ascends_requireAccount fun pool poolStored => ?_
  split
  · trivial
  · refine calm_freshId.ascends_bind fun id => calm_now.ascends_bind fun time => ?_
    refine (calm_lift _).ascends_bind fun reservation => ?_
    refine ascends_lockInOrder (by simp [payerStored, poolStored]) fun guards => ?_
    have search : (findReservation reservation.businessReference).Calm :=
      calm_request trivial fun _ => trivial
    refine search.ascends_bind fun found => ?_
    split
    · trivial
    · refine (silent_post settings payer pool posting).calm.ascends_bind fun transaction => ?_
      have save : (saveReservation reservation).Calm := calm_request trivial fun _ => trivial
      refine save.ascends_bind fun _ => ?_
      exact ascends_commit ((calm_record _).bind fun _ => trivial)

private theorem ascends_charge (reference businessReference : String) (posting : Posting) :
    (charge settings reference businessReference posting).Ascends
      (tables.Precedes settings.refs) (· ∈ tables.accounts.values) [] := by
  rw [charge]
  refine (silent_ensurePositive _).calm.ascends_bind fun _ => ascends_openWork ?_
  refine ascends_requireAccount fun beneficiary beneficiaryStored => ?_
  refine ascends_requireAccount fun pool poolStored => ?_
  split
  · trivial
  · refine ascends_lockInOrder (by simp [beneficiaryStored, poolStored]) fun guards => ?_
    refine (silent_requireReservation businessReference).calm.ascends_bind fun reservation => ?_
    refine (silent_chargeReservation reservation posting.amount).calm.ascends_bind fun charged => ?_
    refine (silent_post settings pool beneficiary posting).calm.ascends_bind fun transaction => ?_
    have save : (saveReservation charged).Calm := calm_request trivial fun _ => trivial
    refine save.ascends_bind fun _ => ?_
    exact ascends_commit ((calm_record _).bind fun _ => trivial)

private theorem ascends_release (businessReference description : String) (time : Instant) :
    (release settings businessReference description time).Ascends
      (tables.Precedes settings.refs) (· ∈ tables.accounts.values) [] := by
  rw [release]
  refine ascends_openWork ?_
  refine (silent_requireReservation businessReference).calm.ascends_bind fun reservation => ?_
  refine ascends_requireAccount fun payer payerStored => ?_
  refine ascends_requireAccount fun pool poolStored => ?_
  refine ascends_lockInOrder (by simp [payerStored, poolStored]) fun guards => ?_
  refine (silent_requireReservation businessReference).calm.ascends_bind fun reservation => ?_
  split
  next remaining released _ =>
    split
    · refine (calm_record _).ascends_bind fun _ => ?_
      trivial
    · refine (silent_post settings pool payer _).calm.ascends_bind fun transaction => ?_
      have save : (saveReservation released).Calm := calm_request trivial fun _ => trivial
      refine save.ascends_bind fun _ => ?_
      exact ascends_commit ((calm_record _).bind fun _ => trivial)

private theorem ascends_getOrCreateBalance {before : AccountId → AccountId → Prop}
    {known : Account → Prop} (account : Account) (time : Instant) :
    (getOrCreateBalance account time).Ascends before known [] := by
  rw [getOrCreateBalance]
  refine ascends_openWork (ascends_lockAccounts (List.pairwise_singleton _ _) ?_)
  refine (silent_requireLedgerAt time).calm.ascends_bind fun ledger => ?_
  have search : (findBalance ⟨ledger.id, account.id⟩).Calm := calm_request trivial fun _ => trivial
  refine search.ascends_bind fun found => ?_
  split
  · trivial
  · refine (silent_newBalance account ledger).calm.ascends_bind fun balance => ?_
    have save : (saveBalance balance).Calm := calm_request trivial fun _ => trivial
    refine save.ascends_bind fun _ => ascends_commit ?_
    trivial

/-! ## Operations without locks -/

variable {before : AccountId → AccountId → Prop} {known : Account → Prop}

private theorem ascends_openFirstLedger (start : Instant) :
    (openFirstLedger start).Ascends before known [] := by
  rw [openFirstLedger]
  have search : ledgers.Calm := calm_request trivial fun _ => trivial
  refine ascends_openWork (search.ascends_bind fun found => ?_)
  split
  · trivial
  · refine calm_freshId.ascends_bind fun id => ?_
    have save : (saveLedger (Ledger.ofYear id start)).Calm := calm_request trivial fun _ => trivial
    refine save.ascends_bind fun _ => ?_
    exact ascends_commit ((calm_record _).bind fun _ => trivial)

private theorem ascends_rollOver (current : Ledger) (newStart : Instant) :
    (rollOver current newStart).Ascends before known [] := by
  rw [rollOver]
  refine (calm_lift _).ascends_bind fun closed => calm_freshId.ascends_bind fun id => ?_
  have save (ledger : Ledger) : (saveLedger ledger).Calm := calm_request trivial fun _ => trivial
  refine (save closed).ascends_bind fun _ => (save _).ascends_bind fun _ => ?_
  exact ascends_commit ((calm_record _).bind fun _ => trivial)

private theorem ascends_closePeriodAndOpenNext (newStart : Instant) :
    (closePeriodAndOpenNext newStart).Ascends before known [] := by
  rw [closePeriodAndOpenNext]
  refine ascends_openWork (silent_requireOpenLedger.calm.ascends_bind fun current => ?_)
  have search : (latestPosting current.id).Calm := calm_request trivial fun _ => trivial
  refine search.ascends_bind fun found => ?_
  cases found with
  | none => exact ascends_rollOver current newStart
  | some latest =>
      by_cases early : newStart ≤ latest
      · simp only [if_pos early]
        refine (calm_record _).ascends_bind fun _ => ?_
        trivial
      · simp only [if_neg early]
        exact ascends_rollOver current newStart

end Bank

namespace Operation

def KeepsAccounts : Operation → Prop
  | ensureSystemAccounts | createAccount .. => False
  | _ => True

theorem ascends {settings : LedgerSettings} {operation : Operation}
    (keeps : operation.KeepsAccounts) (tables : Tables) :
    (operation.action settings).Ascends (tables.Precedes settings.refs)
      (· ∈ tables.accounts.values) [] := by
  apply Action.Ascends.map
  cases operation with
  | ensureSystemAccounts => exact keeps.elim
  | createAccount reference name accountType purpose => exact keeps.elim
  | lookupAccount reference => exact (Bank.reads_lookupAccount reference).ascends
  | openFirstLedger start => exact Bank.ascends_openFirstLedger start
  | currentLedger => exact Bank.reads_currentLedger.ascends
  | closePeriodAndOpenNext newStart => exact Bank.ascends_closePeriodAndOpenNext newStart
  | getOrCreateBalance account time => exact Bank.ascends_getOrCreateBalance account time
  | getBalance reference time => exact (Bank.reads_getBalance reference time).ascends
  | transfer payer payee posting => exact Bank.ascends_transfer payer payee posting
  | deposit reference posting => exact Bank.ascends_transfer _ reference posting
  | withdraw reference posting => exact Bank.ascends_transfer reference _ posting
  | reserve reference businessReference posting =>
      exact Bank.ascends_reserve reference businessReference posting
  | charge reference businessReference posting =>
      exact Bank.ascends_charge reference businessReference posting
  | release businessReference description time =>
      exact Bank.ascends_release businessReference description time

end Operation

end DoubleEntry
