import DoubleEntry.Proofs.Program.Consulting
import DoubleEntry.Proofs.Program.Reporting
import DoubleEntry.Proofs.Service.Calm
import DoubleEntry.Proofs.Service.Fitting
import DoubleEntry.Proofs.Service.Publication

/-!
# What the operations report

Every operation that changes something logs it after the commit, from the records that it
staged.  The system accounts are the exception: their creation is logged when they are
staged.
-/

namespace DoubleEntry

/-! ## What a commit makes come true -/

theorem Table.mem_values_of_get? {κ ν : Type} [DecidableEq κ] {table : Table κ ν} {key : κ}
    {value : ν} (found : table.get? key = some value) : value ∈ table.values :=
  List.mem_map.mpr ⟨_, mem_of_find?_eq_some found, rfl⟩

namespace UnitOfWork

variable {work : UnitOfWork} {tables : Tables}

theorem hasAccount_publish (unstaged : work.accounts = []) {account : Account}
    (stored : account ∈ tables.accounts.values) :
    (work.publish tables).HasAccount account.reference := by
  refine ⟨account, ?_, rfl⟩
  rw [publish, unstaged]
  exact stored

theorem hasPosted_publish {transaction : Transaction} (staged : transaction ∈ work.transactions)
    {amount : Money} (total : transaction.total = amount) :
    (work.publish tables).HasPosted transaction.id amount :=
  ⟨transaction, List.mem_append_right _ staged, rfl, total⟩

theorem publish_reservation (tables : Tables) {reservation : Reservation}
    (staged : work.reservations = (∅ : Table String Reservation).insert
      reservation.businessReference reservation) :
    (work.publish tables).reservations.get? reservation.businessReference =
      some reservation.committed := by
  rw [publish, staged, Table.values_insert_empty]
  exact Table.get?_insert_self _ _ _

private theorem publish_ledger {ledger : Ledger}
    (staged : work.ledgers = (∅ : Table LedgerId Ledger).insert ledger.id ledger) :
    ledger.committed ∈ (work.publish tables).ledgers.values := by
  rw [publish, staged, Table.values_insert_empty]
  exact Table.mem_values_of_get? (Table.get?_insert_self _ ledger.id _)

private theorem publish_ledgers (tables : Tables) {first second : Ledger}
    (apart : first.id ≠ second.id) (staged : work.ledgers =
      ((∅ : Table LedgerId Ledger).insert first.id first).insert second.id second) :
    first.committed ∈ (work.publish tables).ledgers.values ∧
      second.committed ∈ (work.publish tables).ledgers.values := by
  have absent : ((∅ : Table LedgerId Ledger).insert first.id first).get? second.id = none := by
    rw [Table.get?_insert, if_neg apart]
    rfl
  rw [publish, staged, Table.values_insert_of_absent _ absent, Table.values_insert_empty]
  constructor
  · refine Table.mem_values_of_get? (?_ : Table.get? _ first.id = _)
    exact (Table.get?_insert _ _ _ _).trans
      ((if_neg apart.symm).trans (Table.get?_insert_self _ _ _))
  · exact Table.mem_values_of_get? (Table.get?_insert_self _ second.id _)

private theorem ledgerView_empty_mem {ledger : Ledger} (seen : ledger ∈ empty.ledgerView tables) :
    ledger ∈ tables.ledgers.values :=
  (sortBy_perm _ _).mem_iff.mp seen

end UnitOfWork

private theorem Reservation.release_status (reservation : Reservation) :
    reservation.release.2.status ≠ .held := by
  rw [release]
  cases reservation.status <;> simp

private theorem total_of_applied {ledger : Ledger} {debited credited : Balance}
    {posting : Bank.Posting}
    {ids : PostingIds} {time : Instant} {draft : Draft} {prepared : Prepared}
    {transaction : Transaction} {balances settled : List Balance}
    (drafted : Bank.transferDraft ledger debited credited posting time = .ok draft)
    (isPrepared : draft.prepare ids = .ok prepared)
    (applied : prepared.apply balances = .ok (transaction, settled)) :
    transaction.total = posting.amount := by
  obtain ⟨-, positive, -, -, rfl⟩ := transferDraft_eq_ok_iff.mp drafted
  obtain ⟨-, totals, counted, -, isTransaction⟩ := prepare_eq_ok_iff.mp isPrepared
  cases (totals_pair positive).symm.trans counted
  simp only [Prepared.apply, bind_eq_ok_iff, pure_eq_ok_iff, Prod.mk.injEq] at applied
  obtain ⟨_, _, rfl, _⟩ := applied
  rw [isTransaction]

namespace Bank

open DoubleEntry.Action

/-! ## Accounts and postings -/

variable {surroundings : Surroundings} {early : Event → Prop} {limit : Nat} {start : World}
  {α : Type} {settings : LedgerSettings}

theorem reports_requireAccount {reference : String} {rest : Account → Action α}
    (goesOn : ∀ account ∈ start.store.tables.accounts.values,
      (rest account).Reports surroundings early limit start UnitOfWork.Plain) :
    (requireAccount reference >>= rest).Reports surroundings early limit start
      UnitOfWork.Plain := by
  let after (found : Option Account) (work : UnitOfWork) : Prop :=
    (∀ account, found = some account → account ∈ start.store.tables.accounts.values) ∧ work.Plain
  have leads (world : World) (work : UnitOfWork) (hushed : start.Hushed early world)
      (plain : work.Plain) :
      after (work.findAccount world.store.tables (Text.trim reference)) work := by
    refine ⟨fun account isFound => ?_, plain⟩
    rw [work.findAccount_of_unstaged plain.accounts, hushed.tables] at isFound
    exact Table.mem_values_of_get? isFound
  rw [requireAccount, bind_assoc]
  refine reports_request (by simp) rfl (fun found => ?_) leads
  refine reports_of_staged fun known => ?_
  exact reports_orThrow fun account isFound => goesOn account (known account isFound)

theorem reports_lockInOrder {refs : SystemRefs} {accounts : List Account} {rest : Unit → Action α}
    (goesOn : (rest ()).Reports surroundings early limit start UnitOfWork.Plain) :
    (lockInOrder refs accounts >>= rest).Reports surroundings early limit start
      UnitOfWork.Plain := by
  rw [lockInOrder, bind_assoc]
  exact reports_lockAccounts (reports_quietly (by simp [Event.level]) goesOn)

theorem reports_post {payer payee : Account} {posting : Posting} {rest : Transaction → Action α}
    (goesOn : ∀ transaction, transaction.total = posting.amount →
      (rest transaction).Reports surroundings early limit start fun work =>
        work.Plain ∧ transaction ∈ work.transactions) :
    (post settings payer payee posting >>= rest).Reports surroundings early limit start
      UnitOfWork.Plain := by
  simp only [post, bind_assoc]
  refine (silent_requirePostable settings posting.time).bind_reports fun ledger => ?_
  refine (silent_loadBalance payer ledger).bind_reports fun debited => ?_
  refine (silent_loadBalance payee ledger).bind_reports fun credited => ?_
  refine silent_now.bind_reports fun time => ?_
  refine reports_lift fun draft drafted => ?_
  refine silent_freshPostingIds.bind_reports fun ids => ?_
  refine reports_lift fun prepared isPrepared => ?_
  refine (silent_checkOverdraft ledger prepared posting.amount debited).bind_reports fun _ => ?_
  refine (silent_checkOverdraft ledger prepared posting.amount credited).bind_reports fun _ => ?_
  refine reports_lift fun result applied => ?_
  refine (silent_saveBalances result.2).bind_reports fun _ => ?_
  exact reports_request (by simp) rfl
    (fun _ => goesOn result.1 (total_of_applied drafted isPrepared applied))
    fun _ _ _ plain => ⟨⟨plain.accounts, plain.ledgers, plain.reservations⟩,
      List.mem_append_right _ List.mem_cons_self⟩

theorem reports_saveReservation {reservation : Reservation} {transaction : Transaction}
    {rest : Unit → Action α}
    (goesOn : (rest ()).Reports surroundings early limit start fun work =>
      work.accounts = [] ∧ transaction ∈ work.transactions ∧
        work.reservations = (∅ : Table String Reservation).insert reservation.businessReference
          reservation) :
    (saveReservation reservation >>= rest).Reports surroundings early limit start fun work =>
      work.Plain ∧ transaction ∈ work.transactions :=
  reports_request (by simp) rfl (fun _ => goesOn) fun _ _ _ staged =>
    ⟨staged.1.accounts, staged.2,
      congrArg (Table.insert · reservation.businessReference reservation) staged.1.reservations⟩

def Unspoken : Event → Prop := fun _ => False

theorem reports_transfer (payer payee : String) (posting : Posting) :
    (transfer settings payer payee posting).Reports surroundings Unspoken limit start
      UnitOfWork.Plain := by
  rw [transfer]
  refine (silent_ensurePositive posting.amount).bind_reports fun _ => ?_
  refine reports_opened ?_
  refine reports_requireAccount fun payer isPayer => ?_
  refine reports_requireAccount fun payee isPayee => ?_
  split
  · exact reports_failed _
  · refine reports_lockInOrder ?_
    refine reports_post fun transaction total => ?_
    refine reports_commit fun work staged _ => ⟨fun _ => False.elim, fun _ => ?_, trivial⟩
    exact ⟨UnitOfWork.hasPosted_publish staged.2 total,
      UnitOfWork.hasAccount_publish staged.1.accounts isPayer,
      UnitOfWork.hasAccount_publish staged.1.accounts isPayee⟩

theorem reports_reserve (reference businessReference : String) (posting : Posting) :
    (reserve settings reference businessReference posting).Reports surroundings Unspoken limit start
      UnitOfWork.Plain := by
  rw [reserve]
  refine (silent_ensurePositive posting.amount).bind_reports fun _ => ?_
  refine reports_opened ?_
  refine reports_requireAccount fun payer isPayer => ?_
  refine reports_requireAccount fun reservations isPool => ?_
  split
  · exact reports_failed _
  · refine silent_freshId.bind_reports fun id => ?_
    refine silent_now.bind_reports fun createdAt => ?_
    refine reports_lift fun reservation created => ?_
    refine reports_lockInOrder ?_
    have search : (findReservation reservation.businessReference).Silent :=
      silent_request trivial fun _ => trivial
    refine search.bind_reports fun found => ?_
    split
    · exact reports_failed _
    · refine reports_post fun transaction total => ?_
      refine reports_saveReservation ?_
      refine reports_commit fun work staged _ => ⟨fun _ => False.elim, fun _ => ?_, trivial⟩
      obtain ⟨unstaged, posted, reserved⟩ := staged
      have held := UnitOfWork.publish_reservation start.store.tables reserved
      obtain ⟨-, rfl⟩ := Reservation.create_eq created
      exact ⟨UnitOfWork.hasPosted_publish posted total,
        UnitOfWork.hasAccount_publish unstaged isPayer, _, held, rfl, rfl⟩

theorem reports_charge (reference businessReference : String) (posting : Posting) :
    (charge settings reference businessReference posting).Reports surroundings Unspoken limit start
      UnitOfWork.Plain := by
  rw [charge]
  refine (silent_ensurePositive posting.amount).bind_reports fun _ => ?_
  refine reports_opened ?_
  refine reports_requireAccount fun beneficiary isBeneficiary => ?_
  refine reports_requireAccount fun reservations isPool => ?_
  split
  · exact reports_failed _
  · refine reports_lockInOrder ?_
    refine (silent_requireReservation _).bind_reports fun reservation => ?_
    refine (silent_chargeReservation reservation _).bind_reports fun charged => ?_
    refine reports_post fun transaction total => ?_
    refine reports_saveReservation ?_
    refine reports_commit fun work staged _ => ⟨fun _ => False.elim, fun _ => ?_, trivial⟩
    obtain ⟨unstaged, posted, reserved⟩ := staged
    exact ⟨UnitOfWork.hasPosted_publish posted total,
      UnitOfWork.hasAccount_publish unstaged isBeneficiary, _,
      UnitOfWork.publish_reservation _ reserved, rfl⟩

theorem reports_release (businessReference description : String) (time : Instant) :
    (release settings businessReference description time).Reports surroundings Unspoken limit start
      UnitOfWork.Plain := by
  rw [release]
  refine reports_opened ?_
  refine (silent_requireReservation _).bind_reports fun known => ?_
  refine reports_requireAccount fun payer isPayer => ?_
  refine reports_requireAccount fun reservations isPool => ?_
  refine reports_lockInOrder ?_
  refine (silent_requireReservation _).bind_reports fun reservation => ?_
  dsimp only
  split
  · exact reports_quietly (by simp [Event.level]) (reports_done none fun _ => id)
  · refine reports_post fun transaction total => ?_
    refine reports_saveReservation ?_
    refine reports_commit fun work staged _ => ⟨fun _ => False.elim, fun _ => ?_, trivial⟩
    obtain ⟨unstaged, posted, released⟩ := staged
    exact ⟨UnitOfWork.hasPosted_publish posted total,
      UnitOfWork.hasAccount_publish unstaged isPayer, _,
      UnitOfWork.publish_reservation _ released, reservation.release_status⟩

/-! ## Accounts and balances of customers -/

private theorem reports_saveAccount {account : Account} {accounts : List Account}
    {rest : Unit → Action α} (goesOn : (rest ()).Reports surroundings early limit start fun work =>
      work.accounts = accounts ++ [account]) :
    (saveAccount account >>= rest).Reports surroundings early limit start fun work =>
      work.accounts = accounts :=
  reports_request (by simp) rfl (fun _ => goesOn) fun _ _ _ staged =>
    congrArg (· ++ [account]) staged

theorem reports_createAccount (refs : SystemRefs) (reference name : String)
    (accountType : AccountType) (purpose : Purpose) :
    (createAccount refs reference name accountType purpose).Reports surroundings Unspoken limit
      start UnitOfWork.Plain := by
  rw [createAccount]
  refine silent_freshId.bind_reports fun id => ?_
  refine silent_now.bind_reports fun createdAt => ?_
  refine reports_lift fun account created => ?_
  split
  · exact reports_quietly (by simp [Event.level]) (reports_failed _)
  · refine reports_opened ?_
    have search : (findAccount account.reference).Silent :=
      silent_request trivial fun _ => trivial
    refine search.bind_reports fun found => ?_
    split
    · exact reports_failed _
    · refine Reports.mono (reports_saveAccount ?_) fun _ plain => plain.accounts
      refine reports_commit fun work staged _ => ⟨fun _ => False.elim, fun _ => ?_, trivial⟩
      refine ⟨account, ?_, rfl, rfl⟩
      rw [UnitOfWork.publish, staged]
      exact Table.mem_values_of_get? (Table.get?_insert_self _ account.reference _)

theorem reports_getOrCreateBalance (account : Account) (time : Instant) :
    (getOrCreateBalance account time).Reports surroundings Unspoken limit start
      UnitOfWork.Plain := by
  rw [getOrCreateBalance]
  refine reports_opened ?_
  refine reports_lockAccounts ?_
  refine (silent_requireLedgerAt time).bind_reports fun ledger => ?_
  have search : (findBalance ⟨ledger.id, account.id⟩).Silent :=
    silent_request trivial fun _ => trivial
  refine search.bind_reports fun found => ?_
  split
  · exact reports_done _ fun _ => id
  · refine (silent_newBalance account ledger).bind_reports fun balance => ?_
    have saves : (saveBalance balance).Silent := silent_request trivial fun _ => trivial
    refine saves.bind_reports fun _ => ?_
    exact reports_commit fun work _ _ => ⟨fun _ => False.elim, trivial⟩

theorem reports_lookupAccount (reference : String) :
    (lookupAccount reference).Reports surroundings Unspoken limit start UnitOfWork.Plain :=
  reports_opened ((silent_requireAccount reference).reports fun _ => id)

theorem reports_currentLedger :
    currentLedger.Reports surroundings Unspoken limit start UnitOfWork.Plain :=
  reports_opened (silent_requireOpenLedger.reports fun _ => id)

theorem reports_getBalance (reference : String) (time : Instant) :
    (getBalance reference time).Reports surroundings Unspoken limit start UnitOfWork.Plain := by
  obtain ⟨next, same, silent⟩ := exists_silent_getBalance reference time
  rw [same]
  exact reports_opened (silent.reports fun _ => id)

/-! ## Periods -/

theorem reports_saveLedger {ledger : Ledger} {table : Table LedgerId Ledger}
    {rest : Unit → Action α}
    (goesOn : (rest ()).Reports surroundings early limit start fun work =>
      work.ledgers = table.insert ledger.id ledger) :
    (saveLedger ledger >>= rest).Reports surroundings early limit start fun work =>
      work.ledgers = table :=
  reports_request (by simp) rfl (fun _ => goesOn) fun _ _ _ staged =>
    congrArg (Table.insert · ledger.id ledger) staged

theorem reports_openFirstLedger (opensAt : Instant) :
    (openFirstLedger opensAt).Reports surroundings Unspoken limit start UnitOfWork.Plain := by
  rw [openFirstLedger]
  refine reports_opened ?_
  have search : ledgers.Silent := silent_request trivial fun _ => trivial
  refine search.bind_reports fun found => ?_
  split
  · exact reports_failed _
  · refine silent_freshId.bind_reports fun id => ?_
    refine Reports.mono (reports_saveLedger ?_) fun _ plain => plain.ledgers
    refine reports_commit fun work staged _ => ⟨fun _ => False.elim, fun _ => ?_, trivial⟩
    exact ⟨_, UnitOfWork.publish_ledger staged, rfl, rfl⟩

def Unused (surroundings : Surroundings) (limit : Nat) (world : World) : Prop :=
  ∀ ledger ∈ world.store.tables.ledgers.values, ∀ n, world.issued ≤ n → n < limit →
    ledger.id ≠ ⟨surroundings.uuid n⟩

private theorem reports_rollOver (unused : Unused surroundings limit start) {current : Ledger}
    (stored : current ∈ start.store.tables.ledgers.values) (newStart : Instant) :
    (rollOver current newStart).Reports surroundings Unspoken limit start UnitOfWork.Plain := by
  rw [rollOver]
  refine reports_lift fun closed closes => ?_
  refine reports_freshId fun n later within => ?_
  refine Reports.mono (reports_saveLedger (reports_saveLedger ?_)) fun _ plain => plain.ledgers
  refine reports_commit fun work staged _ => ⟨fun _ => False.elim, fun _ => ?_, trivial⟩
  obtain ⟨-, -, rfl⟩ := Ledger.close_eq_ok_iff.mp closes
  obtain ⟨closed, opened⟩ := UnitOfWork.publish_ledgers start.store.tables
    (unused current stored n later within) staged
  exact ⟨⟨_, closed, rfl, rfl⟩, _, opened, rfl, rfl⟩

private theorem reports_requireOpenLedger {rest : Ledger → Action α}
    (goesOn : ∀ ledger ∈ start.store.tables.ledgers.values,
      (rest ledger).Reports surroundings early limit start UnitOfWork.Plain) :
    (requireOpenLedger >>= rest).Reports surroundings early limit start (· = .empty) := by
  let after (found : Option Ledger) (work : UnitOfWork) : Prop :=
    (∀ ledger, found = some ledger → ledger ∈ start.store.tables.ledgers.values) ∧ work.Plain
  have leads (world : World) (work : UnitOfWork) (hushed : start.Hushed early world)
      (none : work = .empty) :
      after (work.openLedger world.store.tables)
        (work.track (work.openLedger world.store.tables)) := by
    subst none
    refine ⟨fun ledger isFound => ?_, ?_⟩
    · rw [hushed.tables, UnitOfWork.openLedger] at isFound
      exact UnitOfWork.ledgerView_empty_mem (List.mem_of_find?_eq_some isFound)
    · cases UnitOfWork.empty.openLedger world.store.tables <;> exact ⟨rfl, rfl, rfl⟩
  rw [requireOpenLedger, bind_assoc]
  refine reports_request (by simp) rfl (fun found => ?_) leads
  refine reports_of_staged fun known => ?_
  exact reports_orThrow fun ledger isFound => goesOn ledger (known ledger isFound)

theorem reports_closePeriodAndOpenNext (unused : Unused surroundings limit start)
    (newStart : Instant) : (closePeriodAndOpenNext newStart).Reports surroundings Unspoken limit
      start UnitOfWork.Plain := by
  rw [closePeriodAndOpenNext]
  refine reports_openWork ?_
  refine reports_requireOpenLedger fun current stored => ?_
  have search : (latestPosting current.id).Silent := silent_request trivial fun _ => trivial
  refine search.bind_reports fun found => ?_
  cases found with
  | none => exact reports_rollOver unused stored newStart
  | some latest =>
      by_cases early : newStart ≤ latest
      · simp only [if_pos early]
        exact reports_quietly (by simp [Event.level]) (reports_failed _)
      · simp only [if_neg early]
        exact reports_rollOver unused stored newStart

end Bank

end DoubleEntry
