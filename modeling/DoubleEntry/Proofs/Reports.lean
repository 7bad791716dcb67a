import DoubleEntry.Proofs.Atomicity
import DoubleEntry.Proofs.Service.Founding
import DoubleEntry.Proofs.Service.Reporting

/-!
# What the log reports

An operation that succeeds has done what it reports.  One that fails has reported nothing,
unless it was to ensure the system accounts: each of these is reported when it is staged,
and what follows can still fail.
-/

namespace DoubleEntry

namespace Bank

open DoubleEntry.Action

variable {surroundings : Surroundings} {limit : Nat} {start : World} {α : Type}

/-- What ensuring the system accounts reports before its commit: that it creates one of those that
are missing. -/
def Founds (refs : SystemRefs) (tables : Tables) (event : Event) : Prop :=
  ∃ reference ∈ refs.all, tables.accounts.get? reference = none ∧
    event = .systemAccountCreated (Text.trim reference)

structure Staffs (tables : Tables) (references : List String) (work : UnitOfWork) : Prop where
  trimmed : ∀ account ∈ work.accounts, Text.trim account.reference = account.reference
  staged : ∀ reference ∈ references, tables.accounts.get? reference = none →
    ∃ account ∈ work.accounts,
      account.reference = Text.trim reference ∧ account.purpose = .system

private theorem staffs_empty (tables : Tables) : Staffs tables [] .empty :=
  ⟨by simp [UnitOfWork.empty], by simp⟩

section Staffs

variable {tables : Tables} {references : List String} {work : UnitOfWork} {reference : String}
  {account : Account}

private theorem Staffs.found (staffs : Staffs tables references work) {accountType : AccountType}
    (suits : isSystemAccount accountType account = true)
    (found : work.findAccount tables reference = some account) :
    Staffs tables (reference :: references) work := by
  refine ⟨staffs.trimmed, List.forall_mem_cons.mpr ⟨fun missing => ?_, staffs.staged⟩⟩
  rw [UnitOfWork.findAccount] at found
  cases among : work.accounts.find? fun other => other.reference = reference with
  | none => simp [among, missing] at found
  | some other =>
      simp only [among, Option.some.injEq] at found
      subst found
      have named : other.reference = reference := by simpa using List.find?_some among
      have member := List.mem_of_find?_eq_some among
      refine ⟨other, member, ?_, ?_⟩
      · rw [← named, staffs.trimmed other member]
      · simpa [isSystemAccount] using (Bool.and_eq_true_iff.mp suits).2

private theorem Staffs.saved (staffs : Staffs tables references work)
    (named : account.reference = Text.trim reference) (isSystem : account.purpose = .system) :
    Staffs tables (reference :: references) (work.saveAccount account) := by
  have kept : ∀ other ∈ work.accounts, other ∈ (work.saveAccount account).accounts :=
    fun other member => List.mem_append_left _ member
  constructor
  · intro other member
    rcases List.mem_append.mp member with member | member
    · exact staffs.trimmed other member
    · rw [List.mem_singleton.mp member, named, Text.trim_trim]
  · refine List.forall_mem_cons.mpr ⟨fun _ => ?_, fun other member missing => ?_⟩
    · exact ⟨account, List.mem_append_right _ List.mem_cons_self, named, isSystem⟩
    · obtain ⟨staged, member, isStaged⟩ := staffs.staged other member missing
      exact ⟨staged, kept staged member, isStaged⟩

private theorem Staffs.cameTrue {refs : SystemRefs} (staffs : Staffs tables refs.all work)
    (acceptable : work.Acceptable tables) {event : Event} (founds : Founds refs tables event) :
    event.CameTrue (work.publish tables) := by
  obtain ⟨reference, member, missing, rfl⟩ := founds
  obtain ⟨account, staged, isStaged⟩ := staffs.staged reference member missing
  refine ⟨account, ?_, isStaged⟩
  rw [UnitOfWork.publish_accounts_values acceptable]
  exact List.mem_append_right _ staged

end Staffs

private theorem reports_systemAccount {refs : SystemRefs} {references : List String}
    {reference name : String} {accountType : AccountType} {rest : Account → Action α}
    (member : reference ∈ refs.all)
    (goesOn : ∀ account, (rest account).Reports surroundings (Founds refs start.store.tables) limit
      start (Staffs start.store.tables (reference :: references))) :
    (systemAccount reference name accountType >>= rest).Reports surroundings
      (Founds refs start.store.tables) limit start (Staffs start.store.tables references) := by
  let after (found : Option Account) (work : UnitOfWork) : Prop :=
    Staffs start.store.tables references work ∧
      work.findAccount start.store.tables reference = found
  have leads (world : World) (work : UnitOfWork)
      (hushed : start.Hushed (Founds refs start.store.tables) world)
      (staffs : Staffs start.store.tables references work) :
      after (work.findAccount world.store.tables reference) work := by
    refine ⟨staffs, ?_⟩
    rw [hushed.tables]
  rw [systemAccount, bind_assoc]
  refine reports_request (by simp) rfl (fun found => ?_) leads
  cases found with
  | some account =>
      dsimp only
      split
      next suits => exact (goesOn account).mono fun work looked => looked.1.found suits looked.2
      next => exact reports_failed _
  | none =>
      have missing : ∀ work, after none work → start.store.tables.accounts.get? reference = none ∧
          Staffs start.store.tables references work := by
        rintro work ⟨staffs, nothing⟩
        rw [UnitOfWork.findAccount] at nothing
        split at nothing
        · cases nothing
        · exact ⟨nothing, staffs⟩
      refine Reports.mono (reports_of_staged fun isMissing => ?_) missing
      dsimp only
      simp only [bind_assoc, pure_bind]
      refine reports_freshId fun n _ _ => ?_
      refine reports_now fun createdAt => ?_
      refine reports_lift fun account created => ?_
      obtain rfl := Account.create_eq_ok created
      exact reports_request (by simp) rfl
        (fun _ => reports_record (fun _ => ⟨reference, member, isMissing, rfl⟩) (goesOn _))
        fun _ _ _ staffs => staffs.saved rfl rfl

private theorem reports_loadSystemAccounts (refs : SystemRefs) {staged : UnitOfWork → Prop} :
    (loadSystemAccounts refs).Reports surroundings (Founds refs start.store.tables) limit start
      staged := by
  rw [loadSystemAccounts]
  refine reports_openWork (Reports.mono (reports_systemAccount (by simp [SystemRefs.all])
    fun bankingReserve => ?_) fun work none => none ▸ staffs_empty start.store.tables)
  refine reports_systemAccount (by simp [SystemRefs.all]) fun reservations => ?_
  refine reports_systemAccount (by simp [SystemRefs.all]) fun premiums => ?_
  refine reports_commit fun work staffs acceptable => ⟨fun event founds => ?_, trivial⟩
  refine Staffs.cameTrue ⟨staffs.trimmed, fun reference member => ?_⟩ acceptable founds
  have among : reference ∈ [refs.premiums, refs.reservations, refs.bankingReserve] := by
    simp only [SystemRefs.all, List.mem_cons] at member ⊢
    tauto
  exact staffs.staged reference among

private theorem reports_ensureSystemAccounts (refs : SystemRefs) :
    (ensureSystemAccounts refs).Reports surroundings (Founds refs start.store.tables) limit start
      UnitOfWork.Plain := by
  rw [ensureSystemAccounts]
  refine (reports_loadSystemAccounts refs).handleError (settles_loadSystemAccounts refs)
    fun e => ?_
  split
  · exact reports_quietly (by simp [Event.level]) (reports_loadSystemAccounts refs)
  · exact reports_failed _

end Bank

namespace Operation

variable {surroundings : Surroundings} {settings : LedgerSettings} {world : World}

def early (settings : LedgerSettings) (tables : Tables) : Operation → Event → Prop
  | ensureSystemAccounts => Bank.Founds settings.refs tables
  | _ => Bank.Unspoken

private theorem perform_reports {limit : Nat} (unused : Bank.Unused surroundings limit world)
    (operation : Operation) : (operation.perform settings).Reports surroundings
      (operation.early settings world.store.tables) limit world UnitOfWork.Plain := by
  cases operation with
  | ensureSystemAccounts => exact Bank.reports_ensureSystemAccounts settings.refs
  | createAccount reference name accountType purpose =>
      exact Bank.reports_createAccount settings.refs reference name accountType purpose
  | lookupAccount reference => exact Bank.reports_lookupAccount reference
  | openFirstLedger start => exact Bank.reports_openFirstLedger start
  | currentLedger => exact Bank.reports_currentLedger
  | closePeriodAndOpenNext newStart => exact Bank.reports_closePeriodAndOpenNext unused newStart
  | getOrCreateBalance account time => exact Bank.reports_getOrCreateBalance account time
  | getBalance reference time => exact Bank.reports_getBalance reference time
  | transfer payer payee posting => exact Bank.reports_transfer payer payee posting
  | deposit reference posting => exact Bank.reports_transfer _ reference posting
  | withdraw reference posting => exact Bank.reports_transfer reference _ posting
  | reserve reference businessReference posting =>
      exact Bank.reports_reserve reference businessReference posting
  | charge reference businessReference posting =>
      exact Bank.reports_charge reference businessReference posting
  | release businessReference description time =>
      exact Bank.reports_release businessReference description time

def DrawsUnused (surroundings : Surroundings) (settings : LedgerSettings) (world : World)
    (operation : Operation) : Prop :=
  Bank.Unused surroundings (operation.run surroundings settings world).2.issued world

private theorem run_reported (operation : Operation)
    (unused : operation.DrawsUnused surroundings settings world) :
    Reported (operation.early settings world.store.tables) world
      (operation.run surroundings settings world) := by
  rw [DrawsUnused, run, Action.run, action, Action.runFrom_map] at unused
  rw [run, Action.run, action, Action.runFrom_map]
  exact Action.Reported.map (operation.perform_reports unused world .empty (world.hushed_self _)
    UnitOfWork.plain_empty (Nat.le_refl _)) operation.outcome

/-- What the events that a run has logged tell of it. -/
inductive Recounts (settings : LedgerSettings) (operation : Operation) (before : World)
    (events : List Event) : Except LedgerError Outcome × World → Prop where
  | succeeds {outcome : Outcome} {after : World} (logged : after.log = before.log ++ events)
      (cameTrue : ∀ event ∈ events, event.ReportsChange → event.CameTrue after.store.tables) :
      Recounts settings operation before events (.ok outcome, after)
  | fails {e : LedgerError} {after : World} (logged : after.log = before.log ++ events)
      (kept : after.store.tables = before.store.tables)
      (founds : ∀ event ∈ events, event.ReportsChange → operation = .ensureSystemAccounts ∧
        Bank.Founds settings.refs before.store.tables event) :
      Recounts settings operation before events (.error e, after)

/-- Whatever the store holds: every change that a successful operation reports was made, and one
that fails reports none, but for the creation of missing system accounts when these are ensured. -/
theorem recounts (surroundings : Surroundings) (settings : LedgerSettings) (world : World)
    (operation : Operation) (unused : operation.DrawsUnused surroundings settings world) :
    ∃ events, operation.Recounts settings world events
      (operation.run surroundings settings world) := by
  obtain ⟨events, logged, reported⟩ := operation.run_reported unused
  have kept : ∀ e, (operation.run surroundings settings world).1 = .error e →
      (operation.run surroundings settings world).2.store.tables = world.store.tables :=
    fun e fails => (operation.settles settings).tables_of_error fails
  refine ⟨events, ?_⟩
  generalize operation.run surroundings settings world = run at logged reported kept
  obtain ⟨result, after⟩ := run
  cases result with
  | ok outcome =>
      exact .succeeds logged fun event member reports =>
        (reported event member reports).1 outcome rfl
  | error e =>
      refine .fails logged (kept e rfl) fun event member reports => ?_
      have early := (reported event member reports).2 e rfl
      cases operation with
      | ensureSystemAccounts => exact ⟨rfl, early⟩
      | _ => exact early.elim

theorem recounts_rollover : ∃ (world : World) (start : Instant),
    (closePeriodAndOpenNext start).DrawsUnused .counting .standard world ∧
    ((closePeriodAndOpenNext start).run .counting .standard world).2.log.getLast? =
      some (.periodRolledOver "1970" "1970" start) ∧
    ∃ events, (closePeriodAndOpenNext start).Recounts .standard world events
      ((closePeriodAndOpenNext start).run .counting .standard world) := by
  let start : Instant := ⟨100, 0, by decide, by decide, by decide⟩
  let world := ((openFirstLedger .epoch).run .counting .standard .empty).2
  have ledgers : world.store.tables.ledgers.values = [⟨⟨⟨0⟩⟩, "1970", .epoch, none, 1⟩] := by
    decide +kernel
  have issued : world.issued = 1 ∧
      ((closePeriodAndOpenNext start).run .counting .standard world).2.issued = 2 := by
    decide +kernel
  have unused : (closePeriodAndOpenNext start).DrawsUnused .counting .standard world := by
    intro ledger stored n later within
    rw [ledgers, List.mem_singleton] at stored
    obtain rfl : n = 1 := by omega
    subst stored
    decide
  exact ⟨world, start, unused, by decide +kernel, recounts .counting .standard world _ unused⟩

/-- The reservations account cannot serve, after the banking reserve was staged and reported. -/
theorem reports_uncommitted : ∃ world : World, Operation.Reachable .counting .standard world ∧
    (ensureSystemAccounts.run .counting .standard world).1 =
      .error (.systemAccountMismatch "reservations" .asset .system) ∧
    (ensureSystemAccounts.run .counting .standard world).2.store.tables = world.store.tables ∧
    (ensureSystemAccounts.run .counting .standard world).2.log =
      world.log ++ [.systemAccountCreated "bank"] ∧
    (Event.systemAccountCreated "bank").ReportsChange ∧
    ¬ (Event.systemAccountCreated "bank").CameTrue
      (ensureSystemAccounts.run .counting .standard world).2.store.tables := by
  have start : Operation.Reachable .counting .standard .empty := .empty
  have reachable := start.runAll [.createAccount "reservations" "Claims" .asset .system]
    (by simp [Operation.Admissible])
  refine ⟨_, reachable, by decide +kernel, by decide +kernel, by decide +kernel, by decide, ?_⟩
  have accounts : ∀ world : World, world.store.tables.accounts.values.map Account.reference =
      ["reservations"] → ¬ (Event.systemAccountCreated "bank").CameTrue world.store.tables := by
    rintro world references ⟨account, member, isBank, -⟩
    have among := List.mem_map_of_mem (f := Account.reference) member
    rw [references, isBank] at among
    simp at among
  exact accounts _ (by decide +kernel)

end Operation

end DoubleEntry
