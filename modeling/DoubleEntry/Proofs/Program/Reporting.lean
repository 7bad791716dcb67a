import DoubleEntry.Proofs.Program.Fares
import DoubleEntry.Proofs.Program.Settling

/-!
# What an action reports

The service informs of each change in the log.  `Action.Reports` says what an action
comes to that runs alone and has published nothing so far: if it succeeds, every change
that was reported has come true, and if it fails, no change was reported but those that
it reports early.  An action is walked through request by request.  What is silent can be
passed over, and at the commit it is seen that what is reported after it was staged.
-/

namespace DoubleEntry

namespace Tables

def HasAccount (tables : Tables) (reference : String) : Prop :=
  ∃ account ∈ tables.accounts.values, account.reference = reference

def HasPosted (tables : Tables) (id : TransactionId) (amount : Money) : Prop :=
  ∃ transaction ∈ tables.transactions, transaction.id = id ∧ transaction.total = amount

end Tables

namespace Event

def CameTrue (tables : Tables) : Event → Prop
  | systemAccountCreated reference =>
    ∃ account ∈ tables.accounts.values, account.reference = reference ∧ account.purpose = .system
  | accountCreated id reference =>
    ∃ account ∈ tables.accounts.values, account.id = id ∧ account.reference = reference
  | firstLedgerOpened ledger start =>
    ∃ opened ∈ tables.ledgers.values, opened.name = ledger ∧ opened.opensAt = start
  | periodRolledOver closed opened start =>
    (∃ ledger ∈ tables.ledgers.values, ledger.name = closed ∧ ledger.closesAt = some start) ∧
      ∃ ledger ∈ tables.ledgers.values, ledger.name = opened ∧ ledger.opensAt = start
  | transferPosted transaction payer payee amount =>
    tables.HasPosted transaction amount ∧ tables.HasAccount payer ∧ tables.HasAccount payee
  | amountReserved transaction businessReference payer amount =>
    tables.HasPosted transaction amount ∧ tables.HasAccount payer ∧
      ∃ reservation, tables.reservations.get? businessReference = some reservation ∧
        reservation.accountReference = payer ∧ reservation.held = amount
  | reservationCharged transaction businessReference beneficiary amount status =>
    tables.HasPosted transaction amount ∧ tables.HasAccount beneficiary ∧
      ∃ reservation, tables.reservations.get? businessReference = some reservation ∧
        reservation.status = status
  | reservationReleased transaction businessReference payer amount =>
    tables.HasPosted transaction amount ∧ tables.HasAccount payer ∧
      ∃ reservation, tables.reservations.get? businessReference = some reservation ∧
        reservation.status ≠ .held
  | _ => True

end Event

structure UnitOfWork.Plain (work : UnitOfWork) : Prop where
  accounts : work.accounts = []
  ledgers : work.ledgers = ∅
  reservations : work.reservations = ∅

theorem UnitOfWork.plain_empty : empty.Plain := ⟨rfl, rfl, rfl⟩

/-- Nothing was published since `start`, and no change was reported but early. -/
structure World.Hushed (early : Event → Prop) (start world : World) : Prop where
  tables : world.store.tables = start.store.tables
  issued : start.issued ≤ world.issued
  log : ∃ events, world.log = start.log ++ events ∧
    ∀ event ∈ events, event.ReportsChange → early event

theorem World.hushed_self (early : Event → Prop) (world : World) : world.Hushed early world :=
  ⟨rfl, Nat.le_refl _, [], (List.append_nil _).symm, by simp⟩

theorem World.Hushed.record {early : Event → Prop} {start world : World} {event : Event}
    (hushed : start.Hushed early world) (allowed : event.ReportsChange → early event) :
    start.Hushed early (world.record event) := by
  obtain ⟨tables, issued, events, isLog, reported⟩ := hushed
  refine ⟨tables, issued, events ++ [event], ?_, fun other member => ?_⟩
  · rw [World.record, isLog, List.append_assoc]
  · rcases List.mem_append.mp member with before | isNew
    · exact reported other before
    · cases List.mem_singleton.mp isNew
      exact allowed

namespace Request

def logged : Request → List Event
  | record event => [event]
  | _ => []

variable {surroundings : Surroundings} {early : Event → Prop} {start world : World} {q : Request}
  {work : UnitOfWork}

theorem hushed_perform (hushed : start.Hushed early world) (noCommit : q ≠ .commit)
    (unlogged : q.logged = []) : start.Hushed early (q.perform surroundings world work).2.1 := by
  have kept : (q.perform surroundings world work).2.1.store.tables = world.store.tables :=
    perform_tables_of_not_commits surroundings fun commits => noCommit commits.1
  have sameLog : (q.perform surroundings world work).2.1.log = world.log := by
    cases q with
    | commit => exact absurd rfl noCommit
    | record event => cases unlogged
    | acquire account =>
        simp only [perform, performAcquire]
        split <;> rfl
    | _ => rfl
  refine ⟨kept.trans hushed.tables,
    Nat.le_trans hushed.issued (q.issued_le_perform surroundings world work), ?_⟩
  rw [sameLog]
  exact hushed.log

private theorem Silent.hushed (silent : q.Silent) (hushed : start.Hushed early world) :
    start.Hushed early (q.perform surroundings world work).2.1 := by
  cases q with
  | record event => exact hushed.record fun reports => absurd reports silent
  | _ => exact hushed_perform hushed silent.calm.ne_commit rfl

private theorem Silent.plain (silent : q.Silent) (plain : work.Plain) :
    (q.perform surroundings world work).2.2.Plain := by
  obtain ⟨accounts, ledgers, reservations⟩ := plain
  cases q with
  | acquire | openWork | commit | saveAccount | saveLedger | saveReservation => exact silent.elim
  | ledgerAt time =>
      simp only [perform, tracked]
      cases work.ledgerAt world.store.tables time <;> exact ⟨accounts, ledgers, reservations⟩
  | openLedger =>
      simp only [perform, tracked]
      cases work.openLedger world.store.tables <;> exact ⟨accounts, ledgers, reservations⟩
  | previousLedger ledger =>
      simp only [perform, tracked]
      cases work.previousLedger world.store.tables ledger <;>
        exact ⟨accounts, ledgers, reservations⟩
  | _ => exact ⟨accounts, ledgers, reservations⟩

end Request

/-- What a run has reported came true if it succeeded, and was reported early if it failed. -/
def Reported {α : Type} (early : Event → Prop) (start : World)
    (run : Except LedgerError α × World) : Prop :=
  ∃ events, run.2.log = start.log ++ events ∧ ∀ event ∈ events, event.ReportsChange →
    (∀ value, run.1 = .ok value → event.CameTrue run.2.store.tables) ∧
      ∀ e, run.1 = .error e → early event

namespace Action

variable {α β : Type}

/-! ## What is left to log -/

def Closes (told : Event → Prop) : Action α → Prop
  | done _ => True
  | failed _ => False
  | request (.record event) next => told event ∧ (next ()).Closes told
  | request _ _ => False

private theorem Closes.runFrom {told : Event → Prop} {action : Action α}
    (closes : action.Closes told)
    (surroundings : Surroundings) (world : World) (work : UnitOfWork) :
    ∃ value later events, action.runFrom surroundings world work = (.ok value, later) ∧
      later.store.tables = world.store.tables ∧ later.log = world.log ++ events ∧
      ∀ event ∈ events, told event := by
  induction action generalizing world work with
  | done value => exact ⟨value, _, [], rfl, rfl, (List.append_nil _).symm, by simp⟩
  | failed e => exact closes.elim
  | request q next ih =>
      cases q with
      | record event =>
          obtain ⟨value, later, events, ran, tables, isLog, all⟩ :=
            ih () closes.2 (world.record event) work
          refine ⟨value, later, event :: events, ran, tables, ?_, ?_⟩
          · rw [isLog]
            exact List.append_assoc _ [event] events
          · exact List.forall_mem_cons.mpr ⟨closes.1, all⟩
      | _ => exact closes.elim

/-! ## Reporting -/

/-- Run alone from where nothing was published since `start` and such records are staged, the
action reports what comes true.  It draws no identifier beyond `limit`. -/
def Reports (surroundings : Surroundings) (early : Event → Prop) (limit : Nat) (start : World)
    (staged : UnitOfWork → Prop) (action : Action α) : Prop :=
  ∀ world work, start.Hushed early world → staged work →
    (action.runFrom surroundings world work).2.issued ≤ limit →
    Reported early start (action.runFrom surroundings world work)

variable {surroundings : Surroundings} {early : Event → Prop} {limit : Nat} {start world : World}
  {staged : UnitOfWork → Prop}

theorem issued_le_runFrom (action : Action α) (world : World) (work : UnitOfWork) :
    world.issued ≤ (action.runFrom surroundings world work).2.issued := by
  rw [runFrom_eq]
  exact issued_le_exec surroundings action world work

theorem reported_of_error {e : LedgerError} (hushed : start.Hushed early world) :
    Reported early start ((.error e, world) : Except LedgerError α × World) := by
  obtain ⟨events, isLog, reported⟩ := hushed.log
  exact ⟨events, isLog, fun event member reports =>
    ⟨nofun, fun _ _ => reported event member reports⟩⟩

theorem reports_failed (e : LedgerError) :
    (failed e : Action α).Reports surroundings early limit start staged :=
  fun _ _ hushed _ _ => reported_of_error ⟨hushed.tables, hushed.issued, hushed.log⟩

theorem reports_done (value : α) (never : ∀ event, ¬ early event) :
    (done value).Reports surroundings early limit start staged := by
  intro world work hushed _ _
  obtain ⟨events, isLog, reported⟩ := hushed.log
  exact ⟨events, isLog, fun event member reports =>
    absurd (reported event member reports) (never event)⟩

theorem Reports.mono {more : UnitOfWork → Prop} {action : Action α}
    (reports : action.Reports surroundings early limit start staged)
    (staged_of : ∀ work, more work → staged work) :
    action.Reports surroundings early limit start more :=
  fun world work hushed isStaged within =>
    reports world work hushed (staged_of work isStaged) within

theorem reports_request {q : Request} {rest : q.Reply → Action α}
    {after : q.Reply → UnitOfWork → Prop} (noCommit : q ≠ .commit) (unlogged : q.logged = [])
    (goesOn : ∀ reply, (rest reply).Reports surroundings early limit start (after reply))
    (leads : ∀ world work, start.Hushed early world → staged work →
      after (q.perform surroundings world work).1 (q.perform surroundings world work).2.2) :
    (request q done >>= rest).Reports surroundings early limit start staged :=
  fun world work hushed isStaged within => goesOn _ _ _
    (Request.hushed_perform hushed noCommit unlogged) (leads world work hushed isStaged) within

theorem reports_record {event : Event} {rest : Unit → Action α}
    (allowed : event.ReportsChange → early event)
    (goesOn : (rest ()).Reports surroundings early limit start staged) :
    (record event >>= rest).Reports surroundings early limit start staged :=
  fun world work hushed isStaged within =>
    goesOn (world.record event) work (hushed.record allowed) isStaged within

theorem reports_quietly {event : Event} {rest : Unit → Action α} (quiet : event.level ≠ .info)
    (goesOn : (rest ()).Reports surroundings early limit start staged) :
    (record event >>= rest).Reports surroundings early limit start staged :=
  reports_record (fun reports => absurd reports.2 quiet) goesOn

theorem reports_now {rest : Instant → Action α}
    (goesOn : ∀ time, (rest time).Reports surroundings early limit start staged) :
    (now >>= rest).Reports surroundings early limit start staged :=
  reports_request (by simp) rfl goesOn fun _ _ _ isStaged => isStaged

theorem reports_freshId {kind : RecordKind} {rest : Id kind → Action α}
    (goesOn : ∀ n, start.issued ≤ n → n < limit →
      (rest ⟨surroundings.uuid n⟩).Reports surroundings early limit start staged) :
    (freshId >>= rest).Reports surroundings early limit start staged := by
  intro world work hushed isStaged within
  have drawn : world.issued < limit := Nat.lt_of_lt_of_le (Nat.lt_succ_self _)
    (Nat.le_trans (issued_le_runFrom _ { world with issued := world.issued + 1 } work) within)
  exact goesOn world.issued hushed.issued drawn _ work
    ⟨hushed.tables, Nat.le_succ_of_le hushed.issued, hushed.log⟩ isStaged within

theorem reports_openWork {rest : Unit → Action α}
    (goesOn : (rest ()).Reports surroundings early limit start (· = .empty)) :
    (openWork >>= rest).Reports surroundings early limit start staged :=
  reports_request (by simp) rfl (fun _ => goesOn) fun _ _ _ _ => rfl

theorem reports_opened {rest : Unit → Action α}
    (goesOn : (rest ()).Reports surroundings early limit start UnitOfWork.Plain) :
    (openWork >>= rest).Reports surroundings early limit start staged :=
  reports_openWork (goesOn.mono fun _ none => none ▸ UnitOfWork.plain_empty)

theorem reports_lift {result : Except LedgerError α} {rest : α → Action β}
    (goesOn : ∀ value, result = .ok value →
      (rest value).Reports surroundings early limit start staged) :
    ((liftM result : Action α) >>= rest).Reports surroundings early limit start staged := by
  cases result with
  | ok value => exact goesOn value rfl
  | error e => exact reports_failed e

theorem reports_orThrow {found : Option α} {e : LedgerError} {rest : α → Action β}
    (goesOn : ∀ value, found = some value →
      (rest value).Reports surroundings early limit start staged) :
    (orThrow found e >>= rest).Reports surroundings early limit start staged := by
  cases found with
  | some value => exact goesOn value rfl
  | none => exact reports_failed e

private theorem reports_acquire {account : AccountId} {rest : Unit → Action α}
    (goesOn : (rest ()).Reports surroundings early limit start UnitOfWork.Plain) :
    (acquire account >>= rest).Reports surroundings early limit start UnitOfWork.Plain := by
  have leads (world : World) (work : UnitOfWork) (_ : start.Hushed early world)
      (plain : work.Plain) : (Request.performAcquire world work account).2.2.Plain := by
    obtain ⟨guards, same⟩ := Request.performAcquire_work world work account
    rw [same]
    exact ⟨plain.accounts, plain.ledgers, plain.reservations⟩
  show (request (.acquire account) done >>= fun reply => ofExcept reply >>= rest).Reports
    surroundings early limit start UnitOfWork.Plain
  exact reports_request (by simp) rfl (fun _ => reports_lift fun _ _ => goesOn) leads

theorem reports_lockAccounts {accounts : List AccountId} {rest : Unit → Action α}
    (goesOn : (rest ()).Reports surroundings early limit start UnitOfWork.Plain) :
    (lockAccounts accounts >>= rest).Reports surroundings early limit start UnitOfWork.Plain := by
  induction accounts with
  | nil => exact goesOn
  | cons account accounts ih =>
      have first : (lockAccounts (account :: accounts) >>= rest) =
          acquire account >>= fun _ => lockAccounts accounts >>= rest := bind_assoc _ _ _
      rw [first]
      exact reports_acquire ih

theorem reports_of_staged {known : Prop} {action : Action α}
    (goesOn : known → action.Reports surroundings early limit start staged) :
    action.Reports surroundings early limit start fun work => known ∧ staged work :=
  fun world work hushed isStaged within => goesOn isStaged.1 world work hushed isStaged.2 within

theorem Silent.bind_reports {action : Action α} {rest : α → Action β} (silent : action.Silent)
    (goesOn : ∀ value, (rest value).Reports surroundings early limit start UnitOfWork.Plain) :
    (action >>= rest).Reports surroundings early limit start UnitOfWork.Plain := by
  induction action with
  | done value => exact goesOn value
  | failed e => exact reports_failed e
  | request q next ih =>
      intro world work hushed plain within
      exact ih _ (silent.2 _) _ _ (silent.1.hushed hushed) (silent.1.plain plain) within

theorem Silent.reports {action : Action α} (silent : action.Silent)
    (never : ∀ event, ¬ early event) :
    action.Reports surroundings early limit start UnitOfWork.Plain := by
  rw [← bind_pure action]
  exact silent.bind_reports fun value => reports_done value never

private theorem Closes.reported {action : Action α} {events : List Event} (work : UnitOfWork)
    (isLog : world.log = start.log ++ events)
    (comesTrue : ∀ event ∈ events, event.ReportsChange → event.CameTrue world.store.tables)
    (closes : action.Closes fun event =>
      event.ReportsChange → event.CameTrue world.store.tables) :
    Reported early start (action.runFrom surroundings world work) := by
  obtain ⟨value, later, told, ran, kept, isLater, all⟩ := closes.runFrom surroundings world work
  rw [ran]
  refine ⟨events ++ told, ?_, fun event member reports => ⟨fun _ _ => ?_, fun _ fails => ?_⟩⟩
  · rw [isLater, isLog, List.append_assoc]
  · show event.CameTrue later.store.tables
    rw [kept]
    exact (List.mem_append.mp member).elim (fun before => comesTrue event before reports)
      (fun after => all event after reports)
  · cases fails

theorem Reports.handleError {action : Action α} {handle : LedgerError → Action α}
    (reports : action.Reports surroundings early limit start staged) (settles : action.Settles)
    (handles : ∀ e, (handle e).Reports surroundings early limit start fun _ => True) :
    (action.handleError handle).Reports surroundings early limit start staged := by
  intro world work hushed isStaged within
  rcases executed : action.exec surroundings world work with ⟨result, world', work'⟩
  have ran : action.runFrom surroundings world work = (result, world'.drop work') := by
    rw [runFrom_eq, executed]
  cases result with
  | ok value =>
      have same : (action.handleError handle).runFrom surroundings world work =
          action.runFrom surroundings world work := by
        rw [runFrom_eq, runFrom_eq, exec_handleError handle executed, executed]
      rw [same] at within ⊢
      exact reports world work hushed isStaged within
  | error e =>
      have same : (action.handleError handle).runFrom surroundings world work =
          (handle e).runFrom surroundings world' work' := by
        rw [runFrom_eq, runFrom_eq, exec_handleError_of_error handle executed]
      rw [same] at within ⊢
      have drawn := Nat.le_trans (issued_le_runFrom (handle e) world' work') within
      refine handles e world' work' ⟨?_, ?_, ?_⟩ trivial within
      · have kept : (action.runFrom surroundings world work).2.store.tables =
            world.store.tables := settles.tables_of_error (congrArg Prod.fst ran)
        rw [ran] at kept
        exact kept.trans hushed.tables
      · have drawn := issued_le_exec surroundings action world work
        rw [executed] at drawn
        exact Nat.le_trans hushed.issued drawn
      · have reported := reports world work hushed isStaged (ran ▸ drawn)
        rw [ran] at reported
        obtain ⟨events, isLog, told⟩ := reported
        exact ⟨events, isLog, fun event member reports => (told event member reports).2 e rfl⟩

/-- Once it is committed, what was staged makes the reports come true. -/
theorem reports_commit {next : Unit → Action α}
    (closes : ∀ work, staged work → work.Acceptable start.store.tables →
      (∀ event, early event → event.CameTrue (work.publish start.store.tables)) ∧
      (next ()).Closes fun event =>
        event.ReportsChange → event.CameTrue (work.publish start.store.tables)) :
    (commit >>= next).Reports surroundings early limit start staged := by
  intro world work hushed isStaged _
  obtain ⟨tables, issued, events, isLog, reported⟩ := hushed
  have ran : (commit >>= next).runFrom surroundings world work =
      (ofExcept (Request.performCommit world work).1 >>= next).runFrom surroundings
        (Request.performCommit world work).2.1 (Request.performCommit world work).2.2 := rfl
  rw [ran]
  cases checked : work.check world.store.tables with
  | error e =>
      simp only [Request.performCommit, Store.commit, checked]
      exact reported_of_error ⟨tables, issued, events, isLog, reported⟩
  | ok =>
      have acceptable := UnitOfWork.check_eq_ok_iff.mp checked
      rw [tables] at acceptable
      obtain ⟨earlyTrue, closes⟩ := closes work isStaged acceptable
      let noted := Event.workCommitted work.transactions.length work.guards.length
      simp only [Request.performCommit, Store.commit, checked]
      refine Closes.reported .empty (?_ : _ = start.log ++ (events ++ [noted])) ?_ ?_
      · simp [World.record, isLog, noted]
      · show ∀ event ∈ events ++ [noted], event.ReportsChange →
          event.CameTrue (work.publish world.store.tables)
        rw [tables]
        intro event member reports
        rcases List.mem_append.mp member with before | isNoted
        · exact earlyTrue event (reported event before reports)
        · cases List.mem_singleton.mp isNoted
          trivial
      · show (next ()).Closes fun event =>
          event.ReportsChange → event.CameTrue (work.publish world.store.tables)
        rw [tables]
        exact closes

theorem Reported.map {run : Except LedgerError α × World} (reported : Reported early start run)
    (f : α → β) : Reported early start (f <$> run.1, run.2) := by
  obtain ⟨events, isLog, comesTrue⟩ := reported
  refine ⟨events, isLog, fun event member reports => ?_⟩
  obtain ⟨ofSuccess, ofFailure⟩ := comesTrue event member reports
  obtain ⟨result, world⟩ := run
  cases result with
  | ok value => exact ⟨fun _ _ => ofSuccess value rfl, fun _ fails => nomatch fails⟩
  | error e => exact ⟨fun _ succeeds => (nomatch succeeds), fun _ _ => ofFailure e rfl⟩

theorem runFrom_map (action : Action α) (f : α → β) (world : World) (work : UnitOfWork) :
    (f <$> action).runFrom surroundings world work =
      (f <$> (action.runFrom surroundings world work).1,
        (action.runFrom surroundings world work).2) := by
  induction action generalizing world work with
  | done value => rfl
  | failed e => rfl
  | request q next ih => exact ih _ _ _

end Action

end DoubleEntry
