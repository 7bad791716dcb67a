import DoubleEntry.Proofs.Program.Actions
import DoubleEntry.Proofs.Store.Commit
import DoubleEntry.Proofs.Store.Sound

/-!
# Actions that run alone

A point is what matters of a world and a unit of work when nobody else acts: the
tables, the counts of the supplies, and what is staged.  `Action.Yields` says that
an action, run alone from a point, comes to a value at another point.  Locks are
free, ledgers keep the versions they are read with, and the log does not matter.
-/

namespace DoubleEntry

structure Point where
  tables : Tables
  issued : Nat
  ticks : Nat
  staged : UnitOfWork

/-- The world and the unit of work stand at a point, while others hold the locks in `busy`. -/
structure Point.At (point : Point) (busy : List AccountId) (world : World) (work : UnitOfWork) :
    Prop where
  tables : world.store.tables = point.tables
  issued : world.issued = point.issued
  ticks : world.ticks = point.ticks
  staged : work.bare = point.staged.bare
  reads : work.ReadsCurrent point.tables
  locks : ∀ account ∈ world.store.locks.held, account ∈ work.guards ∨ account ∈ busy

namespace Point.At

variable {point : Point} {busy : List AccountId} {world : World} {work : UnitOfWork}

theorem accounts_eq (stands : point.At busy world work) : work.accounts = point.staged.accounts :=
  (UnitOfWork.bare_eq_bare_iff.mp stands.staged).1

theorem ledgers_eq (stands : point.At busy world work) : work.ledgers = point.staged.ledgers :=
  (UnitOfWork.bare_eq_bare_iff.mp stands.staged).2.1

private theorem balances_eq (stands : point.At busy world work) :
    work.balances = point.staged.balances :=
  (UnitOfWork.bare_eq_bare_iff.mp stands.staged).2.2.1

private theorem transactions_eq (stands : point.At busy world work) :
    work.transactions = point.staged.transactions :=
  (UnitOfWork.bare_eq_bare_iff.mp stands.staged).2.2.2.1

private theorem reservations_eq (stands : point.At busy world work) :
    work.reservations = point.staged.reservations :=
  (UnitOfWork.bare_eq_bare_iff.mp stands.staged).2.2.2.2

theorem start (world : World) : Point.At ⟨world.store.tables, world.issued, world.ticks, .empty⟩
    world.store.locks.held world .empty where
  tables := rfl
  issued := rfl
  ticks := rfl
  staged := rfl
  reads := by simp [UnitOfWork.ReadsCurrent, UnitOfWork.empty]
  locks _ isHeld := .inr isHeld

end Point.At

/-- Identifiers or instants that a supply holds from a position on. -/
def Supplies {β : Type} (supply : Nat → β) : Nat → List β → Prop
  | _, [] => True
  | position, value :: values => supply position = value ∧ Supplies supply (position + 1) values

theorem supplies_append {β : Type} {supply : Nat → β} {position : Nat} {first second : List β} :
    Supplies supply position (first ++ second) ↔
      Supplies supply position first ∧ Supplies supply (position + first.length) second := by
  induction first generalizing position with
  | nil => simp [Supplies]
  | cons value values ih =>
      simp only [List.cons_append, Supplies, ih, List.length_cons, and_assoc]
      rw [show position + 1 + values.length = position + (values.length + 1) by omega]

namespace Action

variable {α β : Type} {surroundings : Surroundings} {busy : List AccountId}
  {before middle after : Point}

/-- Run alone from a point, the action comes to `value` at another point. -/
def Yields (surroundings : Surroundings) (busy : List AccountId) (action : Action α)
    (before : Point) (value : α) (after : Point) : Prop :=
  ∀ world work, before.At busy world work → ∃ world' work',
    action.exec surroundings world work = (.ok value, world', work') ∧ after.At busy world' work'

/-! ## Sequences -/

theorem yields_pure (value : α) (point : Point) :
    (pure value : Action α).Yields surroundings busy point value point :=
  fun world work stands => ⟨world, work, rfl, stands⟩

theorem Yields.bind {action : Action α} {rest : α → Action β} {value : α} {result : β}
    (first : action.Yields surroundings busy before value middle)
    (second : (rest value).Yields surroundings busy middle result after) :
    (action >>= rest).Yields surroundings busy before result after := by
  intro world work stands
  obtain ⟨world', work', executed, stands'⟩ := first world work stands
  obtain ⟨world'', work'', executed', stands''⟩ := second world' work' stands'
  exact ⟨world'', work'', (exec_bind rest executed).trans executed', stands''⟩

theorem Yields.handleError {action : Action α} {value : α} (handle : LedgerError → Action α)
    (succeeds : action.Yields surroundings busy before value after) :
    (action.handleError handle).Yields surroundings busy before value after := by
  intro world work stands
  obtain ⟨world', work', executed, stands'⟩ := succeeds world work stands
  exact ⟨world', work', exec_handleError handle executed, stands'⟩

theorem Yields.map {action : Action α} {value : α} (f : α → β)
    (yields : action.Yields surroundings busy before value after) :
    (f <$> action).Yields surroundings busy before (f value) after :=
  yields.bind (yields_pure (f value) after)

theorem yields_lift {result : Except LedgerError α} {value : α} (succeeds : result = .ok value)
    (point : Point) : (liftM result : Action α).Yields surroundings busy point value point := by
  subst succeeds
  exact yields_pure value point

theorem yields_orThrow {found : Option α} {value : α} (isFound : found = some value)
    (e : LedgerError) (point : Point) :
    (orThrow found e).Yields surroundings busy point value point := by
  subst isFound
  exact yields_pure value point

/-! ## Requests -/

variable {tables : Tables} {issued ticks : Nat} {staged : UnitOfWork} {point : Point}

theorem yields_request {q : Request} {reply : q.Reply}
    (answers : ∀ world work, before.At busy world work → ∃ world' work',
      q.perform surroundings world work = (reply, world', work') ∧ after.At busy world' work') :
    (request q done).Yields surroundings busy before reply after := by
  intro world work stands
  obtain ⟨world', work', performed, stands'⟩ := answers world work stands
  refine ⟨world', work', ?_, stands'⟩
  rw [exec, performed]
  rfl

theorem yields_query {q : Request} {reply : q.Reply}
    (answers : ∀ world work, point.At busy world work →
      q.perform surroundings world work = (reply, world, work)) :
    (request q done).Yields surroundings busy point reply point :=
  yields_request fun world work stands => ⟨world, work, answers world work stands, stands⟩

theorem mem_busy_of_release {locks : Locks} {guards : List AccountId}
    (held : ∀ account ∈ locks.held, account ∈ guards ∨ account ∈ busy) :
    ∀ account ∈ (locks.release guards).held, account ∈ busy := by
  intro account member
  obtain ⟨member, released⟩ := List.mem_filter.mp member
  rcases held account member with own | foreign
  · exact absurd own (of_decide_eq_true released)
  · exact foreign

theorem yields_openWork : openWork.Yields surroundings busy ⟨tables, issued, ticks, staged⟩ ()
    ⟨tables, issued, ticks, .empty⟩ := by
  refine yields_request fun world work stands => ⟨world.drop work, .empty, rfl, ?_⟩
  constructor
  case tables => exact stands.tables
  case issued => exact stands.issued
  case ticks => exact stands.ticks
  case staged => rfl
  case reads => exact nofun
  case locks =>
    exact fun account member => .inr (mem_busy_of_release stands.locks account member)

private theorem yields_acquire {account : AccountId} (available : account ∉ busy) :
    (acquire account).Yields surroundings busy point () point := by
  intro world work stands
  by_cases held : account ∈ work.guards
  · refine ⟨world, work, ?_, stands⟩
    simp [acquire, exec, Request.perform, Request.performAcquire, Store.acquire, held, ofExcept]
  · have free : account ∉ world.store.locks.held := by
      intro member
      rcases stands.locks account member with own | foreign
      · exact held own
      · exact available foreign
    obtain ⟨locks, got, isHeld⟩ : ∃ locks, world.store.locks.acquire? account = some locks ∧
        locks.held = account :: world.store.locks.held := by
      rw [Locks.acquire?, if_neg free]
      exact ⟨_, rfl, rfl⟩
    refine ⟨{ world with store := { world.store with locks } },
      { work with guards := work.guards ++ [account] }, ?_, ?_⟩
    · simp [acquire, exec, Request.perform, Request.performAcquire, Store.acquire, held, got,
        ofExcept]
    · constructor
      case tables => exact stands.tables
      case issued => exact stands.issued
      case ticks => exact stands.ticks
      case staged => exact stands.staged
      case reads => exact stands.reads
      case locks =>
        intro other member
        have member : other ∈ locks.held := member
        rw [isHeld] at member
        rcases List.mem_cons.mp member with rfl | member
        · simp
        · exact (stands.locks other member).imp_left (List.mem_append_left _)

theorem yields_lockAccounts {accounts : List AccountId}
    (available : ∀ account ∈ accounts, account ∉ busy) :
    (lockAccounts accounts).Yields surroundings busy point () point := by
  induction accounts with
  | nil => exact yields_pure () point
  | cons account rest ih =>
      obtain ⟨first, others⟩ := List.forall_mem_cons.mp available
      exact (yields_acquire first).bind (ih others)

theorem yields_findAccount (reference : String) :
    (findAccount reference).Yields surroundings busy point
      (point.staged.findAccount point.tables reference) point := by
  refine yields_query fun world work stands => ?_
  simp only [Request.perform, UnitOfWork.findAccount, stands.accounts_eq, stands.tables]

theorem yields_findBalance (key : BalanceKey) :
    (findBalance key).Yields surroundings busy point
      (point.staged.findBalance point.tables key) point := by
  refine yields_query fun world work stands => ?_
  simp only [Request.perform, UnitOfWork.findBalance, stands.balances_eq, stands.tables]

theorem yields_findReservation (businessReference : String) :
    (findReservation businessReference).Yields surroundings busy point
      (point.staged.findReservation point.tables businessReference) point := by
  refine yields_query fun world work stands => ?_
  simp only [Request.perform, UnitOfWork.findReservation, stands.reservations_eq, stands.tables]

theorem ledgerView_congr {world : World} {work : UnitOfWork} (stands : point.At busy world work) :
    work.ledgerView world.store.tables = point.staged.ledgerView point.tables := by
  simp only [UnitOfWork.ledgerView, stands.ledgers_eq, stands.tables]

theorem yields_ledgers :
    ledgers.Yields surroundings busy point (point.staged.ledgerView point.tables) point := by
  refine yields_query fun world work stands => ?_
  simp only [Request.perform, ledgerView_congr stands]

theorem yields_latestPosting (id : LedgerId) :
    (latestPosting id).Yields surroundings busy point
      (point.staged.latestPosting point.tables id) point := by
  refine yields_query fun world work stands => ?_
  simp only [Request.perform, UnitOfWork.latestPosting, stands.transactions_eq, stands.tables]

theorem at_track {world : World} {work : UnitOfWork} {found : Option Ledger}
    (stands : point.At busy world work)
    (stored : ∀ ledger, found = some ledger →
      point.tables.ledgers.get? ledger.id = some ledger) :
    point.At busy world (work.track found) := by
  cases found with
  | none => exact stands
  | some ledger =>
      constructor
      case tables => exact stands.tables
      case issued => exact stands.issued
      case ticks => exact stands.ticks
      case staged => exact stands.staged
      case locks => exact stands.locks
      case reads =>
        intro entry member
        rcases Table.mem_entries_of_mem_insert member with rfl | member
        · rw [stored ledger rfl]
          rfl
        · exact stands.reads entry member

theorem yields_previousLedger {refs : SystemRefs} (sound : point.tables.Sound refs)
    (unstaged : point.staged.ledgers = ∅) (ledger : Ledger) :
    (previousLedger ledger).Yields surroundings busy point
      (point.tables.earlier ledger.opensAt).getLast? point := by
  refine yields_request fun world work stands => ?_
  have answer : work.previousLedger world.store.tables ledger =
      (point.tables.earlier ledger.opensAt).getLast? := by
    rw [stands.tables]
    exact Tables.previousLedger_eq (stands.ledgers_eq.trans unstaged) sound.tiles ledger
  refine ⟨world, work.track (work.previousLedger world.store.tables ledger), ?_, ?_⟩
  · rw [← answer]
    rfl
  · refine at_track stands fun found isFound => ?_
    rw [answer] at isFound
    exact sound.ledgers.get?_name (Tables.mem_earlier.mp (List.mem_of_getLast? isFound)).1

theorem yields_ledgerAt {refs : SystemRefs} (sound : point.tables.Sound refs)
    (unstaged : point.staged.ledgers = ∅) {time : Instant} {ledger : Ledger}
    (stored : ledger ∈ point.tables.ledgers.values) (covers : ledger.covers time = true) :
    (ledgerAt time).Yields surroundings busy point (some ledger) point := by
  refine yields_request fun world work stands => ?_
  have answer : work.ledgerAt world.store.tables time = some ledger := by
    rw [stands.tables]
    exact (UnitOfWork.ledgerAt_eq_some_iff (stands.ledgers_eq.trans unstaged) sound.tiles).mpr
      ⟨stored, covers⟩
  refine ⟨world, work.track (work.ledgerAt world.store.tables time), ?_, ?_⟩
  · rw [← answer]
    rfl
  · refine at_track stands fun found isFound => ?_
    rw [answer] at isFound
    cases isFound
    exact sound.ledgers.get?_name stored

theorem yields_openLedger {refs : SystemRefs} (sound : point.tables.Sound refs)
    (unstaged : point.staged.ledgers = ∅) {ledger : Ledger}
    (stored : ledger ∈ point.tables.ledgers.values) (isOpen : ledger.isOpen = true) :
    openLedger.Yields surroundings busy point (some ledger) point := by
  refine yields_request fun world work stands => ?_
  have answer : work.openLedger world.store.tables = some ledger := by
    rw [stands.tables]
    exact (UnitOfWork.openLedger_eq_some_iff (stands.ledgers_eq.trans unstaged) sound.tiles).mpr
      ⟨stored, isOpen⟩
  refine ⟨world, work.track (work.openLedger world.store.tables), ?_, ?_⟩
  · rw [← answer]
    rfl
  · refine at_track stands fun found isFound => ?_
    rw [answer] at isFound
    cases isFound
    exact sound.ledgers.get?_name stored

theorem yields_stage {q : Request} {reply : q.Reply} (stage : UnitOfWork → UnitOfWork)
    (stages : ∀ world work, q.perform surroundings world work = (reply, world, stage work))
    (bare : ∀ work other : UnitOfWork, work.bare = other.bare →
      (stage work).bare = (stage other).bare)
    (reads : ∀ work, (stage work).ledgerReads = work.ledgerReads)
    (guards : ∀ work, (stage work).guards = work.guards) :
    (request q done).Yields surroundings busy ⟨tables, issued, ticks, staged⟩ reply
      ⟨tables, issued, ticks, stage staged⟩ := by
  refine yields_request fun world work stands => ⟨world, stage work, stages world work, ?_⟩
  constructor
  case tables => exact stands.tables
  case issued => exact stands.issued
  case ticks => exact stands.ticks
  case staged => exact bare _ _ stands.staged
  case reads =>
    rw [UnitOfWork.ReadsCurrent, reads]
    exact stands.reads
  case locks =>
    rw [guards]
    exact stands.locks

theorem yields_saveAccount (account : Account) :
    (saveAccount account).Yields surroundings busy ⟨tables, issued, ticks, staged⟩ ()
      ⟨tables, issued, ticks, staged.saveAccount account⟩ := by
  refine yields_stage (fun work => work.saveAccount account) (fun _ _ => rfl) ?_ (fun _ => rfl)
    (fun _ => rfl)
  intro work other same
  simp_all [UnitOfWork.bare_eq_bare_iff, UnitOfWork.saveAccount]

theorem yields_saveLedger (ledger : Ledger) :
    (saveLedger ledger).Yields surroundings busy ⟨tables, issued, ticks, staged⟩ ()
      ⟨tables, issued, ticks, staged.saveLedger ledger⟩ := by
  refine yields_stage (fun work => work.saveLedger ledger) (fun _ _ => rfl) ?_ (fun _ => rfl)
    (fun _ => rfl)
  intro work other same
  simp_all [UnitOfWork.bare_eq_bare_iff, UnitOfWork.saveLedger]

theorem yields_saveBalance (balance : Balance) :
    (saveBalance balance).Yields surroundings busy ⟨tables, issued, ticks, staged⟩ ()
      ⟨tables, issued, ticks, staged.saveBalance balance⟩ := by
  refine yields_stage (fun work => work.saveBalance balance) (fun _ _ => rfl) ?_ (fun _ => rfl)
    (fun _ => rfl)
  intro work other same
  simp_all [UnitOfWork.bare_eq_bare_iff, UnitOfWork.saveBalance]

theorem yields_saveTransaction (transaction : Transaction) :
    (saveTransaction transaction).Yields surroundings busy ⟨tables, issued, ticks, staged⟩ ()
      ⟨tables, issued, ticks, staged.saveTransaction transaction⟩ := by
  refine yields_stage (fun work => work.saveTransaction transaction) (fun _ _ => rfl) ?_
    (fun _ => rfl) (fun _ => rfl)
  intro work other same
  simp_all [UnitOfWork.bare_eq_bare_iff, UnitOfWork.saveTransaction]

theorem yields_saveReservation (reservation : Reservation) :
    (saveReservation reservation).Yields surroundings busy ⟨tables, issued, ticks, staged⟩ ()
      ⟨tables, issued, ticks, staged.saveReservation reservation⟩ := by
  refine yields_stage (fun work => work.saveReservation reservation) (fun _ _ => rfl) ?_
    (fun _ => rfl) (fun _ => rfl)
  intro work other same
  simp_all [UnitOfWork.bare_eq_bare_iff, UnitOfWork.saveReservation]

theorem yields_record (event : Event) : (record event).Yields surroundings busy point () point :=
  yields_request fun world work stands => ⟨world.record event, work, rfl,
    ⟨stands.tables, stands.issued, stands.ticks, stands.staged, stands.reads, stands.locks⟩⟩

theorem yields_freshId {kind : RecordKind} {uuid : Uuid}
    (supplied : surroundings.uuid issued = uuid) :
    (freshId : Action (Id kind)).Yields surroundings busy ⟨tables, issued, ticks, staged⟩ ⟨uuid⟩
      ⟨tables, issued + 1, ticks, staged⟩ := by
  intro world work stands
  refine ⟨{ world with issued := world.issued + 1 }, work, ?_, ?_⟩
  · have issued_eq : world.issued = issued := stands.issued
    rw [← supplied, ← issued_eq]
    rfl
  · exact ⟨stands.tables, congrArg (· + 1) stands.issued, stands.ticks, stands.staged, stands.reads,
      stands.locks⟩

theorem yields_now {time : Instant} (supplied : surroundings.clock ticks = time) :
    now.Yields surroundings busy ⟨tables, issued, ticks, staged⟩ time
      ⟨tables, issued, ticks + 1, staged⟩ := by
  intro world work stands
  refine ⟨{ world with ticks := world.ticks + 1 }, work, ?_, ?_⟩
  · have ticks_eq : world.ticks = ticks := stands.ticks
    rw [← supplied, ← ticks_eq]
    rfl
  · exact ⟨stands.tables, stands.issued, congrArg (· + 1) stands.ticks, stands.staged, stands.reads,
      stands.locks⟩

theorem yields_commit (acceptable : staged.Acceptable tables) :
    commit.Yields surroundings busy ⟨tables, issued, ticks, staged⟩ ()
      ⟨staged.publish tables, issued, ticks, .empty⟩ := by
  intro world work stands
  have tables_eq : world.store.tables = tables := stands.tables
  have accepted : work.check world.store.tables = .ok () := by
    rw [UnitOfWork.check_eq_ok_iff, tables_eq]
    exact acceptable.of_bare stands.staged.symm stands.reads
  refine ⟨((Request.commit).perform surroundings world work).2.1, .empty, ?_, ?_⟩
  · simp [commit, exec, Request.perform, Request.performCommit, Store.commit, accepted, ofExcept]
  · simp only [Request.perform, Request.performCommit, Store.commit, accepted]
    constructor
    case tables =>
      show work.publish world.store.tables = staged.publish tables
      rw [tables_eq, UnitOfWork.publish_eq_of_bare stands.staged]
    case issued => exact stands.issued
    case ticks => exact stands.ticks
    case staged => rfl
    case reads => exact nofun
    case locks =>
      exact fun account member => .inr (mem_busy_of_release stands.locks account member)

/-! ## Running alone -/

theorem Yields.run {action : Action α} {value : α} {world : World}
    (yields : action.Yields surroundings world.store.locks.held
      ⟨world.store.tables, world.issued, world.ticks, .empty⟩ value after) :
    (action.run surroundings world).1 = .ok value ∧
      (action.run surroundings world).2.store.tables = after.tables := by
  obtain ⟨world', work', executed, stands⟩ := yields world .empty (.start world)
  rw [Action.run, runFrom_eq, executed]
  exact ⟨rfl, stands.tables⟩

theorem Yields.run_of_free {action : Action α} {value : α} {world : World}
    (free : world.store.locks.held = [])
    (yields : action.Yields surroundings []
      ⟨world.store.tables, world.issued, world.ticks, .empty⟩ value after) :
    (action.run surroundings world).1 = .ok value ∧
      (action.run surroundings world).2.store.tables = after.tables := by
  rw [← free] at yields
  exact yields.run

end Action

end DoubleEntry
