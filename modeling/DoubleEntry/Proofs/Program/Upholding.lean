import DoubleEntry.Proofs.Program.Moves

/-!
# Actions that can count on each other

A tendency says how the tables may change while several tasks act on them.  An
action upholds it if, whatever the others do within the tendency, each of its own
requests stays within it too, and its end satisfies a condition that the tendency
keeps.  If everybody stays within the tendency, the condition holds of all ends
(`System.Upheld.run`).  How many requests an action makes at most is said by
`Action.Within`.
-/

namespace DoubleEntry

/-- How tables may change, one way after another.  They may stay as they have become. -/
structure Tendency where
  leads : Tables → Tables → Prop
  trans : ∀ {before middle after : Tables}, leads before middle → leads middle after →
    leads before after
  rests : ∀ {before after : Tables}, leads before after → leads after after

namespace Action

variable {α β : Type}

/-- Whatever others do within the tendency, the requests of the action stay within it, and at the
end the tables and the result satisfy `ends`. -/
def Upholds (surroundings : Surroundings) (tendency : Tendency)
    (ends : Tables → Except LedgerError α → Prop) : Action α → Tables → UnitOfWork → Prop
  | done value, tables, _ => ends tables (.ok value)
  | failed e, tables, _ => ends tables (.error e)
  | request q next, tables, work =>
    ∀ world : World, tendency.leads tables world.store.tables →
      tendency.leads world.store.tables
          (q.perform surroundings world work).2.1.store.tables ∧
        (next (q.perform surroundings world work).1).Upholds surroundings tendency ends
          (q.perform surroundings world work).2.1.store.tables
          (q.perform surroundings world work).2.2

variable {surroundings : Surroundings} {tendency : Tendency}
  {ends : Tables → Except LedgerError α → Prop} {ends' : Tables → Except LedgerError β → Prop}
  {tables later : Tables} {work : UnitOfWork}

theorem Upholds.of_leads {action : Action α}
    (upholds : action.Upholds surroundings tendency ends tables work)
    (lasts : ∀ before after result, tendency.leads before after → ends before result →
      ends after result) (leads : tendency.leads tables later) :
    action.Upholds surroundings tendency ends later work := by
  cases action with
  | done value => exact lasts tables later _ leads upholds
  | failed e => exact lasts tables later _ leads upholds
  | request q next => exact fun world further => upholds world (tendency.trans leads further)

theorem Upholds.map {action : Action α} (f : α → β)
    (upholds : action.Upholds surroundings tendency
      (fun tables result => ends' tables (result.map f)) tables work) :
    (f <$> action).Upholds surroundings tendency ends' tables work := by
  induction action generalizing tables work with
  | done value => exact upholds
  | failed e => exact upholds
  | request q next ih =>
      intro world leads
      obtain ⟨stays, goesOn⟩ := upholds world leads
      exact ⟨stays, ih _ goesOn⟩

theorem Upholds.handleError {action : Action α} {handle : LedgerError → Action α}
    {first : Tables → Except LedgerError α → Prop}
    (upholds : action.Upholds surroundings tendency first tables work)
    (succeeds : ∀ tables value, first tables (.ok value) → ends tables (.ok value))
    (handles : ∀ tables e work, first tables (.error e) →
      (handle e).Upholds surroundings tendency ends tables work) :
    (action.handleError handle).Upholds surroundings tendency ends tables work := by
  induction action generalizing tables work with
  | done value => exact succeeds tables value upholds
  | failed e => exact handles tables e work upholds
  | request q next ih =>
      intro world leads
      obtain ⟨stays, goesOn⟩ := upholds world leads
      exact ⟨stays, ih _ goesOn⟩

theorem Upholds.imp {action : Action α} {weaker : Tables → Except LedgerError α → Prop}
    (upholds : action.Upholds surroundings tendency ends tables work)
    (implies : ∀ tables result, ends tables result → weaker tables result) :
    action.Upholds surroundings tendency weaker tables work := by
  induction action generalizing tables work with
  | done value => exact implies tables _ upholds
  | failed e => exact implies tables _ upholds
  | request q next ih =>
      intro world leads
      obtain ⟨stays, goesOn⟩ := upholds world leads
      exact ⟨stays, ih _ goesOn⟩

/-! ## Rules for requests -/

theorem upholds_request {q : Request} {next : q.Reply → Action α} (noCommit : q ≠ .commit)
    (goesOn : ∀ world, tendency.leads tables world.store.tables →
      (next (q.perform surroundings world work).1).Upholds surroundings tendency ends
        world.store.tables (q.perform surroundings world work).2.2) :
    (request q next).Upholds surroundings tendency ends tables work := by
  intro world leads
  have kept : (q.perform surroundings world work).2.1.store.tables = world.store.tables :=
    Request.perform_tables_of_not_commits surroundings fun commits => noCommit commits.1
  rw [kept]
  exact ⟨tendency.rests leads, goesOn world leads⟩

theorem upholds_openWork {next : Unit → Action α}
    (goesOn : ∀ later, tendency.leads tables later →
      (next ()).Upholds surroundings tendency ends later .empty) :
    (openWork >>= next).Upholds surroundings tendency ends tables work :=
  upholds_request (by simp) fun world leads => goesOn _ leads

theorem upholds_findAccount {reference : String} {next : Option Account → Action α}
    (goesOn : ∀ later, tendency.leads tables later →
      (next (work.findAccount later reference)).Upholds surroundings tendency ends later work) :
    (findAccount reference >>= next).Upholds surroundings tendency ends tables work :=
  upholds_request (by simp) fun world leads => goesOn _ leads

theorem upholds_saveAccount {account : Account} {next : Unit → Action α}
    (goesOn : ∀ later, tendency.leads tables later →
      (next ()).Upholds surroundings tendency ends later (work.saveAccount account)) :
    (saveAccount account >>= next).Upholds surroundings tendency ends tables work :=
  upholds_request (by simp) fun world leads => goesOn _ leads

theorem upholds_record {event : Event} {next : Unit → Action α}
    (goesOn : ∀ later, tendency.leads tables later →
      (next ()).Upholds surroundings tendency ends later work) :
    (record event >>= next).Upholds surroundings tendency ends tables work :=
  upholds_request (by simp) fun world leads => goesOn _ leads

theorem upholds_freshId {kind : RecordKind} {next : Id kind → Action α}
    (goesOn : ∀ later id, tendency.leads tables later →
      (next id).Upholds surroundings tendency ends later work) :
    (freshId >>= next).Upholds surroundings tendency ends tables work :=
  upholds_request (by simp) fun world leads => goesOn _ _ leads

theorem upholds_now {next : Instant → Action α}
    (goesOn : ∀ later time, tendency.leads tables later →
      (next time).Upholds surroundings tendency ends later work) :
    (now >>= next).Upholds surroundings tendency ends tables work :=
  upholds_request (by simp) fun world leads => goesOn _ _ leads

theorem upholds_commit {next : Unit → Action α}
    (accepted : ∀ later, tendency.leads tables later → work.Acceptable later →
      tendency.leads later (work.publish later) ∧
        (next ()).Upholds surroundings tendency ends (work.publish later) .empty)
    (refused : ∀ later e, tendency.leads tables later → work.check later = .error e →
      ends later (.error e)) :
    (commit >>= next).Upholds surroundings tendency ends tables work := by
  intro world leads
  cases checked : work.check world.store.tables with
  | ok =>
      obtain ⟨stays, goesOn⟩ := accepted _ leads (UnitOfWork.check_eq_ok_iff.mp checked)
      simp only [Request.perform, Request.performCommit, Store.commit, checked]
      exact ⟨stays, goesOn⟩
  | error e =>
      have ended := refused _ e leads checked
      simp only [Request.perform, Request.performCommit, Store.commit, checked]
      exact ⟨tendency.rests leads, ended⟩

/-! ## How many requests an action makes -/

def Within : Action α → Nat → Prop
  | done _, _ => True
  | failed _, _ => True
  | request _ next, bound => 0 < bound ∧ ∀ reply, (next reply).Within (bound - 1)

variable {bound bound' : Nat}

theorem Within.mono {action : Action α} (within : action.Within bound) (le : bound ≤ bound') :
    action.Within bound' := by
  induction action generalizing bound bound' with
  | done value => trivial
  | failed e => trivial
  | request q next ih =>
      obtain ⟨positive, goesOn⟩ := within
      exact ⟨by omega, fun reply => ih reply (goesOn reply) (by omega)⟩

theorem Within.bind {action : Action α} {rest : α → Action β} (first : action.Within bound)
    (second : ∀ value, (rest value).Within bound') :
    (action >>= rest).Within (bound + bound') := by
  induction action generalizing bound with
  | done value => exact (second value).mono (by omega)
  | failed e => trivial
  | request q next ih =>
      obtain ⟨positive, goesOn⟩ := first
      refine ⟨by omega, fun reply => ?_⟩
      exact Nat.sub_add_comm positive ▸ ih reply (goesOn reply)

theorem Within.handleError {action : Action α} {handle : LedgerError → Action α}
    (first : action.Within bound) (second : ∀ e, (handle e).Within bound') :
    (action.handleError handle).Within (bound + bound') := by
  induction action generalizing bound with
  | done value => trivial
  | failed e => exact (second e).mono (by omega)
  | request q next ih =>
      obtain ⟨positive, goesOn⟩ := first
      refine ⟨by omega, fun reply => ?_⟩
      exact Nat.sub_add_comm positive ▸ ih reply (goesOn reply)

theorem Within.map {action : Action α} (within : action.Within bound) (f : α → β) :
    (f <$> action).Within bound := by
  rw [← bind_pure_comp]
  have ends : ∀ value, (pure (f value) : Action β).Within 0 := fun _ => trivial
  exact within.bind ends

theorem within_request {q : Request} {next : q.Reply → Action α}
    (goesOn : ∀ reply, (next reply).Within bound) : (request q next).Within (bound + 1) :=
  ⟨Nat.succ_pos bound, goesOn⟩

theorem within_findAccount (reference : String) : (findAccount reference).Within 1 :=
  within_request fun _ => trivial

theorem within_saveAccount (account : Account) : (saveAccount account).Within 1 :=
  within_request fun _ => trivial

theorem within_record (event : Event) : (record event).Within 1 :=
  within_request fun _ => trivial

theorem within_freshId {kind : RecordKind} : (freshId : Action (Id kind)).Within 1 :=
  within_request fun _ => trivial

theorem within_now : now.Within 1 := within_request fun _ => trivial

theorem within_lift (result : Except LedgerError α) : (liftM result : Action α).Within 0 := by
  cases result <;> trivial

end Action

/-! ## One task -/

namespace Task

variable {surroundings : Surroundings} {tendency : Tendency}
  {ends : Tables → Except LedgerError Outcome → Prop} {tables : Tables} {world : World}
  {task : Task} {bound : Nat}

theorem settle_upholds
    (upholds : task.action.Upholds surroundings tendency ends tables task.work) :
    (task.settle world).2.action.Upholds surroundings tendency ends tables
      (task.settle world).2.work := by
  obtain ⟨work, action⟩ := task
  cases action with
  | request q next => exact upholds
  | done outcome => exact upholds
  | failed e => exact upholds

theorem step_within (within : task.action.Within bound) :
    (task.step surroundings world).2.action.Within (bound - 1) := by
  obtain ⟨work, action⟩ := task
  cases action with
  | done outcome => trivial
  | failed e => trivial
  | request q next =>
      rw [step_request, settle_action]
      exact within.2 _

theorem result?_of_within (within : task.action.Within 0) :
    ∃ result, task.result? = some result := by
  obtain ⟨work, action⟩ := task
  cases action with
  | done outcome => exact ⟨_, rfl⟩
  | failed e => exact ⟨_, rfl⟩
  | request q next => exact absurd within.1 (Nat.lt_irrefl 0)

end Task

def Move.steps (position : Nat) : Move → Bool
  | step other => other = position
  | _ => false

namespace System

variable {surroundings : Surroundings} {system : System} {position : Nat} {task : Task}

theorem move_task (surroundings : Surroundings) {move : Move}
    (found : system.tasks[position]? = some task) (undropped : move ≠ .drop position) :
    (system.move surroundings move).tasks[position]? =
      some (bif move.steps position then (task.step surroundings system.world).2 else task) := by
  have within := (List.getElem?_eq_some_iff.mp found).1
  cases move with
  | start action =>
      rw [move, start, List.getElem?_append_left within]
      exact found
  | step mover =>
      rw [move, step]
      by_cases same : mover = position
      · subst same
        rw [found]
        simp [Move.steps, within]
      · cases system.tasks[mover]? <;> simp [Move.steps, same, found, List.getElem?_set_ne same]
  | drop other =>
      have apart : other ≠ position := by
        rintro rfl
        exact undropped rfl
      rw [move, drop]
      cases system.tasks[other]? <;> simp [Move.steps, found, List.getElem?_set_ne apart]

/-- A task that is not dropped has ended after as many steps as its action makes requests. -/
theorem exists_result_of_within {moves : List Move} {bound : Nat}
    (found : system.tasks[position]? = some task) (within : task.action.Within bound)
    (undropped : .drop position ∉ moves) (steps : bound ≤ moves.countP (Move.steps position)) :
    ∃ task' result, (system.run surroundings moves).tasks[position]? = some task' ∧
      task'.result? = some result := by
  induction moves generalizing system task bound with
  | nil =>
      obtain rfl : bound = 0 := Nat.le_zero.mp steps
      obtain ⟨result, ended⟩ := Task.result?_of_within within
      exact ⟨task, result, found, ended⟩
  | cons move rest ih =>
      rw [List.mem_cons, not_or] at undropped
      have moved := move_task surroundings found (Ne.symm undropped.1)
      rw [List.countP_cons] at steps
      cases isStep : move.steps position with
      | true =>
          rw [isStep] at moved
          exact ih moved (Task.step_within within) undropped.2 (by simp [isStep] at steps; omega)
      | false =>
          rw [isStep] at moved
          exact ih moved within undropped.2 (by simpa [isStep] using steps)

/-! ## All tasks -/

structure Upheld (surroundings : Surroundings) (tendency : Tendency)
    (ends : Tables → Except LedgerError Outcome → Prop) (parties : Nat → Prop) (system : System) :
    Prop where
  rests : tendency.leads system.world.store.tables system.world.store.tables
  present : ∀ position, parties position → position < system.tasks.length
  upholds : ∀ position task, parties position → system.tasks[position]? = some task →
    task.action.Upholds surroundings tendency ends system.world.store.tables task.work

variable {tendency : Tendency} {ends : Tables → Except LedgerError Outcome → Prop}
  {parties : Nat → Prop}

theorem Upheld.move (upheld : system.Upheld surroundings tendency ends parties)
    (lasts : ∀ before after result, tendency.leads before after → ends before result →
      ends after result) {move : Move}
    (undropped : ∀ position, parties position → move ≠ .drop position)
    (others : ∀ call, system.call? move = some call → ¬ parties call.position →
      tendency.leads call.world.store.tables call.world.store.tables →
      tendency.leads call.world.store.tables (call.after surroundings).1.store.tables) :
    (system.move surroundings move).Upheld surroundings tendency ends parties := by
  obtain ⟨rests, present, upholds⟩ := upheld
  have moved := moved surroundings system move
  generalize system.call? move = called at moved others
  generalize system.move surroundings move = later at moved
  have present' (position : Nat) (party : parties position) : position < later.tasks.length :=
    Nat.lt_of_lt_of_le (present position party) moved.length
  cases moved with
  | idle => exact ⟨rests, present, upholds⟩
  | start action =>
      refine ⟨rests, present', fun position task party found => ?_⟩
      rw [start, List.getElem?_append_left (present position party)] at found
      exact upholds position task party found
  | @drop other work q next known =>
      refine ⟨rests, present', fun position task party found => ?_⟩
      have apart : other ≠ position := by
        rintro rfl
        exact undropped other party rfl
      rw [List.getElem?_set_ne apart] at found
      exact upholds position task party found
  | @call mover work q next known =>
      have stays : tendency.leads system.world.store.tables
          (q.perform surroundings system.world work).2.1.store.tables := by
        by_cases party : parties mover
        · exact (upholds mover _ party known system.world rests).1
        · exact others _ rfl party rests
      simp only [Task.step_request]
      refine ⟨?_, present', fun position task party found => ?_⟩
      · rw [Task.settle_tables]
        exact tendency.rests stays
      · rw [Task.settle_tables]
        rw [List.getElem?_set] at found
        split at found
        next same =>
          subst same
          rw [if_pos (present mover party)] at found
          obtain rfl := Option.some.inj found
          exact Task.settle_upholds (upholds mover _ party known system.world rests).2
        next => exact (upholds position task party found).of_leads lasts stays

theorem Upheld.run {moves : List Move} (upheld : system.Upheld surroundings tendency ends parties)
    (lasts : ∀ before after result, tendency.leads before after → ends before result →
      ends after result) (undropped : ∀ position, parties position → .drop position ∉ moves)
    (others : ∀ call ∈ system.calls surroundings moves, ¬ parties call.position →
      tendency.leads call.world.store.tables call.world.store.tables →
      tendency.leads call.world.store.tables (call.after surroundings).1.store.tables) :
    (system.run surroundings moves).Upheld surroundings tendency ends parties := by
  induction moves generalizing system with
  | nil => exact upheld
  | cons move rest ih =>
      refine ih (upheld.move lasts ?_ ?_) ?_ ?_
      · rintro position party rfl
        exact undropped position party List.mem_cons_self
      · exact fun call called => others call (mem_calls_cons.mpr (.inl called))
      · exact fun position party among =>
          undropped position party (List.mem_cons_of_mem _ among)
      · exact fun call member => others call (mem_calls_cons.mpr (.inr member))

theorem Upheld.ended (upheld : system.Upheld surroundings tendency ends parties)
    (party : parties position) (found : system.tasks[position]? = some task)
    {result : Except LedgerError Outcome} (ended : task.result? = some result) :
    ends system.world.store.tables result := by
  have upholds := upheld.upholds position task party found
  obtain ⟨work, action⟩ := task
  cases action with
  | request q next => cases ended
  | done outcome =>
      cases ended
      exact upholds
  | failed e =>
      cases ended
      exact upholds

end System

end DoubleEntry
