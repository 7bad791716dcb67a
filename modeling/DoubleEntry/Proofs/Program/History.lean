import DoubleEntry.Proofs.Program.Actions
import DoubleEntry.Program.Interleaving

/-!
# Runs with their histories

The history of a run says which operations were started and which of their tasks
have committed, in the order of the commits.  Operations that run one after another
are a special case: each of them makes all its steps before the next one starts.

An `Admission` says which operations a run may start: any of them, or those whose
accounts have been read from the store.  `System.Reaches` and `Operation.Reaches`
relate two states of one run, and `Operation.Later` the worlds of two such states.
-/

namespace DoubleEntry

/-- The operations by the positions of their tasks, and the positions of the tasks that have
committed, in the order of the commits. -/
structure History where
  operations : List Operation
  commits : List Nat

def Task.commits (world : World) (task : Task) : Bool :=
  match task.action with
  | .request .commit _ => (task.work.check world.store.tables).isOk
  | _ => false

def System.commitsAt (system : System) (position : Nat) : Bool :=
  match system.tasks[position]? with
  | some task => task.commits system.world
  | none => false

theorem System.step_eq {surroundings : Surroundings} {system : System} {position : Nat}
    {task : Task} (found : system.tasks[position]? = some task) :
    system.step surroundings position =
      ⟨(task.step surroundings system.world).1,
        system.tasks.set position (task.step surroundings system.world).2⟩ := by
  rw [step, found]

namespace System

inductive Reaches (surroundings : Surroundings) (allowed : World → Action Outcome → Prop)
    (system : System) : System → Prop where
  | refl : Reaches surroundings allowed system system
  | start {later : System} (action : Action Outcome) (isAllowed : allowed later.world action) :
      Reaches surroundings allowed system later →
        Reaches surroundings allowed system (later.start action)
  | step {later : System} (position : Nat) :
      Reaches surroundings allowed system later →
        Reaches surroundings allowed system (later.step surroundings position)

theorem Reaches.reachable {surroundings : Surroundings} {allowed : World → Action Outcome → Prop}
    {system later : System} (reaches : system.Reaches surroundings allowed later)
    (reachable : Reachable surroundings allowed system) :
    Reachable surroundings allowed later := by
  induction reaches with
  | refl => exact reachable
  | start action isAllowed _ ih => exact ih.start action isAllowed
  | step position _ ih => exact ih.step position

/-- What a task satisfies and keeps in each of its steps, it satisfies throughout the run. -/
theorem Reaches.exists_task {surroundings : Surroundings}
    {allowed : World → Action Outcome → Prop} {system later : System} {kept : Task → Prop}
    (reaches : system.Reaches surroundings allowed later)
    (steps : ∀ world task, kept task → kept (task.step surroundings world).2) {position : Nat}
    {task : Task} (found : system.tasks[position]? = some task) (start : kept task) :
    ∃ task', later.tasks[position]? = some task' ∧ kept task' := by
  induction reaches with
  | refl => exact ⟨task, found, start⟩
  | start action _ _ ih =>
      obtain ⟨task', found', kept'⟩ := ih
      have within := (List.getElem?_eq_some_iff.mp found').1
      exact ⟨task', by rwa [System.start, List.getElem?_append_left within], kept'⟩
  | @step before mover _ ih =>
      obtain ⟨task', found', kept'⟩ := ih
      cases known : before.tasks[mover]? with
      | none => exact ⟨task', by rwa [System.step, known], kept'⟩
      | some other =>
          rw [step_eq known, List.getElem?_set]
          split
          next same =>
            subst same
            rw [found'] at known
            cases known
            have within := (List.getElem?_eq_some_iff.mp found').1
            exact ⟨_, if_pos within, steps before.world task' kept'⟩
          next => exact ⟨task', found', kept'⟩

theorem Reaches.stepAll {surroundings : Surroundings} {allowed : World → Action Outcome → Prop}
    {system later : System} (reaches : system.Reaches surroundings allowed later)
    (schedule : List Nat) : system.Reaches surroundings allowed
      (schedule.foldl (fun system position => system.step surroundings position) later) := by
  induction schedule generalizing later with
  | nil => exact reaches
  | cons position rest ih => exact ih (reaches.step position)

end System

/-! ## Admission -/

/-- Which operations may be started.  What may be started may still be when there are more
accounts. -/
structure Admission where
  admits : Tables → Operation → Prop
  lasts : ∀ {before after : Tables} {operation : Operation},
    (∀ reference account, before.accounts.get? reference = some account →
      after.accounts.get? reference = some account) →
    admits before operation → admits after operation

namespace Admission

def any : Admission := ⟨fun _ _ => True, fun _ _ => trivial⟩

def known : Admission where
  admits tables operation := operation.Admissible tables
  lasts := by
    intro before after operation kept isAdmissible
    cases operation with
    | getOrCreateBalance account => exact kept account.reference account isAdmissible
    | _ => trivial

def Allowed (admission : Admission) (settings : LedgerSettings) (world : World)
    (action : Action Outcome) : Prop :=
  ∃ operation : Operation,
    admission.admits world.store.tables operation ∧ action = operation.action settings

end Admission

namespace System.Reachable

variable {surroundings : Surroundings} {settings : LedgerSettings} {system : System}

theorem startAll (reachable : Reachable surroundings (Admission.any.Allowed settings) system)
    (operations : List Operation) :
    Reachable surroundings (Admission.any.Allowed settings)
      (operations.foldl (fun system operation => system.start (operation.action settings))
        system) := by
  induction operations generalizing system with
  | nil => exact reachable
  | cons operation rest ih => exact ih (reachable.start _ ⟨operation, trivial, rfl⟩)

theorem stepAll {allowed : World → Action Outcome → Prop}
    (reachable : Reachable surroundings allowed system) (schedule : List Nat) :
    Reachable surroundings allowed
      (schedule.foldl (fun system position => system.step surroundings position) system) := by
  induction schedule generalizing system with
  | nil => exact reachable
  | cons position rest ih => exact ih (reachable.step position)

end System.Reachable

namespace History

def empty : History := ⟨[], []⟩

def start (history : History) (operation : Operation) : History :=
  { history with operations := history.operations ++ [operation] }

def step (history : History) (system : System) (position : Nat) : History :=
  if system.commitsAt position then { history with commits := history.commits ++ [position] }
  else history

def committed (history : History) : List Operation :=
  history.commits.filterMap fun position => history.operations[position]?

def follow (surroundings : Surroundings) :
    List Nat → History → System → History × System
  | [], history, system => (history, system)
  | position :: rest, history, system =>
    follow surroundings rest (history.step system position) (system.step surroundings position)

end History

namespace Operation

/-- The systems that operations reach in whatever order they make their steps. -/
inductive Run (surroundings : Surroundings) (settings : LedgerSettings) :
    History → System → Prop where
  | empty : Run surroundings settings .empty .empty
  | start {history : History} {system : System} (operation : Operation)
      (isAdmissible : operation.Admissible system.world.store.tables) :
      Run surroundings settings history system →
        Run surroundings settings (history.start operation)
          (system.start (operation.action settings))
  | step {history : History} {system : System} (position : Nat) :
      Run surroundings settings history system →
        Run surroundings settings (history.step system position)
          (system.step surroundings position)

variable {surroundings : Surroundings} {settings : LedgerSettings} {system : System} {world : World}

private theorem exists_run (reachable : System.Reachable surroundings (Allowed settings) system) :
    ∃ history, Run surroundings settings history system := by
  induction reachable with
  | empty => exact ⟨_, .empty⟩
  | start action isAllowed _ ih =>
      obtain ⟨history, run⟩ := ih
      obtain ⟨operation, isAdmissible, rfl⟩ := isAllowed
      exact ⟨_, .start operation isAdmissible run⟩
  | step position _ ih =>
      obtain ⟨history, run⟩ := ih
      exact ⟨_, .step position run⟩

theorem Run.follow {history : History} (run : Run surroundings settings history system)
    (schedule : List Nat) :
    Run surroundings settings (history.follow surroundings schedule system).1
      (history.follow surroundings schedule system).2 := by
  induction schedule generalizing history system with
  | nil => exact run
  | cons position rest ih => exact ih (run.step position)

theorem Run.reachable {history : History} (run : Run surroundings settings history system) :
    System.Reachable surroundings (Allowed settings) system := by
  induction run with
  | empty => exact .empty
  | start operation isAdmissible _ ih => exact .start _ ⟨operation, isAdmissible, rfl⟩ ih
  | step position _ ih => exact .step position ih

/-! ## One after another -/

/-- Runs operations one after another, the failing ones too, and collects what they result in. -/
def runAll (surroundings : Surroundings) (settings : LedgerSettings) :
    List Operation → World → List (Except LedgerError Outcome) × World
  | [], world => ([], world)
  | operation :: rest, world =>
    let (result, world) := operation.run surroundings settings world
    let (results, world) := runAll surroundings settings rest world
    (result :: results, world)

theorem runAll_append (operations more : List Operation) (world : World) :
    runAll surroundings settings (operations ++ more) world =
      ((runAll surroundings settings operations world).1 ++
          (runAll surroundings settings more (runAll surroundings settings operations world).2).1,
        (runAll surroundings settings more
          (runAll surroundings settings operations world).2).2) := by
  induction operations generalizing world with
  | nil => rfl
  | cons operation rest ih => simp only [List.cons_append, runAll, ih]

theorem Reachable.runAll (reachable : Reachable surroundings settings world)
    (operations : List Operation)
    (admissible : ∀ operation ∈ operations, ∀ tables, operation.Admissible tables) :
    Reachable surroundings settings (runAll surroundings settings operations world).2 := by
  induction operations generalizing world with
  | nil => exact reachable
  | cons operation rest ih =>
      have step := reachable.run operation (admissible operation List.mem_cons_self _)
      exact ih step fun other member => admissible other (List.mem_cons_of_mem _ member)

inductive Reaches (surroundings : Surroundings) (settings : LedgerSettings) (world : World) :
    World → Prop where
  | refl : Reaches surroundings settings world world
  | run {later : World} (operation : Operation) : Reaches surroundings settings world later →
      Reaches surroundings settings world (operation.run surroundings settings later).2

theorem Reaches.runAll {later : World} (reaches : Reaches surroundings settings world later)
    (operations : List Operation) :
    Reaches surroundings settings world (runAll surroundings settings operations later).2 := by
  induction operations generalizing later with
  | nil => exact reaches
  | cons operation rest ih => exact ih (reaches.run operation)

private theorem drop_empty (world : World) : world.drop .empty = world := by
  have kept : world.store.locks.held.filter (fun account => account ∉ UnitOfWork.empty.guards) =
      world.store.locks.held := List.filter_eq_self.mpr (by simp [UnitOfWork.empty])
  rw [World.drop, Store.abandon, Locks.release, kept]

private theorem step_last (tasks : List Task) (task : Task) (world : World) :
    System.step surroundings ⟨world, tasks ++ [task]⟩ tasks.length =
      ⟨(task.step surroundings world).1, tasks ++ [(task.step surroundings world).2]⟩ := by
  simp [System.step]

private theorem reaches_of_settled {allowed : World → Action Outcome → Prop} {tasks : List Task}
    {action : Action Outcome} {work : UnitOfWork}
    (reaches : system.Reaches surroundings allowed
      ⟨(Task.settle world ⟨work, action⟩).1, tasks ++ [(Task.settle world ⟨work, action⟩).2]⟩) :
    ∃ tasks, system.Reaches surroundings allowed
      ⟨(action.runFrom surroundings world work).2, tasks⟩ := by
  induction action generalizing world work with
  | done value => exact ⟨_, reaches⟩
  | failed e => exact ⟨_, reaches⟩
  | request q next ih =>
      have stepped := reaches.step tasks.length
      rw [step_last] at stepped
      exact ih _ stepped

/-- An operation that runs alone is a task that makes all its steps. -/
theorem exists_reaches_run {allowed : World → Action Outcome → Prop} {tasks : List Task}
    (operation : Operation) (isAllowed : allowed world (operation.action settings))
    (reaches : system.Reaches surroundings allowed ⟨world, tasks⟩) :
    ∃ tasks, system.Reaches surroundings allowed
      ⟨(operation.run surroundings settings world).2, tasks⟩ := by
  have started : system.Reaches surroundings allowed
      ⟨world, tasks ++ [.start (operation.action settings)]⟩ := reaches.start _ isAllowed
  have settled : Task.settle world (.start (operation.action settings)) =
      (world, .start (operation.action settings)) := by
    simp only [Task.settle, Task.start, drop_empty]
    split <;> rfl
  have ready : system.Reaches surroundings allowed
      ⟨(Task.settle world (.start (operation.action settings))).1,
        tasks ++ [(Task.settle world (.start (operation.action settings))).2]⟩ := by
    rw [settled]
    exact started
  exact reaches_of_settled ready

private theorem Reachable.exists_system (reachable : Reachable surroundings settings world) :
    ∃ tasks, System.Reachable surroundings (Allowed settings) ⟨world, tasks⟩ := by
  induction reachable with
  | empty => exact ⟨[], .empty⟩
  | @run world operation isAdmissible _ ih =>
      obtain ⟨tasks, reachable⟩ := ih
      have isAllowed : Allowed settings world (operation.action settings) :=
        ⟨operation, isAdmissible, rfl⟩
      obtain ⟨tasks', reaches⟩ := exists_reaches_run operation isAllowed
        (.refl : System.Reaches surroundings (Allowed settings) ⟨world, tasks⟩ _)
      exact ⟨tasks', reaches.reachable reachable⟩

theorem Reaches.exists_system {later : World} (reaches : Reaches surroundings settings world later)
    (tasks : List Task) :
    ∃ tasks', System.Reaches surroundings (Admission.any.Allowed settings)
      ⟨world, tasks⟩ ⟨later, tasks'⟩ := by
  induction reaches with
  | refl => exact ⟨tasks, .refl⟩
  | run operation _ ih =>
      obtain ⟨tasks', reaches⟩ := ih
      exact exists_reaches_run operation ⟨operation, trivial, rfl⟩ reaches

theorem exists_reachable_runAll {admission : Admission} {tasks : List Task}
    (reachable : System.Reachable surroundings (admission.Allowed settings) ⟨world, tasks⟩)
    (operations : List Operation)
    (admitted : ∀ operation ∈ operations, ∀ tables, admission.admits tables operation) :
    ∃ tasks', System.Reachable surroundings (admission.Allowed settings)
      ⟨(runAll surroundings settings operations world).2, tasks'⟩ := by
  induction operations generalizing world tasks with
  | nil => exact ⟨tasks, reachable⟩
  | cons operation rest ih =>
      have isAllowed : admission.Allowed settings world (operation.action settings) :=
        ⟨operation, admitted operation List.mem_cons_self _, rfl⟩
      obtain ⟨tasks', reaches⟩ := exists_reaches_run operation isAllowed .refl
      exact ih (reaches.reachable reachable) fun other member =>
        admitted other (List.mem_cons_of_mem _ member)

/-- The worlds that operations reach, whether they run side by side or one after another. -/
inductive Reached (surroundings : Surroundings) (settings : LedgerSettings) : World → Prop where
  | together {system : System}
      (reachable : System.Reachable surroundings (Allowed settings) system) :
      Reached surroundings settings system.world
  | inTurn {world : World} (reachable : Reachable surroundings settings world) :
      Reached surroundings settings world

theorem Reached.exists_history (reached : Reached surroundings settings world) :
    ∃ history tasks, Run surroundings settings history ⟨world, tasks⟩ := by
  cases reached with
  | @together system reachable =>
      obtain ⟨history, run⟩ := exists_run reachable
      exact ⟨history, system.tasks, run⟩
  | inTurn reachable =>
      obtain ⟨tasks, reachable⟩ := reachable.exists_system
      obtain ⟨history, run⟩ := exists_run reachable
      exact ⟨history, tasks, run⟩

/-- Two worlds of one run of any operations, the second at the same time as the first or later. -/
inductive Later (surroundings : Surroundings) (settings : LedgerSettings) :
    World → World → Prop where
  | together {system later : System}
      (reachable : System.Reachable surroundings (Admission.any.Allowed settings) system)
      (reaches : system.Reaches surroundings (Admission.any.Allowed settings) later) :
      Later surroundings settings system.world later.world
  | inTurn {world later : World} (reachable : Reaches surroundings settings .empty world)
      (reaches : Reaches surroundings settings world later) :
      Later surroundings settings world later

theorem Later.exists_systems {later : World} (isLater : Later surroundings settings world later) :
    ∃ tasks tasks',
      System.Reachable surroundings (Admission.any.Allowed settings) ⟨world, tasks⟩ ∧
      System.Reaches surroundings (Admission.any.Allowed settings)
        ⟨world, tasks⟩ ⟨later, tasks'⟩ := by
  cases isLater with
  | @together system later reachable reaches =>
      exact ⟨system.tasks, later.tasks, reachable, reaches⟩
  | inTurn reachable reaches =>
      obtain ⟨tasks, reached⟩ := reachable.exists_system []
      obtain ⟨tasks', reaches⟩ := reaches.exists_system tasks
      exact ⟨tasks, tasks', reached.reachable .empty, reaches⟩

end Operation

end DoubleEntry
