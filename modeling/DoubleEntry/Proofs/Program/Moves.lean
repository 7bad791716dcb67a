import DoubleEntry.Proofs.Program.Steps

/-!
# Runs as lists of moves

Anybody can start a task with any action, let a task make its next step, or drop a
task before its end.  The calls of a run are the requests that its steps perform,
each with the world and the unit of work that it meets.  `System.Moved` says what a
move can do; what all calls keep holds throughout a run (`tables_run`, `works_run`).
-/

namespace DoubleEntry

namespace Task

def dropped : Task := .start (.failed (.internal "dropped"))

def drop (world : World) (task : Task) : World × Task :=
  match task.action with
  | .request .. => (world.drop task.work, dropped)
  | _ => (world, task)

end Task

inductive Move where
  | start (action : Action Outcome)
  | step (position : Nat)
  | drop (position : Nat)

/-- A request of the task at `position`, as it meets the world. -/
structure Call where
  position : Nat
  request : Request
  world : World
  work : UnitOfWork
  deriving DecidableEq, Repr

namespace Call

def after (surroundings : Surroundings) (call : Call) : World × UnitOfWork :=
  (call.request.perform surroundings call.world call.work).2

def Commits (call : Call) : Prop :=
  call.request = .commit ∧ (Request.performCommit call.world call.work).1 = .ok ()

structure Refused (surroundings : Surroundings) (call : Call) : Prop where
  attempts : call.request = .commit
  fails : ∃ e, (Request.performCommit call.world call.work).1 = .error e
  keeps : (call.after surroundings).1.store.tables = call.world.store.tables

theorem commits_iff {call : Call} :
    call.Commits ↔ call.request.Commits call.world.store.tables call.work := by
  rw [Commits, Request.Commits, ← UnitOfWork.check_eq_ok_iff, Request.performCommit, Store.commit]
  cases call.work.check call.world.store.tables <;> simp

theorem tables_of_not_commits {surroundings : Surroundings} {call : Call} (kept : ¬ call.Commits) :
    (call.after surroundings).1.store.tables = call.world.store.tables :=
  Request.perform_tables_of_not_commits surroundings (mt commits_iff.mpr kept)

theorem tables_of_commits {surroundings : Surroundings} {call : Call} (commits : call.Commits) :
    (call.after surroundings).1.store.tables = call.work.publish call.world.store.tables :=
  (Request.perform_of_commits surroundings (commits_iff.mp commits)).1

theorem Commits.acceptable {call : Call} (commits : call.Commits) :
    call.work.Acceptable call.world.store.tables :=
  (commits_iff.mp commits).2

theorem kept_after {surroundings : Surroundings} {call : Call} {kept : Tables → Prop}
    (before : kept call.world.store.tables)
    (publishes : call.Commits → kept (call.work.publish call.world.store.tables)) :
    kept (call.after surroundings).1.store.tables := by
  by_cases commits : call.Commits
  · rw [tables_of_commits commits]
    exact publishes commits
  · rw [tables_of_not_commits commits]
    exact before

theorem refused_of_not_commits {surroundings : Surroundings} {call : Call}
    (attempts : call.request = .commit) (kept : ¬ call.Commits) : call.Refused surroundings where
  attempts := attempts
  fails := by
    cases answered : (Request.performCommit call.world call.work).1 with
    | ok => exact absurd ⟨attempts, answered⟩ kept
    | error e => exact ⟨e, rfl⟩
  keeps := tables_of_not_commits kept

end Call

namespace System

def drop (system : System) (position : Nat) : System :=
  match system.tasks[position]? with
  | some task =>
    let (world, task) := task.drop system.world
    ⟨world, system.tasks.set position task⟩
  | none => system

def move (surroundings : Surroundings) (system : System) : Move → System
  | .start action => system.start action
  | .step position => system.step surroundings position
  | .drop position => system.drop position

def run (surroundings : Surroundings) (system : System) (moves : List Move) : System :=
  moves.foldl (move surroundings) system

def next? (system : System) (position : Nat) : Option Call :=
  match system.tasks[position]? with
  | some ⟨work, .request q _⟩ => some ⟨position, q, system.world, work⟩
  | _ => none

def call? (system : System) : Move → Option Call
  | .step position => system.next? position
  | .start _ | .drop _ => none

def calls (surroundings : Surroundings) : System → List Move → List Call
  | _, [] => []
  | system, move :: rest =>
    (system.call? move).toList ++ (system.move surroundings move).calls surroundings rest

inductive Moved (surroundings : Surroundings) (system : System) :
    Move → Option Call → System → Prop where
  | idle (move : Move) : Moved surroundings system move none system
  | start (action : Action Outcome) :
      Moved surroundings system (.start action) none (system.start action)
  | call {position : Nat} {work : UnitOfWork} {q : Request} {next : q.Reply → Action Outcome}
      (found : system.tasks[position]? = some ⟨work, .request q next⟩) :
      Moved surroundings system (.step position) (some ⟨position, q, system.world, work⟩)
        ⟨((⟨work, .request q next⟩ : Task).step surroundings system.world).1,
          system.tasks.set position
            ((⟨work, .request q next⟩ : Task).step surroundings system.world).2⟩
  | drop {position : Nat} {work : UnitOfWork} {q : Request} {next : q.Reply → Action Outcome}
      (found : system.tasks[position]? = some ⟨work, .request q next⟩) :
      Moved surroundings system (.drop position) none
        ⟨system.world.drop work, system.tasks.set position .dropped⟩

variable {surroundings : Surroundings} {system : System}

theorem set_same {position : Nat} {task : Task} (found : system.tasks[position]? = some task) :
    system.tasks.set position task = system.tasks := by
  obtain ⟨bound, rfl⟩ := List.getElem?_eq_some_iff.mp found
  exact List.set_getElem_self bound

theorem moved (surroundings : Surroundings) (system : System) (move : Move) :
    system.Moved surroundings move (system.call? move) (system.move surroundings move) := by
  cases move with
  | start action => exact .start action
  | step position =>
      simp only [call?, next?, System.move, step]
      cases found : system.tasks[position]? with
      | none => exact .idle _
      | some task =>
          obtain ⟨work, action⟩ := task
          cases action with
          | request q next => exact .call found
          | done outcome => simpa only [Task.step, set_same found] using .idle _
          | failed e => simpa only [Task.step, set_same found] using .idle _
  | drop position =>
      simp only [call?, System.move, drop]
      cases found : system.tasks[position]? with
      | none => exact .idle _
      | some task =>
          obtain ⟨work, action⟩ := task
          cases action with
          | request q next => exact .drop found
          | done outcome => simpa only [Task.drop, set_same found] using .idle _
          | failed e => simpa only [Task.drop, set_same found] using .idle _

/-! ## Runs in parts -/

theorem run_append (system : System) (before after : List Move) :
    system.run surroundings (before ++ after) =
      (system.run surroundings before).run surroundings after :=
  List.foldl_append

theorem calls_append (system : System) (before after : List Move) :
    system.calls surroundings (before ++ after) =
      system.calls surroundings before ++
        (system.run surroundings before).calls surroundings after := by
  induction before generalizing system with
  | nil => rfl
  | cons move rest ih =>
      rw [List.cons_append, calls, ih, calls, List.append_assoc]
      rfl

theorem mem_calls_cons {move : Move} {rest : List Move} {call : Call} :
    call ∈ system.calls surroundings (move :: rest) ↔ system.call? move = some call ∨
      call ∈ (system.move surroundings move).calls surroundings rest := by
  rw [calls, List.mem_append, Option.mem_toList]

theorem calls_nil : system.calls surroundings [] = [] := rfl

/-! ## Tasks that have ended -/

private theorem Moved.ended {move : Move} {called : Option Call} {later : System} {position : Nat}
    {task : Task} (moved : system.Moved surroundings move called later)
    (found : system.tasks[position]? = some task) (ended : task.result? ≠ none) :
    later.tasks[position]? = some task := by
  have elsewhere {other : Nat} {work : UnitOfWork} {q : Request} {next : q.Reply → Action Outcome}
      (known : system.tasks[other]? = some ⟨work, .request q next⟩) (replaced : Task) :
      (system.tasks.set other replaced)[position]? = some task := by
    have apart : other ≠ position := by
      rintro rfl
      rw [known] at found
      cases found
      exact ended rfl
    rw [List.getElem?_set_ne apart, found]
  cases moved with
  | idle => exact found
  | start action =>
      rwa [System.start, List.getElem?_append_left (List.getElem?_eq_some_iff.mp found).1]
  | call known => exact elsewhere known _
  | drop known => exact elsewhere known _

private theorem run_ended {moves : List Move} {position : Nat} {task : Task}
    (found : system.tasks[position]? = some task) (ended : task.result? ≠ none) :
    (system.run surroundings moves).tasks[position]? = some task := by
  induction moves generalizing system with
  | nil => exact found
  | cons move rest ih => exact ih ((moved surroundings system move).ended found ended)

/-! ## Calls -/

theorem next?_eq_some_iff {position : Nat} {call : Call} : system.next? position = some call ↔
    call.position = position ∧ call.world = system.world ∧ ∃ continuation,
      system.tasks[position]? = some ⟨call.work, .request call.request continuation⟩ := by
  rw [next?]
  split
  next work q continuation found =>
    constructor
    · rintro ⟨⟩
      exact ⟨rfl, rfl, continuation, found⟩
    · rintro ⟨rfl, sameWorld, _, same⟩
      rw [found] at same
      obtain ⟨rfl, rfl, -⟩ := same
      rw [← sameWorld]
  next none =>
    constructor
    · nofun
    · rintro ⟨_, _, continuation, found⟩
      exact absurd found (none _ _ _)

theorem pending_of_run {moves : List Move} {position : Nat} {task : Task} {call : Call}
    (found : system.tasks[position]? = some task)
    (next : (system.run surroundings moves).next? position = some call) : task.result? = none := by
  by_contra ended
  obtain ⟨-, -, continuation, last⟩ := next?_eq_some_iff.mp next
  rw [run_ended found ended] at last
  cases last
  exact ended rfl

theorem call?_eq_some_iff {move : Move} {call : Call} : system.call? move = some call ↔
    move = .step call.position ∧ system.next? call.position = some call := by
  cases move with
  | step position =>
      constructor
      · intro next
        obtain ⟨rfl, -⟩ := next?_eq_some_iff.mp next
        exact ⟨rfl, next⟩
      · rintro ⟨⟨⟩, next⟩
        exact next
  | start action => simp [call?]
  | drop position => simp [call?]

private theorem call?_world {move : Move} {call : Call} (called : system.call? move = some call) :
    call.world = system.world :=
  (next?_eq_some_iff.mp (call?_eq_some_iff.mp called).2).2.1

/-! ## Tables -/

theorem Moved.tables {move : Move} {call : Option Call} {later : System}
    (moved : system.Moved surroundings move call later) :
    later.world.store.tables =
      (call.map fun call => (call.after surroundings).1.store.tables).getD
        system.world.store.tables := by
  cases moved with
  | idle => rfl
  | start action => rfl
  | drop found => rfl
  | call found =>
      rw [Task.step_request, Task.settle_tables]
      rfl

/-- What the tables satisfy at first and every call keeps, they satisfy at every call. -/
theorem tables_run (kept : Tables → Prop) {moves : List Move}
    (start : kept system.world.store.tables)
    (keeps : ∀ call ∈ system.calls surroundings moves, kept call.world.store.tables →
      kept (call.after surroundings).1.store.tables) :
    (∀ call ∈ system.calls surroundings moves, kept call.world.store.tables) ∧
      kept (system.run surroundings moves).world.store.tables := by
  induction moves generalizing system with
  | nil => exact ⟨by simp [calls_nil], start⟩
  | cons move rest ih =>
      have next : kept (system.move surroundings move).world.store.tables := by
        rw [(moved surroundings system move).tables]
        cases called : system.call? move with
        | none => exact start
        | some call =>
            apply keeps call (mem_calls_cons.mpr (.inl called))
            rw [call?_world called]
            exact start
      obtain ⟨others, last⟩ := ih next fun call member =>
        keeps call (mem_calls_cons.mpr (.inr member))
      refine ⟨fun call member => ?_, last⟩
      rcases mem_calls_cons.mp member with called | member
      · rw [call?_world called]
        exact start
      · exact others call member

/-! ## Units of work -/

theorem Moved.length {move : Move} {called : Option Call} {later : System}
    (moved : system.Moved surroundings move called later) :
    system.tasks.length ≤ later.tasks.length := by
  cases moved with
  | idle => exact Nat.le_refl _
  | start action => simp [System.start]
  | drop found => simp
  | call found => simp

theorem Moved.work {move : Move} {called : Option Call} {later : System} {position : Nat}
    {call : Call} (moved : system.Moved surroundings move called later)
    (next : later.next? position = some call) :
    ((∃ before, system.next? position = some before ∧ call.work = before.work) ∧
        ∀ made, called = some made → made.position ≠ position) ∨
      (system.tasks.length ≤ position ∧ call.work = .empty) ∨
      ∃ made, called = some made ∧ made.position = position ∧
        call.work = (made.after surroundings).2 := by
  obtain ⟨-, -, continuation, found⟩ := next?_eq_some_iff.mp next
  have stayed {work : UnitOfWork} {q : Request} {next : q.Reply → Action Outcome}
      (same : system.tasks[position]? = some ⟨work, .request q next⟩) :
      ∃ before, system.next? position = some before ∧ work = before.work :=
    ⟨⟨position, q, system.world, work⟩, next?_eq_some_iff.mpr ⟨rfl, rfl, next, same⟩, rfl⟩
  cases moved with
  | idle => exact .inl ⟨stayed found, by simp⟩
  | start action =>
      rw [System.start] at found
      rcases Nat.lt_or_ge position system.tasks.length with early | late
      · rw [List.getElem?_append_left early] at found
        exact .inl ⟨stayed found, by simp⟩
      · rw [List.getElem?_append_right late] at found
        have started := List.mem_singleton.mp (List.mem_of_getElem? found)
        exact .inr (.inl ⟨late, congrArg Task.work started⟩)
  | @drop other work q next known =>
      rw [List.getElem?_set] at found
      split at found
      next =>
        split at found
        · cases congrArg Task.action (Option.some.inj found)
        · cases found
      next => exact .inl ⟨stayed found, by simp⟩
  | @call other work q next known =>
      rw [List.getElem?_set] at found
      split at found
      next same =>
        split at found
        · have stepped := Option.some.inj found
          rw [Task.step_request] at stepped
          have pending := congrArg Task.result? stepped
          rw [Task.settle_eq_of_pending pending] at stepped
          exact .inr (.inr ⟨_, rfl, same, (congrArg Task.work stepped).symm⟩)
        · cases found
      next differs =>
        refine .inl ⟨stayed found, ?_⟩
        rintro made ⟨⟩
        exact differs

/-- What holds of the units of work with which the tasks make their next calls, and what every call
keeps, holds of the units of work of all calls. -/
theorem works_run (kept : Nat → UnitOfWork → Prop) {moves : List Move}
    (start : ∀ position call, system.next? position = some call → kept position call.work)
    (fresh : ∀ position, system.tasks.length ≤ position → kept position .empty)
    (keeps : ∀ call ∈ system.calls surroundings moves, kept call.position call.work →
      kept call.position (call.after surroundings).2) :
    (∀ call ∈ system.calls surroundings moves, kept call.position call.work) ∧
      ∀ position call, (system.run surroundings moves).next? position = some call →
        kept position call.work := by
  induction moves generalizing system with
  | nil => exact ⟨by simp [calls_nil], start⟩
  | cons move rest ih =>
      have moved := moved surroundings system move
      have startLater : ∀ position call,
          (system.move surroundings move).next? position = some call →
            kept position call.work := by
        intro position call next
        rcases moved.work next with ⟨⟨before, next, same⟩, -⟩ | ⟨late, same⟩ |
          ⟨made, called, rfl, same⟩
        · rw [same]
          exact start position before next
        · rw [same]
          exact fresh position late
        · rw [same]
          exact keeps made (mem_calls_cons.mpr (.inl called))
            (start _ made (call?_eq_some_iff.mp called).2)
      obtain ⟨others, last⟩ := ih startLater
        (fun position late => fresh position (Nat.le_trans moved.length late))
        (fun call member => keeps call (mem_calls_cons.mpr (.inr member)))
      refine ⟨fun call member => ?_, last⟩
      rcases mem_calls_cons.mp member with called | member
      · exact start _ call (call?_eq_some_iff.mp called).2
      · exact others call member

end System

end DoubleEntry
