import DoubleEntry.Service.Operation

/-!
# Operations side by side

A system is one world and the tasks that act on it.  In each step one task makes
its next request; a task that has come to its end drops its unit of work.  A lock
that somebody else holds makes the request for it time out, and a task that waits
is one that is not chosen.  `Reachable` collects the states of all runs, whatever
the order of the steps.
-/

namespace DoubleEntry

structure Task where
  work : UnitOfWork
  action : Action Outcome

namespace Task

def start (action : Action Outcome) : Task := ⟨.empty, action⟩

def result? (task : Task) : Option (Except LedgerError Outcome) :=
  match task.action with
  | .done outcome => some (.ok outcome)
  | .failed e => some (.error e)
  | .request .. => none

/-- A task that has ended holds nothing any more. -/
def settle (world : World) (task : Task) : World × Task :=
  match task.action with
  | .request .. => (world, task)
  | _ => (world.drop task.work, { task with work := .empty })

def step (surroundings : Surroundings) (world : World) (task : Task) : World × Task :=
  match task.action with
  | .request q next =>
    let (reply, world, work) := q.perform surroundings world task.work
    settle world ⟨work, next reply⟩
  | _ => (world, task)

def wanted? (task : Task) : Option AccountId :=
  match task.action with
  | .request (.acquire account) _ => some account
  | _ => none

end Task

structure System where
  world : World
  tasks : List Task

namespace System

def empty : System := ⟨.empty, []⟩

def start (system : System) (action : Action Outcome) : System :=
  { system with tasks := system.tasks ++ [.start action] }

def step (surroundings : Surroundings) (system : System) (position : Nat) : System :=
  match system.tasks[position]? with
  | some task =>
    let (world, task) := task.step surroundings system.world
    ⟨world, system.tasks.set position task⟩
  | none => system

/-- The states that are reached from nothing when only allowed actions are started. -/
inductive Reachable (surroundings : Surroundings) (allowed : World → Action Outcome → Prop) :
    System → Prop where
  | empty : Reachable surroundings allowed empty
  | start {system : System} (action : Action Outcome) (isAllowed : allowed system.world action) :
      Reachable surroundings allowed system →
        Reachable surroundings allowed (system.start action)
  | step {system : System} (position : Nat) :
      Reachable surroundings allowed system →
        Reachable surroundings allowed (system.step surroundings position)

end System

namespace Operation

/-- A balance is asked for only of an account that the store holds. -/
def Admissible (tables : Tables) : Operation → Prop
  | getOrCreateBalance account _ => tables.accounts.get? account.reference = some account
  | _ => True

def Allowed (settings : LedgerSettings) (world : World) (action : Action Outcome) : Prop :=
  ∃ operation : Operation,
    operation.Admissible world.store.tables ∧ action = operation.action settings

/-- The worlds that operations reach when they run one after another. -/
inductive Reachable (surroundings : Surroundings) (settings : LedgerSettings) : World → Prop where
  | empty : Reachable surroundings settings .empty
  | run {world : World} (operation : Operation)
      (isAdmissible : operation.Admissible world.store.tables) :
      Reachable surroundings settings world →
        Reachable surroundings settings (operation.run surroundings settings world).2

end Operation

end DoubleEntry
