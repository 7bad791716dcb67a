import DoubleEntry.Proofs.Program.Holders
import DoubleEntry.Proofs.Service.Ascending

/-!
# Locks are exclusive, and nobody waits in a circle

Any operations that create no accounts run side by side over the accounts of one
store.  In every state that they reach, a lock has at most one holder, who keeps it
up to the end of the unit of work.  Each task asks for a lock that comes after all
that it holds, so whoever waits asks for a lock before the one that its holder asks
for: along a chain of waiting tasks the locks ascend, no chain is a circle, and each
ends with a task that holds a lock and waits for nobody.
-/

namespace DoubleEntry

/-! ## One task -/

namespace Task

variable {before : AccountId → AccountId → Prop} {known : Account → Prop}
  {surroundings : Surroundings} {world : World} {task : Task}

/-- The task stages no account, asks for locks in order and, once it has ended, holds none. -/
structure InOrder (before : AccountId → AccountId → Prop) (known : Account → Prop)
    (task : Task) : Prop where
  unstaged : task.work.accounts = []
  ascends : task.action.Ascends before known task.work.guards
  ended : task.result?.isSome → task.work.guards = []

structure Quiet (task : Task) : Prop where
  calm : task.action.Calm
  free : task.work.guards = []

private theorem inOrder_start {action : Action Outcome} (ascends : action.Ascends before known []) :
    (start action).InOrder before known :=
  ⟨rfl, ascends, fun _ => rfl⟩

private theorem inOrder_dropped : dropped.InOrder before known := inOrder_start trivial

private theorem quiet_dropped : dropped.Quiet := ⟨trivial, rfl⟩

private theorem InOrder.settle (unstaged : task.work.accounts = [])
    (ascends : task.action.Ascends before known task.work.guards) (world : World) :
    (task.settle world).2.InOrder before known := by
  obtain ⟨work, action⟩ := task
  cases action with
  | done outcome => exact ⟨rfl, trivial, fun _ => rfl⟩
  | failed e => exact ⟨rfl, trivial, fun _ => rfl⟩
  | request q next => exact ⟨unstaged, ascends, nofun⟩

private theorem Quiet.settle (quiet : task.Quiet) (world : World) :
    (task.settle world).2.Quiet := by
  obtain ⟨work, action⟩ := task
  cases action with
  | done outcome => exact ⟨trivial, rfl⟩
  | failed e => exact ⟨trivial, rfl⟩
  | request q next => exact quiet

private theorem InOrder.step (strict : ∀ account, ¬ before account account)
    (genuine : ∀ account ∈ world.store.tables.accounts.values, known account)
    (inOrder : task.InOrder before known) :
    (task.step surroundings world).2.InOrder before known := by
  obtain ⟨work, action⟩ := task
  cases action with
  | done outcome => exact inOrder
  | failed e => exact inOrder
  | request q next =>
      obtain ⟨fits, goesOn⟩ := inOrder.ascends
      rw [step_request]
      apply InOrder.settle (Request.perform_unstaged fits.keepsAccounts inOrder.unstaged)
      rw [Request.perform_guards strict fits]
      exact (goesOn _ (Request.perform_answers inOrder.unstaged genuine)).1

private theorem Quiet.step (quiet : task.Quiet) : (task.step surroundings world).2.Quiet := by
  obtain ⟨work, action⟩ := task
  cases action with
  | done outcome => exact quiet
  | failed e => exact quiet
  | request q next =>
      obtain ⟨⟨calm, goesOn⟩, free⟩ := quiet
      have inOrder := calm.inOrder (fun _ _ => False) work.guards
      rw [step_request]
      refine Quiet.settle ⟨goesOn _, ?_⟩ _
      rw [Request.perform_guards (fun _ => id) inOrder, calm.guardsAfter]
      exact free

private theorem InOrder.quiet_of_commit {work : UnitOfWork}
    {next : Request.commit.Reply → Action Outcome}
    (inOrder : (⟨work, .request .commit next⟩ : Task).InOrder before known) :
    ((⟨work, .request .commit next⟩ : Task).step surroundings world).2.Quiet := by
  rw [step_request]
  refine Quiet.settle ⟨(inOrder.ascends.2 _ trivial).2 rfl, ?_⟩ _
  rw [Request.perform, Request.performCommit_work]
  rfl

private theorem InOrder.keeps {work : UnitOfWork} {q : Request} {next : q.Reply → Action Outcome}
    (strict : ∀ account, ¬ before account account)
    (inOrder : (⟨work, .request q next⟩ : Task).InOrder before known) (noCommit : q ≠ .commit)
    (pending : ((⟨work, .request q next⟩ : Task).step surroundings world).2.result? = none)
    {account : AccountId} (held : account ∈ work.guards) :
    account ∈ ((⟨work, .request q next⟩ : Task).step surroundings world).2.work.guards := by
  obtain ⟨fits, -⟩ := inOrder.ascends
  rw [step_request] at pending ⊢
  rw [settle_eq_of_pending pending, Request.perform_guards strict fits]
  exact fits.keeps noCommit _ held

end Task

/-! ## All tasks -/

def Move.KeepsAccounts (settings : LedgerSettings) : Move → Prop
  | start action => ∃ operation : Operation,
    operation.KeepsAccounts ∧ action = operation.action settings
  | step _ | drop _ => True

namespace System

structure InOrder (refs : SystemRefs) (tables : Tables) (system : System) : Prop where
  exclusive : system.Exclusive
  accounts : system.world.store.tables.accounts = tables.accounts
  tasks : ∀ task ∈ system.tasks,
    task.InOrder (tables.Precedes refs) (· ∈ tables.accounts.values)

variable {surroundings : Surroundings} {settings : LedgerSettings} {tables : Tables}
  {system : System}

private theorem InOrder.move (identified : tables.Identified)
    (inOrder : system.InOrder settings.refs tables) {move : Move}
    (keepsAccounts : move.KeepsAccounts settings) :
    (system.move surroundings move).InOrder settings.refs tables := by
  have moved := moved surroundings system move
  have exclusive := inOrder.exclusive.moved moved
  have tasks := inOrder.tasks
  generalize system.call? move = called at moved
  generalize system.move surroundings move = later at moved exclusive
  cases moved with
  | idle => exact inOrder
  | start action =>
      refine ⟨exclusive, inOrder.accounts, fun task member => ?_⟩
      rcases List.mem_append.mp member with member | started
      · exact tasks task member
      · obtain ⟨operation, keeps, rfl⟩ := keepsAccounts
        rw [List.mem_singleton.mp started]
        exact Task.inOrder_start (Operation.ascends keeps tables)
  | drop found =>
      refine ⟨exclusive, inOrder.accounts, fun task member => ?_⟩
      rcases List.mem_or_eq_of_mem_set member with member | rfl
      · exact tasks task member
      · exact Task.inOrder_dropped
  | call found =>
      have mover := tasks _ (List.mem_of_getElem? found)
      refine ⟨exclusive, ?_, fun task member => ?_⟩
      · rw [Task.step_request, Task.settle_tables, Request.perform_accounts mover.unstaged]
        exact inOrder.accounts
      · rcases List.mem_or_eq_of_mem_set member with member | rfl
        · exact tasks task member
        · apply mover.step fun account => identified.not_precedes_self
          rw [inOrder.accounts]
          exact fun account stored => stored

private theorem InOrder.run (identified : tables.Identified)
    (inOrder : system.InOrder settings.refs tables) {moves : List Move}
    (keepsAccounts : ∀ move ∈ moves, move.KeepsAccounts settings) :
    (system.run surroundings moves).InOrder settings.refs tables := by
  induction moves generalizing system with
  | nil => exact inOrder
  | cons move rest ih =>
      exact ih (inOrder.move identified (keepsAccounts move List.mem_cons_self))
        fun later member => keepsAccounts later (List.mem_cons_of_mem _ member)

/-! ## After a commit -/

def Quiet (system : System) (position : Nat) : Prop :=
  ∃ task, system.tasks[position]? = some task ∧ task.Quiet

private theorem Quiet.guards {position : Nat} (quiet : system.Quiet position) :
    system.guards position = [] := by
  obtain ⟨task, found, quiet⟩ := quiet
  rw [guards_of_found found, quiet.free]

private theorem quiet_set {position other : Nat} {world : World} {task : Task}
    (quiet : system.Quiet position) (stays : other = position → task.Quiet) :
    (⟨world, system.tasks.set other task⟩ : System).Quiet position := by
  obtain ⟨before, found, quiet⟩ := quiet
  obtain ⟨bound, -⟩ := List.getElem?_eq_some_iff.mp found
  by_cases same : other = position
  · subst same
    exact ⟨task, List.getElem?_set_self bound, stays rfl⟩
  · exact ⟨before, by rw [List.getElem?_set_ne same, found], quiet⟩

private theorem Quiet.run {position : Nat} (quiet : system.Quiet position) (moves : List Move) :
    (system.run surroundings moves).Quiet position := by
  induction moves generalizing system with
  | nil => exact quiet
  | cons move rest ih =>
      have moved := moved surroundings system move
      rw [System.run, List.foldl_cons]
      apply ih
      generalize system.call? move = called at moved
      generalize system.move surroundings move = later at moved
      obtain ⟨task, found, isQuiet⟩ := quiet
      cases moved with
      | idle => exact ⟨task, found, isQuiet⟩
      | start action =>
          obtain ⟨bound, -⟩ := List.getElem?_eq_some_iff.mp found
          exact ⟨task, by rw [System.start, List.getElem?_append_left bound, found], isQuiet⟩
      | drop => exact quiet_set ⟨task, found, isQuiet⟩ fun _ => Task.quiet_dropped
      | call known =>
          refine quiet_set ⟨task, found, isQuiet⟩ fun same => ?_
          rw [same, found] at known
          cases known
          exact isQuiet.step

private theorem InOrder.quiet_of_commit (identified : tables.Identified)
    (inOrder : system.InOrder settings.refs tables) {moves : List Move}
    (keepsAccounts : ∀ move ∈ moves, move.KeepsAccounts settings) {call : Call}
    (member : call ∈ system.calls surroundings moves) (commits : call.request = .commit) :
    (system.run surroundings moves).Quiet call.position := by
  induction moves generalizing system with
  | nil => simp [calls_nil] at member
  | cons move rest ih =>
      rcases mem_calls_cons.mp member with called | member
      · rw [System.run, List.foldl_cons]
        refine Quiet.run ?_ rest
        have moved := moved surroundings system move
        rw [called] at moved
        generalize system.move surroundings move = later at moved
        cases moved with
        | @call position work q next found =>
            cases commits
            obtain ⟨bound, -⟩ := List.getElem?_eq_some_iff.mp found
            have mover := inOrder.tasks _ (List.mem_of_getElem? found)
            exact ⟨_, List.getElem?_set_self bound, mover.quiet_of_commit⟩
      · exact ih (inOrder.move identified (keepsAccounts move List.mem_cons_self))
          (fun later among => keepsAccounts later (List.mem_cons_of_mem _ among)) member

/-! ## Up to the end of the unit of work -/

def Ends (surroundings : Surroundings) (system : System) (move : Move) (position : Nat) : Prop :=
  move = .drop position ∨ move = .step position ∧
    ((∃ call, system.next? position = some call ∧ call.request = .commit) ∨
      ∃ task, (system.move surroundings move).tasks[position]? = some task ∧
        task.result?.isSome)

private theorem InOrder.keeps (identified : tables.Identified)
    (inOrder : system.InOrder settings.refs tables) (move : Move) {position : Nat}
    {account : AccountId} (held : account ∈ system.guards position)
    (goesOn : ¬ system.Ends surroundings move position) :
    account ∈ (system.move surroundings move).guards position := by
  have moved := moved surroundings system move
  rw [Ends] at goesOn
  generalize system.call? move = called at moved
  generalize system.move surroundings move = later at moved goesOn
  cases moved with
  | idle => exact held
  | start action =>
      rw [guards_start]
      exact held
  | @drop other work q next found =>
      have differs : other ≠ position := fun same => goesOn (.inl (congrArg Move.drop same))
      rw [guards_set (List.getElem?_eq_some_iff.mp found).1, if_neg differs]
      exact held
  | @call other work q next found =>
      obtain ⟨bound, -⟩ := List.getElem?_eq_some_iff.mp found
      rw [guards_set bound]
      split
      next same =>
        subst same
        have noCommit : q ≠ .commit := fun commits =>
          goesOn (.inr ⟨rfl, .inl ⟨_, by rw [next?, found], commits⟩⟩)
        have pending : ¬ ∃ task, (system.tasks.set other _)[other]? = some task ∧ _ :=
          fun ended => goesOn (.inr ⟨rfl, .inr ended⟩)
        rw [List.getElem?_set_self bound] at pending
        rw [guards_of_found found] at held
        refine (inOrder.tasks _ (List.mem_of_getElem? found)).keeps
          (fun account => identified.not_precedes_self) noCommit ?_ held
        rw [← Option.not_isSome_iff_eq_none]
        exact fun ended => pending ⟨_, rfl, ended⟩
      next => exact held

/-! ## Waiting -/

private theorem wanted?_eq_some {position : Nat} {account : AccountId}
    (wants : system.wanted? position = some account) : ∃ work next,
      system.tasks[position]? = some ⟨work, .request (.acquire account) next⟩ := by
  rw [wanted?] at wants
  obtain ⟨task, found, wants⟩ := Option.bind_eq_some_iff.mp wants
  obtain ⟨work, action⟩ := task
  rw [Task.wanted?] at wants
  split at wants
  next other next shape =>
    cases wants
    exact ⟨work, next, by rw [found, show action = _ from shape]⟩
  next => cases wants

private theorem InOrder.precedes {p q : Nat} {account other : AccountId}
    (inOrder : system.InOrder settings.refs tables) (waits : system.WaitsFor p q)
    (wants : system.wanted? p = some account) (wants' : system.wanted? q = some other) :
    tables.Precedes settings.refs account other := by
  obtain ⟨-, account', same, held⟩ := waits
  rw [wants] at same
  cases same
  obtain ⟨work, next, found⟩ := wanted?_eq_some wants'
  rw [guards_of_found found] at held
  exact (inOrder.tasks _ (List.mem_of_getElem? found)).ascends.1 account held

private theorem InOrder.precedes_of_chain {p q : Nat} {account other : AccountId}
    (identified : tables.Identified) (inOrder : system.InOrder settings.refs tables)
    (chain : Relation.TransGen system.WaitsFor p q) (wants : system.wanted? p = some account)
    (wants' : system.wanted? q = some other) :
    tables.Precedes settings.refs account other := by
  induction chain generalizing other with
  | single waits => exact inOrder.precedes waits wants wants'
  | tail chain waits ih =>
      obtain ⟨between, middle, -⟩ := waits.2
      exact identified.precedes_trans (ih middle) (inOrder.precedes waits middle wants')

private theorem InOrder.acyclic (identified : tables.Identified)
    (inOrder : system.InOrder settings.refs tables) (p : Nat) :
    ¬ Relation.TransGen system.WaitsFor p p := by
  intro circle
  obtain ⟨q, ⟨-, account, wants, -⟩, -⟩ := Relation.TransGen.head'_iff.mp circle
  exact identified.not_precedes_self (inOrder.precedes_of_chain identified circle wants wants)

private theorem WaitsFor.guards_ne_nil {p q : Nat} (waits : system.WaitsFor p q) :
    system.guards q ≠ [] := by
  obtain ⟨-, account, -, held⟩ := waits
  exact List.ne_nil_of_mem held

private theorem WaitsFor.bound {p q : Nat} (waits : system.WaitsFor p q) :
    q < system.tasks.length := by
  by_contra beyond
  apply waits.guards_ne_nil
  rw [System.guards, List.getElem?_eq_none (Nat.le_of_not_lt beyond)]

private theorem exists_last (acyclic : ∀ p, ¬ Relation.TransGen system.WaitsFor p p) {p q : Nat}
    (waits : system.WaitsFor p q) : ∃ r, Relation.TransGen system.WaitsFor p r ∧
      system.guards r ≠ [] ∧ ∀ s, ¬ system.WaitsFor r s := by
  let Beyond (i j : Fin system.tasks.length) : Prop := Relation.TransGen system.WaitsFor j i
  have trans : IsTrans _ Beyond := ⟨fun _ _ _ first second => second.trans first⟩
  have irrefl : Std.Irrefl Beyond := ⟨fun i => acyclic i⟩
  have wellFounded := Finite.wellFounded_of_trans_of_irrefl Beyond
  obtain ⟨r, reached, last⟩ := wellFounded.has_min
    {i | Relation.TransGen system.WaitsFor p i} ⟨⟨q, waits.bound⟩, .single waits⟩
  obtain ⟨_, -, before⟩ := Relation.TransGen.tail'_iff.mp reached
  refine ⟨r, reached, before.guards_ne_nil, fun s further => ?_⟩
  exact last ⟨s, further.bound⟩ (reached.tail further) (.single further)

/-! ## All runs -/

structure LocksInOrder (surroundings : Surroundings) (system : System) (moves : List Move) :
    Prop where
  exclusive : (system.run surroundings moves).Exclusive
  keeps : ∀ move position account, account ∈ (system.run surroundings moves).guards position →
    account ∈ (system.run surroundings (moves ++ [move])).guards position ∨
      (system.run surroundings moves).Ends surroundings move position
  after_end : ∀ (position : Nat) (task : Task),
    (system.run surroundings moves).tasks[position]? = some task → task.result?.isSome →
      task.work.guards = []
  after_commit : ∀ call ∈ system.calls surroundings moves, call.request = .commit →
    (system.run surroundings moves).guards call.position = []
  acyclic : ∀ p, ¬ Relation.TransGen (system.run surroundings moves).WaitsFor p p
  progress : ∀ p q, (system.run surroundings moves).WaitsFor p q → ∃ r,
    Relation.TransGen (system.run surroundings moves).WaitsFor p r ∧
      (system.run surroundings moves).guards r ≠ [] ∧
      ∀ s, ¬ (system.run surroundings moves).WaitsFor r s

/-- Operations that create no accounts are started, make their steps and are dropped in any order,
over a store that has no two accounts with one identifier. -/
theorem locksInOrder (surroundings : Surroundings) (settings : LedgerSettings) (world : World)
    (moves : List Move) (free : world.store.locks.held = [])
    (identified : world.store.tables.Identified)
    (keepsAccounts : ∀ move ∈ moves, move.KeepsAccounts settings) :
    LocksInOrder surroundings ⟨world, []⟩ moves := by
  have exclusive : (⟨world, []⟩ : System).Exclusive := by
    constructor <;> simp [System.guards, free]
  have start : (⟨world, []⟩ : System).InOrder settings.refs world.store.tables :=
    ⟨exclusive, rfl, by simp⟩
  have inOrder : (System.run surroundings ⟨world, []⟩ moves).InOrder settings.refs
      world.store.tables := start.run identified keepsAccounts
  constructor
  case exclusive => exact inOrder.exclusive
  case keeps =>
    intro move position account held
    rw [run_append]
    by_cases ends : (System.run surroundings ⟨world, []⟩ moves).Ends surroundings move position
    · exact .inr ends
    · exact .inl (inOrder.keeps identified move held ends)
  case after_end =>
    exact fun position task found => (inOrder.tasks task (List.mem_of_getElem? found)).ended
  case after_commit =>
    exact fun call member commits =>
      (start.quiet_of_commit identified keepsAccounts member commits).guards
  case acyclic => exact inOrder.acyclic identified
  case progress => exact fun p q => exists_last (inOrder.acyclic identified)

/-- The balance of one customer is asked for while two customers pay each other: one payment waits
for the lock that the balance needs, and the other payment waits for the first one. -/
theorem locksInOrder_payments : ∃ (world : World) (moves : List Move),
    world.store.locks.held = [] ∧ world.store.tables.Identified ∧
    (∀ move ∈ moves, move.KeepsAccounts .standard) ∧
    (System.run .counting ⟨world, []⟩ moves).WaitsFor 0 2 ∧
    (System.run .counting ⟨world, []⟩ moves).WaitsFor 1 0 ∧
    LocksInOrder .counting ⟨world, []⟩ moves := by
  let world := (Operation.runAll .counting .standard [.ensureSystemAccounts,
    .openFirstLedger .epoch, .createAccount "a" "a" .liability .current,
    .createAccount "b" "b" .liability .current] .empty).2
  let b : Account := (world.store.tables.accounts.get? "b").get (by decide +kernel)
  let posting : Bank.Posting := ⟨⟨100, by decide, by decide⟩, "", .epoch⟩
  let operations : List Operation :=
    [.transfer "a" "b" posting, .transfer "b" "a" posting, .getOrCreateBalance b .epoch]
  let moves : List Move := operations.map (fun operation => .start (operation.action .standard)) ++
    [0, 0, 0, 0, 1, 1, 1, 2, 2].map .step
  have free : world.store.locks.held = [] := by decide +kernel
  have identified : world.store.tables.Identified := by
    unfold Tables.Identified
    decide +kernel
  have keepsAccounts : ∀ move ∈ moves, move.KeepsAccounts .standard := by
    intro move member
    rcases List.mem_append.mp member with started | stepped
    · obtain ⟨operation, among, rfl⟩ := List.mem_map.mp started
      have keeps : ∀ operation ∈ operations, operation.KeepsAccounts := by
        simp [operations, Operation.KeepsAccounts]
      exact ⟨operation, keeps operation among, rfl⟩
    · obtain ⟨position, -, rfl⟩ := List.mem_map.mp stepped
      trivial
  have first : ∃ account ∈ (System.run .counting ⟨world, []⟩ moves).wanted? 0,
      account ∈ (System.run .counting ⟨world, []⟩ moves).guards 2 := by
    decide +kernel
  have second : ∃ account ∈ (System.run .counting ⟨world, []⟩ moves).wanted? 1,
      account ∈ (System.run .counting ⟨world, []⟩ moves).guards 0 := by
    decide +kernel
  exact ⟨world, moves, free, identified, keepsAccounts, ⟨by decide, first⟩, ⟨by decide, second⟩,
    locksInOrder .counting .standard world moves free identified keepsAccounts⟩

end System

end DoubleEntry
