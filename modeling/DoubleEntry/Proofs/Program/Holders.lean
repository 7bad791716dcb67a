import DoubleEntry.Proofs.Program.Moves

/-!
# Who holds which lock

Whatever the tasks of a system do, a lock has at most one holder, and the locks that
are held are those of the tasks: none is left behind (`exclusive_run`).  A task waits
for another one if it asks for a lock that the other one holds.
-/

namespace DoubleEntry

/-! ## No lock is left behind -/

/-- Every lock that is held after somebody's step is their own, or somebody else held it before. -/
def LeavesNone (held guards held' guards' : List AccountId) : Prop :=
  ∀ account ∈ held', account ∈ guards' ∨ account ∈ held ∧ account ∉ guards

namespace LeavesNone

variable {held guards held' guards' held'' guards'' : List AccountId}

theorem refl (held guards : List AccountId) : LeavesNone held guards held guards := by
  intro account member
  by_cases own : account ∈ guards
  · exact .inl own
  · exact .inr ⟨member, own⟩

private theorem trans (first : LeavesNone held guards held' guards')
    (second : LeavesNone held' guards' held'' guards'') :
    LeavesNone held guards held'' guards'' := by
  intro account member
  rcases second account member with own | ⟨between, foreign⟩
  · exact .inl own
  · exact .inr ((first account between).resolve_left foreign)

theorem release (locks : Locks) (guards : List AccountId) :
    LeavesNone locks.held guards (locks.release guards).held [] := by
  intro account member
  simpa [Locks.release] using member

private theorem acquire {locks locks' : Locks} {account : AccountId}
    (granted : locks.acquire? account = some locks') (guards : List AccountId) :
    LeavesNone locks.held guards locks'.held (guards ++ [account]) := by
  rw [Locks.acquire?] at granted
  split at granted
  next => cases granted
  next =>
    cases granted
    intro other member
    rcases List.mem_cons.mp member with rfl | member
    · exact .inl (by simp)
    · exact (refl locks.held guards other member).imp_left (List.mem_append_left _)

end LeavesNone

private theorem Request.perform_leavesNone (surroundings : Surroundings) (q : Request)
    (world : World) (work : UnitOfWork) : LeavesNone world.store.locks.held work.guards
      (q.perform surroundings world work).2.1.store.locks.held
      (q.perform surroundings world work).2.2.guards := by
  cases q with
  | openWork => exact .release world.store.locks work.guards
  | commit =>
      cases checked : work.check world.store.tables <;>
        simp only [perform, performCommit, Store.commit, checked] <;>
        exact .release world.store.locks work.guards
  | acquire account =>
      by_cases held : account ∈ work.guards
      · simp only [perform, performAcquire, Store.acquire, if_pos held]
        exact .refl _ _
      · cases granted : world.store.locks.acquire? account with
        | none =>
            simp only [perform, performAcquire, Store.acquire, if_neg held, granted]
            exact .refl _ _
        | some locks =>
            simp only [perform, performAcquire, Store.acquire, if_neg held, granted]
            exact .acquire granted work.guards
  | ledgerAt time =>
      simp only [perform, tracked]
      cases work.ledgerAt world.store.tables time <;> exact .refl _ _
  | openLedger =>
      simp only [perform, tracked]
      cases work.openLedger world.store.tables <;> exact .refl _ _
  | previousLedger ledger =>
      simp only [perform, tracked]
      cases work.previousLedger world.store.tables ledger <;> exact .refl _ _
  | _ => exact .refl _ _

namespace Task

private theorem settle_leavesNone (world : World) (task : Task) :
    LeavesNone world.store.locks.held task.work.guards
      (task.settle world).1.store.locks.held (task.settle world).2.work.guards := by
  rw [settle]
  split
  · exact .refl _ _
  · exact .release world.store.locks task.work.guards

private theorem step_leavesNone (surroundings : Surroundings) (world : World) (task : Task) :
    LeavesNone world.store.locks.held task.work.guards
      (task.step surroundings world).1.store.locks.held
      (task.step surroundings world).2.work.guards := by
  obtain ⟨work, action⟩ := task
  cases action with
  | done outcome => exact .refl _ _
  | failed e => exact .refl _ _
  | request q next =>
      rw [step_request]
      exact (q.perform_leavesNone surroundings world work).trans (settle_leavesNone _ _)

private theorem step_excludes (surroundings : Surroundings) (world : World) (task : Task) :
    Excludes world.store.locks.held task.work.guards
      (task.step surroundings world).1.store.locks.held
      (task.step surroundings world).2.work.guards := by
  obtain ⟨work, action⟩ := task
  cases action with
  | done outcome => exact .refl _ _
  | failed e => exact .refl _ _
  | request q next =>
      rw [step_request]
      exact (q.perform_excludes surroundings world work).trans
        (settle_excludes (q.perform surroundings world work).2.1 ⟨_, _⟩)

end Task

/-! ## Holders -/

namespace System

def guards (system : System) (position : Nat) : List AccountId :=
  match system.tasks[position]? with
  | some task => task.work.guards
  | none => []

/-- A lock has at most one holder, and those that are held are the locks of the tasks. -/
structure Exclusive (system : System) : Prop where
  one_holder : ∀ p q account, account ∈ system.guards p → account ∈ system.guards q → p = q
  held_iff : ∀ account, account ∈ system.world.store.locks.held ↔
    ∃ p, account ∈ system.guards p

def wanted? (system : System) (position : Nat) : Option AccountId :=
  system.tasks[position]?.bind Task.wanted?

def WaitsFor (system : System) (p q : Nat) : Prop :=
  p ≠ q ∧ ∃ account, system.wanted? p = some account ∧ account ∈ system.guards q

variable {surroundings : Surroundings} {system later : System}

theorem guards_of_found {position : Nat} {task : Task}
    (found : system.tasks[position]? = some task) : system.guards position = task.work.guards := by
  rw [guards, found]

theorem guards_set {position other : Nat} {world : World} {task : Task}
    (bound : position < system.tasks.length) :
    (⟨world, system.tasks.set position task⟩ : System).guards other =
      if position = other then task.work.guards else system.guards other := by
  rw [guards, List.getElem?_set]
  by_cases same : position = other
  · rw [if_pos same, if_pos bound, if_pos same]
  · rw [if_neg same, if_neg same, guards]

theorem guards_start (action : Action Outcome) (position : Nat) :
    (system.start action).guards position = system.guards position := by
  simp only [guards, start]
  rcases Nat.lt_trichotomy position system.tasks.length with early | rfl | late
  · rw [List.getElem?_append_left early]
  · simp [Task.start, UnitOfWork.empty]
  · rw [List.getElem?_eq_none (Nat.le_of_lt late), List.getElem?_eq_none]
    rw [List.length_append]
    exact late

private theorem Moved.locks {move : Move} {called : Option Call}
    (moved : system.Moved surroundings move called later) :
    ∃ position, (∀ other, position ≠ other → later.guards other = system.guards other) ∧
      Excludes system.world.store.locks.held (system.guards position)
        later.world.store.locks.held (later.guards position) ∧
      LeavesNone system.world.store.locks.held (system.guards position)
        later.world.store.locks.held (later.guards position) := by
  cases moved with
  | idle => exact ⟨0, fun _ _ => rfl, .refl _ _, .refl _ _⟩
  | start action =>
      refine ⟨0, fun other _ => guards_start action other, ?_⟩
      rw [guards_start]
      exact ⟨.refl _ _, .refl _ _⟩
  | @drop position work q next found =>
      have bound := (List.getElem?_eq_some_iff.mp found).1
      refine ⟨position, fun other differs => ?_, ?_⟩
      · rw [guards_set bound, if_neg differs]
      · rw [guards_set bound, if_pos rfl, guards_of_found found]
        exact ⟨.release _ _, .release _ _⟩
  | @call position work q next found =>
      have bound := (List.getElem?_eq_some_iff.mp found).1
      refine ⟨position, fun other differs => ?_, ?_⟩
      · rw [guards_set bound, if_neg differs]
      · rw [guards_set bound, if_pos rfl, guards_of_found found]
        exact ⟨Task.step_excludes _ _ _, Task.step_leavesNone _ _ _⟩

theorem Exclusive.moved {move : Move} {called : Option Call} (exclusive : system.Exclusive)
    (moved : system.Moved surroundings move called later) : later.Exclusive := by
  obtain ⟨position, others, excludes, leavesNone⟩ := moved.locks
  have own : ∀ account ∈ system.guards position, account ∈ system.world.store.locks.held :=
    fun account member => (exclusive.held_iff account).mpr ⟨position, member⟩
  have apart : ∀ q, position ≠ q → ∀ account ∈ later.guards position,
      account ∉ later.guards q := by
    intro q differs account mine theirs
    rw [others q differs] at theirs
    rcases excludes.adds account mine with before | free
    · exact differs (exclusive.one_holder position q account before theirs)
    · exact free ((exclusive.held_iff account).mpr ⟨q, theirs⟩)
  constructor
  · intro p q account held held'
    by_cases first : position = p
    · by_cases second : position = q
      · exact first.symm.trans second
      · subst first
        exact absurd held' (apart q second account held)
    · by_cases second : position = q
      · subst second
        exact absurd held (apart p first account held')
      · rw [others p first] at held
        rw [others q second] at held'
        exact exclusive.one_holder p q account held held'
  · intro account
    constructor
    · intro held
      rcases leavesNone account held with mine | ⟨before, foreign⟩
      · exact ⟨position, mine⟩
      · obtain ⟨q, theirs⟩ := (exclusive.held_iff account).mp before
        have differs : position ≠ q := fun same => foreign (same ▸ theirs)
        exact ⟨q, by rwa [others q differs]⟩
    · rintro ⟨q, holds⟩
      by_cases same : position = q
      · subst same
        exact excludes.keeps own account holds
      · rw [others q same] at holds
        refine excludes.spares account ((exclusive.held_iff account).mpr ⟨q, holds⟩) ?_
        exact fun mine => same (exclusive.one_holder position q account mine holds)

theorem exclusive_run (exclusive : system.Exclusive) (moves : List Move) :
    (system.run surroundings moves).Exclusive := by
  induction moves generalizing system with
  | nil => exact exclusive
  | cons move rest ih => exact ih (exclusive.moved (moved surroundings system move))

end System

end DoubleEntry
