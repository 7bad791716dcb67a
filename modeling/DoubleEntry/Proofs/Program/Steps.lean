import DoubleEntry.Program.Interleaving
import DoubleEntry.Proofs.Program.Vouching

/-!
# What one request changes

A request changes the committed tables only if it commits.  It takes locks that
nobody holds and frees only locks of its own unit of work, so locks exclude each
other.  And it draws at most the next identifier of the supply.
-/

namespace DoubleEntry

/-! ## Tables -/

namespace Request

variable (surroundings : Surroundings) {q : Request} {world : World} {work : UnitOfWork}

theorem perform_tables_of_not_commits (noCommit : ¬ q.Commits world.store.tables work) :
    (q.perform surroundings world work).2.1.store.tables = world.store.tables := by
  cases q with
  | commit =>
      cases checked : work.check world.store.tables with
      | ok => exact absurd ⟨rfl, UnitOfWork.check_eq_ok_iff.mp checked⟩ noCommit
      | error e => simp [perform, performCommit, Store.commit, checked, Store.abandon]
  | acquire account =>
      simp only [perform, performAcquire, Store.acquire]
      split
      next store work' granted =>
        split at granted
        · cases granted
          rfl
        · split at granted
          · cases granted
            rfl
          · cases granted
      next => rfl
  | _ => rfl

theorem perform_of_commits (commits : q.Commits world.store.tables work) :
    (q.perform surroundings world work).2.1.store.tables = work.publish world.store.tables ∧
      (q.perform surroundings world work).2.2 = .empty ∧
      (q.perform surroundings world work).2.1.issued = world.issued := by
  obtain ⟨rfl, acceptable⟩ := commits
  have accepted := UnitOfWork.check_eq_ok_iff.mpr acceptable
  refine ⟨?_, ?_, ?_⟩ <;>
    simp [perform, performCommit, Store.commit, accepted, Store.abandon, World.record]

theorem performAcquire_work (world : World) (work : UnitOfWork) (account : AccountId) :
    ∃ guards, (performAcquire world work account).2.2 = { work with guards } := by
  simp only [performAcquire, Store.acquire]
  split
  next store work' granted =>
    split at granted
    · cases granted
      exact ⟨work.guards, rfl⟩
    · split at granted
      · cases granted
        exact ⟨_, rfl⟩
      · cases granted
  next => exact ⟨work.guards, rfl⟩

theorem performCommit_work (world : World) (work : UnitOfWork) :
    (performCommit world work).2.2 = .empty := by
  simp only [performCommit]
  split <;> rfl

end Request

/-! ## Locks -/

structure Excludes (held guards held' guards' : List AccountId) : Prop where
  keeps : (∀ account ∈ guards, account ∈ held) → ∀ account ∈ guards', account ∈ held'
  spares : ∀ account ∈ held, account ∉ guards → account ∈ held'
  adds : ∀ account ∈ guards', account ∈ guards ∨ account ∉ held

namespace Excludes

variable {held guards held' guards' held'' guards'' : List AccountId}

theorem refl (held guards : List AccountId) : Excludes held guards held guards where
  keeps own := own
  spares _ member _ := member
  adds _ member := .inl member

theorem trans (first : Excludes held guards held' guards')
    (second : Excludes held' guards' held'' guards'') : Excludes held guards held'' guards'' where
  keeps own := second.keeps (first.keeps own)
  spares account member foreign := by
    apply second.spares account (first.spares account member foreign)
    intro taken
    rcases first.adds account taken with own | free
    · exact foreign own
    · exact free member
  adds account member := by
    rcases second.adds account member with own | free
    · exact first.adds account own
    · by_cases foreign : account ∈ guards
      · exact .inl foreign
      · exact .inr fun member => free (first.spares account member foreign)

theorem release (locks : Locks) (guards : List AccountId) :
    Excludes locks.held guards (locks.release guards).held [] where
  keeps _ := nofun
  spares account member foreign := by simp [Locks.release, member, foreign]
  adds := nofun

private theorem acquire {locks locks' : Locks} {account : AccountId}
    (granted : locks.acquire? account = some locks') (guards : List AccountId) :
    Excludes locks.held guards locks'.held (guards ++ [account]) := by
  rw [Locks.acquire?] at granted
  split at granted
  next => cases granted
  next free =>
    cases granted
    constructor
    · intro own other member
      rcases List.mem_append.mp member with member | member
      · exact List.mem_cons_of_mem _ (own other member)
      · rw [List.mem_singleton.mp member]
        exact List.mem_cons_self
    · exact fun other member _ => List.mem_cons_of_mem _ member
    · intro other member
      rcases List.mem_append.mp member with member | member
      · exact .inl member
      · rw [List.mem_singleton.mp member]
        exact .inr free

end Excludes

theorem Request.perform_excludes (surroundings : Surroundings) (q : Request) (world : World)
    (work : UnitOfWork) : Excludes world.store.locks.held work.guards
      (q.perform surroundings world work).2.1.store.locks.held
      (q.perform surroundings world work).2.2.guards := by
  cases q with
  | openWork => exact .release world.store.locks work.guards
  | commit =>
      cases checked : work.check world.store.tables with
      | ok =>
          simp only [perform, performCommit, Store.commit, checked]
          exact .release world.store.locks work.guards
      | error e =>
          simp only [perform, performCommit, Store.commit, checked]
          exact .release world.store.locks work.guards
  | acquire account =>
      by_cases held : account ∈ work.guards
      · simp only [perform, performAcquire, Store.acquire, if_pos held]
        exact .refl _ _
      · cases granted : world.store.locks.acquire? account with
        | none =>
            simp only [perform, performAcquire, Store.acquire, if_neg held, granted]
            exact .refl _ _
        | some locks =>
            simp only [perform, performAcquire, Store.acquire, if_neg held, granted]
            exact .acquire granted work.guards
  | ledgerAt time =>
      simp only [perform, tracked]
      cases work.ledgerAt world.store.tables time <;> exact .refl _ _
  | openLedger =>
      simp only [perform, tracked]
      cases work.openLedger world.store.tables <;> exact .refl _ _
  | previousLedger ledger =>
      simp only [perform, tracked]
      cases work.previousLedger world.store.tables ledger <;> exact .refl _ _
  | _ => exact .refl _ _

/-! ## Identifiers -/

/-- What the task at a position has drawn: positions in the supply that are its own. -/
structure Drawn (owner : Nat → Nat) (issued position : Nat) (drawn : List Nat) : Prop where
  ascends : drawn.Pairwise (· < ·)
  issued : ∀ i ∈ drawn, i < issued
  owned : ∀ i ∈ drawn, owner i = position

theorem Drawn.sublist {owner : Nat → Nat} {issued position : Nat} {drawn used : List Nat}
    (isDrawn : Drawn owner issued position drawn) (sublist : used.Sublist drawn) :
    Drawn owner issued position used where
  ascends := isDrawn.ascends.sublist sublist
  issued i member := isDrawn.issued i (sublist.subset member)
  owned i member := isDrawn.owned i (sublist.subset member)

theorem Request.draws_drawn (surroundings : Surroundings) (q : Request) (world : World)
    (work : UnitOfWork) (owner : Nat → Nat) (position : Nat) : ∃ owner' : Nat → Nat,
      (∀ drawn, Drawn owner world.issued position drawn →
        Drawn owner' (q.perform surroundings world work).2.1.issued position
          (q.draws world drawn)) ∧
      ∀ other drawn, Drawn owner world.issued other drawn →
        Drawn owner' (q.perform surroundings world work).2.1.issued other drawn := by
  cases q with
  | freshId =>
      let owner' : Nat → Nat := fun i => if i = world.issued then position else owner i
      have still : ∀ other drawn, Drawn owner world.issued other drawn →
          Drawn owner' (world.issued + 1) other drawn := by
        intro other drawn isDrawn
        constructor
        · exact isDrawn.ascends
        · exact fun i member => Nat.lt_succ_of_lt (isDrawn.issued i member)
        · intro i member
          have before := isDrawn.issued i member
          rw [← isDrawn.owned i member]
          exact if_neg (Nat.ne_of_lt before)
      refine ⟨owner', ?_, still⟩
      intro drawn isDrawn
      have before := still position drawn isDrawn
      constructor
      · rw [draws, List.pairwise_append]
        refine ⟨isDrawn.ascends, List.pairwise_singleton _ _, ?_⟩
        intro i member j isNext
        rw [List.mem_singleton.mp isNext]
        exact isDrawn.issued i member
      · intro i member
        rcases List.mem_append.mp member with member | isNext
        · exact before.issued i member
        · rw [List.mem_singleton.mp isNext]
          exact Nat.lt_succ_self _
      · intro i member
        rcases List.mem_append.mp member with member | isNext
        · exact before.owned i member
        · rw [List.mem_singleton.mp isNext]
          exact if_pos rfl
  | commit =>
      refine ⟨owner, ?_, ?_⟩ <;> simp only [perform, performCommit] <;> split <;>
        simp [World.record, draws]
  | acquire account =>
      refine ⟨owner, ?_, ?_⟩ <;> simp only [perform, performAcquire] <;> split <;> simp [draws]
  | _ => exact ⟨owner, fun _ isDrawn => isDrawn, fun _ _ isDrawn => isDrawn⟩

/-! ## Settling -/

namespace Task

variable (world : World) (task : Task)

@[simp] theorem settle_action : (task.settle world).2.action = task.action := by
  rw [settle]
  split <;> rfl

@[simp] theorem settle_tables : (task.settle world).1.store.tables = world.store.tables := by
  rw [settle]
  split <;> rfl

@[simp] theorem settle_issued : (task.settle world).1.issued = world.issued := by
  rw [settle]
  split <;> rfl

theorem settle_excludes : Excludes world.store.locks.held task.work.guards
    (task.settle world).1.store.locks.held (task.settle world).2.work.guards := by
  rw [settle]
  split
  · exact .refl _ _
  · exact .release world.store.locks task.work.guards

variable {world} {task}

theorem settle_work_empty (idle : task.work = .empty) : (task.settle world).2.work = .empty := by
  rw [settle]
  split
  · exact idle
  · rfl

theorem settle_eq_of_pending (pending : (task.settle world).2.result? = none) :
    task.settle world = (world, task) := by
  obtain ⟨work, action⟩ := task
  cases action with
  | done outcome => cases pending
  | failed e => cases pending
  | request q next => rfl

theorem settle_vouches {surroundings : Surroundings} {refs : SystemRefs}
    {certified : Tables → UnitOfWork → List Nat → Outcome → Prop} {tables : Tables}
    {drawn : List Nat}
    (vouches : task.action.Vouches surroundings refs certified tables task.work drawn) :
    (task.settle world).2.action.Vouches surroundings refs certified tables
      (task.settle world).2.work drawn := by
  obtain ⟨work, action⟩ := task
  cases action with
  | request q next => exact vouches
  | done outcome => trivial
  | failed e => trivial

theorem step_request (surroundings : Surroundings) (world : World) (work : UnitOfWork) (q : Request)
    (next : q.Reply → Action Outcome) :
    (⟨work, .request q next⟩ : Task).step surroundings world =
      settle (q.perform surroundings world work).2.1
        ⟨(q.perform surroundings world work).2.2, next (q.perform surroundings world work).1⟩ := rfl

theorem step_delivers (surroundings : Surroundings) {outcome : Outcome}
    (delivers : task.action.Delivers outcome) (idle : task.work = .empty) :
    (task.step surroundings world).2.action.Delivers outcome ∧
      (task.step surroundings world).2.work = .empty := by
  obtain ⟨work, action⟩ := task
  cases action with
  | done value => exact ⟨delivers, idle⟩
  | failed e => exact ⟨delivers, idle⟩
  | request q next =>
      cases q with
      | record event =>
          rw [step_request]
          refine ⟨?_, settle_work_empty idle⟩
          rw [settle_action]
          exact delivers
      | _ => exact delivers.elim

end Task

end DoubleEntry
