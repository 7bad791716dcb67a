import DoubleEntry.Proofs.Program.Calm
import DoubleEntry.Proofs.Program.Endings

/-!
# What an action leaves behind when it fails

An action settles if it cannot fail any more once a commit of it was accepted: what
is left to do then is to log and to deliver the result.  A settling action that
fails has therefore left the tables as they were.  As for the locks, each request
leaves those of the others as they are, so that every action that runs alone gives
back all that it took.
-/

namespace DoubleEntry

def World.heldByOthers (world : World) (work : UnitOfWork) : List AccountId :=
  (world.store.locks.release work.guards).held

theorem World.heldByOthers_empty (world : World) :
    world.heldByOthers .empty = world.store.locks.held := by
  simp [heldByOthers, Locks.release, UnitOfWork.empty]

private theorem Locks.release_acquired {locks locks' : Locks} {account : AccountId}
    (granted : locks.acquire? account = some locks') (guards : List AccountId) :
    (locks'.release (guards ++ [account])).held = (locks.release guards).held := by
  rw [acquire?] at granted
  split at granted
  next => cases granted
  next free =>
    cases granted
    have others : ∀ other ∈ locks.held, other ≠ account := fun other member same =>
      free (same ▸ member)
    have same : ∀ other ∈ locks.held,
        decide (other ∉ guards ++ [account]) = decide (other ∉ guards) := by
      intro other member
      simp [others other member]
    simp only [release]
    rw [List.filter_cons_of_neg (by simp), List.filter_congr same]

namespace Request

variable {surroundings : Surroundings} {q : Request} {world : World} {work : UnitOfWork}

private theorem perform_heldByOthers :
    (q.perform surroundings world work).2.1.heldByOthers (q.perform surroundings world work).2.2 =
      world.heldByOthers work := by
  cases q with
  | openWork => exact (world.drop work).heldByOthers_empty
  | commit =>
      cases checked : work.check world.store.tables <;>
        simp only [perform, performCommit, Store.commit, checked] <;>
        exact World.heldByOthers_empty _
  | acquire account =>
      by_cases own : account ∈ work.guards
      · simp only [perform, performAcquire, Store.acquire, if_pos own]
      · cases granted : world.store.locks.acquire? account with
        | none => simp only [perform, performAcquire, Store.acquire, if_neg own, granted]
        | some locks =>
            simp only [perform, performAcquire, Store.acquire, if_neg own, granted]
            exact Locks.release_acquired granted work.guards
  | ledgerAt time =>
      simp only [perform, tracked]
      cases work.ledgerAt world.store.tables time <;> rfl
  | openLedger =>
      simp only [perform, tracked]
      cases work.openLedger world.store.tables <;> rfl
  | previousLedger ledger =>
      simp only [perform, tracked]
      cases work.previousLedger world.store.tables ledger <;> rfl
  | _ => rfl

private theorem withholds_of_ne_commit (noCommit : q ≠ .commit) (reply : q.Reply) :
    q.Withholds reply := by
  cases q with
  | commit => exact absurd rfl noCommit
  | _ => trivial

private theorem not_withholds_of_commits (commits : q.Commits world.store.tables work) :
    ¬ q.Withholds (q.perform surroundings world work).1 := by
  obtain ⟨rfl, acceptable⟩ := commits
  have accepted := UnitOfWork.check_eq_ok_iff.mpr acceptable
  simp [perform, performCommit, Store.commit, accepted, Withholds]

end Request

namespace Action

variable {α β : Type}

/-- After a commit that was accepted, only events are left to log before the result. -/
def Settles : Action α → Prop
  | done _ => True
  | failed _ => True
  | request q next => ∀ reply, (next reply).Settles ∧
      (¬ q.Withholds reply → ∃ outcome, (next reply).Delivers outcome)

/-! ## Parts of actions -/

theorem NeverCommits.bind {action : Action α} {rest : α → Action β} (first : action.NeverCommits)
    (second : ∀ value, (rest value).NeverCommits) : (action >>= rest).NeverCommits := by
  induction action with
  | done value => exact second value
  | failed e => trivial
  | request q next ih => exact ⟨first.1, fun reply => ih reply (first.2 reply)⟩

theorem settles_request {q : Request} {next : q.Reply → Action α} (noCommit : q ≠ .commit)
    (goesOn : ∀ reply, (next reply).Settles) : (request q next).Settles :=
  fun reply =>
    ⟨goesOn reply, fun accepted => absurd (Request.withholds_of_ne_commit noCommit reply) accepted⟩

theorem NeverCommits.settles {action : Action α} (never : action.NeverCommits) :
    action.Settles := by
  induction action with
  | done value => trivial
  | failed e => trivial
  | request q next ih => exact settles_request never.1 fun reply => ih reply (never.2 reply)

theorem NeverCommits.bind_settles {action : Action α} {rest : α → Action β}
    (first : action.NeverCommits) (second : ∀ value, (rest value).Settles) :
    (action >>= rest).Settles := by
  induction action with
  | done value => exact second value
  | failed e => trivial
  | request q next ih => exact settles_request first.1 fun reply => ih reply (first.2 reply)

private theorem Delivers.settles {action : Action α} {outcome : α}
    (delivers : action.Delivers outcome) : action.Settles := by
  induction action with
  | done value => trivial
  | failed e => trivial
  | request q next ih =>
      cases q with
      | record event => exact settles_request nofun fun _ => ih () delivers
      | _ => exact delivers.elim

theorem settles_commit {next : Unit → Action α} {outcome : α}
    (delivers : (next ()).Delivers outcome) : (commit >>= next).Settles := by
  intro reply
  cases reply with
  | ok => exact ⟨delivers.settles, fun _ => ⟨outcome, delivers⟩⟩
  | error e => exact ⟨trivial, fun accepted => absurd trivial accepted⟩

theorem Settles.map {action : Action α} (settles : action.Settles) (f : α → β) :
    (f <$> action).Settles := by
  induction action with
  | done value => trivial
  | failed e => trivial
  | request q next ih =>
      intro reply
      refine ⟨ih reply (settles reply).1, fun accepted => ?_⟩
      obtain ⟨outcome, delivers⟩ := (settles reply).2 accepted
      exact ⟨f outcome, delivers.map f⟩

theorem Settles.handleError {action : Action α} {handle : LedgerError → Action α}
    (settles : action.Settles) (handles : ∀ e, (handle e).Settles) :
    (action.handleError handle).Settles := by
  induction action with
  | done value => trivial
  | failed e => exact handles e
  | request q next ih =>
      intro reply
      refine ⟨ih reply (settles reply).1, fun accepted => ?_⟩
      obtain ⟨outcome, delivers⟩ := (settles reply).2 accepted
      exact ⟨outcome, delivers.handleError handle⟩

/-! ## Running -/

variable {surroundings : Surroundings} {world : World} {work : UnitOfWork}

theorem Settles.tables_of_error {action : Action α} {e : LedgerError} (settles : action.Settles)
    (fails : (action.runFrom surroundings world work).1 = .error e) :
    (action.runFrom surroundings world work).2.store.tables = world.store.tables := by
  induction action generalizing world work with
  | done value => cases fails
  | failed e => rfl
  | request q next ih =>
      rw [runFrom_request] at fails ⊢
      obtain ⟨goesOn, ends⟩ := settles (q.perform surroundings world work).1
      by_cases isCommit : q.Commits world.store.tables work
      · obtain ⟨outcome, delivers⟩ := ends (Request.not_withholds_of_commits isCommit)
        obtain ⟨later, ran, -⟩ := delivers.runFrom surroundings
          (q.perform surroundings world work).2.1 (q.perform surroundings world work).2.2
        rw [ran] at fails
        cases fails
      · rw [ih _ goesOn fails]
        exact Request.perform_tables_of_not_commits surroundings isCommit

/-- Whatever an action comes to, the locks that are held after it are those of the others. -/
theorem runFrom_held (action : Action α) (world : World) (work : UnitOfWork) :
    (action.runFrom surroundings world work).2.store.locks.held = world.heldByOthers work := by
  induction action generalizing world work with
  | done value => rfl
  | failed e => rfl
  | request q next ih =>
      rw [runFrom_request, ih]
      exact Request.perform_heldByOthers

end Action

theorem Operation.run_held (surroundings : Surroundings) (settings : LedgerSettings)
    (operation : Operation) (world : World) :
    (operation.run surroundings settings world).2.store.locks.held = world.store.locks.held := by
  rw [run, Action.run, Action.runFrom_held, World.heldByOthers_empty]

end DoubleEntry
