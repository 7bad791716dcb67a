import DoubleEntry.Proofs.Program.Alone
import DoubleEntry.Proofs.Program.Endings
import DoubleEntry.Proofs.Store.Refusal

/-!
# Actions that run alone come to no fault

`Action.Fares` says of an action that runs alone from a point: if it fails, the error
is no fault, and nothing was committed.  An action fares as its parts do.  Parts that
yield a value lead to another point, and what a search or a check can fail with is
seen to be no fault where it is made.  It may be taken for granted that the action
draws no identifier beyond a limit, up to which the supply is known.
-/

namespace DoubleEntry

namespace Request

theorem issued_le_perform (surroundings : Surroundings) (q : Request) (world : World)
    (work : UnitOfWork) : world.issued ≤ (q.perform surroundings world work).2.1.issued := by
  cases q with
  | freshId => exact Nat.le_succ _
  | commit =>
      simp only [perform, performCommit]
      split <;> exact Nat.le_refl _
  | acquire account =>
      simp only [perform, performAcquire]
      split <;> exact Nat.le_refl _
  | _ => exact Nat.le_refl _

end Request

namespace Action

variable {α β : Type} {surroundings : Surroundings} {busy : List AccountId} {limit : Nat}
  {before point : Point} {world world' : World} {work work' : UnitOfWork} {e : LedgerError}

/-! ## Execution -/

theorem issued_le_exec (surroundings : Surroundings) (action : Action α) (world : World)
    (work : UnitOfWork) :
    world.issued ≤ (action.exec surroundings world work).2.1.issued := by
  induction action generalizing world work with
  | done value => exact Nat.le_refl _
  | failed e => exact Nat.le_refl _
  | request q next ih => exact Nat.le_trans (q.issued_le_perform surroundings world work) (ih _ _ _)

private theorem Delivers.exec {action : Action α} {outcome : α} (delivers : action.Delivers outcome)
    (surroundings : Surroundings) (world : World) (work : UnitOfWork) :
    (action.exec surroundings world work).1 = .ok outcome := by
  induction action generalizing world work with
  | done value => exact congrArg Except.ok delivers
  | failed e => exact delivers.elim
  | request q next ih =>
      cases q with
      | record event => exact ih () delivers (world.record event) work
      | _ => exact delivers.elim

/-! ## Faring -/

/-- If the action fails, the error is no fault, and the tables are as before. -/
def Fares (surroundings : Surroundings) (busy : List AccountId) (limit : Nat) (action : Action α)
    (before : Point) : Prop :=
  ∀ world work, before.At busy world work → ∀ e world' work',
    action.exec surroundings world work = (.error e, world', work') → world'.issued ≤ limit →
      e.isFault = false ∧
        ∃ after : Point, after.tables = before.tables ∧ after.At busy world' work'

theorem fares_failed (innocent : e.isFault = false) :
    (failed e : Action α).Fares surroundings busy limit point := by
  rintro world work stands _ _ _ ⟨⟩ _
  exact ⟨innocent, point, rfl, stands⟩

theorem fares_pure (value : α) : (pure value : Action α).Fares surroundings busy limit point := by
  rintro world work stands _ _ _ ⟨⟩

theorem fares_of_issued {action : Action α}
    (fares : before.issued ≤ limit → action.Fares surroundings busy limit before) :
    action.Fares surroundings busy limit before := by
  intro world work stands e world' work' executed bounded
  have drawn := action.issued_le_exec surroundings world work
  rw [executed, stands.issued] at drawn
  exact fares (Nat.le_trans drawn bounded) world work stands e world' work' executed bounded

variable {tables : Tables} {issued ticks issued' ticks' : Nat} {staged staged' : UnitOfWork}

theorem Yields.bind_fares {action : Action α} {rest : α → Action β} {value : α}
    (first : action.Yields surroundings busy ⟨tables, issued, ticks, staged⟩ value
      ⟨tables, issued', ticks', staged'⟩)
    (second : (rest value).Fares surroundings busy limit ⟨tables, issued', ticks', staged'⟩) :
    (action >>= rest).Fares surroundings busy limit ⟨tables, issued, ticks, staged⟩ := by
  intro world work stands e world' work' executed bounded
  obtain ⟨middle, kept, yielded, stands'⟩ := first world work stands
  rw [exec_bind rest yielded] at executed
  exact second middle kept stands' e world' work' executed bounded

theorem fares_lift {result : Except LedgerError β} {next : β → Action α}
    (innocent : ∀ e, result = .error e → e.isFault = false)
    (goesOn : ∀ value, result = .ok value → (next value).Fares surroundings busy limit point) :
    ((liftM result : Action β) >>= next).Fares surroundings busy limit point := by
  cases result with
  | ok value => exact goesOn value rfl
  | error e => exact fares_failed (innocent e rfl)

theorem fares_orThrow {found : Option β} {next : β → Action α} (innocent : e.isFault = false)
    (goesOn : ∀ value, found = some value →
      (next value).Fares surroundings busy limit point) :
    (orThrow found e >>= next).Fares surroundings busy limit point := by
  cases found with
  | some value => exact goesOn value rfl
  | none => exact fares_failed innocent

theorem fares_commit {next : Unit → Action α} {outcome : α} (current : staged.Current tables)
    (delivers : (next ()).Delivers outcome) :
    (commit >>= next).Fares surroundings busy limit ⟨tables, issued, ticks, staged⟩ := by
  intro world work stands e world' work' executed _
  have tables_eq : world.store.tables = tables := stands.tables
  cases checked : work.check world.store.tables with
  | ok =>
      have committed : commit.exec surroundings world work =
          (.ok (), (Request.performCommit world work).2) := by
        simp [commit, exec, Request.perform, Request.performCommit, Store.commit, checked,
          ofExcept]
      rw [exec_bind next committed] at executed
      have ended := delivers.exec surroundings (Request.performCommit world work).2.1
        (Request.performCommit world work).2.2
      rw [executed] at ended
      cases ended
  | error refusal =>
      have refused : commit.exec surroundings world work =
          (.error refusal, world.drop work, .empty) := by
        simp [commit, exec, Request.perform, Request.performCommit, Store.commit, checked,
          ofExcept, World.drop]
      rw [exec_bind_of_error next refused] at executed
      cases executed
      rw [tables_eq] at checked
      refine ⟨(current.of_bare stands.staged.symm).refusal stands.reads checked,
        ⟨tables, issued, ticks, .empty⟩, rfl, ?_⟩
      constructor
      case tables => exact stands.tables
      case issued => exact stands.issued
      case ticks => exact stands.ticks
      case staged => rfl
      case reads => simp [UnitOfWork.ReadsCurrent, UnitOfWork.empty]
      case locks =>
        exact fun account member => .inr (mem_busy_of_release stands.locks account member)

theorem Fares.handleError {action : Action α} {handle : LedgerError → Action α}
    (fares : action.Fares surroundings busy limit before)
    (handles : ∀ e (after : Point), e.isFault = false → after.tables = before.tables →
      (handle e).Fares surroundings busy limit after) :
    (action.handleError handle).Fares surroundings busy limit before := by
  intro world work stands e world' work' executed bounded
  cases first : action.exec surroundings world work with
  | mk result rest =>
      obtain ⟨middle, kept⟩ := rest
      cases result with
      | ok value =>
          rw [exec_handleError handle first] at executed
          cases executed
      | error raised =>
          rw [exec_handleError_of_error handle first] at executed
          have drawn := (handle raised).issued_le_exec surroundings middle kept
          rw [executed] at drawn
          obtain ⟨innocent, after, same, stands'⟩ :=
            fares world work stands raised middle kept first (Nat.le_trans drawn bounded)
          obtain ⟨innocent', after', same', stands''⟩ :=
            handles raised after innocent same middle kept stands' e world' work' executed bounded
          exact ⟨innocent', after', same'.trans same, stands''⟩

private theorem exec_map (f : α → β) (action : Action α) (world : World) (work : UnitOfWork) :
    (f <$> action).exec surroundings world work =
      ((action.exec surroundings world work).1.map f, (action.exec surroundings world work).2) := by
  induction action generalizing world work with
  | done value => rfl
  | failed e => rfl
  | request q next ih => exact ih _ _ _

theorem Fares.map {action : Action α} (fares : action.Fares surroundings busy limit before)
    (f : α → β) : (f <$> action).Fares surroundings busy limit before := by
  intro world work stands e world' work' executed bounded
  rw [exec_map] at executed
  cases first : action.exec surroundings world work with
  | mk result rest =>
      rw [first] at executed
      cases result with
      | ok value => cases executed
      | error raised =>
          cases executed
          exact fares world work stands e world' work' first bounded

end Action

end DoubleEntry
