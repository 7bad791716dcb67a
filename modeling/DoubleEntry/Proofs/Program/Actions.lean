import DoubleEntry.Program.Run

/-!
# Laws of actions

Actions are a monad, and running them alone respects it.  `Action.exec` is
`Action.runFrom` before the unit of work is dropped, so that it can be continued:
a sequence runs the first part and then the rest.
-/

namespace DoubleEntry.Action

variable {α β γ : Type}

private theorem bind_done (action : Action α) : action.bind done = action := by
  induction action with
  | done value => rfl
  | failed e => rfl
  | request q next ih =>
      rw [bind]
      exact congrArg _ (funext ih)

private theorem bind_assoc' (action : Action α) (rest : α → Action β) (more : β → Action γ) :
    (action.bind rest).bind more = action.bind fun value => (rest value).bind more := by
  induction action with
  | done value => rfl
  | failed e => rfl
  | request q next ih =>
      simp only [bind]
      exact congrArg _ (funext ih)

instance : LawfulMonad Action :=
  LawfulMonad.mk' Action bind_done (fun _ _ => rfl) bind_assoc'

/-! ## Running without dropping the unit of work -/

/-- Runs an action alone and keeps the unit of work that it leaves behind. -/
def exec (surroundings : Surroundings) :
    Action α → World → UnitOfWork → Except LedgerError α × World × UnitOfWork
  | done value, world, work => (.ok value, world, work)
  | failed e, world, work => (.error e, world, work)
  | request q next, world, work =>
    let (reply, world, work) := q.perform surroundings world work
    (next reply).exec surroundings world work

variable {surroundings : Surroundings} {world world' : World} {work work' : UnitOfWork}

theorem runFrom_eq (action : Action α) (world : World) (work : UnitOfWork) :
    action.runFrom surroundings world work =
      ((action.exec surroundings world work).1,
        (action.exec surroundings world work).2.1.drop
          (action.exec surroundings world work).2.2) := by
  induction action generalizing world work with
  | done value => rfl
  | failed e => rfl
  | request q next ih => exact ih _ _ _

theorem exec_bind {action : Action α} {value : α} (rest : α → Action β)
    (first : action.exec surroundings world work = (.ok value, world', work')) :
    (action >>= rest).exec surroundings world work =
      (rest value).exec surroundings world' work' := by
  induction action generalizing world work with
  | done other =>
      cases first
      rfl
  | failed e => cases first
  | request q next ih => exact ih _ first

theorem exec_handleError {action : Action α} {value : α} (handle : LedgerError → Action α)
    (succeeds : action.exec surroundings world work = (.ok value, world', work')) :
    (action.handleError handle).exec surroundings world work = (.ok value, world', work') := by
  induction action generalizing world work with
  | done other => exact succeeds
  | failed e => cases succeeds
  | request q next ih => exact ih _ succeeds

theorem exec_bind_of_error {action : Action α} {e : LedgerError} (rest : α → Action β)
    (fails : action.exec surroundings world work = (.error e, world', work')) :
    (action >>= rest).exec surroundings world work = (.error e, world', work') := by
  induction action generalizing world work with
  | done value => cases fails
  | failed other =>
      cases fails
      rfl
  | request q next ih => exact ih _ fails

theorem exec_handleError_of_error {action : Action α} {e : LedgerError}
    (handle : LedgerError → Action α)
    (fails : action.exec surroundings world work = (.error e, world', work')) :
    (action.handleError handle).exec surroundings world work =
      (handle e).exec surroundings world' work' := by
  induction action generalizing world work with
  | done value => cases fails
  | failed other =>
      cases fails
      rfl
  | request q next ih => exact ih _ fails

end DoubleEntry.Action
