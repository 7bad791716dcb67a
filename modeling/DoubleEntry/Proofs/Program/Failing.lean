import DoubleEntry.Proofs.Program.Alone

/-!
# Actions that fail when they run alone

`Action.Fails` says that an action, run alone from a point, fails with an error at
another point.  What follows in a sequence is not reached; a handler goes on from the
point of the failure.
-/

namespace DoubleEntry.Action

variable {α β : Type} {surroundings : Surroundings} {busy : List AccountId}
  {before middle after : Point} {e : LedgerError}

/-! ## Sequences -/

/-- Run alone from a point, the action fails with the error at another point. -/
def Fails (surroundings : Surroundings) (busy : List AccountId) (action : Action α)
    (before : Point) (e : LedgerError) (after : Point) : Prop :=
  ∀ world work, before.At busy world work → ∃ world' work',
    action.exec surroundings world work = (.error e, world', work') ∧ after.At busy world' work'

theorem Fails.bind {action : Action α} (fails : action.Fails surroundings busy before e after)
    (rest : α → Action β) : (action >>= rest).Fails surroundings busy before e after := by
  intro world work stands
  obtain ⟨world', work', executed, stands'⟩ := fails world work stands
  exact ⟨world', work', exec_bind_of_error rest executed, stands'⟩

theorem Yields.bind_fails {action : Action α} {rest : α → Action β} {value : α}
    (first : action.Yields surroundings busy before value middle)
    (second : (rest value).Fails surroundings busy middle e after) :
    (action >>= rest).Fails surroundings busy before e after := by
  intro world work stands
  obtain ⟨world', work', executed, stands'⟩ := first world work stands
  obtain ⟨world'', work'', executed', stands''⟩ := second world' work' stands'
  exact ⟨world'', work'', (exec_bind rest executed).trans executed', stands''⟩

theorem Fails.map {action : Action α} (fails : action.Fails surroundings busy before e after)
    (f : α → β) : (f <$> action).Fails surroundings busy before e after :=
  fails.bind fun value => pure (f value)

theorem Fails.handleError {action : Action α} {handle : LedgerError → Action α} {e' : LedgerError}
    (fails : action.Fails surroundings busy before e middle)
    (handled : (handle e).Fails surroundings busy middle e' after) :
    (action.handleError handle).Fails surroundings busy before e' after := by
  intro world work stands
  obtain ⟨world', work', executed, stands'⟩ := fails world work stands
  obtain ⟨world'', work'', executed', stands''⟩ := handled world' work' stands'
  exact ⟨world'', work'', (exec_handleError_of_error handle executed).trans executed', stands''⟩

theorem fails_throw (e : LedgerError) (point : Point) :
    (throw e : Action α).Fails surroundings busy point e point :=
  fun world work stands => ⟨world, work, rfl, stands⟩

theorem fails_lift {result : Except LedgerError α} (fails : result = .error e) (point : Point) :
    (liftM result : Action α).Fails surroundings busy point e point := by
  subst fails
  exact fails_throw e point

theorem fails_orThrow {found : Option α} (missing : found = none) (e : LedgerError)
    (point : Point) : (orThrow found e).Fails surroundings busy point e point := by
  subst missing
  exact fails_throw e point

/-! ## Refusals -/

def Refuses (surroundings : Surroundings) (busy : List AccountId) (action : Action α)
    (before : Point) : Prop :=
  ∃ e after, action.Fails surroundings busy before e after ∧ after.tables = before.tables

theorem Fails.refuses {action : Action α} (fails : action.Fails surroundings busy before e after)
    (same : after.tables = before.tables) : action.Refuses surroundings busy before :=
  ⟨e, after, fails, same⟩

theorem Yields.bind_refuses {action : Action α} {rest : α → Action β} {value : α}
    (first : action.Yields surroundings busy before value middle)
    (same : middle.tables = before.tables)
    (second : (rest value).Refuses surroundings busy middle) :
    (action >>= rest).Refuses surroundings busy before := by
  obtain ⟨e, after, fails, same'⟩ := second
  exact ⟨e, after, first.bind_fails fails, same'.trans same⟩

theorem Refuses.bind {action : Action α} (refuses : action.Refuses surroundings busy before)
    (rest : α → Action β) : (action >>= rest).Refuses surroundings busy before := by
  obtain ⟨e, after, fails, same⟩ := refuses
  exact ⟨e, after, fails.bind rest, same⟩

theorem Refuses.handleError {action : Action α} {handle : LedgerError → Action α}
    (refuses : action.Refuses surroundings busy before)
    (handled : ∀ e middle, middle.tables = before.tables →
      (handle e).Refuses surroundings busy middle) :
    (action.handleError handle).Refuses surroundings busy before := by
  obtain ⟨e, middle, fails, same⟩ := refuses
  obtain ⟨e', after, fails', same'⟩ := handled e middle same
  exact ⟨e', after, fails.handleError fails', same'.trans same⟩

/-! ## Commits -/

/-- The references of the staged accounts are checked before anything else. -/
theorem fails_commit {tables : Tables} {issued ticks : Nat} {staged : UnitOfWork}
    (refused : UnitOfWork.checkAccounts tables [] staged.accounts = .error e) :
    commit.Fails surroundings busy ⟨tables, issued, ticks, staged⟩ e
      ⟨tables, issued, ticks, .empty⟩ := by
  intro world work stands
  have tables_eq : world.store.tables = tables := stands.tables
  have checked : work.check world.store.tables = .error e := by
    rw [UnitOfWork.check, tables_eq, stands.accounts_eq, refused]
    rfl
  refine ⟨world.drop work, .empty, ?_, ?_⟩
  · simp [commit, exec, Request.perform, Request.performCommit, Store.commit, checked, ofExcept,
      World.drop]
  · constructor
    case tables => exact tables_eq
    case issued => exact stands.issued
    case ticks => exact stands.ticks
    case staged => rfl
    case reads => simp [UnitOfWork.ReadsCurrent, UnitOfWork.empty]
    case locks =>
      exact fun account member => .inr (mem_busy_of_release stands.locks account member)

/-! ## Running alone -/

theorem Fails.run {action : Action α} {world : World}
    (fails : action.Fails surroundings world.store.locks.held
      ⟨world.store.tables, world.issued, world.ticks, .empty⟩ e after) :
    (action.run surroundings world).1 = .error e ∧
      (action.run surroundings world).2.store.tables = after.tables := by
  obtain ⟨world', work', executed, stands⟩ := fails world .empty (.start world)
  rw [Action.run, runFrom_eq, executed]
  exact ⟨rfl, stands.tables⟩

theorem Fails.run_of_free {action : Action α} {world : World}
    (free : world.store.locks.held = [])
    (fails : action.Fails surroundings []
      ⟨world.store.tables, world.issued, world.ticks, .empty⟩ e after) :
    (action.run surroundings world).1 = .error e ∧
      (action.run surroundings world).2.store.tables = after.tables := by
  rw [← free] at fails
  exact fails.run

end DoubleEntry.Action
