import DoubleEntry.Program.Run
import DoubleEntry.Proofs.Outcome
import DoubleEntry.Proofs.Program.Failing

/-!
# Sessions that run alone

A session goes from point to point as its actions do, and it stops at the first one that is
refused.  Between two actions nothing is staged and no lock is held; what is logged does
not matter.
-/

namespace DoubleEntry.Session

variable {α β : Type} {surroundings : Surroundings} {before middle after : Point}
  {holds : Tables → Prop}

/-- From every state at a point, the session succeeds and comes to a state at another one. -/
def Goes (session : Session α) (before after : Point) : Prop :=
  ∀ state, before.At [] state.world .empty → ∃ value state',
    session.run.run state = (.ok value, state') ∧ after.At [] state'.world .empty

def Stops (session : Session α) (before : Point) (holds : Tables → Prop) : Prop :=
  ∀ state, before.At [] state.world .empty → ∃ e state',
    session.run.run state = (.error e, state') ∧ holds state'.world.store.tables

/-! ## Sequences -/

theorem goes_pure (value : α) (point : Point) : (pure value : Session α).Goes point point :=
  fun state stands => ⟨value, state, rfl, stands⟩

theorem Goes.bind {session : Session α} {rest : α → Session β} (first : session.Goes before middle)
    (second : ∀ value, (rest value).Goes middle after) : (session >>= rest).Goes before after := by
  intro state stands
  obtain ⟨value, state', ran, stands'⟩ := first state stands
  obtain ⟨result, state'', ran', stands''⟩ := second value state' stands'
  refine ⟨result, state'', ?_, stands''⟩
  rw [run_bind, ran]
  exact ran'

theorem Goes.bind_stops {session : Session α} {rest : α → Session β}
    (first : session.Goes before middle)
    (second : ∀ value, (rest value).Stops middle holds) :
    (session >>= rest).Stops before holds := by
  intro state stands
  obtain ⟨value, state', ran, stands'⟩ := first state stands
  obtain ⟨e, state'', ran', held⟩ := second value state' stands'
  refine ⟨e, state'', ?_, held⟩
  rw [run_bind, ran]
  exact ran'

theorem Stops.bind {session : Session α} (stops : session.Stops before holds)
    (rest : α → Session β) : (session >>= rest).Stops before holds := by
  intro state stands
  obtain ⟨e, state', ran, held⟩ := stops state stands
  exact ⟨e, state', by rw [run_bind, ran], held⟩

theorem goes_forM {values : List α} {step : α → Session Unit} {point : Point}
    (goes : ∀ value ∈ values, (step value).Goes point point) :
    (values.forM step).Goes point point := by
  induction values with
  | nil => exact goes_pure () point
  | cons first rest ih =>
      obtain ⟨goesFirst, others⟩ := List.forall_mem_cons.mp goes
      exact goesFirst.bind fun _ => ih others

/-! ## Steps -/

private theorem at_drop {world : World} {work : UnitOfWork} (stands : after.At [] world work) :
    Point.At ⟨after.tables, after.issued, after.ticks, .empty⟩ [] (world.drop work) .empty where
  tables := stands.tables
  issued := stands.issued
  ticks := stands.ticks
  staged := rfl
  reads := by simp [UnitOfWork.ReadsCurrent, UnitOfWork.empty]
  locks account member := .inr (Action.mem_busy_of_release stands.locks account member)

theorem run_during (surroundings : Surroundings) (span : Span) (action : Action α)
    (state : SessionState) : ∃ entries, (during surroundings span action).run.run state =
      ((action.run surroundings state.world).1,
        ⟨(action.run surroundings state.world).2, entries⟩) :=
  ⟨_, rfl⟩

theorem goes_during {action : Action α} {f : α → β} {result : β}
    (yields : (f <$> action).Yields surroundings [] before result after) (span : Span) :
    (during surroundings span action).Goes before
      ⟨after.tables, after.issued, after.ticks, .empty⟩ := by
  intro state stands
  obtain ⟨world', work', executed, stands'⟩ := yields state.world .empty stands
  obtain ⟨entries, ran⟩ := run_during surroundings span action state
  rw [Action.run, Action.runFrom_eq] at ran
  rcases own : action.exec surroundings state.world .empty with ⟨value | e, world, work⟩
  · rw [show f <$> action = action >>= fun value => pure (f value) from rfl,
      Action.exec_bind_of_error _ own] at executed
    cases executed
  · rw [show f <$> action = action >>= fun value => pure (f value) from rfl,
      Action.exec_bind _ own] at executed
    cases executed
    rw [own] at ran
    exact ⟨_, _, ran, at_drop stands'⟩

theorem stops_during {action : Action α} (refuses : action.Refuses surroundings [] before)
    (held : holds before.tables) (span : Span) :
    (during surroundings span action).Stops before holds := by
  intro state stands
  obtain ⟨e, after, fails, same⟩ := refuses
  obtain ⟨world', work', executed, stands'⟩ := fails state.world .empty stands
  obtain ⟨entries, ran⟩ := run_during surroundings span action state
  rw [Action.run, Action.runFrom_eq, executed] at ran
  refine ⟨e, _, ran, ?_⟩
  have unchanged : world'.store.tables = before.tables := stands'.tables.trans same
  exact unchanged ▸ held

theorem goes_record (event : Event) (point : Point) : (record event).Goes point point :=
  fun state stands => ⟨(), ⟨state.world.record event, state.entries ++ [⟨event, none⟩]⟩, rfl,
    ⟨stands.tables, stands.issued, stands.ticks, stands.staged, stands.reads, stands.locks⟩⟩

private theorem at_now {tables : Tables} {issued ticks : Nat} {world : World}
    (stands : Point.At ⟨tables, issued, ticks, .empty⟩ [] world .empty) :
    Point.At ⟨tables, issued, ticks + 1, .empty⟩ [] { world with ticks := world.ticks + 1 }
      .empty :=
  ⟨stands.tables, stands.issued, congrArg (· + 1) stands.ticks, stands.staged, stands.reads,
    stands.locks⟩

theorem goes_now {rest : Instant → Session β} {tables : Tables} {issued ticks : Nat}
    (goes : (rest (surroundings.clock ticks)).Goes ⟨tables, issued, ticks + 1, .empty⟩ after) :
    (now surroundings >>= rest).Goes ⟨tables, issued, ticks, .empty⟩ after := by
  intro state stands
  obtain rfl : state.world.ticks = ticks := stands.ticks
  exact goes _ (at_now stands)

theorem goes_get {rest : SessionState → Session β}
    (goes : ∀ state, (rest state).Goes before after) :
    (get >>= rest : Session β).Goes before after := by
  intro state stands
  obtain ⟨value, state', ran, stands'⟩ := goes state state stands
  refine ⟨value, state', ?_, stands'⟩
  rw [run_bind]
  exact ran

end DoubleEntry.Session
