import DoubleEntry.Proofs.Program.Steps

/-!
# How an action ends that runs alone

An action that runs alone and vouches for its commit either commits once, with a
certificate, and results in what it certified, or it leaves all tables as they were
(`Vouches.runFrom`).  What it can result in without a commit that is accepted is read
off its shape (`EndsIn`).
-/

namespace DoubleEntry

def Request.Withholds : (q : Request) → q.Reply → Prop
  | commit, .ok () => False
  | _, _ => True

theorem Request.withholds_of_not_commits {surroundings : Surroundings} {q : Request}
    {world : World} {work : UnitOfWork} (noCommit : ¬ q.Commits world.store.tables work) :
    q.Withholds (q.perform surroundings world work).1 := by
  cases q with
  | commit =>
      cases checked : work.check world.store.tables with
      | ok => exact absurd ⟨rfl, UnitOfWork.check_eq_ok_iff.mp checked⟩ noCommit
      | error e => simp [perform, performCommit, Store.commit, checked, Withholds]
  | _ => trivial

namespace Action

variable {α β : Type}

/-- Unless a commit is accepted, the action fails or results in one of these values. -/
def EndsIn (values : α → Prop) : Action α → Prop
  | done value => values value
  | failed _ => True
  | request q next => ∀ reply, q.Withholds reply → (next reply).EndsIn values

variable {values : α → Prop}

theorem endsIn_bind {first : Action β} {rest : β → Action α}
    (goesOn : ∀ value, (rest value).EndsIn values) : (first >>= rest).EndsIn values := by
  induction first with
  | done value => exact goesOn value
  | failed e => trivial
  | request q next ih => exact fun reply _ => ih reply

theorem endsIn_commit {next : Unit → Action α} : (commit >>= next).EndsIn values := by
  intro reply withheld
  cases reply with
  | ok => exact withheld.elim
  | error e => trivial

theorem endsIn_of_forall (all : ∀ value, values value) (action : Action α) :
    action.EndsIn values := by
  induction action with
  | done value => exact all value
  | failed e => trivial
  | request q next ih => exact fun reply _ => ih reply

theorem endsIn_any (action : Action α) : action.EndsIn fun _ => True :=
  action.endsIn_of_forall fun _ => trivial

theorem EndsIn.mono {action : Action α} {more : α → Prop} (ends : action.EndsIn values)
    (subset : ∀ value, values value → more value) : action.EndsIn more := by
  induction action with
  | done value => exact subset value ends
  | failed e => trivial
  | request q next ih => exact fun reply withheld => ih reply (ends reply withheld)

theorem EndsIn.map {action : Action β} {f : β → α}
    (ends : action.EndsIn fun value => values (f value)) : (f <$> action).EndsIn values := by
  induction action with
  | done value => exact ends
  | failed e => trivial
  | request q next ih => exact fun reply withheld => ih reply (ends reply withheld)

theorem EndsIn.handleError {action : Action α} {handle : LedgerError → Action α}
    (ends : action.EndsIn values) (handles : ∀ e, (handle e).EndsIn values) :
    (action.handleError handle).EndsIn values := by
  induction action with
  | done value => exact ends
  | failed e => exact handles e
  | request q next ih => exact fun reply withheld => ih reply (ends reply withheld)

variable {surroundings : Surroundings} {refs : SystemRefs}
  {certified : Tables → UnitOfWork → List Nat → α → Prop} {drawn : List Nat}

theorem runFrom_request (surroundings : Surroundings) (q : Request) (next : q.Reply → Action α)
    (world : World) (work : UnitOfWork) :
    (request q next).runFrom surroundings world work =
      (next (q.perform surroundings world work).1).runFrom surroundings
        (q.perform surroundings world work).2.1 (q.perform surroundings world work).2.2 := rfl

theorem Delivers.runFrom {action : Action α} {outcome : α} (delivers : action.Delivers outcome)
    (surroundings : Surroundings) (world : World) (work : UnitOfWork) :
    ∃ later, action.runFrom surroundings world work = (.ok outcome, later) ∧
      later.store.tables = world.store.tables := by
  induction action generalizing world work with
  | done value =>
      cases delivers
      exact ⟨_, rfl, rfl⟩
  | failed e => exact delivers.elim
  | request q next ih =>
      cases q with
      | record event => exact ih () delivers (world.record event) work
      | _ => exact delivers.elim

inductive Runs (certified : Tables → UnitOfWork → List Nat → α → Prop) (values : α → Prop)
    (before : Tables) : Except LedgerError α × World → Prop where
  | commits {work : UnitOfWork} {drawn : List Nat} {outcome : α} {world : World}
      (holds : certified before work drawn outcome) (acceptable : work.Acceptable before)
      (published : world.store.tables = work.publish before) :
      Runs certified values before (.ok outcome, world)
  | ends {value : α} {world : World} (among : values value)
      (kept : world.store.tables = before) : Runs certified values before (.ok value, world)
  | fails {e : LedgerError} {world : World} (kept : world.store.tables = before) :
      Runs certified values before (.error e, world)

theorem Vouches.runFrom {action : Action α} {world : World} {work : UnitOfWork}
    (sound : world.store.tables.Sound refs)
    (vouches : action.Vouches surroundings refs certified world.store.tables work drawn)
    (ends : action.EndsIn values) :
    Runs certified values world.store.tables
      (action.runFrom surroundings world work) := by
  induction action generalizing world work drawn with
  | done value => exact .ends ends rfl
  | failed e => exact .fails rfl
  | request q next ih =>
      obtain ⟨commits, goesOn⟩ := vouches world (.refl sound)
      by_cases isCommit : q.Commits world.store.tables work
      · obtain ⟨outcome, holds, delivers⟩ := commits isCommit
        obtain ⟨later, ran, kept⟩ := delivers.runFrom surroundings
          (q.perform surroundings world work).2.1 (q.perform surroundings world work).2.2
        rw [runFrom_request, ran]
        refine .commits holds isCommit.2 (kept.trans ?_)
        exact (Request.perform_of_commits surroundings isCommit).1
      · have kept := Request.perform_tables_of_not_commits surroundings isCommit
        have rest := ih (q.perform surroundings world work).1 (by rw [kept]; exact sound)
          (goesOn isCommit) (ends _ (Request.withholds_of_not_commits isCommit))
        rw [kept] at rest
        exact rest

end Action

end DoubleEntry
