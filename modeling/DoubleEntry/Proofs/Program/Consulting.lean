import DoubleEntry.Proofs.Program.Calm
import DoubleEntry.Proofs.Program.History

/-!
# What an action looks up

An action consults a reference if it does not succeed without looking it up.  An
action that stages no account finds the stored ones: it does the same as if it were
told, at each lookup of a reference, which account is stored under it
(`Action.runFrom_told`).
-/

namespace DoubleEntry

def Request.told (reference : String) (account : Account) : (q : Request) → q.Reply → q.Reply
  | findAccount other, found => if other = reference then some account else found
  | _, reply => reply

namespace Action

variable {α β : Type}

/-- The action, told at each lookup of `reference` that it finds `account`. -/
def told (reference : String) (account : Account) : Action α → Action α
  | done value => done value
  | failed e => failed e
  | request q next =>
    request q fun reply => (next (q.told reference account reply)).told reference account

def Consults (reference : String) : Action α → Prop
  | done _ => False
  | failed _ => True
  | request q next => q = .findAccount reference ∨ ∀ reply, (next reply).Consults reference

variable {reference : String}

theorem Consults.bind {action : Action α} (consults : action.Consults reference)
    (rest : α → Action β) : (action >>= rest).Consults reference := by
  induction action with
  | done value => exact consults.elim
  | failed e => trivial
  | request q next ih =>
      rcases consults with now | later
      · exact .inl now
      · exact .inr fun reply => ih reply (later reply)

theorem Consults.map {action : Action α} (consults : action.Consults reference) (f : α → β) :
    (f <$> action).Consults reference := by
  rw [← bind_pure_comp]
  exact consults.bind _

theorem consults_bind {action : Action α} {rest : α → Action β}
    (goesOn : ∀ value, (rest value).Consults reference) :
    (action >>= rest).Consults reference := by
  induction action with
  | done value => exact goesOn value
  | failed e => trivial
  | request q next ih => exact .inr ih

end Action

/-! ## Lookups that find what is stored -/

variable {surroundings : Surroundings} {world : World} {work : UnitOfWork} {reference : String}
  {account : Account}

theorem UnitOfWork.findAccount_of_unstaged (unstaged : work.accounts = []) (tables : Tables)
    (reference : String) : work.findAccount tables reference = tables.accounts.get? reference := by
  rw [findAccount, unstaged]
  rfl

private theorem Request.told_perform (unstaged : work.accounts = [])
    (stored : world.store.tables.accounts.get? reference = some account) (q : Request) :
    q.told reference account (q.perform surroundings world work).1 =
      (q.perform surroundings world work).1 := by
  cases q with
  | findAccount other =>
      rw [told]
      split
      next same =>
        rw [perform, work.findAccount_of_unstaged unstaged, same, stored]
      next => rfl
  | _ => rfl

theorem Action.runFrom_told {α : Type} {action : Action α} (keeps : action.KeepsAccounts)
    (unstaged : work.accounts = [])
    (stored : world.store.tables.accounts.get? reference = some account) :
    (action.told reference account).runFrom surroundings world work =
      action.runFrom surroundings world work := by
  induction action generalizing world work with
  | done value => rfl
  | failed e => rfl
  | request q next ih =>
      rw [told, runFrom, runFrom]
      dsimp only
      rw [Request.told_perform unstaged stored]
      apply ih _ (keeps.2 _) (Request.perform_unstaged keeps.1 unstaged)
      rw [Request.perform_accounts unstaged]
      exact stored

/-! ## Tasks among others -/

structure Task.KeepsAccounts (task : Task) : Prop where
  unstaged : task.work.accounts = []
  keeps : task.action.KeepsAccounts

private theorem Task.keepsAccounts_start {action : Action Outcome} (keeps : action.KeepsAccounts) :
    (start action).KeepsAccounts :=
  ⟨rfl, keeps⟩

private theorem Task.KeepsAccounts.step {task : Task} (keepsAccounts : task.KeepsAccounts)
    (surroundings : Surroundings) (world : World) :
    (task.step surroundings world).2.KeepsAccounts := by
  obtain ⟨work, action⟩ := task
  obtain ⟨unstaged, keeps⟩ := keepsAccounts
  cases action with
  | done outcome => exact ⟨unstaged, keeps⟩
  | failed e => exact ⟨unstaged, keeps⟩
  | request q next =>
      have unstaged' : (q.perform surroundings world work).2.2.accounts = [] :=
        Request.perform_unstaged keeps.1 unstaged
      rw [step_request]
      generalize isNext : next (q.perform surroundings world work).1 = action
      have keeps' : action.KeepsAccounts := isNext ▸ keeps.2 _
      cases action with
      | done outcome => exact ⟨rfl, keeps'⟩
      | failed e => exact ⟨rfl, keeps'⟩
      | request q next => exact ⟨unstaged', keeps'⟩

/-- Whoever stages no account finds the stored one, whatever the others do meanwhile. -/
theorem System.Reaches.findAccount_of_keeps {allowed : World → Action Outcome → Prop}
    {before later : System} {action : Action Outcome}
    (reaches : (before.start action).Reaches surroundings allowed later)
    (keeps : action.KeepsAccounts) {task : Task}
    (found : later.tasks[before.tasks.length]? = some task)
    (stored : later.world.store.tables.accounts.get? reference = some account) :
    task.work.findAccount later.world.store.tables reference = some account := by
  have started : (before.start action).tasks[before.tasks.length]? = some (.start action) := by
    simp [System.start]
  obtain ⟨other, found', keepsAccounts⟩ := reaches.exists_task
    (fun world _ keepsAccounts => keepsAccounts.step surroundings world) started
    (Task.keepsAccounts_start keeps)
  rw [found] at found'
  cases found'
  rw [task.work.findAccount_of_unstaged keepsAccounts.unstaged]
  exact stored

end DoubleEntry
