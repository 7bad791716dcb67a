import DoubleEntry.Proofs.Program.Calm
import DoubleEntry.Proofs.Program.Steps

/-!
# Actions that take their locks in order

An action ascends if, whatever the replies to its requests, each lock that it asks
for comes after all locks that it holds, and once it has attempted to commit it asks
for none.  A calm action may stand anywhere in an action that ascends.
-/

namespace DoubleEntry

namespace Request

/-- A lock comes after all locks that are held; a unit of work is not given up with its locks. -/
def InOrder (before : AccountId → AccountId → Prop) (guards : List AccountId) : Request → Prop
  | acquire account => ∀ held ∈ guards, before held account
  | openWork => guards = []
  | saveAccount _ => False
  | _ => True

def guardsAfter (guards : List AccountId) : (q : Request) → q.Reply → List AccountId
  | acquire account, .ok () => guards ++ [account]
  | openWork, _ | commit, _ => []
  | _, _ => guards

def Answers (known : Account → Prop) : (q : Request) → q.Reply → Prop
  | findAccount _, found => ∀ account, found = some account → known account
  | _, _ => True

theorem Calm.inOrder {q : Request} (calm : q.Calm) (before : AccountId → AccountId → Prop)
    (guards : List AccountId) : q.InOrder before guards := by
  cases q with
  | acquire account => exact calm.elim
  | openWork => exact calm.elim
  | saveAccount account => exact calm.elim
  | _ => trivial

theorem Calm.guardsAfter {q : Request} (calm : q.Calm) (guards : List AccountId)
    (reply : q.Reply) : q.guardsAfter guards reply = guards := by
  cases q with
  | acquire account => exact calm.elim
  | openWork => exact calm.elim
  | commit => exact calm.elim
  | _ => rfl

theorem InOrder.keepsAccounts {q : Request} {before : AccountId → AccountId → Prop}
    {guards : List AccountId} (inOrder : q.InOrder before guards) : q.KeepsAccounts := by
  cases q with
  | saveAccount account => exact inOrder.elim
  | _ => trivial

theorem InOrder.keeps {q : Request} {before : AccountId → AccountId → Prop}
    {guards : List AccountId} (inOrder : q.InOrder before guards) (noCommit : q ≠ .commit)
    (reply : q.Reply) {account : AccountId} (held : account ∈ guards) :
    account ∈ q.guardsAfter guards reply := by
  cases q with
  | commit => exact absurd rfl noCommit
  | openWork =>
      rw [show guards = [] from inOrder] at held
      cases held
  | acquire other =>
      cases reply with
      | ok => exact List.mem_append_left _ held
      | error e => exact held
  | _ => exact held

end Request

namespace Action

variable {α β : Type}

/-- The action asks for its locks in order, and for none once it has attempted to commit. -/
def Ascends (before : AccountId → AccountId → Prop) (known : Account → Prop) :
    Action α → List AccountId → Prop
  | done _, _ => True
  | failed _, _ => True
  | request q next, guards => q.InOrder before guards ∧ ∀ reply, q.Answers known reply →
      (next reply).Ascends before known (q.guardsAfter guards reply) ∧
        (q = .commit → (next reply).Calm)

variable {before : AccountId → AccountId → Prop} {known : Account → Prop}
  {guards : List AccountId}

theorem Calm.ascends {action : Action α} (calm : action.Calm) (guards : List AccountId) :
    action.Ascends before known guards := by
  induction action with
  | done value => trivial
  | failed e => trivial
  | request q next ih =>
      refine ⟨calm.1.inOrder before guards, fun reply _ => ⟨?_, fun _ => calm.2 reply⟩⟩
      rw [calm.1.guardsAfter]
      exact ih reply (calm.2 reply)

theorem Calm.ascends_bind {action : Action α} {rest : α → Action β} (calm : action.Calm)
    (ascends : ∀ value, (rest value).Ascends before known guards) :
    (action >>= rest).Ascends before known guards := by
  induction action with
  | done value => exact ascends value
  | failed e => trivial
  | request q next ih =>
      refine ⟨calm.1.inOrder before guards, fun reply _ => ⟨?_, fun commits => ?_⟩⟩
      · rw [calm.1.guardsAfter]
        exact ih reply (calm.2 reply)
      · exact absurd commits calm.1.ne_commit

theorem Ascends.map {action : Action α} (ascends : action.Ascends before known guards)
    (f : α → β) : (f <$> action).Ascends before known guards := by
  induction action generalizing guards with
  | done value => trivial
  | failed e => trivial
  | request q next ih =>
      refine ⟨ascends.1, fun reply answers => ?_⟩
      obtain ⟨goesOn, calm⟩ := ascends.2 reply answers
      exact ⟨ih reply goesOn, fun commits => (calm commits).map f⟩

theorem ascends_openWork {next : Unit → Action α} (goesOn : (next ()).Ascends before known []) :
    (openWork >>= next).Ascends before known [] :=
  ⟨rfl, fun _ _ => ⟨goesOn, nofun⟩⟩

theorem Reads.ascends {action : Action α} (reads : action.Reads) :
    action.Ascends before known [] := by
  cases reads with
  | intro calm => exact ascends_openWork (calm.ascends [])

theorem ascends_commit {next : Unit → Action α} (calm : (next ()).Calm) :
    (commit >>= next).Ascends before known guards := by
  refine ⟨trivial, fun reply _ => ?_⟩
  cases reply with
  | ok => exact ⟨calm.ascends [], fun _ => calm⟩
  | error e => exact ⟨trivial, fun _ => trivial⟩

theorem ascends_findAccount {reference : String} {next : Option Account → Action α}
    (goesOn : ∀ found : Option Account, (∀ account, found = some account → known account) →
      (next found).Ascends before known guards) :
    (findAccount reference >>= next).Ascends before known guards :=
  ⟨trivial, fun reply answers => ⟨goesOn reply answers, nofun⟩⟩

private theorem ascends_acquire {account : AccountId} {next : Unit → Action α}
    (inOrder : ∀ held ∈ guards, before held account)
    (goesOn : (next ()).Ascends before known (guards ++ [account])) :
    (acquire account >>= next).Ascends before known guards := by
  refine ⟨inOrder, fun reply _ => ⟨?_, nofun⟩⟩
  cases reply with
  | ok => exact goesOn
  | error e => trivial

theorem ascends_lockAccounts {accounts : List AccountId} {next : Unit → Action α}
    (inOrder : (guards ++ accounts).Pairwise before)
    (goesOn : (next ()).Ascends before known (guards ++ accounts)) :
    (lockAccounts accounts >>= next).Ascends before known guards := by
  induction accounts generalizing guards with
  | nil =>
      rw [List.append_nil] at goesOn
      exact goesOn
  | cons account rest ih =>
      have first : lockAccounts (account :: rest) =
          acquire account >>= fun _ => lockAccounts rest := rfl
      rw [first, bind_assoc]
      have beyond := (List.pairwise_append.mp inOrder).2.2
      rw [List.append_cons] at goesOn inOrder
      exact ascends_acquire (fun held member => beyond held member account List.mem_cons_self)
        (ih inOrder goesOn)

end Action

/-! ## One request -/

namespace Request

variable {surroundings : Surroundings} {q : Request} {world : World} {work : UnitOfWork}
  {before : AccountId → AccountId → Prop} {known : Account → Prop}

theorem perform_guards (strict : ∀ account, ¬ before account account)
    (inOrder : q.InOrder before work.guards) :
    (q.perform surroundings world work).2.2.guards =
      q.guardsAfter work.guards (q.perform surroundings world work).1 := by
  cases q with
  | openWork => rfl
  | commit =>
      simp only [perform, performCommit_work]
      rfl
  | acquire account =>
      have foreign : account ∉ work.guards := fun held => strict account (inOrder account held)
      cases granted : world.store.locks.acquire? account <;>
        simp [perform, performAcquire, Store.acquire, foreign, granted, guardsAfter]
  | ledgerAt time =>
      simp only [perform, tracked]
      cases work.ledgerAt world.store.tables time <;> rfl
  | openLedger =>
      simp only [perform, tracked]
      cases work.openLedger world.store.tables <;> rfl
  | previousLedger ledger =>
      simp only [perform, tracked]
      cases work.previousLedger world.store.tables ledger <;> rfl
  | _ => rfl

theorem perform_answers (unstaged : work.accounts = [])
    (genuine : ∀ account ∈ world.store.tables.accounts.values, known account) :
    q.Answers known (q.perform surroundings world work).1 := by
  cases q with
  | findAccount reference =>
      intro account found
      simp only [perform, UnitOfWork.findAccount, unstaged, List.find?_nil] at found
      exact genuine account (List.mem_map.mpr ⟨_, Table.mem_of_find?_eq_some found, rfl⟩)
  | _ => trivial

end Request

end DoubleEntry
