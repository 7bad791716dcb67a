import DoubleEntry.Proofs.Program.History
import DoubleEntry.Proofs.Program.Steps
import DoubleEntry.Proofs.Service.PostingVouching

/-!
# The chronicle of a run

A deed is a commit with its voucher.  The chronicle lists the deeds of a run in
their order; the committed tables are what its vouchers publish one after another.
`Orderly` is the invariant of every run that brings this about: locks exclude each
other, a task that has not committed vouches for its commit, and one that has
committed delivers what it certified.
-/

namespace DoubleEntry

/-- A commit: whose it was, what was staged, and what was drawn from the supplies for it. -/
structure Deed where
  position : Nat
  operation : Operation
  work : UnitOfWork
  outcome : Outcome
  used : List Nat
  times : List Instant

def Deed.ids (surroundings : Surroundings) (deed : Deed) : List Uuid :=
  deed.used.map surroundings.uuid

/-- The tables come about by these deeds, one after another, and the operation of each was
admissible when it committed. -/
inductive Chronicle (surroundings : Surroundings) (settings : LedgerSettings)
    (admission : Admission) : List Deed → Tables → Prop where
  | nothing : Chronicle surroundings settings admission [] .empty
  | deed {deeds : List Deed} {tables : Tables} (deed : Deed)
      (voucher : Voucher settings tables deed.operation deed.work deed.outcome
        (deed.ids surroundings) deed.times)
      (acceptable : deed.work.Acceptable tables)
      (admitted : admission.admits tables deed.operation) :
      Chronicle surroundings settings admission deeds tables →
        Chronicle surroundings settings admission (deeds ++ [deed]) (deed.work.publish tables)

theorem Chronicle.sound {surroundings : Surroundings} {settings : LedgerSettings}
    {admission : Admission} {deeds : List Deed} {tables : Tables}
    (chronicle : Chronicle surroundings settings admission deeds tables) :
    tables.Sound settings.refs := by
  induction chronicle with
  | nothing => exact Tables.sound_empty settings.refs
  | deed deed voucher acceptable _ _ ih => exact UnitOfWork.publish_sound ih voucher acceptable

private theorem Chronicle.tables_eq {surroundings : Surroundings} {settings : LedgerSettings}
    {admission : Admission} {deeds : List Deed} {tables : Tables}
    (chronicle : Chronicle surroundings settings admission deeds tables) :
    tables = deeds.foldl (fun tables deed => deed.work.publish tables) .empty := by
  induction chronicle with
  | nothing => rfl
  | deed deed _ _ _ _ ih => rw [List.foldl_append, ← ih, List.foldl_cons, List.foldl_nil]

/-- What holds after some deeds, and is kept by every deed that follows, holds after more deeds. -/
theorem Chronicle.later {surroundings : Surroundings} {settings : LedgerSettings}
    {admission : Admission} {deeds deeds' : List Deed} {before after : Tables}
    {holds : Tables → Prop}
    (chronicle : Chronicle surroundings settings admission deeds before)
    (chronicle' : Chronicle surroundings settings admission deeds' after) (grows : deeds <+: deeds')
    (now : holds before)
    (keeps : ∀ (known : List Deed) (tables : Tables) (deed : Deed),
      Chronicle surroundings settings admission known tables →
      Voucher settings tables deed.operation deed.work deed.outcome (deed.ids surroundings)
        deed.times →
      deed.work.Acceptable tables → holds tables → holds (deed.work.publish tables)) :
    holds after := by
  induction chronicle' with
  | nothing =>
      cases List.prefix_nil.mp grows
      rwa [chronicle.tables_eq] at now
  | @deed known tables deed voucher acceptable admitted chronicle'' ih =>
      rcases List.prefix_concat_iff.mp grows with rfl | grows
      · have same : before = deed.work.publish tables :=
          chronicle.tables_eq.trans
            (Chronicle.deed deed voucher acceptable admitted chronicle'').tables_eq.symm
        rwa [same] at now
      · exact keeps known tables deed chronicle'' voucher acceptable (ih grows)

/-! ## The invariant -/

def Pending (surroundings : Surroundings) (settings : LedgerSettings) (owner : Nat → Nat)
    (world : World) (position : Nat) (operation : Operation) (task : Task) : Prop :=
  ∃ drawn, Drawn owner world.issued position drawn ∧
    task.action.Vouches surroundings settings.refs (operation.Certified surroundings settings)
      world.store.tables task.work drawn

structure Exclusive (held : List AccountId) (tasks : List Task) : Prop where
  held : ∀ (position : Nat) (task : Task), tasks[position]? = some task →
    ∀ account ∈ task.work.guards, account ∈ held
  apart : ∀ (position other : Nat) (task task' : Task), position ≠ other →
    tasks[position]? = some task → tasks[other]? = some task' →
      ∀ account ∈ task.work.guards, account ∉ task'.work.guards

structure Orderly (surroundings : Surroundings) (settings : LedgerSettings)
    (admission : Admission) (history : History) (system : System) (deeds : List Deed)
    (owner : Nat → Nat) : Prop where
  length : history.operations.length = system.tasks.length
  chronicle : Chronicle surroundings settings admission deeds system.world.store.tables
  admitted : ∀ operation ∈ history.operations,
    admission.admits system.world.store.tables operation
  commits : history.commits = deeds.map Deed.position
  commits_nodup : history.commits.Nodup
  exclusive : Exclusive system.world.store.locks.held system.tasks
  pending : ∀ position operation task, history.operations[position]? = some operation →
    system.tasks[position]? = some task → position ∉ history.commits →
      Pending surroundings settings owner system.world position operation task
  delivers : ∀ deed ∈ deeds, history.operations[deed.position]? = some deed.operation ∧
    ∃ task, system.tasks[deed.position]? = some task ∧ task.action.Delivers deed.outcome ∧
      task.work = .empty
  used : ∀ deed ∈ deeds, Drawn owner system.world.issued deed.position deed.used

variable {surroundings : Surroundings} {settings : LedgerSettings} {admission : Admission}
  {history : History} {system : System} {deeds : List Deed} {owner : Nat → Nat}

theorem orderly_empty (owner : Nat → Nat) :
    Orderly surroundings settings admission .empty .empty [] owner where
  length := rfl
  chronicle := .nothing
  admitted := by simp [History.empty]
  commits := rfl
  commits_nodup := .nil
  exclusive := by constructor <;> simp [System.empty]
  pending := by simp [System.empty]
  delivers := by simp
  used := by simp

/-! ## Starting a task -/

theorem getElem?_concat {α : Type} {values : List α} {last value : α} {position : Nat}
    (found : (values ++ [last])[position]? = some value) :
    values[position]? = some value ∨ position = values.length ∧ value = last := by
  rcases Nat.lt_or_ge position values.length with within | beyond
  · rw [List.getElem?_append_left within] at found
    exact .inl found
  · rw [List.getElem?_append_right beyond] at found
    obtain ⟨atEnd, same⟩ := List.getElem?_eq_some_iff.mp found
    simp only [List.length_singleton] at atEnd
    exact .inr ⟨by omega, by rw [← same]; simp⟩

private theorem Exclusive.start {held : List AccountId} {tasks : List Task}
    (exclusive : Exclusive held tasks) (action : Action Outcome) :
    Exclusive held (tasks ++ [.start action]) where
  held position task found account member := by
    rcases getElem?_concat found with found | ⟨_, rfl⟩
    · exact exclusive.held position task found account member
    · cases member
  apart position other task task' differ found found' account member := by
    rcases getElem?_concat found with found | ⟨_, rfl⟩
    · rcases getElem?_concat found' with found' | ⟨_, rfl⟩
      · exact exclusive.apart position other task task' differ found found' account member
      · exact nofun
    · cases member

theorem Orderly.start (orderly : Orderly surroundings settings admission history system deeds owner)
    {operation : Operation} (isAdmitted : admission.admits system.world.store.tables operation) :
    Orderly surroundings settings admission (history.start operation)
      (system.start (operation.action settings)) deeds owner where
  length := by simp [History.start, System.start, orderly.length]
  chronicle := orderly.chronicle
  admitted other member := by
    rcases List.mem_append.mp member with member | member
    · exact orderly.admitted other member
    · rw [List.mem_singleton.mp member]
      exact isAdmitted
  commits := orderly.commits
  commits_nodup := orderly.commits_nodup
  exclusive := orderly.exclusive.start _
  pending position other task foundOperation foundTask uncommitted := by
    rcases getElem?_concat foundOperation with foundOperation | ⟨isLast, rfl⟩ <;>
      rcases getElem?_concat foundTask with foundTask | ⟨isLast', rfl⟩
    · exact orderly.pending position other task foundOperation foundTask uncommitted
    · have within := (List.getElem?_eq_some_iff.mp foundOperation).1
      have := orderly.length
      omega
    · have within := (List.getElem?_eq_some_iff.mp foundTask).1
      have := orderly.length
      omega
    · exact ⟨[], ⟨.nil, by simp, by simp⟩, Operation.vouches⟩
  delivers deed member := by
    obtain ⟨isOperation, task, isTask, delivers, idle⟩ := orderly.delivers deed member
    have within := (List.getElem?_eq_some_iff.mp isOperation).1
    have within' := (List.getElem?_eq_some_iff.mp isTask).1
    refine ⟨?_, task, ?_, delivers, idle⟩
    · rw [← isOperation]
      exact List.getElem?_append_left within
    · rw [← isTask]
      exact List.getElem?_append_left within'
  used := orderly.used

/-! ## Steps of a task -/

theorem Exclusive.set {held held' : List AccountId} {tasks : List Task}
    (exclusive : Exclusive held tasks) {position : Nat} {task task' : Task}
    (found : tasks[position]? = some task)
    (excludes : Excludes held task.work.guards held' task'.work.guards) :
    Exclusive held' (tasks.set position task') := by
  have others : ∀ {other : Nat} {foreign : Task}, position ≠ other →
      (tasks.set position task')[other]? = some foreign → tasks[other]? = some foreign := by
    intro other foreign differ foundOther
    rwa [List.getElem?_set_ne differ] at foundOther
  have own : ∀ {mine : Task}, (tasks.set position task')[position]? = some mine →
      mine = task' := by
    intro mine foundMine
    rw [List.getElem?_set_self (List.getElem?_eq_some_iff.mp found).1] at foundMine
    exact (Option.some.inj foundMine).symm
  have foreign_held : ∀ {other : Nat} {foreign : Task}, position ≠ other →
      tasks[other]? = some foreign → ∀ account ∈ foreign.work.guards,
        account ∈ held ∧ account ∉ task.work.guards := by
    intro other foreign differ foundOther account member
    exact ⟨exclusive.held other foreign foundOther account member,
      exclusive.apart other position foreign task differ.symm foundOther found account member⟩
  have own_apart : ∀ {other : Nat} {foreign : Task}, position ≠ other →
      tasks[other]? = some foreign → ∀ account ∈ foreign.work.guards,
        account ∉ task'.work.guards := by
    intro other foreign differ foundOther account member taken
    obtain ⟨isHeld, notMine⟩ := foreign_held differ foundOther account member
    rcases excludes.adds account taken with mine | free
    · exact notMine mine
    · exact free isHeld
  constructor
  · intro other foreign foundOther account member
    by_cases same : position = other
    · subst same
      rw [own foundOther] at member
      exact excludes.keeps (exclusive.held position task found) account member
    · obtain ⟨isHeld, notMine⟩ := foreign_held same (others same foundOther) account member
      exact excludes.spares account isHeld notMine
  · intro first second foreign foreign' differ foundFirst foundSecond account member taken
    by_cases same : position = first
    · subst same
      rw [own foundFirst] at member
      exact own_apart differ (others differ foundSecond) account taken member
    · by_cases same' : position = second
      · subst same'
        rw [own foundSecond] at taken
        exact own_apart same (others same foundFirst) account member taken
      · exact exclusive.apart first second foreign foreign' differ (others same foundFirst)
          (others same' foundSecond) account member taken

theorem Pending.of_leads {owner owner' : Nat → Nat} {world world' : World} {position : Nat}
    {operation : Operation} {task : Task}
    (pending : Pending surroundings settings owner world position operation task)
    (leads : world.store.tables.Leads settings.refs task.work.guards world'.store.tables)
    (draws : ∀ other drawn, Drawn owner world.issued other drawn →
      Drawn owner' world'.issued other drawn) :
    Pending surroundings settings owner' world' position operation task := by
  obtain ⟨drawn, isDrawn, vouches⟩ := pending
  exact ⟨drawn, draws position drawn isDrawn, vouches.of_leads leads⟩

namespace Orderly

variable {position : Nat} {work : UnitOfWork} {q : Request} {next : q.Reply → Action Outcome}

theorem step_excludes (surroundings : Surroundings) (world : World) (work : UnitOfWork)
    (q : Request) (next : q.Reply → Action Outcome) :
    Excludes world.store.locks.held work.guards
      ((⟨work, .request q next⟩ : Task).step surroundings world).1.store.locks.held
      ((⟨work, .request q next⟩ : Task).step surroundings world).2.work.guards := by
  have settled := Task.settle_excludes (q.perform surroundings world work).2.1
    ⟨(q.perform surroundings world work).2.2, next (q.perform surroundings world work).1⟩
  exact (q.perform_excludes surroundings world work).trans settled

private theorem step_of_not_commits
    (orderly : Orderly surroundings settings admission history system deeds owner)
    (found : system.tasks[position]? = some ⟨work, .request q next⟩)
    (noCommit : ¬ q.Commits system.world.store.tables work) :
    ∃ owner', Orderly surroundings settings admission history
      (system.step surroundings position) deeds owner' := by
  let world' := (q.perform surroundings system.world work).2.1
  obtain ⟨owner', own, draws⟩ := q.draws_drawn surroundings system.world work owner position
  have sameTables :
      ((⟨work, .request q next⟩ : Task).step surroundings system.world).1.store.tables =
        system.world.store.tables :=
    (Task.settle_tables _ _).trans (Request.perform_tables_of_not_commits surroundings noCommit)
  have sameIssued : ((⟨work, .request q next⟩ : Task).step surroundings system.world).1.issued =
      world'.issued := Task.settle_issued _ _
  have within := (List.getElem?_eq_some_iff.mp found).1
  refine ⟨owner', ?_⟩
  rw [System.step_eq found]
  constructor
  case length => simpa using orderly.length
  case chronicle =>
    rw [sameTables]
    exact orderly.chronicle
  case admitted =>
    rw [sameTables]
    exact orderly.admitted
  case commits => exact orderly.commits
  case commits_nodup => exact orderly.commits_nodup
  case exclusive => exact orderly.exclusive.set found (step_excludes surroundings _ _ q next)
  case pending =>
    intro other operation task foundOperation foundTask uncommitted
    by_cases same : position = other
    · subst same
      rw [List.getElem?_set_self within] at foundTask
      cases foundTask
      obtain ⟨drawn, isDrawn, vouches⟩ := orderly.pending position operation _ foundOperation found
        uncommitted
      have goesOn := (vouches system.world (.refl orderly.chronicle.sound)).2 noCommit
      refine ⟨q.draws system.world drawn, ?_, ?_⟩
      · rw [sameIssued]
        exact own drawn isDrawn
      · rw [sameTables, ← Request.perform_tables_of_not_commits surroundings noCommit]
        exact Task.settle_vouches goesOn
    · rw [List.getElem?_set_ne same] at foundTask
      have pending := orderly.pending other operation task foundOperation foundTask uncommitted
      refine pending.of_leads ?_ ?_
      · rw [sameTables]
        exact .refl orderly.chronicle.sound
      · rw [sameIssued]
        exact draws
  case delivers =>
    intro deed member
    obtain ⟨isOperation, task, isTask, delivers, idle⟩ := orderly.delivers deed member
    refine ⟨isOperation, ?_⟩
    by_cases same : position = deed.position
    · subst same
      rw [found] at isTask
      cases isTask
      exact ⟨_, List.getElem?_set_self within, Task.step_delivers surroundings delivers idle⟩
    · exact ⟨task, by rw [List.getElem?_set_ne same]; exact isTask, delivers, idle⟩
  case used =>
    intro deed member
    rw [sameIssued]
    exact draws deed.position deed.used (orderly.used deed member)

private theorem step_of_commits
    (orderly : Orderly surroundings settings admission history system deeds owner)
    {operation : Operation} (isOperation : history.operations[position]? = some operation)
    (found : system.tasks[position]? = some ⟨work, .request q next⟩)
    (uncommitted : position ∉ history.commits)
    (commits : q.Commits system.world.store.tables work) :
    ∃ deed : Deed, Orderly surroundings settings admission
      { history with commits := history.commits ++ [position] }
      (system.step surroundings position) (deeds ++ [deed]) owner := by
  have sound := orderly.chronicle.sound
  obtain ⟨published, emptied, sameIssued⟩ := Request.perform_of_commits surroundings commits
  obtain ⟨drawn, isDrawn, vouches⟩ := orderly.pending position operation _ isOperation found
    uncommitted
  obtain ⟨outcome, ⟨used, times, voucher, sublist, guarded⟩, delivers⟩ :=
    (vouches system.world (.refl sound)).1 commits
  let deed : Deed := ⟨position, operation, work.bare, outcome, used, times⟩
  have acceptable := commits.2
  have afterTables :
      ((⟨work, .request q next⟩ : Task).step surroundings system.world).1.store.tables =
        work.publish system.world.store.tables := (Task.settle_tables _ _).trans published
  have afterIssued : ((⟨work, .request q next⟩ : Task).step surroundings system.world).1.issued =
      system.world.issued := (Task.settle_issued _ _).trans sameIssued
  have within := (List.getElem?_eq_some_iff.mp found).1
  refine ⟨deed, ?_⟩
  rw [System.step_eq found]
  constructor
  case length => simpa using orderly.length
  case chronicle =>
    rw [afterTables, ← UnitOfWork.publish_bare]
    have isAdmitted := orderly.admitted operation (List.mem_of_getElem? isOperation)
    exact .deed deed voucher acceptable.bare isAdmitted orderly.chronicle
  case admitted =>
    intro other member
    rw [afterTables]
    exact admission.lasts (fun _ _ known => UnitOfWork.publish_accounts_get? acceptable known)
      (orderly.admitted other member)
  case commits => simp [orderly.commits, deed]
  case commits_nodup =>
    exact List.nodup_append.mpr ⟨orderly.commits_nodup, by simp, by
      rintro other member _ isPosition rfl
      rw [List.mem_singleton.mp isPosition] at member
      exact uncommitted member⟩
  case exclusive => exact orderly.exclusive.set found (step_excludes surroundings _ _ q next)
  case pending =>
    intro other operation' task foundOperation foundTask uncommitted'
    have differ : position ≠ other := by
      rintro rfl
      exact uncommitted' (by simp)
    rw [List.getElem?_set_ne differ] at foundTask
    have uncommitted'' : other ∉ history.commits := fun member =>
      uncommitted' (List.mem_append_left _ member)
    refine (orderly.pending other operation' task foundOperation foundTask uncommitted'').of_leads
      ?_ ?_
    · rw [afterTables]
      exact UnitOfWork.publish_leads sound voucher acceptable guarded
        (orderly.exclusive.apart other position task _ differ.symm foundTask found)
    · rw [afterIssued]
      exact fun _ _ isDrawn => isDrawn
  case delivers =>
    intro deed' member
    rcases List.mem_append.mp member with member | member
    · obtain ⟨isOperation', task, isTask, delivers', idle⟩ := orderly.delivers deed' member
      have differ : position ≠ deed'.position := by
        intro same
        rw [same, orderly.commits] at uncommitted
        exact uncommitted (List.mem_map.mpr ⟨deed', member, rfl⟩)
      exact ⟨isOperation', task, by rw [List.getElem?_set_ne differ]; exact isTask, delivers', idle⟩
    · rw [List.mem_singleton.mp member]
      refine ⟨isOperation, _, List.getElem?_set_self within, ?_, ?_⟩
      · rw [Task.step_request, Task.settle_action]
        exact delivers
      · rw [Task.step_request]
        exact Task.settle_work_empty emptied
  case used =>
    intro deed' member
    rw [afterIssued]
    rcases List.mem_append.mp member with member | member
    · exact orderly.used deed' member
    · rw [List.mem_singleton.mp member]
      exact isDrawn.sublist sublist

private theorem not_mem_commits
    (orderly : Orderly surroundings settings admission history system deeds owner)
    (found : system.tasks[position]? = some ⟨work, .request q next⟩)
    (commits : q.Commits system.world.store.tables work) : position ∉ history.commits := by
  intro member
  rw [orderly.commits] at member
  obtain ⟨deed, among, rfl⟩ := List.mem_map.mp member
  obtain ⟨_, task, isTask, delivers, _⟩ := orderly.delivers deed among
  rw [found] at isTask
  cases isTask
  obtain ⟨rfl, _⟩ := commits
  exact delivers

theorem commitsAt_iff (found : system.tasks[position]? = some ⟨work, .request q next⟩) :
    system.commitsAt position = true ↔ q.Commits system.world.store.tables work := by
  rw [System.commitsAt, found]
  cases q with
  | commit =>
      simp only [Task.commits, Request.Commits, true_and, ← UnitOfWork.check_eq_ok_iff]
      cases work.check system.world.store.tables <;> simp [Except.isOk, Except.toBool]
  | _ => simp [Task.commits, Request.Commits]

private theorem step_of_ended
    (orderly : Orderly surroundings settings admission history system deeds owner)
    {task : Task} (found : system.tasks[position]? = some task)
    (still : task.step surroundings system.world = (system.world, task))
    (noCommit : task.commits system.world = false) :
    Orderly surroundings settings admission (history.step system position)
      (system.step surroundings position) deeds owner := by
  have noCommit : system.commitsAt position = false := by
    rw [System.commitsAt, found]
    exact noCommit
  have same : system.step surroundings position = system := by
    have tasks : system.tasks.set position task = system.tasks := by
      obtain ⟨within, rfl⟩ := List.getElem?_eq_some_iff.mp found
      exact List.set_getElem_self within
    rw [System.step_eq found, still, tasks]
  rw [same, History.step, noCommit]
  exact orderly

theorem step (orderly : Orderly surroundings settings admission history system deeds owner)
    (position : Nat) :
    ∃ deeds' owner', deeds <+: deeds' ∧ Orderly surroundings settings admission
      (history.step system position) (system.step surroundings position) deeds' owner' := by
  cases found : system.tasks[position]? with
  | none =>
      have still : system.step surroundings position = system := by rw [System.step, found]
      have noCommit : system.commitsAt position = false := by rw [System.commitsAt, found]
      rw [still, History.step, noCommit]
      exact ⟨deeds, owner, List.prefix_rfl, orderly⟩
  | some task =>
      obtain ⟨work, action⟩ := task
      cases action with
      | request q next =>
          by_cases commits : q.Commits system.world.store.tables work
          · have within := (List.getElem?_eq_some_iff.mp found).1
            rw [← orderly.length] at within
            have uncommitted := orderly.not_mem_commits found commits
            obtain ⟨deed, after⟩ := orderly.step_of_commits (List.getElem?_eq_getElem within) found
              uncommitted commits
            rw [History.step, if_pos ((commitsAt_iff found).mpr commits)]
            exact ⟨deeds ++ [deed], owner, List.prefix_append _ _, after⟩
          · obtain ⟨owner', after⟩ := orderly.step_of_not_commits found commits
            rw [History.step, if_neg fun isCommit => commits ((commitsAt_iff found).mp isCommit)]
            exact ⟨deeds, owner', List.prefix_rfl, after⟩
      | done outcome =>
          exact ⟨deeds, owner, List.prefix_rfl, orderly.step_of_ended found rfl rfl⟩
      | failed e => exact ⟨deeds, owner, List.prefix_rfl, orderly.step_of_ended found rfl rfl⟩

theorem reaches (orderly : Orderly surroundings settings admission history system deeds owner)
    {later : System} (reaches : system.Reaches surroundings (admission.Allowed settings) later) :
    ∃ history' deeds' owner', deeds <+: deeds' ∧
      Orderly surroundings settings admission history' later deeds' owner' := by
  induction reaches with
  | refl => exact ⟨history, deeds, owner, List.prefix_rfl, orderly⟩
  | start action isAllowed _ ih =>
      obtain ⟨history', deeds', owner', grows, orderly'⟩ := ih
      obtain ⟨operation, isAdmitted, rfl⟩ := isAllowed
      exact ⟨_, deeds', owner', grows, orderly'.start isAdmitted⟩
  | step position _ ih =>
      obtain ⟨history', deeds', owner', grows, orderly'⟩ := ih
      obtain ⟨deeds'', owner'', grows', orderly''⟩ := orderly'.step position
      exact ⟨_, deeds'', owner'', grows.trans grows', orderly''⟩

end Orderly

theorem System.Reachable.exists_orderly
    (reachable : System.Reachable surroundings (admission.Allowed settings) system) :
    ∃ history deeds owner,
      Orderly surroundings settings admission history system deeds owner := by
  induction reachable with
  | empty => exact ⟨.empty, [], id, orderly_empty id⟩
  | start action isAllowed _ ih =>
      obtain ⟨history, deeds, owner, orderly⟩ := ih
      obtain ⟨operation, isAdmitted, rfl⟩ := isAllowed
      exact ⟨_, deeds, owner, orderly.start isAdmitted⟩
  | step position _ ih =>
      obtain ⟨history, deeds, owner, orderly⟩ := ih
      obtain ⟨deeds', owner', _, orderly'⟩ := orderly.step position
      exact ⟨_, deeds', owner', orderly'⟩

theorem System.Reachable.sound
    (reachable : System.Reachable surroundings (admission.Allowed settings) system) :
    system.world.store.tables.Sound settings.refs := by
  obtain ⟨_, _, _, orderly⟩ := reachable.exists_orderly
  exact orderly.chronicle.sound

theorem Operation.Run.orderly (run : Operation.Run surroundings settings history system) :
    ∃ deeds owner, Orderly surroundings settings .known history system deeds owner := by
  induction run with
  | empty => exact ⟨[], id, orderly_empty id⟩
  | start operation isAdmissible _ ih =>
      obtain ⟨deeds, owner, orderly⟩ := ih
      exact ⟨deeds, owner, orderly.start isAdmissible⟩
  | step position _ ih =>
      obtain ⟨deeds, owner, orderly⟩ := ih
      obtain ⟨deeds', owner', _, orderly'⟩ := orderly.step position
      exact ⟨deeds', owner', orderly'⟩

theorem Operation.Reached.exists_chronicle {world : World}
    (reached : Operation.Reached surroundings settings world) :
    ∃ deeds, Chronicle surroundings settings .known deeds world.store.tables := by
  obtain ⟨_, _, run⟩ := reached.exists_history
  obtain ⟨deeds, _, orderly⟩ := run.orderly
  exact ⟨deeds, orderly.chronicle⟩

theorem Operation.Later.exists_chronicles {world later : World}
    (isLater : Operation.Later surroundings settings world later) :
    ∃ deeds deeds', deeds <+: deeds' ∧
      Chronicle surroundings settings .any deeds world.store.tables ∧
      Chronicle surroundings settings .any deeds' later.store.tables := by
  obtain ⟨_, _, reachable, reaches⟩ := isLater.exists_systems
  obtain ⟨_, deeds, _, orderly⟩ := reachable.exists_orderly
  obtain ⟨_, deeds', _, grows, orderly'⟩ := orderly.reaches reaches
  exact ⟨deeds, deeds', grows, orderly.chronicle, orderly'.chronicle⟩

end DoubleEntry
