import DoubleEntry.Proofs.Store.Views

/-!
# Who sees what is staged

What a unit of work sees is what its commit publishes, and nobody sees it before.  Right
after a commit was accepted, every search of a new unit of work finds what the committed
one found.  Until then its saves are nobody else's business: when the same task makes the
same requests without the saves, all other tasks make the same calls in the same world,
and once the unit of work is dropped, no difference is left.
-/

namespace DoubleEntry

/-! ## What a request needs of its unit of work -/

namespace Request

def isSave : Request → Bool
  | saveAccount _ | saveLedger _ | saveBalance _ | saveTransaction _ | saveReservation _ => true
  | _ => false

variable {surroundings : Surroundings} {q : Request} {world : World} {work other : UnitOfWork}

private theorem perform_save (saves : q.isSave = true) :
    (q.perform surroundings world work).2.1 = world ∧
      (q.perform surroundings world work).2.2.guards = work.guards := by
  cases q with
  | saveAccount | saveLedger | saveBalance | saveTransaction | saveReservation => exact ⟨rfl, rfl⟩
  | _ => cases saves

private theorem perform_of_guards (uncommitted : q ≠ .commit) (same : other.guards = work.guards) :
    (q.perform surroundings world other).2.1 = (q.perform surroundings world work).2.1 ∧
      (q.perform surroundings world other).2.2.guards =
        (q.perform surroundings world work).2.2.guards := by
  have tracked (found found' : Option Ledger) :
      (other.track found).guards = (work.track found').guards := by
    cases found <;> cases found' <;> exact same
  cases q with
  | commit => exact absurd rfl uncommitted
  | openWork => simp [perform, World.drop, Store.abandon, same]
  | acquire account =>
      by_cases own : account ∈ work.guards
      · simp [perform, performAcquire, Store.acquire, own, same]
      · cases granted : world.store.locks.acquire? account <;>
          simp [perform, performAcquire, Store.acquire, own, same, granted]
  | ledgerAt time => exact ⟨rfl, tracked _ _⟩
  | openLedger => exact ⟨rfl, tracked _ _⟩
  | previousLedger ledger => exact ⟨rfl, tracked _ _⟩
  | _ => exact ⟨rfl, same⟩

end Request

/-! ## The same requests without the saves -/

/-- Makes the requests, whatever the answers, and then waits to be dropped. -/
def Action.script : List Request → Action Outcome
  | [] => request .now fun _ => failed (.internal "dropped")
  | q :: rest => request q fun _ => script rest

private theorem Action.script_eq_request (requests : List Request) :
    ∃ q next, script requests = .request q next := by
  cases requests <;> exact ⟨_, _, rfl⟩

namespace System

variable (surroundings : Surroundings) (position : Nat)

def unsavedRequests (system : System) (moves : List Move) : List Request :=
  ((system.calls surroundings moves).filter fun call =>
    call.position = position && !call.request.isSave).map Call.request

def withoutSaves : System → List Move → List Move
  | _, [] => []
  | system, move :: rest =>
    let others := (system.move surroundings move).withoutSaves rest
    if (system.call? move).any fun call => call.position = position && call.request.isSave then
      others
    else move :: others

/-- In the place of the task at `position`, whose unit of work is `work`, stands one that makes the
same requests during the moves besides the saves. -/
def silenced (system : System) (work : UnitOfWork) (moves : List Move) : System :=
  let silent : Task := ⟨work, .script (system.unsavedRequests surroundings position moves)⟩
  { system with tasks := system.tasks.set position silent }

def otherCalls (system : System) (moves : List Move) : List Call :=
  (system.calls surroundings moves).filter fun call => call.position ≠ position

variable {surroundings position} {system : System} {move : Move} {rest : List Move}

private theorem run_cons : system.run surroundings (move :: rest) =
    (system.move surroundings move).run surroundings rest := rfl

private theorem otherCalls_cons : system.otherCalls surroundings position (move :: rest) =
    (system.call? move).toList.filter (fun call => call.position ≠ position) ++
      (system.move surroundings move).otherCalls surroundings position rest :=
  List.filter_append ..

private theorem otherCalls_step : system.otherCalls surroundings position (.step position :: rest) =
    (system.step surroundings position).otherCalls surroundings position rest := by
  rw [otherCalls_cons, List.filter_eq_nil_iff.mpr fun call member => ?_]
  · rfl
  · have called := call?_eq_some_iff.mp (Option.mem_toList.mp member)
    cases called.1
    simp

private theorem unsaved_of_foreign (rest : List Move)
    (foreign : ∀ call, system.call? move = some call → call.position ≠ position) :
    system.unsavedRequests surroundings position (move :: rest) =
        (system.move surroundings move).unsavedRequests surroundings position rest ∧
      system.withoutSaves surroundings position (move :: rest) =
        move :: (system.move surroundings move).withoutSaves surroundings position rest := by
  rw [unsavedRequests, calls, withoutSaves]
  cases called : system.call? move with
  | none => exact ⟨rfl, rfl⟩
  | some call => simp [foreign call called, unsavedRequests]

private theorem unsaved_of_save {call : Call} (rest : List Move)
    (called : system.call? move = some call)
    (own : call.position = position) (saves : call.request.isSave = true) :
    system.unsavedRequests surroundings position (move :: rest) =
        (system.move surroundings move).unsavedRequests surroundings position rest ∧
      system.withoutSaves surroundings position (move :: rest) =
        (system.move surroundings move).withoutSaves surroundings position rest := by
  simp [unsavedRequests, calls, withoutSaves, called, own, saves]

private theorem unsaved_of_own {call : Call} (rest : List Move)
    (called : system.call? move = some call)
    (own : call.position = position) (saves : call.request.isSave = false) :
    system.unsavedRequests surroundings position (move :: rest) = call.request ::
        (system.move surroundings move).unsavedRequests surroundings position rest ∧
      system.withoutSaves surroundings position (move :: rest) =
        move :: (system.move surroundings move).withoutSaves surroundings position rest := by
  simp [unsavedRequests, calls, withoutSaves, called, own, saves]

end System

private theorem System.step_of_pending {surroundings : Surroundings} {system : System}
    {position : Nat} {work : UnitOfWork} {q q' : Request} {next : q.Reply → Action Outcome}
    {next' : q'.Reply → Action Outcome}
    (found : system.tasks[position]? = some ⟨work, .request q next⟩)
    (goesOn : next (q.perform surroundings system.world work).1 = .request q' next') :
    system.step surroundings position = ⟨(q.perform surroundings system.world work).2.1,
      system.tasks.set position
        ⟨(q.perform surroundings system.world work).2.2, .request q' next'⟩⟩ := by
  rw [step_eq found, Task.step_request, goesOn]
  rfl

/-- The systems differ in the task at `position` only: in the second one it has the requests
before it, with the same locks. -/
structure System.Echoes (position : Nat) (requests : List Request) (system other : System) :
    Prop where
  world : other.world = system.world
  length : other.tasks.length = system.tasks.length
  others : ∀ i, i ≠ position → other.tasks[i]? = system.tasks[i]?
  pending : ∃ work q next work', system.tasks[position]? = some ⟨work, .request q next⟩ ∧
    other.tasks[position]? = some ⟨work', .script requests⟩ ∧ work'.guards = work.guards

namespace System.Echoes

variable {surroundings : Surroundings} {position : Nat} {requests : List Request}
  {system other : System}

private theorem bound (echoes : Echoes position requests system other) :
    position < system.tasks.length := by
  obtain ⟨work, q, next, work', mine, -, -⟩ := echoes.pending
  exact (List.getElem?_eq_some_iff.mp mine).1

private theorem set (echoes : Echoes position requests system other) {i : Nat}
    (apart : i ≠ position) (world : World) (task : Task) :
    Echoes position requests ⟨world, system.tasks.set i task⟩ ⟨world, other.tasks.set i task⟩ where
  world := rfl
  length := by simpa using echoes.length
  others j differs := by
    simp only [List.getElem?_set, echoes.length, echoes.others j differs]
  pending := by
    obtain ⟨work, q, next, work', mine, its, same⟩ := echoes.pending
    refine ⟨work, q, next, work', ?_, ?_, same⟩
    · rw [List.getElem?_set_ne apart, mine]
    · rw [List.getElem?_set_ne apart, its]

private theorem set_own (echoes : Echoes position requests system other) {world : World}
    {work work' : UnitOfWork} {q : Request} {next : q.Reply → Action Outcome}
    {rest : List Request} (same : work'.guards = work.guards) :
    Echoes position rest ⟨world, system.tasks.set position ⟨work, .request q next⟩⟩
      ⟨world, other.tasks.set position ⟨work', .script rest⟩⟩ where
  world := rfl
  length := by simpa using echoes.length
  others j differs := by
    rw [List.getElem?_set_ne differs.symm, List.getElem?_set_ne differs.symm,
      echoes.others j differs]
  pending := by
    refine ⟨work, q, next, work', ?_, ?_, same⟩
    · rw [List.getElem?_set_self echoes.bound]
    · rw [List.getElem?_set_self (echoes.length ▸ echoes.bound)]

private theorem next?_of_ne (echoes : Echoes position requests system other) {i : Nat}
    (apart : i ≠ position) : other.next? i = system.next? i := by
  rw [next?, next?, echoes.others i apart, echoes.world]

private theorem move (echoes : Echoes position requests system other) {move : Move}
    (foreign : move ≠ .step position ∧ move ≠ .drop position) :
    Echoes position requests (system.move surroundings move) (other.move surroundings move) ∧
      other.call? move = system.call? move := by
  cases move with
  | start action =>
      refine ⟨?_, rfl⟩
      obtain ⟨work, q, next, work', mine, its, same⟩ := echoes.pending
      have bound := echoes.bound
      constructor
      · exact echoes.world
      · simpa [System.move, start] using echoes.length
      · intro j differs
        simp only [System.move, start, List.getElem?_append, echoes.length,
          echoes.others j differs]
      · refine ⟨work, q, next, work', ?_, ?_, same⟩
        · rwa [System.move, start, List.getElem?_append_left bound]
        · rwa [System.move, start, List.getElem?_append_left (echoes.length ▸ bound)]
  | step i =>
      have apart : i ≠ position := by
        rintro rfl
        exact foreign.1 rfl
      refine ⟨?_, echoes.next?_of_ne apart⟩
      simp only [System.move, step, echoes.others i apart, echoes.world]
      cases system.tasks[i]? with
      | none => exact echoes
      | some task => exact echoes.set apart _ _
  | drop i =>
      have apart : i ≠ position := by
        rintro rfl
        exact foreign.2 rfl
      refine ⟨?_, rfl⟩
      simp only [System.move, drop, echoes.others i apart, echoes.world]
      cases system.tasks[i]? with
      | none => exact echoes
      | some task => exact echoes.set apart _ _

variable {work : UnitOfWork} {q : Request} {next : q.Reply → Action Outcome}

private theorem save (echoes : Echoes position requests system other)
    (mine : system.tasks[position]? = some ⟨work, .request q next⟩) (saves : q.isSave = true)
    (goesOn : ∃ q' next', next (q.perform surroundings system.world work).1 = .request q' next') :
    Echoes position requests (system.step surroundings position) other := by
  obtain ⟨q', next', continued⟩ := goesOn
  obtain ⟨_, _, _, work', mine', its, same⟩ := echoes.pending
  cases mine.symm.trans mine'
  have ⟨sameWorld, sameGuards⟩ :
      (q.perform surroundings system.world work).2.1 = system.world ∧
        (q.perform surroundings system.world work).2.2.guards = work.guards :=
    Request.perform_save saves
  have unmoved : (⟨system.world, other.tasks.set position ⟨work', .script requests⟩⟩ : System) =
      other := by
    rw [set_same its, ← echoes.world]
  rw [step_of_pending mine continued, sameWorld, ← unmoved]
  exact echoes.set_own (same.trans sameGuards.symm)

private theorem own {rest : List Request} (echoes : Echoes position (q :: rest) system other)
    (mine : system.tasks[position]? = some ⟨work, .request q next⟩) (uncommitted : q ≠ .commit)
    (goesOn : ∃ q' next', next (q.perform surroundings system.world work).1 = .request q' next') :
    Echoes position rest (system.step surroundings position)
      (other.step surroundings position) := by
  obtain ⟨q', next', continued⟩ := goesOn
  obtain ⟨_, _, _, work', mine', its, same⟩ := echoes.pending
  cases mine.symm.trans mine'
  have ⟨sameWorld, sameGuards⟩ : (q.perform surroundings system.world work').2.1 =
        (q.perform surroundings system.world work).2.1 ∧
      (q.perform surroundings system.world work').2.2.guards =
        (q.perform surroundings system.world work).2.2.guards :=
    Request.perform_of_guards uncommitted same
  obtain ⟨first, others, script⟩ := Action.script_eq_request rest
  have stepped : other.step surroundings position =
      ⟨(q.perform surroundings system.world work').2.1, other.tasks.set position
        ⟨(q.perform surroundings system.world work').2.2, .script rest⟩⟩ := by
    rw [script, ← echoes.world]
    exact step_of_pending its script
  rw [step_of_pending mine continued, stepped, sameWorld]
  exact echoes.set_own sameGuards

private theorem run {moves : List Move}
    (echoes : Echoes position (system.unsavedRequests surroundings position moves) system other)
    (uncommitted : ∀ call ∈ system.calls surroundings moves, call.position = position →
      call.request ≠ .commit)
    (stays : ∃ call, (system.run surroundings moves).next? position = some call) :
    other.otherCalls surroundings position (system.withoutSaves surroundings position moves) =
        system.otherCalls surroundings position moves ∧
      Echoes position [] (system.run surroundings moves)
        (other.run surroundings (system.withoutSaves surroundings position moves)) := by
  induction moves generalizing system other with
  | nil => exact ⟨rfl, echoes⟩
  | cons move rest ih =>
      have later := fun call member => uncommitted call (mem_calls_cons.mpr (.inr member))
      by_cases foreign : move ≠ .step position ∧ move ≠ .drop position
      · have ⟨moved, sameCall⟩ : Echoes position _ (system.move surroundings move)
            (other.move surroundings move) ∧ other.call? move = system.call? move :=
          echoes.move foreign
        have others : ∀ call, system.call? move = some call → call.position ≠ position := by
          rintro call called rfl
          exact foreign.1 (call?_eq_some_iff.mp called).1
        obtain ⟨requests, kept⟩ := unsaved_of_foreign rest others
        rw [requests] at moved
        obtain ⟨same, echoes⟩ := ih moved later stays
        rw [kept, otherCalls_cons, otherCalls_cons, sameCall, same]
        exact ⟨rfl, echoes⟩
      · obtain ⟨work, q, next, work', mine, its, -⟩ := echoes.pending
        obtain ⟨last, stays⟩ := stays
        have goesOn {task : Task} {world : World} (moved : system.move surroundings move =
            ⟨world, system.tasks.set position task⟩) : task.result? = none := by
          rw [run_cons, moved] at stays
          exact pending_of_run (List.getElem?_set_self echoes.bound) stays
        have isStep : move = .step position := by
          by_contra isDrop
          obtain rfl : move = .drop position := by
            by_contra differs
            exact foreign ⟨isDrop, differs⟩
          have dropped : system.move surroundings (.drop position) =
              ⟨system.world.drop work, system.tasks.set position .dropped⟩ := by
            rw [System.move, drop, mine]
            rfl
          cases goesOn dropped
        subst isStep
        have called : system.call? (.step position) = some ⟨position, q, system.world, work⟩ :=
          next?_eq_some_iff.mpr ⟨rfl, rfl, next, mine⟩
        have continued : ∃ q' next',
            next (q.perform surroundings system.world work).1 = .request q' next' := by
          have pending := goesOn (step_eq mine)
          rw [Task.step_request, Task.result?, Task.settle_action] at pending
          cases continued : next (q.perform surroundings system.world work).1 with
          | request q' next' => exact ⟨q', next', rfl⟩
          | done outcome => simp [continued] at pending
          | failed e => simp [continued] at pending
        cases saves : q.isSave with
        | true =>
            obtain ⟨requests, kept⟩ := unsaved_of_save rest called rfl saves
            rw [requests] at echoes
            obtain ⟨same, echoes⟩ := ih (echoes.save mine saves continued) later ⟨last, stays⟩
            rw [kept, otherCalls_step, same]
            exact ⟨rfl, echoes⟩
        | false =>
            obtain ⟨requests, kept⟩ := unsaved_of_own rest called rfl saves
            rw [requests] at echoes
            have uncommitted := uncommitted _ (mem_calls_cons.mpr (.inl called)) rfl
            obtain ⟨same, echoes⟩ := ih (echoes.own mine uncommitted continued) later ⟨last, stays⟩
            rw [kept, otherCalls_step, otherCalls_step]
            exact ⟨same, echoes⟩

private theorem drop_eq (echoes : Echoes position requests system other) :
    other.drop position = system.drop position := by
  obtain ⟨work, q, next, work', mine, its, same⟩ := echoes.pending
  obtain ⟨first, others, script⟩ := Action.script_eq_request requests
  have tasks : other.tasks.set position .dropped = system.tasks.set position .dropped := by
    apply List.ext_getElem?
    intro i
    by_cases own : position = i
    · subst own
      rw [List.getElem?_set_self echoes.bound,
        List.getElem?_set_self (echoes.length ▸ echoes.bound)]
    · rw [List.getElem?_set_ne own, List.getElem?_set_ne own, echoes.others i (Ne.symm own)]
  have worlds : other.world.drop work' = system.world.drop work := by
    simp [World.drop, Store.abandon, echoes.world, same]
  rw [drop, drop, mine, its, script]
  simp only [Task.drop, worlds, tasks]

end System.Echoes

/-! ## Systems -/

namespace System

/-- The task at `position` makes the same requests during the moves without its saves: nobody else
notices, and nothing of it is left once the task is dropped. -/
structure Spares (surroundings : Surroundings) (system : System) (position : Nat)
    (work : UnitOfWork) (moves : List Move) : Prop where
  answers : (system.silenced surroundings position work moves).otherCalls surroundings position
      (system.withoutSaves surroundings position moves) =
    system.otherCalls surroundings position moves
  dropped : ((system.silenced surroundings position work moves).run surroundings
      (system.withoutSaves surroundings position moves)).drop position =
    (system.run surroundings moves).drop position

structure Isolates (surroundings : Surroundings) (system : System) : Prop where
  published : ∀ position call, system.next? position = some call → call.Commits →
    ∀ q : Request, q.Searches →
      (q.perform surroundings (system.step surroundings position).world .empty).1 =
        q.raised call.work (q.perform surroundings system.world call.work).1
  listed : ∀ position call, system.next? position = some call → call.Commits →
    ((call.work.ledgerView system.world.store.tables).map Ledger.opensAt).Nodup →
      ∀ before after : List Ledger,
        before.Perm (system.world.store.tables.ledgers.overlay call.work.ledgers).values →
        after.Perm (system.step surroundings position).world.store.tables.ledgers.values →
        sortBy (fun a b => a.opensAt ≤ b.opensAt) after =
          (sortBy (fun a b => a.opensAt ≤ b.opensAt) before).map call.work.raisedLedger
  unseen : ∀ position call, system.next? position = some call → ∀ moves,
    (∀ own ∈ system.calls surroundings moves, own.position = position → own.request ≠ .commit) →
    (∃ last, (system.run surroundings moves).next? position = some last) →
      system.Spares surroundings position call.work moves

variable {surroundings : Surroundings} {system : System} {position : Nat} {call : Call}

private theorem spares (next : system.next? position = some call) (moves : List Move)
    (uncommitted : ∀ own ∈ system.calls surroundings moves, own.position = position →
      own.request ≠ .commit)
    (stays : ∃ last, (system.run surroundings moves).next? position = some last) :
    system.Spares surroundings position call.work moves := by
  obtain ⟨-, -, continuation, mine⟩ := next?_eq_some_iff.mp next
  have bound : position < system.tasks.length := (List.getElem?_eq_some_iff.mp mine).1
  have echoes : Echoes position (system.unsavedRequests surroundings position moves) system
      (system.silenced surroundings position call.work moves) := {
    world := rfl
    length := by simp [silenced]
    others := fun i apart => List.getElem?_set_ne apart.symm
    pending := ⟨_, _, continuation, _, mine, List.getElem?_set_self bound, rfl⟩ }
  obtain ⟨same, last⟩ := echoes.run uncommitted stays
  exact ⟨same, last.drop_eq⟩

private theorem step_publishes (next : system.next? position = some call) (commits : call.Commits) :
    (system.step surroundings position).world.store.tables =
      call.work.publish system.world.store.tables := by
  obtain ⟨rfl, world, -⟩ := next?_eq_some_iff.mp next
  have tables := (moved surroundings system (.step call.position)).tables
  rw [call?_eq_some_iff.mpr ⟨rfl, next⟩, Option.map_some, Option.getD_some,
    Call.tables_of_commits commits, world] at tables
  exact tables

theorem keyed_run (surroundings : Surroundings) (moves : List Move) :
    (empty.run surroundings moves).world.store.tables.Keyed := by
  refine (tables_run Tables.Keyed Tables.keyed_empty fun call _ keyed => ?_).2
  exact Call.kept_after keyed fun _ => keyed.publish call.work

/-- Wherever a run from nothing has come to, whatever was staged and whoever acts meanwhile. -/
theorem isolates (surroundings : Surroundings) (moves : List Move) :
    (empty.run surroundings moves).Isolates surroundings where
  published position call next commits q searches := by
    have acceptable := commits.acceptable
    rw [(next?_eq_some_iff.mp next).2.1] at acceptable
    exact searches.published ((named_run surroundings moves).2 position call next)
      (keyed_run surroundings moves) acceptable (step_publishes next commits)
  listed position call next commits distinct before after listed listed' := by
    rw [step_publishes next commits] at listed'
    exact UnitOfWork.view_of_perm ((named_run surroundings moves).2 position call next)
      (keyed_run surroundings moves) distinct listed listed'
  unseen position call next later uncommitted stays := spares next later uncommitted stays

/-- A rollover saves two ledgers, one of them stored before, while somebody else asks for the open
one; then it commits. -/
theorem isolates_rollover : ∃ before between first attempt,
    (empty.run .counting before).next? 1 = some first ∧
    ((empty.run .counting before).calls .counting between).map
        (fun call => (call.position, call.request.isSave)) =
      [(1, true), (2, false), (1, true), (2, false)] ∧
    (empty.run .counting before).Spares .counting 1 first.work between ∧
    (empty.run .counting (before ++ between)).next? 1 = some attempt ∧
    attempt.Commits ∧
    ∀ q : Request, q.Searches →
      (q.perform .counting ((empty.run .counting (before ++ between)).step .counting 1).world
          .empty).1 =
        q.raised attempt.work
          (q.perform .counting (empty.run .counting (before ++ between)).world attempt.work).1 := by
  let boundary := (Instant.of? 100 0).getD .epoch
  let before : List Move :=
    .start (Operation.action .standard (.openFirstLedger .epoch)) :: List.replicate 6 (.step 0) ++
      .start (Operation.action .standard (.closePeriodAndOpenNext boundary)) ::
      .start (Operation.action .standard .currentLedger) :: List.replicate 4 (.step 1)
  let between : List Move := [.step 1, .step 2, .step 1, .step 2]
  let system := empty.run .counting before
  let later := empty.run .counting (before ++ between)
  let first := (system.next? 1).get (by decide +kernel)
  let attempt := (later.next? 1).get (by decide +kernel)
  have next : system.next? 1 = some first := (Option.some_get _).symm
  have next' : later.next? 1 = some attempt := (Option.some_get _).symm
  have commits : attempt.Commits := by
    rw [Call.commits_iff, Request.Commits, ← UnitOfWork.check_eq_ok_iff]
    decide +kernel
  have uncommitted : ∀ own ∈ system.calls .counting between, own.position = 1 →
      own.request ≠ .commit := by
    decide +kernel
  have stays : ∃ last, (system.run .counting between).next? 1 = some last :=
    ⟨attempt, by rw [← run_append]; exact next'⟩
  refine ⟨before, between, first, attempt, next, ?_, ?_, next', commits, ?_⟩
  · decide +kernel
  · exact (isolates .counting before).unseen 1 first next between uncommitted stays
  · exact (isolates .counting (before ++ between)).published 1 attempt next' commits

end System

end DoubleEntry
