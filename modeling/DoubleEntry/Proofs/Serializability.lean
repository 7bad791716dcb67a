import DoubleEntry.Proofs.Service.Identity
import DoubleEntry.Proofs.Service.Replay

/-!
# Interleaved runs are serial

What operations commit while they run side by side could have been committed by the
same operations one at a time, in the order of the commits, and each of them has the
same result there.  The serial run draws the identifiers and instants that the
vouchers of the chronicle name: `Deed.supplies` puts them in a row.
-/

namespace DoubleEntry

variable {surroundings serial : Surroundings} {settings : LedgerSettings} {history : History}
  {system : System} {deeds : List Deed} {owner : Nat → Nat} {tables : Tables}

/-! ## Supplies -/

private theorem supplies_of_getElem? {β : Type} {supply : Nat → β} {position : Nat}
    {values : List β} (holds : ∀ i value, values[i]? = some value → supply (position + i) = value) :
    Supplies supply position values := by
  induction values generalizing position with
  | nil => trivial
  | cons value rest ih =>
      refine ⟨holds 0 value rfl, ih ?_⟩
      intro i later found
      rw [Nat.add_assoc, Nat.add_comm 1 i]
      exact holds (i + 1) later found

/-- What the deeds used, in their order, and after it whatever the surroundings supply. -/
def Deed.supplies (surroundings : Surroundings) (deeds : List Deed) : Surroundings where
  uuid i := (deeds.flatMap (Deed.ids surroundings)).getD i (surroundings.uuid i)
  clock i := (deeds.flatMap Deed.times).getD i (surroundings.clock i)

private theorem Deed.supplies_uuid (surroundings : Surroundings) (deeds : List Deed) :
    Supplies (supplies surroundings deeds).uuid 0 (deeds.flatMap (Deed.ids surroundings)) := by
  apply supplies_of_getElem?
  intro i value found
  simp [supplies, found]

private theorem Deed.supplies_clock (surroundings : Surroundings) (deeds : List Deed) :
    Supplies (supplies surroundings deeds).clock 0 (deeds.flatMap Deed.times) := by
  apply supplies_of_getElem?
  intro i value found
  simp [supplies, found]

private theorem Orderly.supplies_uuid
    (orderly : Orderly surroundings settings .known history system deeds owner)
    {i : Nat} (within : i < (deeds.flatMap (Deed.ids surroundings)).length) :
    ∃ j < system.world.issued, (deeds.flatMap Deed.used)[i]? = some j ∧
      (Deed.supplies surroundings deeds).uuid i = surroundings.uuid j := by
  rw [Deed.flatMap_ids, List.length_map] at within
  have found := List.getElem?_eq_getElem within
  refine ⟨_, orderly.used_issued _ (List.getElem_mem within), found, ?_⟩
  simp [Deed.supplies, Deed.flatMap_ids, found]

/-! ## Replaying a chronicle -/

private theorem Chronicle.replay (chronicle : Chronicle surroundings settings .known deeds tables)
    (ids : Supplies serial.uuid 0 (deeds.flatMap (Deed.ids surroundings)))
    (times : Supplies serial.clock 0 (deeds.flatMap Deed.times)) :
    ∃ world : World,
      Operation.runAll serial settings (deeds.map Deed.operation) .empty =
        (deeds.map fun deed => .ok deed.outcome, world) ∧
      Operation.Reachable serial settings world ∧ world.store.tables = tables ∧
      world.issued = (deeds.flatMap (Deed.ids surroundings)).length ∧
      world.ticks = (deeds.flatMap Deed.times).length ∧ world.store.locks.held = [] := by
  induction chronicle with
  | nothing => exact ⟨.empty, rfl, .empty, rfl, rfl, rfl, rfl⟩
  | @deed deeds tables deed voucher acceptable isAdmissible chronicle ih =>
      rw [List.flatMap_append, supplies_append, Nat.zero_add] at ids times
      obtain ⟨world, ran, reachable, rfl, issued, ticks, free⟩ := ih ids.1 times.1
      have ids : Supplies serial.uuid world.issued (deed.ids surroundings) := by
        simpa [issued] using ids.2
      have times : Supplies serial.clock world.ticks deed.times := by
        simpa [ticks] using times.2
      obtain ⟨after, goes, published, issued', ticks', free'⟩ :=
        voucher.run chronicle.sound acceptable ids times free
      have reached := reachable.run deed.operation isAdmissible
      rw [goes] at reached
      refine ⟨after, ?_, reached, published, ?_, ?_, free'⟩
      · simp [Operation.runAll_append, ran, Operation.runAll, goes]
      · simp [issued', issued]
      · simp [ticks', ticks]

/-! ## Serializability -/

/-- A serial run of the operations that have committed, in the order of their commits. -/
structure SerialRun (surroundings : Surroundings) (settings : LedgerSettings) (history : History)
    (system : System) (serial : Surroundings) (results : List (Except LedgerError Outcome))
    (world : World) : Prop where
  runs : Operation.runAll serial settings history.committed .empty = (results, world)
  reachable : Operation.Reachable serial settings world
  once : history.commits.Nodup
  complete : results.length = history.commits.length
  succeed : ∀ result ∈ results, ∃ outcome, result = .ok outcome
  same_tables : world.store.tables = system.world.store.tables
  same_results : ∀ (place position : Nat) (task : Task) (result : Except LedgerError Outcome),
    history.commits[place]? = some position → system.tasks[position]? = some task →
      task.result? = some result → results[place]? = some result
  ids_drawn : ∀ i < world.issued, ∃ j < system.world.issued, serial.uuid i = surroundings.uuid j
  ids_distinct : surroundings.Distinct system.world.issued → serial.Distinct world.issued

private theorem Orderly.committed_eq
    (orderly : Orderly surroundings settings .known history system deeds owner) :
    history.committed = deeds.map Deed.operation := by
  have found : ∀ deed ∈ deeds, history.operations[deed.position]? = some deed.operation :=
    fun deed member => (orderly.delivers deed member).1
  rw [History.committed, orderly.commits, List.filterMap_map, ← List.filterMap_eq_map]
  exact List.filterMap_congr fun deed member => found deed member

private theorem Orderly.same_result
    (orderly : Orderly surroundings settings .known history system deeds owner)
    {deed : Deed} (member : deed ∈ deeds) {task : Task} {result : Except LedgerError Outcome}
    (found : system.tasks[deed.position]? = some task) (ended : task.result? = some result) :
    result = .ok deed.outcome := by
  obtain ⟨_, same, isTask, delivers, _⟩ := orderly.delivers deed member
  rw [found] at isTask
  cases isTask
  obtain ⟨work, action⟩ := task
  cases action with
  | done value =>
      cases ended
      exact congrArg Except.ok delivers
  | failed e => exact delivers.elim
  | request q next => cases ended

/-- Whatever the order of the steps, the commits are those of a serial run. -/
theorem Operation.Run.serializable (run : Operation.Run surroundings settings history system) :
    ∃ serial results world,
      SerialRun surroundings settings history system serial results world := by
  obtain ⟨deeds, owner, orderly⟩ := run.orderly
  obtain ⟨world, ran, reachable, same, issued, _, _⟩ := orderly.chronicle.replay
    (Deed.supplies_uuid surroundings deeds) (Deed.supplies_clock surroundings deeds)
  refine ⟨Deed.supplies surroundings deeds, deeds.map fun deed => .ok deed.outcome, world, ?_⟩
  constructor
  case runs =>
    rw [orderly.committed_eq]
    exact ran
  case reachable => exact reachable
  case once => exact orderly.commits_nodup
  case complete => simp [orderly.commits]
  case succeed => simp
  case same_tables => exact same
  case same_results =>
    intro place position task result committed found ended
    rw [orderly.commits, List.getElem?_map, Option.map_eq_some_iff] at committed
    obtain ⟨deed, isDeed, rfl⟩ := committed
    have member := List.mem_of_getElem? isDeed
    simp [isDeed, orderly.same_result member found ended]
  case ids_drawn =>
    intro i within
    rw [issued] at within
    obtain ⟨j, before, _, same⟩ := orderly.supplies_uuid within
    exact ⟨j, before, same⟩
  case ids_distinct =>
    intro distinct i within i' within' repeated
    rw [issued] at within within'
    obtain ⟨j, before, used, same⟩ := orderly.supplies_uuid within
    obtain ⟨j', before', used', same'⟩ := orderly.supplies_uuid within'
    rw [same, same'] at repeated
    have sameIndex := distinct j before j' before' repeated
    rw [← sameIndex, ← used] at used'
    have inside := (List.getElem?_eq_some_iff.mp used).1
    exact (List.getElem?_inj inside orderly.used_nodup).mp used'.symm

/-- Two operations that both find no ledger: one commits, and it is all that the serial run does. -/
theorem Operation.Run.serializable_openings : ∃ history system,
    Operation.Run .counting .standard history system ∧ history.operations.length = 2 ∧
    history.commits = [0] ∧
    system.tasks.map (fun task => task.result?.map Except.isOk) = [some true, some false] ∧
    ∃ serial results world,
      SerialRun .counting .standard history system serial results world := by
  have started : Operation.Run .counting .standard _ _ :=
    (Operation.Run.empty.start (.openFirstLedger .epoch) trivial).start
      (.openFirstLedger .epoch) trivial
  have run := started.follow [0, 1, 0, 1, 0, 1, 0, 1, 0, 1, 0, 1, 0, 1, 0, 1]
  refine ⟨_, _, run, ?_, ?_, ?_, run.serializable⟩
  · decide +kernel
  · decide +kernel
  · decide +kernel

end DoubleEntry
