import DoubleEntry.Proofs.Program.Settling
import DoubleEntry.Proofs.Service.Fares
import DoubleEntry.Proofs.Service.Identity

/-!
# Without competition nothing goes wrong by itself

Operations with any arguments run one after another on a store that was empty and
that nobody else uses.  No operation then ends with a conflict or an internal error,
nor with an error about the shape of a posting: locks are free, what was read is
current, and every stored ledger has an identifier that was drawn before.
-/

namespace DoubleEntry

variable {surroundings : Surroundings} {settings : LedgerSettings} {admission : Admission}
  {tables : Tables} {world : World}

/-! ## The identifiers of ledgers -/

private theorem Voucher.ledgers_ids {operation : Operation} {work : UnitOfWork} {outcome : Outcome}
    {ids : List Uuid} {times : List Instant}
    (voucher : Voucher settings tables operation work outcome ids times) :
    ∀ ledger ∈ work.ledgers.values, ledger.id.uuid ∈ ids ∨
      ∃ stored ∈ tables.ledgers.values, stored.id = ledger.id := by
  induction voucher with
  | openFirstLedger none =>
      intro ledger member
      rw [List.mem_singleton.mp member]
      exact .inl (List.mem_singleton_self _)
  | closePeriodAndOpenNext stored _ _ closes _ =>
      obtain ⟨-, -, rfl⟩ := Ledger.close_eq_ok_iff.mp closes
      intro ledger member
      rcases Table.mem_of_mem_insert member with rfl | member
      · exact .inl (List.mem_singleton_self _)
      · rw [List.mem_singleton.mp member]
        exact .inr ⟨_, stored, rfl⟩
  | deposit _ ih => exact ih
  | withdraw _ ih => exact ih
  | _ => simp [UnitOfWork.empty, UnitOfWork.ofPosting]

private theorem Chronicle.ledgers_ids {deeds : List Deed}
    (chronicle : Chronicle surroundings settings admission deeds tables) :
    ∀ ledger ∈ tables.ledgers.values, ledger.id.uuid ∈ deeds.flatMap (Deed.ids surroundings) := by
  induction chronicle with
  | nothing => simp [Tables.empty]
  | deed deed voucher _ _ _ ih =>
      intro ledger member
      rw [List.flatMap_append, List.mem_append]
      rcases Table.mem_of_mem_foldl_insert Ledger.id Ledger.committed member with
        member | ⟨staged, among, rfl⟩
      · exact .inl (ih ledger member)
      · rcases voucher.ledgers_ids staged among with drawn | ⟨stored, known, same⟩
        · exact .inr (List.mem_flatMap.mpr ⟨deed, List.mem_singleton_self _, drawn⟩)
        · have known := ih stored known
          rw [same] at known
          exact .inl known

namespace Operation

/-! ## Runs -/

private theorem Reaches.exists_orderly (reaches : Reaches surroundings settings .empty world) :
    ∃ history tasks deeds owner,
      Orderly surroundings settings .any history ⟨world, tasks⟩ deeds owner := by
  obtain ⟨tasks, system⟩ := reaches.exists_system []
  obtain ⟨history, deeds, owner, orderly⟩ := (system.reachable .empty).exists_orderly
  exact ⟨history, tasks, deeds, owner, orderly⟩

private theorem Reaches.sound (reaches : Reaches surroundings settings .empty world) :
    world.store.tables.Sound settings.refs := by
  obtain ⟨_, _, _, _, orderly⟩ := reaches.exists_orderly
  exact orderly.chronicle.sound

private theorem Reaches.ledgers_issued (reaches : Reaches surroundings settings .empty world) :
    ∀ ledger ∈ world.store.tables.ledgers.values,
      ∃ i < world.issued, surroundings.uuid i = ledger.id.uuid := by
  obtain ⟨_, _, _, _, orderly⟩ := reaches.exists_orderly
  intro ledger stored
  have drawn := orderly.chronicle.ledgers_ids ledger stored
  rw [Deed.flatMap_ids] at drawn
  obtain ⟨i, used, same⟩ := List.mem_map.mp drawn
  exact ⟨i, orderly.used_issued i used, same⟩

private theorem Reaches.held (reaches : Reaches surroundings settings .empty world) :
    world.store.locks.held = [] := by
  induction reaches with
  | refl => rfl
  | run operation _ ih =>
      rw [run_held]
      exact ih

private theorem issued_le_run (surroundings : Surroundings) (settings : LedgerSettings)
    (operation : Operation) (world : World) :
    world.issued ≤ (operation.run surroundings settings world).2.issued := by
  rw [run, Action.run, Action.runFrom_eq]
  exact Action.issued_le_exec surroundings _ world .empty

private theorem issued_le_runAll (surroundings : Surroundings) (settings : LedgerSettings)
    (operations : List Operation) (world : World) :
    world.issued ≤ (runAll surroundings settings operations world).2.issued := by
  induction operations generalizing world with
  | nil => exact Nat.le_refl _
  | cons operation rest ih =>
      exact Nat.le_trans (issued_le_run surroundings settings operation world) (ih _)

private theorem run_faultless {limit : Nat} {operation : Operation} {e : LedgerError}
    (reaches : Reaches surroundings settings .empty world) (distinct : surroundings.Distinct limit)
    (bounded : (operation.run surroundings settings world).2.issued ≤ limit)
    (fails : (operation.run surroundings settings world).1 = .error e) : e.isFault = false := by
  have fresh : world.issued < limit →
      world.store.tables.ledgers.get? ⟨surroundings.uuid world.issued⟩ = none := by
    intro within
    cases found : world.store.tables.ledgers.get? ⟨surroundings.uuid world.issued⟩ with
    | none => rfl
    | some ledger =>
        obtain ⟨stored, isNext⟩ := reaches.sound.ledgers.get?_eq_some_iff.mp found
        obtain ⟨i, before, drawn⟩ := reaches.ledgers_issued ledger stored
        rw [isNext] at drawn
        have same := distinct i (Nat.lt_trans before within) world.issued within drawn
        exact absurd same (Nat.ne_of_lt before)
  have stands := Point.At.start world
  rw [reaches.held] at stands
  have fares : (operation.action settings).Fares surroundings [] limit
      ⟨world.store.tables, world.issued, world.ticks, .empty⟩ :=
    operation.fares reaches.sound fresh
  rw [run, Action.run, Action.runFrom_eq] at bounded fails
  cases executed : (operation.action settings).exec surroundings world .empty with
  | mk result rest =>
      obtain ⟨world', work'⟩ := rest
      rw [executed] at bounded fails
      cases fails
      exact (fares world .empty stands e world' work' executed bounded).1

private theorem runAll_faultless {limit : Nat} {operations : List Operation} {e : LedgerError}
    (reaches : Reaches surroundings settings .empty world) (distinct : surroundings.Distinct limit)
    (bounded : (runAll surroundings settings operations world).2.issued ≤ limit)
    (fails : .error e ∈ (runAll surroundings settings operations world).1) :
    e.isFault = false := by
  induction operations generalizing world with
  | nil => cases fails
  | cons operation rest ih =>
      rcases List.mem_cons.mp fails with isFirst | later
      · have onwards := issued_le_runAll surroundings settings rest
          (operation.run surroundings settings world).2
        exact run_faultless reaches distinct (Nat.le_trans onwards bounded) isFirst.symm
      · exact ih (reaches.run operation) bounded later

/-- Without competition no operation ends with a conflict or an internal error, nor with an error
about the shape of a posting. -/
theorem faultless (surroundings : Surroundings) (settings : LedgerSettings)
    (operations : List Operation)
    (distinct : surroundings.Distinct (runAll surroundings settings operations .empty).2.issued)
    (e : LedgerError) (fails : .error e ∈ (runAll surroundings settings operations .empty).1) :
    e.isFault = false :=
  runAll_faultless .refl distinct (Nat.le_refl _) fails

theorem faultless_overdrawn : ∃ operations : List Operation, ∃ e : LedgerError,
    Surroundings.counting.Distinct (runAll .counting .standard operations .empty).2.issued ∧
    .error e ∈ (runAll .counting .standard operations .empty).1 ∧ e.isFault = false := by
  let start : Instant := ⟨100, 0, by decide, by decide, by decide⟩
  let later : Instant := ⟨200, 0, by decide, by decide, by decide⟩
  let amount : Money := ⟨100, by decide, by decide⟩
  let more : Money := ⟨150, by decide, by decide⟩
  let operations : List Operation := [.ensureSystemAccounts,
    .createAccount "alice" "Alice" .liability .current, .openFirstLedger start,
    .deposit "alice" ⟨amount, "in", start⟩, .closePeriodAndOpenNext later,
    .withdraw "alice" ⟨more, "out", later⟩]
  have distinct : Surroundings.counting.Distinct
      (runAll .counting .standard operations .empty).2.issued :=
    Surroundings.counting_distinct (by decide +kernel)
  have fails : .error (.overdrawn "alice" "1970" amount more) ∈
      (runAll .counting .standard operations .empty).1 := by
    decide +kernel
  exact ⟨operations, _, distinct, fails, faultless .counting .standard operations distinct _ fails⟩

end Operation

end DoubleEntry
