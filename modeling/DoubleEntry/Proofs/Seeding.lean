import DoubleEntry.Proofs.Seeding.Movements

/-!
# Seeding is complete, or it posts nothing

Which references are configured decides how a run of the seeding ends
(`Seeding.Accepts`).  If it fails, it fails before the first movement: because of the
system accounts, or because a reference of a customer is taken.
-/

namespace DoubleEntry.Seeding

variable {surroundings : Surroundings} {settings : LedgerSettings} {tables : Tables}

structure Accepts (refs : SystemRefs) : Prop where
  creatable : refs.Creatable
  customers_apart : ∀ reference ∈ refs.all, ∀ customer ∈ customers,
    Text.trim reference ≠ customer.reference

structure Complete (tables : Tables) : Prop where
  transactions : tables.transactions.length = 7
  reservation : ∃ reservation, tables.reservations.get? "ride-0001" = some reservation ∧
    reservation.status = .released ∧ reservation.held = amount 2000 ∧
    reservation.charged = amount 1500
  ledger : ∃ ledger, tables.ledgers.values = [ledger] ∧
    tables.closing ledger.id .asset = 15000 ∧ tables.closing ledger.id .liability = 15000 ∧
    ∀ share ∈ [("user1", 10250), ("user1P", 500), ("user2", 4750)], ∃ account balance,
      tables.account? share.1 = some account ∧
      tables.balances.get? ⟨ledger.id, account.id⟩ = some balance ∧
      balance.endAmount.minorUnits = share.2

/-! ## What the movements come to -/

private theorem Stage.complete {ledger : Ledger} {cast : Cast} {id : ReservationId}
    {created : Instant} {movements : List Movement} (moves : cast.Moves movements)
    (stage : Stage settings ledger cast
      (some (ride id created cast.user2 (amount 2000) (amount 1500) .released 3)) movements
      tables) : Complete tables where
  transactions := stage.tallies.transactions.trans moves.seven
  reservation := ⟨_, stage.reservation, rfl, rfl, rfl⟩
  ledger := by
    have holds {reference : String} {purpose : Purpose} {account : Account} {units : Int}
        (enrolled : Enrolled tables reference purpose account)
        (tally : Movement.tally (·.id = account.id) movements = units) (moved : units ≠ 0) :
        ∃ account balance, tables.account? reference = some account ∧
          tables.balances.get? ⟨ledger.id, account.id⟩ = some balance ∧
          balance.endAmount.minorUnits = units := by
      subst tally
      obtain ⟨balance, found, units⟩ :=
        stage.tallies.exists_stored (stage.tallies.sound.mem_of_account? enrolled.found) moved
      exact ⟨account, balance, enrolled.found, found, units⟩
    refine ⟨ledger, stage.tallies.ledgers, (stage.tallies.closing _).trans moves.assets,
      (stage.tallies.closing _).trans moves.liabilities, ?_⟩
    simp only [List.forall_mem_cons]
    exact ⟨holds stage.casts.user1 moves.user1 (by decide),
      holds stage.casts.user1P moves.user1P (by decide),
      holds stage.casts.user2 moves.user2 (by decide), by simp⟩

/-! ## Runs -/

private theorem seed_eq (surroundings : Surroundings) (settings : LedgerSettings) :
    seed surroundings settings = (do
      prepare surroundings settings
      customers.forM (enrol surroundings settings)
      moveMoney surroundings settings
      reportBalances) := by
  simp only [seed, prepare, bind_assoc]
  rfl

private theorem customers_named : ∀ customer ∈ customers,
    Text.trim customer.reference = customer.reference ∧
      (Text.trim customer.reference).isEmpty = false := by
  decide

namespace Prepared

variable {issued ticks : Nat} (prepared : Prepared surroundings settings.refs issued ticks tables)
include prepared

private theorem taken_iff {customer : Customer} (member : customer ∈ customers) :
    tables.account? customer.reference ≠ none ↔
      ∃ reference ∈ settings.refs.all, Text.trim reference = customer.reference := by
  rw [prepared.account?_ne_none_iff, (customers_named customer member).1, List.mem_map]

private theorem exists_stage (distinct : surroundings.Distinct 7)
    (free : ∀ customer ∈ customers, tables.account? customer.reference = none) :
    ∃ after ledger cast, (customers.forM (enrol surroundings settings)).Goes
        ⟨tables, issued, ticks, .empty⟩ ⟨after, issued + 3, ticks + 3, .empty⟩ ∧
      Stage settings ledger cast none [] after ∧
      ∃ tick ≤ ticks, ledger.opensAt ≤ surroundings.clock tick := by
  obtain ⟨after, goes, unposted, leads, enrolled⟩ := exists_all_enrolled prepared.unposted
    prepared.occupied (fun customer member => (customers_named customer member).2) (by decide) free
    ticks
  obtain ⟨user1, isUser1⟩ := enrolled ⟨"user1", "Test User One", .current⟩ (by simp [customers])
  obtain ⟨user1P, isUser1P⟩ :=
    enrolled ⟨"user1P", "Test User One Premium", .premium⟩ (by simp [customers])
  obtain ⟨user2, isUser2⟩ := enrolled ⟨"user2", "Test User Two", .current⟩ (by simp [customers])
  obtain ⟨accounts, ensures⟩ := prepared.ensures
  have ensures := ensures.stays leads.accounts
  obtain ⟨ledger, one, isOpen, opened⟩ := prepared.ledger
  let cast : Cast :=
    ⟨accounts.bankingReserve, accounts.reservations, accounts.premiums, user1, user1P, user2⟩
  refine ⟨after, ledger, cast, goes, ?_, opened⟩
  constructor
  case tallies =>
    have few : issued + customers.length ≤ 7 := Nat.add_le_add_right prepared.few 3
    exact unposted.tallies (distinct.mono few) (by rw [leads.ledgers, one]) isOpen
  case casts =>
    exact ⟨ensures.bankingReserve, ensures.reservations, ensures.premiums, isUser1, isUser1P,
      isUser2⟩
  case reservation =>
    rw [unposted.reservations]
    rfl

end Prepared

private theorem exists_completed (accepts : Accepts settings.refs)
    (steady : ∀ i j, i ≤ j → surroundings.clock i ≤ surroundings.clock j)
    (distinct : surroundings.Distinct 7) : ∃ tables issued ticks,
      (seed surroundings settings).Goes ⟨.empty, 0, 0, .empty⟩ ⟨tables, issued, ticks, .empty⟩ ∧
      Complete tables := by
  obtain ⟨tables, issued, ticks, prepares, prepared⟩ :=
    exists_prepared accepts.creatable surroundings
  have free : ∀ customer ∈ customers, tables.account? customer.reference = none := by
    intro customer member
    by_contra taken
    obtain ⟨reference, isSystem, same⟩ := (prepared.taken_iff member).mp taken
    exact accepts.customers_apart reference isSystem customer member same
  obtain ⟨ready, ledger, cast, enrols, stage, tick, earlier, opens⟩ :=
    prepared.exists_stage distinct free
  have covers : ledger.covers (surroundings.clock (ticks + 3)) = true := by
    have begun := steady tick (ticks + 3) (by omega)
    have noEnd : ledger.closesAt = none := Option.isNone_iff_eq_none.mp stage.tallies.isOpen
    exact Ledger.covers_iff.mpr ⟨Nat.le_trans opens begun, by simp [noEnd]⟩
  obtain ⟨after, issued', ticks', id, created, movements, goes, moves, stage'⟩ :=
    exists_moved stage covers _
  refine ⟨after, issued', ticks', ?_, stage'.complete moves⟩
  rw [seed_eq]
  exact prepares.bind fun _ => enrols.bind fun _ => goes.bind fun _ => goes_reportBalances _

private theorem stops_seed (unfit : ¬ Accepts settings.refs) :
    (seed surroundings settings).Stops ⟨.empty, 0, 0, .empty⟩ (·.transactions = []) := by
  rw [seed_eq]
  by_cases creatable : settings.refs.Creatable
  · obtain ⟨tables, issued, ticks, prepares, prepared⟩ := exists_prepared creatable surroundings
    have taken : ∃ customer ∈ customers, tables.account? customer.reference ≠ none := by
      by_contra free
      refine unfit ⟨creatable, fun reference isSystem customer member same => free ?_⟩
      exact ⟨customer, member, (prepared.taken_iff member).mpr ⟨reference, isSystem, same⟩⟩
    exact prepares.bind_stops fun _ => (stops_enrol_all prepared.unposted prepared.occupied
      (fun customer member => (customers_named customer member).2) taken ticks).bind _
  · rw [prepare, bind_assoc]
    exact (stops_perform (Bank.refuses_ensureSystemAccounts creatable 0 0) rfl).bind _

/-- Seeding is complete if the references allow for it, and otherwise it posts nothing. -/
theorem run_complete_iff (surroundings : Surroundings) (settings : Settings)
    (steady : ∀ i j, i ≤ j → surroundings.clock i ≤ surroundings.clock j)
    (distinct : surroundings.Distinct 7) :
    ((run surroundings settings.ledger).1 = .ok () ↔ Accepts settings.ledger.refs) ∧
      ((run surroundings settings.ledger).1 = .ok () →
        Complete (run surroundings settings.ledger).2.world.store.tables) ∧
      ((run surroundings settings.ledger).1 ≠ .ok () →
        (run surroundings settings.ledger).2.world.store.tables.transactions = []) := by
  have stands : Point.At ⟨.empty, 0, 0, .empty⟩ [] World.empty .empty := .start .empty
  by_cases accepts : Accepts settings.ledger.refs
  · obtain ⟨tables, issued, ticks, goes, complete⟩ := exists_completed accepts steady distinct
    obtain ⟨_, state, ran, stands'⟩ := goes ⟨.empty, []⟩ stands
    have tables_eq : state.world.store.tables = tables := stands'.tables
    have isRun : run surroundings settings.ledger = (.ok (), state) := ran
    simp [isRun, accepts, tables_eq, complete]
  · obtain ⟨e, state, ran, none⟩ := stops_seed accepts ⟨.empty, []⟩ stands
    have isRun : run surroundings settings.ledger = (.error e, state) := ran
    simp [isRun, accepts, none]

/-- The reference of the premiums is that of the pool without its blanks: one account is both. -/
theorem run_complete_shared :
    let settings : Settings :=
      { Settings.standard with ledger := ⟨⟨" bank", " pool ", "pool"⟩, true⟩ }
    Accepts settings.ledger.refs ∧ (run .counting settings.ledger).1 = .ok () ∧
      Complete (run .counting settings.ledger).2.world.store.tables := by
  intro settings
  have accepts : Accepts settings.ledger.refs := by
    refine ⟨⟨?_, ?_, ?_, ?_, ?_, ?_⟩, ?_⟩ <;> decide
  obtain ⟨succeeds, complete, -⟩ := run_complete_iff .counting settings
    (fun _ _ _ => Nat.le_refl _) (Surroundings.counting_distinct (by decide))
  have ran := succeeds.mpr accepts
  exact ⟨accepts, ran, complete ran⟩

end DoubleEntry.Seeding
