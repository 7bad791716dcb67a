import DoubleEntry.Proofs.LostUpdates
import DoubleEntry.Proofs.Service.Publication

/-!
# What the tables keep whatever is staged

A unit of work may stage any records under any versions.  The checks of a commit are
enough to keep the tables in order: records stand under their own names, no stored
record has the version of a new one, at most one ledger is open
(`Tables.Represented`), no account is ever changed, and the journal only grows
(`Tables.Extends`).
-/

namespace DoubleEntry

/-! ## Tables of mapped records -/

namespace Table

variable {κ ν μ : Type}

def map (f : ν → μ) (table : Table κ ν) : Table κ μ :=
  ⟨table.entries.map fun entry => (entry.1, f entry.2)⟩

theorem values_map (f : ν → μ) (table : Table κ ν) : (table.map f).values = table.values.map f := by
  simp [map, values]

private theorem countP_values (p : ν → Bool) (table : Table κ ν) :
    table.values.countP p = (table.map p).values.countP id := by
  rw [values_map, List.countP_map]
  rfl

variable [DecidableEq κ]

private theorem map_place (f : ν → μ) (key : κ) (value : ν) (entries : List (κ × ν)) :
    (place key value entries).map (fun entry => (entry.1, f entry.2)) =
      place key (f value) (entries.map fun entry => (entry.1, f entry.2)) := by
  induction entries with
  | nil => rfl
  | cons entry entries ih =>
      obtain ⟨k, old⟩ := entry
      by_cases same : k = key
      · simp [place, same]
      · simp [place, same, ih]

private theorem map_insert (f : ν → μ) (table : Table κ ν) (key : κ) (value : ν) :
    (table.insert key value).map f = (table.map f).insert key (f value) :=
  congrArg Table.mk (map_place f key value table.entries)

theorem map_foldl_insert (f : ν → μ) (name : ν → κ) (record : ν → ν) (table : Table κ ν)
    (sources : List ν) :
    (sources.foldl (fun t value => t.insert (name value) (record value)) table).map f =
      sources.foldl (fun t value => t.insert (name value) (f (record value))) (table.map f) := by
  induction sources generalizing table with
  | nil => rfl
  | cons value rest ih => rw [List.foldl_cons, ih, map_insert, List.foldl_cons]

theorem KeyedBy.overlay_eq {name : ν → κ} {upper : Table κ ν} (keyed : upper.KeyedBy name)
    (under : Table κ ν) :
    under.overlay upper =
      upper.values.foldl (fun t value => t.insert (name value) value) under := by
  rw [overlay, values, List.foldl_map]
  refine List.foldl_ext _ _ _ fun table entry member => ?_
  rw [← keyed.named entry member]

end Table

/-! ## Commits -/

namespace Tables

structure Keyed (tables : Tables) : Prop where
  accounts : tables.accounts.KeyedBy Account.reference
  ledgers : tables.ledgers.KeyedBy Ledger.id
  balances : tables.balances.KeyedBy Balance.key
  reservations : tables.reservations.KeyedBy Reservation.businessReference

structure Represented (tables : Tables) : Prop extends Keyed tables where
  ledger_version : ∀ ledger ∈ tables.ledgers.values, 1 ≤ ledger.version
  balance_version : ∀ balance ∈ tables.balances.values, 1 ≤ balance.version
  reservation_version : ∀ reservation ∈ tables.reservations.values, 1 ≤ reservation.version
  one_open : tables.ledgers.values.countP Ledger.isOpen ≤ 1

/-- No account was changed or removed, and the journal was at most continued. -/
structure Extends (earlier later : Tables) : Prop where
  accounts : ∀ reference account, earlier.accounts.get? reference = some account →
    later.accounts.get? reference = some account
  transactions : earlier.transactions <+: later.transactions

variable {tables : Tables} {work : UnitOfWork}

theorem keyed_empty : Keyed empty := ⟨Table.keyedBy_empty _, Table.keyedBy_empty _,
  Table.keyedBy_empty _, Table.keyedBy_empty _⟩

private theorem represented_empty : Represented empty where
  toKeyed := keyed_empty
  ledger_version _ member := by cases member
  balance_version _ member := by cases member
  reservation_version _ member := by cases member
  one_open := Nat.zero_le 1

theorem Extends.refl (tables : Tables) : tables.Extends tables := ⟨fun _ _ found => found,
  List.prefix_rfl⟩

private theorem Extends.trans {first second third : Tables} (h : first.Extends second)
    (h' : second.Extends third) : first.Extends third where
  accounts reference account found :=
    h'.accounts reference account (h.accounts reference account found)
  transactions := h.transactions.trans h'.transactions

theorem Keyed.publish (keyed : tables.Keyed) (work : UnitOfWork) : (work.publish tables).Keyed where
  accounts := keyed.accounts.foldl_insert Account.reference id (fun _ => rfl) work.accounts
  ledgers :=
    keyed.ledgers.foldl_insert Ledger.id Ledger.committed (fun _ => rfl) work.ledgers.values
  balances :=
    keyed.balances.foldl_insert Balance.key Balance.committed (fun _ => rfl) work.balances.values
  reservations := keyed.reservations.foldl_insert Reservation.businessReference
    Reservation.committed (fun _ => rfl) work.reservations.values

/-- What is counted for the check are the ledgers that will be stored, but for their versions. -/
theorem countP_isOpen_publish (named : work.Named) (tables : Tables) :
    (work.publish tables).ledgers.values.countP Ledger.isOpen =
      (tables.ledgers.overlay work.ledgers).values.countP Ledger.isOpen := by
  have same : (work.publish tables).ledgers.map Ledger.isOpen =
      (tables.ledgers.overlay work.ledgers).map Ledger.isOpen := by
    rw [named.ledgers.overlay_eq]
    exact (Table.map_foldl_insert Ledger.isOpen Ledger.id Ledger.committed _ _).trans
      (Table.map_foldl_insert Ledger.isOpen Ledger.id id _ _).symm
  rw [Table.countP_values, same, ← Table.countP_values]

private theorem extends_publish (acceptable : work.Acceptable tables) :
    tables.Extends (work.publish tables) where
  accounts _ _ found := UnitOfWork.publish_accounts_get? acceptable found
  transactions := List.prefix_append _ _

private theorem one_le_of_ne_zero {version : Version} (stored : version ≠ 0) : 1 ≤ version := by
  rw [UInt64.le_iff_toNat_le]
  have positive : version.toNat ≠ 0 := fun zero => stored (UInt64.toNat_inj.mp zero)
  exact Nat.one_le_iff_ne_zero.mpr positive

private theorem Keyed.represented (keyed : tables.Keyed) (counted : tables.Counted)
    (one : tables.ledgers.values.countP Ledger.isOpen ≤ 1) : tables.Represented where
  toKeyed := keyed
  ledger_version ledger member := by
    refine one_le_of_ne_zero (counted (.ledger ledger.id) (.ledger ledger) ?_)
    rw [at?, keyed.ledgers.get?_name member]
    rfl
  balance_version balance member := by
    refine one_le_of_ne_zero (counted (.balance balance.key) (.balance balance) ?_)
    rw [at?, keyed.balances.get?_name member]
    rfl
  reservation_version reservation member := by
    refine one_le_of_ne_zero
      (counted (.reservation reservation.businessReference) (.reservation reservation) ?_)
    rw [at?, keyed.reservations.get?_name member]
    rfl
  one_open := one

end Tables

/-! ## Runs -/

namespace Call

variable {surroundings : Surroundings} {call : Call}

private theorem Regular.represented (regular : call.Regular)
    (represented : call.world.store.tables.Represented) :
    (call.after surroundings).1.store.tables.Represented := by
  refine kept_after represented fun commits => ?_
  have counted : (call.after surroundings).1.store.tables.Counted := regular.counted_after
  rw [tables_of_commits commits] at counted
  refine (represented.toKeyed.publish call.work).represented counted ?_
  rw [Tables.countP_isOpen_publish regular.named]
  exact commits.acceptable.one_open

private theorem extends_after :
    call.world.store.tables.Extends (call.after surroundings).1.store.tables :=
  kept_after (.refl _) fun commits => Tables.extends_publish commits.acceptable

end Call

namespace System

private theorem extends_run (surroundings : Surroundings) (system : System) (moves : List Move) :
    system.world.store.tables.Extends (system.run surroundings moves).world.store.tables :=
  (tables_run (fun tables => system.world.store.tables.Extends tables) (.refl _)
    fun _ _ before => before.trans Call.extends_after).2

/-- Whatever tasks stage side by side, the tables stay in order, as long as no staged version is
the greatest. -/
theorem keepsRepresentation (surroundings : Surroundings) (moves : List Move)
    (bounded : ∀ call ∈ empty.calls surroundings moves, ∀ record ∈ call.request.staged?,
      record.version.toNat + 1 < UInt64.size) :
    (empty.run surroundings moves).world.store.tables.Represented ∧
      ∀ before after, moves = before ++ after →
        (empty.run surroundings before).world.store.tables.Extends
          (empty.run surroundings moves).world.store.tables := by
  constructor
  · have regular := regular_of_bounded bounded
    exact (tables_run Tables.Represented Tables.represented_empty
      fun call member kept => (regular call member).represented kept).2
  · rintro before after rfl
    rw [run_append]
    exact extends_run surroundings _ after

end System

def Action.plant (account : Account) (ledger : Ledger) : Action Outcome := do
  openWork
  saveAccount account
  saveLedger ledger
  commit
  return .ledger ledger.committed

/-- A reference that is in use and a second open ledger are refused; closing the first ledger is
accepted. -/
theorem System.keepsRepresentation_planted : ∃ moves : List Move,
    (∀ call ∈ empty.calls .counting moves, ∀ record ∈ call.request.staged?,
      record.version.toNat + 1 < UInt64.size) ∧
    ((empty.calls .counting moves).filter fun call => call.request = .commit).map
      (fun call => (Request.performCommit call.world call.work).1.isOk) =
        [true, false, false, true] ∧
    (empty.run .counting moves).world.store.tables.Represented ∧
    ∀ before after, moves = before ++ after →
      (empty.run .counting before).world.store.tables.Extends
        (empty.run .counting moves).world.store.tables := by
  let start : Instant := ⟨100, 0, by decide, by decide, by decide⟩
  let account (id : Nat) (reference : String) : Account :=
    ⟨⟨⟨BitVec.ofNat 128 id⟩⟩, reference, "A", .liability, .current, start⟩
  let ledger (id : Nat) (closesAt : Option Instant) (version : Version) : Ledger :=
    ⟨⟨⟨BitVec.ofNat 128 id⟩⟩, "L", start, closesAt, version⟩
  let steps (position : Nat) : List Move := List.replicate 4 (.step position)
  let moves : List Move := [.start (.plant (account 1 "a") (ledger 1 none 0)),
    .start (.plant (account 2 "a") (ledger 2 (some start) 0)),
    .start (.plant (account 3 "b") (ledger 3 none 0)),
    .start (.plant (account 4 "c") (ledger 1 (some start) 1))] ++
    steps 0 ++ steps 1 ++ steps 2 ++ steps 3
  have bounded : ∀ call ∈ empty.calls .counting moves, ∀ record ∈ call.request.staged?,
      record.version.toNat + 1 < UInt64.size := by
    decide +kernel
  have kept := keepsRepresentation .counting moves bounded
  refine ⟨moves, bounded, ?_, kept⟩
  decide +kernel

end DoubleEntry
