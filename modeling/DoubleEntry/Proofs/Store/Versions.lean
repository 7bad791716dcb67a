import DoubleEntry.Proofs.Program.Moves

/-!
# Records with versions

Ledgers, balances and reservations carry versions.  A commit that is accepted finds
every staged record at the version it was read with (`Acceptable.fits`), and what it
leaves in a slot is the staged record, committed, or what was there before
(`publish_at?`).
-/

namespace DoubleEntry

inductive Slot where
  | ledger (id : LedgerId)
  | balance (key : BalanceKey)
  | reservation (businessReference : String)
  deriving DecidableEq, Repr

inductive Versioned where
  | ledger (ledger : Ledger)
  | balance (balance : Balance)
  | reservation (reservation : Reservation)
  deriving DecidableEq, Repr

namespace Versioned

def version : Versioned → Version
  | .ledger record => record.version
  | .balance record => record.version
  | .reservation record => record.version

def committed : Versioned → Versioned
  | .ledger record => .ledger record.committed
  | .balance record => .balance record.committed
  | .reservation record => .reservation record.committed

theorem committed_version (record : Versioned) :
    record.committed.version = record.version + 1 := by
  cases record <;> rfl

end Versioned

theorem Version.toNat_succ {version : Version} (bounded : version.toNat + 1 < UInt64.size) :
    (version + 1).toNat = version.toNat + 1 := by
  rw [UInt64.toNat_add]
  exact Nat.mod_eq_of_lt bounded

def Tables.at? (tables : Tables) : Slot → Option Versioned
  | .ledger id => (tables.ledgers.get? id).map .ledger
  | .balance key => (tables.balances.get? key).map .balance
  | .reservation businessReference =>
    (tables.reservations.get? businessReference).map .reservation

def Request.staged? : Request → Option Versioned
  | saveLedger ledger => some (.ledger ledger)
  | saveBalance balance => some (.balance balance)
  | saveReservation reservation => some (.reservation reservation)
  | _ => none

namespace Table

variable {κ ν : Type} [DecidableEq κ]

theorem KeyedBy.get?_foldl_insert {name : ν → κ} {sources table : Table κ ν}
    (keyed : sources.KeyedBy name) (record : ν → ν) (key : κ) :
    (sources.values.foldl (fun t value => t.insert (name value) (record value)) table).get? key =
      ((sources.get? key).map record).or (table.get? key) := by
  cases found : sources.get? key with
  | none =>
      apply Table.get?_foldl_insert
      rintro value member rfl
      rw [keyed.get?_name member] at found
      cases found
  | some value =>
      obtain ⟨member, rfl⟩ := keyed.get?_eq_some_iff.mp found
      obtain ⟨before, after, values⟩ := List.append_of_mem member
      have nodup := keyed.names_nodup
      rw [values, List.map_append, List.map_cons, List.nodup_append, List.nodup_cons] at nodup
      have last : ∀ later ∈ after, name later ≠ name value := fun later among same =>
        nodup.2.1.1 (same ▸ List.mem_map_of_mem among)
      rw [values, List.foldl_append, List.foldl_cons, Table.get?_foldl_insert name record last,
        get?_insert_self]
      rfl

end Table

namespace UnitOfWork

def staged? (work : UnitOfWork) : Slot → Option Versioned
  | .ledger id => (work.ledgers.get? id).map .ledger
  | .balance key => (work.balances.get? key).map .balance
  | .reservation businessReference => (work.reservations.get? businessReference).map .reservation

structure Named (work : UnitOfWork) : Prop where
  ledgers : work.ledgers.KeyedBy Ledger.id
  balances : work.balances.KeyedBy Balance.key
  reservations : work.reservations.KeyedBy Reservation.businessReference

theorem named_empty : empty.Named := ⟨Table.keyedBy_empty _, Table.keyedBy_empty _,
  Table.keyedBy_empty _⟩

@[simp] theorem staged?_empty (slot : Slot) : empty.staged? slot = none := by
  cases slot <;> rfl

private theorem staged?_track (work : UnitOfWork) (found : Option Ledger) (slot : Slot) :
    (work.track found).staged? slot = work.staged? slot := by
  cases found <;> cases slot <;> rfl

private theorem Named.track {work : UnitOfWork} (named : work.Named) (found : Option Ledger) :
    (work.track found).Named := by
  cases found <;> exact ⟨named.ledgers, named.balances, named.reservations⟩

variable {work : UnitOfWork} {tables : Tables} {slot : Slot} {record : Versioned}

theorem Acceptable.fits (acceptable : work.Acceptable tables) (named : work.Named)
    (staged : work.staged? slot = some record) :
    Fits ((tables.at? slot).map Versioned.version) record.version := by
  cases slot with
  | ledger id =>
      obtain ⟨ledger, found, rfl⟩ := Option.map_eq_some_iff.mp staged
      obtain ⟨member, rfl⟩ := named.ledgers.get?_eq_some_iff.mp found
      have fits := acceptable.ledgers_fit ledger member
      rw [Tables.at?, Option.map_map]
      exact fits
  | balance key =>
      obtain ⟨balance, found, rfl⟩ := Option.map_eq_some_iff.mp staged
      obtain ⟨member, rfl⟩ := named.balances.get?_eq_some_iff.mp found
      have fits := acceptable.balances_fit balance member
      rw [Tables.at?, Option.map_map]
      exact fits
  | reservation businessReference =>
      obtain ⟨reservation, found, rfl⟩ := Option.map_eq_some_iff.mp staged
      obtain ⟨member, rfl⟩ := named.reservations.get?_eq_some_iff.mp found
      have fits := (acceptable.reservations_fit reservation member).2
      rw [Tables.at?, Option.map_map]
      exact fits

theorem publish_at? (named : work.Named) (tables : Tables) (slot : Slot) :
    (work.publish tables).at? slot =
      ((work.staged? slot).map Versioned.committed).or (tables.at? slot) := by
  cases slot with
  | ledger id =>
      rw [Tables.at?, publish, named.ledgers.get?_foldl_insert Ledger.committed, Option.map_or]
      simp only [Option.map_map, Tables.at?, staged?]
      rfl
  | balance key =>
      rw [Tables.at?, publish, named.balances.get?_foldl_insert Balance.committed, Option.map_or]
      simp only [Option.map_map, Tables.at?, staged?]
      rfl
  | reservation businessReference =>
      rw [Tables.at?, publish, named.reservations.get?_foldl_insert Reservation.committed,
        Option.map_or]
      simp only [Option.map_map, Tables.at?, staged?]
      rfl

end UnitOfWork

/-! ## What a request stages -/

namespace Request

variable {surroundings : Surroundings} {q : Request} {world : World} {work : UnitOfWork}

private theorem perform_named (named : work.Named) :
    (q.perform surroundings world work).2.2.Named := by
  cases q with
  | openWork => exact UnitOfWork.named_empty
  | commit =>
      simp only [perform, performCommit_work]
      exact UnitOfWork.named_empty
  | acquire account =>
      obtain ⟨guards, same⟩ := performAcquire_work world work account
      simp only [perform, same]
      exact ⟨named.ledgers, named.balances, named.reservations⟩
  | ledgerAt time => exact named.track _
  | openLedger => exact named.track _
  | previousLedger ledger => exact named.track _
  | saveLedger ledger => exact ⟨named.ledgers.insert ledger, named.balances, named.reservations⟩
  | saveBalance balance => exact ⟨named.ledgers, named.balances.insert balance, named.reservations⟩
  | saveReservation reservation =>
      exact ⟨named.ledgers, named.balances, named.reservations.insert reservation⟩
  | _ => exact ⟨named.ledgers, named.balances, named.reservations⟩

theorem perform_staged? {slot : Slot} {staged : Versioned}
    (found : (q.perform surroundings world work).2.2.staged? slot = some staged) :
    work.staged? slot = some staged ∨ q.staged? = some staged := by
  cases q with
  | openWork => simp [perform] at found
  | commit => simp [perform, performCommit_work] at found
  | acquire account =>
      obtain ⟨guards, same⟩ := performAcquire_work world work account
      simp only [perform, same] at found
      exact .inl (by cases slot <;> exact found)
  | ledgerAt time => exact .inl (by rwa [perform, tracked, UnitOfWork.staged?_track] at found)
  | openLedger => exact .inl (by rwa [perform, tracked, UnitOfWork.staged?_track] at found)
  | previousLedger ledger =>
      exact .inl (by rwa [perform, tracked, UnitOfWork.staged?_track] at found)
  | saveLedger ledger =>
      cases slot with
      | ledger id =>
          simp only [perform, UnitOfWork.staged?, UnitOfWork.saveLedger, Table.get?_insert] at found
          split at found
          · exact .inr found
          · exact .inl found
      | _ => exact .inl found
  | saveBalance balance =>
      cases slot with
      | balance key =>
          simp only [perform, UnitOfWork.staged?, UnitOfWork.saveBalance, Table.get?_insert]
            at found
          split at found
          · exact .inr found
          · exact .inl found
      | _ => exact .inl found
  | saveReservation reservation =>
      cases slot with
      | reservation businessReference =>
          simp only [perform, UnitOfWork.staged?, UnitOfWork.saveReservation, Table.get?_insert]
            at found
          split at found
          · exact .inr found
          · exact .inl found
      | _ => exact .inl found
  | _ => exact .inl (by cases slot <;> exact found)

end Request

theorem System.named_run (surroundings : Surroundings) (moves : List Move) :
    (∀ call ∈ empty.calls surroundings moves, call.work.Named) ∧
      ∀ position call, (empty.run surroundings moves).next? position = some call →
        call.work.Named := by
  refine works_run (fun _ work => work.Named) ?_ ?_ ?_
  · intro position call next
    simp [next?, empty] at next
  · exact fun _ _ => UnitOfWork.named_empty
  · exact fun call _ named => Request.perform_named named

end DoubleEntry
