import DoubleEntry.Proofs.Service.Vouchers
import DoubleEntry.Proofs.Store.Commit

/-!
# What a commit does to the tables

A vouched commit leaves the tables sound, and for everybody who holds other locks
they change in the ways of `Tables.Leads` only.
-/

namespace DoubleEntry

/-! ## Ledgers -/

theorem Ledger.close_eq_ok_iff {ledger closed : Ledger} {closesAt : Instant} :
    ledger.close closesAt = .ok closed ↔ ledger.closesAt = none ∧ ledger.opensAt < closesAt ∧
      closed = { ledger with closesAt := some closesAt } := by
  rw [close]
  split
  next existing isClosed => simp [isClosed]
  next isOpen =>
    split
    next early =>
      have late : ¬ ledger.opensAt < closesAt := Nat.not_lt.mpr early
      simp [late]
    next late =>
      have forward : ledger.opensAt < closesAt := Nat.not_le.mp late
      simp [isOpen, forward, eq_comm]

namespace Bank

open DoubleEntry.Action

def rollOver (current : Ledger) (newStart : Instant) : Action Ledger := do
  let closed ← current.close newStart
  let next := Ledger.ofYear (← freshId) newStart
  saveLedger closed
  saveLedger next
  commit
  record (.periodRolledOver closed.name next.name newStart)
  return next.committed

end Bank

namespace Tables

variable {refs : SystemRefs} {tables after : Tables}

theorem Sound.ledger_missing (sound : tables.Sound refs) {id : LedgerId}
    (fits : UnitOfWork.Fits ((tables.ledgers.get? id).map Ledger.version) 0) :
    tables.ledgers.get? id = none := by
  cases found : tables.ledgers.get? id with
  | none => rfl
  | some stored =>
      have version := sound.tiles.version_eq (sound.ledgers.mem_of_get? found)
      rw [found] at fits
      have zero : stored.version = 0 := fits
      rw [zero] at version
      split at version <;> exact absurd version (by decide)

theorem Sound.rollover_values (sound : tables.Sound refs) {current : Ledger}
    (closed next : Ledger) (stored : current ∈ tables.ledgers.values)
    (isOpen : current.isOpen = true) (sameId : closed.id = current.id) (apart : closed.id ≠ next.id)
    (missing : tables.ledgers.get? next.id = none) :
    ∃ earlier, tables.ledgers.values = earlier ++ [current] ∧
      ((tables.ledgers.insert closed.id closed).insert next.id next).values =
        earlier ++ [closed, next] := by
  have found := sound.ledgers.get?_name stored
  rw [← sameId] at found
  obtain ⟨earlier, later, values, replaced⟩ := Table.values_insert_of_present closed found
  have last : later = [] := by
    have tiles := sound.tiles
    rw [values] at tiles
    exact tiles.eq_nil_of_open isOpen
  subst last
  refine ⟨earlier, values, ?_⟩
  have absent : (tables.ledgers.insert closed.id closed).get? next.id = none := by
    rw [Table.get?_insert, if_neg apart, missing]
  rw [Table.values_insert_of_absent next absent, replaced]
  simp

theorem Sound.rollover_published (sound : tables.Sound refs) {id : LedgerId} {newStart : Instant}
    {current closed : Ledger} (stored : current ∈ tables.ledgers.values)
    (isOpen : current.isOpen = true) (closes : current.close newStart = .ok closed)
    (fresh : closed.id ≠ id)
    (fit : ∀ ledger ∈ (((∅ : Table LedgerId Ledger).insert closed.id closed).insert id
        (.ofYear id newStart)).values,
      UnitOfWork.Fits ((tables.ledgers.get? ledger.id).map Ledger.version) ledger.version)
    (published : after.ledgers = (((∅ : Table LedgerId Ledger).insert closed.id closed).insert id
        (.ofYear id newStart)).values.foldl (fun t ledger => t.insert ledger.id ledger.committed)
          tables.ledgers) :
    tables.ledgers.get? id = none ∧ ∃ earlier, tables.ledgers.values = earlier ++ [current] ∧
      after.ledgers.values =
        earlier ++ [closed.committed, (Ledger.ofYear id newStart).committed] := by
  obtain ⟨_, _, rfl⟩ := Ledger.close_eq_ok_iff.mp closes
  rw [Table.values_insert_of_absent, Table.values_insert_empty] at published fit
  · have missing : tables.ledgers.get? id = none :=
      sound.ledger_missing (fit (.ofYear id newStart) (by simp))
    obtain ⟨earlier, values, rolled⟩ :=
      sound.rollover_values (Ledger.committed { current with closesAt := some newStart })
        (Ledger.ofYear id newStart).committed stored isOpen rfl fresh missing
    refine ⟨missing, earlier, values, ?_⟩
    rw [published]
    exact rolled
  · rw [Table.get?_insert, if_neg fresh]
    rfl
  · rw [Table.get?_insert, if_neg fresh]
    rfl

private theorem continues_of_rollover {earlier : List Ledger} {current closed next : Ledger}
    (tiles : Tiles (earlier ++ [current])) (values : tables.ledgers.values = earlier ++ [current])
    (rolled : after.ledgers.values = earlier ++ [closed, next])
    (forward : current.opensAt < next.opensAt) (isOpen : current.isOpen = true)
    (same : closed.id = current.id ∧ closed.opensAt = current.opensAt)
    (isClosed : closed.isOpen = false) : tables.Continues after := by
  have last : ∀ ledger ∈ tables.ledgers.values, ledger.opensAt.rank ≤ current.opensAt.rank := by
    rw [values]
    exact tiles.opensAt_le_last
  constructor
  · intro ledger member
    rw [values] at member
    rcases List.mem_append.mp member with member | member
    · exact remembers_of_mem (by rw [rolled]; exact List.mem_append_left _ member)
    · rw [List.mem_singleton.mp member]
      exact ⟨closed, by simp [rolled], same.1, same.2, .inr ⟨isOpen, isClosed⟩⟩
  · intro ledger member
    have closedLate : ¬ closed.opensAt < ledger.opensAt := by
      rw [same.2]
      exact Nat.not_lt.mpr (last ledger member)
    have currentLate : ¬ current.opensAt < ledger.opensAt := Nat.not_lt.mpr (last ledger member)
    have nextLate : ¬ next.opensAt < ledger.opensAt :=
      Nat.not_lt.mpr (Nat.le_trans (last ledger member) (Nat.le_of_lt forward))
    simp [Tables.earlier, rolled, values, closedLate, currentLate, nextLate]

theorem Turns.tiles_continues {staged : Table LedgerId Ledger} (sound : tables.Sound refs)
    (turns : tables.Turns staged)
    (fit : ∀ ledger ∈ staged.values,
      UnitOfWork.Fits ((tables.ledgers.get? ledger.id).map Ledger.version) ledger.version)
    (published : after.ledgers = staged.values.foldl (fun t ledger =>
      t.insert ledger.id ledger.committed) tables.ledgers) :
    Tiles after.ledgers.values ∧ tables.Continues after := by
  cases turns with
  | stays =>
      rw [Table.values_empty, List.foldl_nil] at published
      rw [published]
      exact ⟨sound.tiles, .of_ledgers_eq published⟩
  | @opens id start none =>
      have missing : tables.ledgers.get? id = Option.none :=
        sound.ledger_missing (fit (.ofYear id start) (by simp))
      rw [Table.values_insert_empty, List.foldl_cons, List.foldl_nil] at published
      constructor
      · let first := (Ledger.ofYear id start).committed
        have added : after.ledgers.values = tables.ledgers.values ++ [first] := by
          rw [published]
          exact Table.values_insert_of_absent first missing
        rw [added, none]
        exact .last rfl rfl
      · constructor <;> simp [none]
  | @rollsOver id newStart current closed stored isOpen closes fresh =>
      obtain ⟨-, earlier, values, rolled⟩ :=
        sound.rollover_published stored isOpen closes fresh fit published
      obtain ⟨_, forward, rfl⟩ := Ledger.close_eq_ok_iff.mp closes
      have version : current.version = 1 := by
        rw [sound.tiles.version_eq stored, if_pos isOpen]
      let closed := Ledger.committed { current with closesAt := some newStart }
      have tiles := sound.tiles
      rw [values] at tiles
      have closedVersion : closed.version = 2 := by
        show current.version + 1 = 2
        rw [version]
        rfl
      constructor
      · rw [rolled]
        exact tiles.rollover rfl rfl forward closedVersion rfl rfl
      · exact continues_of_rollover tiles values rolled forward isOpen ⟨rfl, rfl⟩ rfl

private theorem Holds.payers {staged : Table String Reservation} (holds : tables.Holds refs staged)
    {businessReference : String} {reservation : Reservation}
    (found : tables.reservations.get? businessReference = some reservation) :
    ∃ later, (staged.values.foldl (fun t reservation =>
        t.insert reservation.businessReference reservation.committed) tables.reservations).get?
        businessReference = some later ∧
      later.accountReference = reservation.accountReference := by
  cases holds with
  | nothing => exact ⟨reservation, found, rfl⟩
  | @one changed _ kept =>
      simp only [Table.values_insert_empty, List.foldl_cons, List.foldl_nil, Table.get?_insert]
      split
      next same =>
        subst same
        exact ⟨changed.committed, rfl, (kept reservation found).symm⟩
      next => exact ⟨reservation, found, rfl⟩

end Tables

/-! ## All tables -/

namespace UnitOfWork

structure Guarded (refs : SystemRefs) (tables : Tables) (work : UnitOfWork) : Prop where
  balances : ∀ balance ∈ work.balances.values, balance.key.accountId ∈ work.guards
  reservations : ∀ reservation ∈ work.reservations.values, ∀ pool,
    tables.account? refs.reservations = some pool → pool.id ∈ work.guards

variable {settings : LedgerSettings} {tables : Tables} {work : UnitOfWork} {operation : Operation}
  {outcome : Outcome} {ids : List Uuid} {times : List Instant}

theorem publish_accounts_get? (acceptable : work.Acceptable tables) {reference : String}
    {account : Account} (found : tables.accounts.get? reference = some account) :
    (work.publish tables).accounts.get? reference = some account := by
  rw [← found]
  apply Table.get?_foldl_insert
  rintro staged member rfl
  rw [acceptable.accounts_new staged member] at found
  cases found

theorem publish_accounts_values (acceptable : work.Acceptable tables) :
    (work.publish tables).accounts.values = tables.accounts.values ++ work.accounts := by
  have added := Table.values_foldl_insert_of_absent Account.reference id acceptable.accounts_new
    acceptable.references_nodup
  rw [List.map_id] at added
  exact added

theorem publish_sound (sound : tables.Sound settings.refs)
    (voucher : Voucher settings tables operation work outcome ids times)
    (acceptable : work.Acceptable tables) : (work.publish tables).Sound settings.refs where
  accounts := sound.accounts.foldl_insert Account.reference id (fun _ => rfl) work.accounts
  trimmed account member := by
    rcases Table.mem_of_mem_foldl_insert Account.reference id member with member | ⟨_, among, rfl⟩
    · exact sound.trimmed account member
    · exact voucher.accounts_trimmed account among
  ledgers :=
    sound.ledgers.foldl_insert Ledger.id Ledger.committed (fun _ => rfl) work.ledgers.values
  tiles := (voucher.turns.tiles_continues sound acceptable.ledgers_fit rfl).1
  balances :=
    sound.balances.foldl_insert Balance.key Balance.committed (fun _ => rfl) work.balances.values
  reservations :=
    sound.reservations.foldl_insert Reservation.businessReference Reservation.committed
      (fun _ => rfl) work.reservations.values
  payers_apart reservation member := by
    have stays {reference : String} {account : Account}
        (found : tables.account? reference = some account) :
        (work.publish tables).account? reference = some account :=
      publish_accounts_get? acceptable found
    have apart : tables.Apart reservation.accountReference settings.refs.reservations := by
      rcases Table.mem_of_mem_foldl_insert Reservation.businessReference Reservation.committed
        member with member | ⟨staged, among, rfl⟩
      · exact sound.payers_apart reservation member
      · exact ((voucher.holds sound).of_mem among).1
    obtain ⟨payer, pool, isPayer, isPool, apart⟩ := apart
    exact ⟨payer, pool, stays isPayer, stays isPool, apart⟩

theorem mem_publish_accounts (sound : tables.Sound settings.refs)
    (voucher : Voucher settings tables operation work outcome ids times)
    (acceptable : work.Acceptable tables) {account : Account}
    (known : account ∈ tables.accounts.values) :
    account ∈ (work.publish tables).accounts.values := by
  have found := publish_accounts_get? acceptable (sound.accounts.get?_name known)
  exact (publish_sound sound voucher acceptable).accounts.mem_of_get? found

theorem publish_continues (sound : tables.Sound settings.refs)
    (voucher : Voucher settings tables operation work outcome ids times)
    (acceptable : work.Acceptable tables) : tables.Continues (work.publish tables) :=
  (voucher.turns.tiles_continues sound acceptable.ledgers_fit rfl).2

theorem publish_leads {others : List AccountId} (sound : tables.Sound settings.refs)
    (voucher : Voucher settings tables operation work.bare outcome ids times)
    (acceptable : work.Acceptable tables) (guarded : work.Guarded settings.refs tables)
    (disjoint : ∀ account ∈ others, account ∉ work.guards) :
    tables.Leads settings.refs others (work.publish tables) where
  sound := by
    rw [← publish_bare]
    exact publish_sound sound voucher acceptable.bare
  accounts _ _ found := publish_accounts_get? acceptable found
  continues := (voucher.turns.tiles_continues sound acceptable.ledgers_fit rfl).2
  balances account among ledger := by
    apply Table.get?_foldl_insert
    rintro balance member same
    have held := guarded.balances balance member
    rw [same] at held
    exact disjoint account among held
  payers _ _ found := (voucher.holds sound).payers found
  reservations pool isPool among businessReference := by
    apply Table.get?_foldl_insert
    intro reservation member _
    exact disjoint pool.id among (guarded.reservations reservation member pool isPool)

end UnitOfWork

end DoubleEntry
