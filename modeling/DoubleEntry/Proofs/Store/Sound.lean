import DoubleEntry.Chart.LockOrder
import DoubleEntry.Proofs.Book.CarryOver
import DoubleEntry.Proofs.Text.Trimming

/-!
# Sound tables and what others may change

`Tables.Sound` is what the committed tables always satisfy.  `Tables.Leads` is what
a unit of work may count on while others commit: accounts stay, ledgers are only
closed and added at the end, and what the locks guard does not change.  The lock of
an account guards its balances, that of the reservations account guards all
reservations.
-/

namespace DoubleEntry.Tables

/-- The account with the trimmed reference. -/
def account? (tables : Tables) (reference : String) : Option Account :=
  tables.accounts.get? (Text.trim reference)

def Apart (tables : Tables) (reference other : String) : Prop :=
  ∃ account second, tables.account? reference = some account ∧
    tables.account? other = some second ∧ account.id ≠ second.id

structure Sound (refs : SystemRefs) (tables : Tables) : Prop where
  accounts : tables.accounts.KeyedBy Account.reference
  trimmed : ∀ account ∈ tables.accounts.values, Text.trim account.reference = account.reference
  ledgers : tables.ledgers.KeyedBy Ledger.id
  tiles : Tiles tables.ledgers.values
  balances : tables.balances.KeyedBy Balance.key
  reservations : tables.reservations.KeyedBy Reservation.businessReference
  payers_apart : ∀ reservation ∈ tables.reservations.values,
    tables.Apart reservation.accountReference refs.reservations

theorem sound_empty (refs : SystemRefs) : empty.Sound refs where
  accounts := Table.keyedBy_empty _
  trimmed := by simp [empty]
  ledgers := Table.keyedBy_empty _
  tiles := .none
  balances := Table.keyedBy_empty _
  reservations := Table.keyedBy_empty _
  payers_apart := by simp [empty]

theorem Sound.balanceIn_key {refs : SystemRefs} {tables : Tables} (sound : tables.Sound refs)
    (account : Account) (ledger : Ledger) :
    (tables.balanceIn account ledger).key = ⟨ledger.id, account.id⟩ := by
  rw [balanceIn]
  split
  next balance found => exact sound.balances.name_of_get? found
  next => rfl

/-- The tables may become `after` while the locks in `guards` are held by somebody else. -/
structure Leads (refs : SystemRefs) (guards : List AccountId) (before after : Tables) : Prop where
  sound : after.Sound refs
  accounts : ∀ reference account, before.accounts.get? reference = some account →
    after.accounts.get? reference = some account
  continues : before.Continues after
  balances : ∀ account ∈ guards, ∀ ledger,
    after.balances.get? ⟨ledger, account⟩ = before.balances.get? ⟨ledger, account⟩
  payers : ∀ businessReference reservation,
    before.reservations.get? businessReference = some reservation →
      ∃ later, after.reservations.get? businessReference = some later ∧
        later.accountReference = reservation.accountReference
  reservations : ∀ pool, before.account? refs.reservations = some pool → pool.id ∈ guards →
    ∀ businessReference, after.reservations.get? businessReference =
      before.reservations.get? businessReference

namespace Leads

variable {refs : SystemRefs} {guards : List AccountId} {before middle after : Tables}

theorem refl (sound : before.Sound refs) : Leads refs guards before before where
  sound
  accounts _ _ found := found
  continues := .refl before
  balances _ _ _ := rfl
  payers _ reservation found := ⟨reservation, found, rfl⟩
  reservations _ _ _ _ := rfl

theorem account? (leads : Leads refs guards before after) {reference : String} {account : Account}
    (found : before.account? reference = some account) : after.account? reference = some account :=
  leads.accounts _ _ found

theorem trans (first : Leads refs guards before middle) (second : Leads refs guards middle after) :
    Leads refs guards before after where
  sound := second.sound
  accounts reference account found := second.accounts _ _ (first.accounts _ _ found)
  continues := first.continues.trans second.continues
  balances account guarded ledger := by
    rw [second.balances account guarded, first.balances account guarded]
  payers businessReference reservation found := by
    obtain ⟨later, found', same⟩ := first.payers _ _ found
    obtain ⟨last, found'', same'⟩ := second.payers _ _ found'
    exact ⟨last, found'', same'.trans same⟩
  reservations pool found guarded businessReference := by
    rw [second.reservations pool (first.account? found) guarded,
      first.reservations pool found guarded]

theorem mono {fewer : List AccountId} (subset : fewer ⊆ guards)
    (leads : Leads refs guards before after) : Leads refs fewer before after where
  sound := leads.sound
  accounts := leads.accounts
  continues := leads.continues
  balances account guarded := leads.balances account (subset guarded)
  payers := leads.payers
  reservations pool found guarded := leads.reservations pool found (subset guarded)

theorem balanceIn (leads : Leads refs guards before after) {account : Account} {ledger : Ledger}
    (guarded : account.id ∈ guards) (known : before.Remembers ledger) :
    after.balanceIn account ledger = before.balanceIn account ledger :=
  balanceIn_congr (known.earlier_eq leads.continues) (leads.balances account.id guarded)

end Leads

end DoubleEntry.Tables
