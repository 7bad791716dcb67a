import DoubleEntry.Service.Postings

/-!
# Reservations of the bank

Reserving moves an amount from a payer into the reservations account, where a
business reference stands for it.  A charge pays out of it to a beneficiary, a
release returns the rest to the payer.
-/

namespace DoubleEntry.Bank

open DoubleEntry.Action

def requireReservation (businessReference : String) : Action Reservation := do
  let businessReference := Text.trim businessReference
  orThrow (← findReservation businessReference) (.reservationNotFound businessReference)

def reserve (settings : LedgerSettings) (reference businessReference : String)
    (posting : Posting) : Action Reservation := do
  ensurePositive posting.amount
  openWork
  let payer ← requireAccount reference
  let reservations ← requireAccount settings.refs.reservations
  if payer.id = reservations.id then
    throw (.sameAccountTransfer payer.reference)
  let reservation ←
    Reservation.create (← freshId) (← now) businessReference payer posting.amount
  lockInOrder settings.refs [payer, reservations]
  if (← findReservation reservation.businessReference).isSome then
    throw (.duplicateReservation reservation.businessReference)
  let transaction ← post settings payer reservations posting
  saveReservation reservation
  commit
  record (.amountReserved transaction.id reservation.businessReference payer.reference
    posting.amount)
  return reservation.committed

def chargeReservation (reservation : Reservation) (amount : Money) : Action Reservation :=
  match reservation.charge amount with
  | .ok charged => return charged
  | .error e => do
    record (.chargeRejected reservation.businessReference amount reservation.remaining)
    throw e

def charge (settings : LedgerSettings) (reference businessReference : String)
    (posting : Posting) : Action Transaction := do
  ensurePositive posting.amount
  openWork
  let beneficiary ← requireAccount reference
  let reservations ← requireAccount settings.refs.reservations
  if beneficiary.id = reservations.id then
    throw (.sameAccountTransfer beneficiary.reference)
  lockInOrder settings.refs [reservations, beneficiary]
  let reservation ← requireReservation businessReference
  let charged ← chargeReservation reservation posting.amount
  let transaction ← post settings reservations beneficiary posting
  saveReservation charged
  commit
  record (.reservationCharged transaction.id charged.businessReference beneficiary.reference
    posting.amount charged.status)
  return transaction

/-- Nothing is posted if nothing is left. -/
def release (settings : LedgerSettings) (businessReference description : String)
    (time : Instant) : Action (Option Transaction) := do
  openWork
  let payerReference := (← requireReservation businessReference).accountReference
  let payer ← requireAccount payerReference
  let reservations ← requireAccount settings.refs.reservations
  lockInOrder settings.refs [reservations, payer]
  let (remaining, released) := (← requireReservation businessReference).release
  if remaining.isZero then
    record (.nothingToRelease released.businessReference)
    return none
  let transaction ← post settings reservations payer ⟨remaining, description, time⟩
  saveReservation released
  commit
  record (.reservationReleased transaction.id released.businessReference payer.reference remaining)
  return some transaction

end DoubleEntry.Bank
