import DoubleEntry.Book.Ledger
import DoubleEntry.Chart.Account

/-!
# Reservations

A reservation holds an amount of a payer.  Charges use it up; once all of it is
charged it is settled, and a release gives back what is left.  Settled and
released are final.
-/

namespace DoubleEntry

inductive ReservationStatus where
  | held
  | settled
  | released
  deriving DecidableEq, Repr

instance : Coded ReservationStatus where
  subject := .reservationStatus
  values := [.held, .settled, .released]
  code
    | .held => "H"
    | .settled => "S"
    | .released => "R"
  name
    | .held => "HELD"
    | .settled => "SETTLED"
    | .released => "RELEASED"

structure Reservation where
  id : ReservationId
  businessReference : String
  accountId : AccountId
  accountReference : String
  held : Money
  charged : Money
  status : ReservationStatus
  createdAt : Instant
  version : Version
  deriving DecidableEq, Repr

namespace Reservation

def create (id : ReservationId) (createdAt : Instant) (businessReference : String)
    (payer : Account) (amount : Money) : Except LedgerError Reservation :=
  let businessReference := Text.trim businessReference
  if businessReference.isEmpty then .error .blankReference
  else if !amount.isPositive then .error (.nonPositiveAmount amount)
  else .ok {
    id
    businessReference
    accountId := payer.id
    accountReference := payer.reference
    held := amount
    charged := .zero
    status := .held
    createdAt
    version := 0 }

attribute [irreducible] create

/-- What can still be charged; nothing if the difference has no representation. -/
def remaining (reservation : Reservation) : Money :=
  match reservation.status with
  | .held => (reservation.held.sub reservation.charged).toOption.getD .zero
  | .settled | .released => .zero

def charge (reservation : Reservation) (amount : Money) : Except LedgerError Reservation := do
  if !amount.isPositive then
    throw (.nonPositiveAmount amount)
  if reservation.remaining < amount then
    throw (.invalidCharge reservation.businessReference amount reservation.remaining)
  let charged ← Overflow.lift (reservation.charged.add amount)
  let status := if charged = reservation.held then .settled else reservation.status
  return { reservation with charged, status }

def release (reservation : Reservation) : Money × Reservation :=
  let status := match reservation.status with
    | .held => .released
    | final => final
  (reservation.remaining, { reservation with status })

def committed (reservation : Reservation) : Reservation :=
  { reservation with version := reservation.version + 1 }

end Reservation

end DoubleEntry
