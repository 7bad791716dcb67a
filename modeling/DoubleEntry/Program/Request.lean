import DoubleEntry.Log.Event
import DoubleEntry.Store.Commit

/-!
# Requests

A service operation acts on the world only through requests: the calls on its
unit of work, the events that it logs, the fresh identifiers and the clock.  Each
request is one indivisible step, and `Request.perform` says what it does.
-/

namespace DoubleEntry

inductive Request where
  | openWork
  | acquire (account : AccountId)
  | findAccount (reference : String)
  | saveAccount (account : Account)
  | ledgerAt (time : Instant)
  | openLedger
  | previousLedger (ledger : Ledger)
  | ledgers
  | saveLedger (ledger : Ledger)
  | findBalance (key : BalanceKey)
  | saveBalance (balance : Balance)
  | saveTransaction (transaction : Transaction)
  | latestPosting (ledgerId : LedgerId)
  | findReservation (businessReference : String)
  | saveReservation (reservation : Reservation)
  | commit
  | record (event : Event)
  | freshId
  | now
  deriving DecidableEq, Repr

abbrev Request.Reply : Request → Type
  | openWork | saveAccount _ | saveLedger _ | saveBalance _ | saveTransaction _
  | saveReservation _ | record _ => Unit
  | acquire _ | commit => Except LedgerError Unit
  | findAccount _ => Option Account
  | ledgerAt _ | openLedger | previousLedger _ => Option Ledger
  | ledgers => List Ledger
  | findBalance _ => Option Balance
  | latestPosting _ => Option Instant
  | findReservation _ => Option Reservation
  | freshId => Uuid
  | now => Instant

/-- What the surroundings supply: the identifier and the instant at each count. -/
structure Surroundings where
  uuid : Nat → Uuid
  clock : Nat → Instant

/-- What all units of work share.  The counts say how much of the surroundings is used up. -/
structure World where
  store : Store
  log : List Event
  issued : Nat
  ticks : Nat
  deriving DecidableEq, Repr

namespace World

def empty : World := ⟨.empty, [], 0, 0⟩

instance : Inhabited World := ⟨empty⟩

def record (world : World) (event : Event) : World := { world with log := world.log ++ [event] }

def drop (world : World) (work : UnitOfWork) : World :=
  { world with store := world.store.abandon work }

end World

namespace Request

def tracked (world : World) (work : UnitOfWork) (found : Option Ledger) :
    Option Ledger × World × UnitOfWork :=
  (found, world, work.track found)

def performAcquire (world : World) (work : UnitOfWork) (account : AccountId) :
    Except LedgerError Unit × World × UnitOfWork :=
  match world.store.acquire work account with
  | .ok (store, work) => (.ok (), { world with store }, work)
  | .error e => (.error e, world, work)

/-- A commit ends the unit of work, whether it succeeds or not. -/
def performCommit (world : World) (work : UnitOfWork) :
    Except LedgerError Unit × World × UnitOfWork :=
  match world.store.commit work with
  | (.ok (), store) =>
    let event := Event.workCommitted work.transactions.length work.guards.length
    (.ok (), { world with store }.record event, .empty)
  | (.error e, store) => (.error e, { world with store }, .empty)

def perform (surroundings : Surroundings) (world : World) (work : UnitOfWork) :
    (request : Request) → request.Reply × World × UnitOfWork
  | openWork => ((), world.drop work, .empty)
  | acquire account => performAcquire world work account
  | findAccount reference => (work.findAccount world.store.tables reference, world, work)
  | saveAccount account => ((), world, work.saveAccount account)
  | ledgerAt time => tracked world work (work.ledgerAt world.store.tables time)
  | openLedger => tracked world work (work.openLedger world.store.tables)
  | previousLedger ledger => tracked world work (work.previousLedger world.store.tables ledger)
  | ledgers => (work.ledgerView world.store.tables, world, work)
  | saveLedger ledger => ((), world, work.saveLedger ledger)
  | findBalance key => (work.findBalance world.store.tables key, world, work)
  | saveBalance balance => ((), world, work.saveBalance balance)
  | saveTransaction transaction => ((), world, work.saveTransaction transaction)
  | latestPosting ledgerId => (work.latestPosting world.store.tables ledgerId, world, work)
  | findReservation businessReference =>
    (work.findReservation world.store.tables businessReference, world, work)
  | saveReservation reservation => ((), world, work.saveReservation reservation)
  | commit => performCommit world work
  | record event => ((), world.record event, work)
  | freshId => (surroundings.uuid world.issued, { world with issued := world.issued + 1 }, work)
  | now => (surroundings.clock world.ticks, { world with ticks := world.ticks + 1 }, work)

end Request

end DoubleEntry
