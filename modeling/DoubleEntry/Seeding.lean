import DoubleEntry.Log.Filter
import DoubleEntry.Service.Operation
import DoubleEntry.Settings.Layers

/-!
# Seeding

Seeding fills an empty store with the system accounts, a ledger for the current
year, three customers and a few movements among them, one of each kind.  The
report of a run says how it ended and what it logged.
-/

namespace DoubleEntry.Seeding

structure Customer where
  reference : String
  name : String
  purpose : Purpose
  deriving DecidableEq, Repr

def customers : List Customer :=
  [⟨"user1", "Test User One", .current⟩, ⟨"user1P", "Test User One Premium", .premium⟩,
    ⟨"user2", "Test User Two", .current⟩]

def amount (units : Nat) (h : units < 0x8000000000000000 := by decide) : Money :=
  ⟨units, by omega, by omega⟩

variable (surroundings : Surroundings) (settings : LedgerSettings)

def perform (operation : Operation) : Session operation.Result :=
  Session.during surroundings (operation.span settings) (operation.perform settings)

def moveMoney : Session Unit := do
  let time ← Session.now surroundings
  let perform := perform surroundings settings
  let _ ← perform (.deposit "user1" ⟨amount 10000, "Initial deposit", time⟩)
  let _ ← perform (.deposit "user2" ⟨amount 5000, "Initial deposit", time⟩)
  let _ ← perform (.transfer "user1" "user2" ⟨amount 1250, "Shared dinner", time⟩)
  let _ ← perform (.transfer settings.refs.premiums "user1P" ⟨amount 500, "Welcome bonus", time⟩)
  let _ ← perform (.reserve "user2" "ride-0001" ⟨amount 2000, "Ride fare hold", time⟩)
  let _ ← perform (.charge "user1" "ride-0001" ⟨amount 1500, "Ride fare", time⟩)
  let released ← perform (.release "ride-0001" "Unused fare hold" time)
  Session.record (.sampleReservationSettled released.isSome)

def reportBalances : Session Unit := do
  let tables := (← get).world.store.tables
  let balances := sortBy (fun a b => a.reference ≤ b.reference) tables.balances.values
  balances.forM fun balance =>
    Session.record (.balanceReported balance.reference balance.accountType balance.startAmount
      balance.endAmount)
  Session.record (.seedingComplete tables.transactions.length)

def seed : Session Unit := do
  let perform := perform surroundings settings
  let system ← perform .ensureSystemAccounts
  Session.record (.systemAccountsReady system.bankingReserve.reference
    system.reservations.reference system.premiums.reference)
  let time ← Session.now surroundings
  let start := (Instant.startOfYear? time.year).getD time
  let ledger ← perform (.openFirstLedger start)
  Session.record (.ledgerOpened ledger.name)
  customers.forM fun customer => do
    let _ ← perform
      (.createAccount customer.reference customer.name .liability customer.purpose)
  moveMoney surroundings settings
  reportBalances

def run : Except LedgerError Unit × SessionState :=
  (seed surroundings settings).run.run ⟨.empty, []⟩

/-! ## The report of a run -/

structure Report where
  succeeded : Bool
  events : List Event
  asJson : Bool
  complaints : List String
  deriving DecidableEq, Repr

/-- The events to show and the complaints about the filter.  A filter from the environment
comes first; it must be valid as a whole. -/
def chooseFilter (environment : Environment) (logging : LoggingSettings) : Filter × List String :=
  match (environment.valueOf? "RUST_LOG").bind Filter.ofString? with
  | some filter => (filter, [])
  | none => (Filter.ofStringLossy logging.filter, Filter.complaints logging.filter)

def failureEvent (e : LedgerError) : Event :=
  let caller := e.toCaller
  .seedingFailed e.code caller.isRetryable caller.message

def report (environment : Environment) : Report :=
  match environment.settings? with
  | none => ⟨false, [], false, ["Error: Failed to load configuration"]⟩
  | some settings =>
    let (filter, complaints) := chooseFilter environment settings.logging
    let (result, state) := run surroundings settings.ledger
    let (entries, failures) : List LogEntry × List String := match result with
      | .ok () => (state.entries, [])
      | .error e =>
        (state.entries ++ [⟨failureEvent e, none⟩], ["Error: " ++ e.toCaller.message])
    let shown := (entries.filter filter.allows).map LogEntry.event
    ⟨failures.isEmpty, shown, settings.logging.json, complaints ++ failures⟩

end DoubleEntry.Seeding
