import DoubleEntry.Proofs.Program.Settling
import DoubleEntry.Proofs.Service.Calm
import DoubleEntry.Proofs.Service.Identity
import DoubleEntry.Proofs.Service.Publication

/-!
# Operations that fail change nothing

An operation that fails leaves all tables as they were, whatever they held, and
gives back every lock that it took.  All operations are of one shape: no request
before the commit publishes anything, and after a commit that was accepted nothing
can fail any more (`Operation.settles`).
-/

namespace DoubleEntry

namespace Bank

open DoubleEntry.Action

/-! ## Parts that do not commit -/

private theorem neverCommits_openWork : openWork.NeverCommits := ⟨by simp, fun _ => trivial⟩

private theorem neverCommits_saveAccount (account : Account) : (saveAccount account).NeverCommits :=
  ⟨by simp, fun _ => trivial⟩

private theorem neverCommits_lockAccounts (accounts : List AccountId) :
    (lockAccounts accounts).NeverCommits := by
  induction accounts with
  | nil => trivial
  | cons account rest ih =>
      refine ⟨by simp, fun reply => ?_⟩
      cases reply with
      | ok => exact ih
      | error e => trivial

private theorem neverCommits_lockInOrder (refs : SystemRefs) (accounts : List Account) :
    (lockInOrder refs accounts).NeverCommits :=
  (neverCommits_lockAccounts _).bind fun _ => (calm_record _).neverCommits

private theorem neverCommits_systemAccount (reference name : String) (accountType : AccountType) :
    (systemAccount reference name accountType).NeverCommits := by
  rw [systemAccount]
  have search : (findAccount reference).Calm := calm_request trivial fun _ => trivial
  refine search.neverCommits.bind fun found => ?_
  cases found with
  | some account =>
      dsimp only
      split <;> trivial
  | none =>
      refine calm_freshId.neverCommits.bind fun id => ?_
      refine calm_now.neverCommits.bind fun createdAt => ?_
      refine (calm_lift _).neverCommits.bind fun account => ?_
      refine (neverCommits_saveAccount account).bind fun _ => ?_
      exact (calm_record _).neverCommits.bind fun _ => trivial

/-! ## Operations -/

theorem settles_loadSystemAccounts (refs : SystemRefs) : (loadSystemAccounts refs).Settles := by
  refine neverCommits_openWork.bind_settles fun _ => ?_
  refine (neverCommits_systemAccount _ _ _).bind_settles fun bankingReserve => ?_
  refine (neverCommits_systemAccount _ _ _).bind_settles fun reservations => ?_
  refine (neverCommits_systemAccount _ _ _).bind_settles fun premiums => ?_
  exact settles_commit rfl

private theorem settles_ensureSystemAccounts (refs : SystemRefs) :
    (ensureSystemAccounts refs).Settles := by
  refine (settles_loadSystemAccounts refs).handleError fun e => ?_
  split
  · exact (calm_record _).neverCommits.bind_settles fun _ => settles_loadSystemAccounts refs
  · trivial

private theorem settles_createAccount (refs : SystemRefs) (reference name : String)
    (accountType : AccountType) (purpose : Purpose) :
    (createAccount refs reference name accountType purpose).Settles := by
  refine calm_freshId.neverCommits.bind_settles fun id => ?_
  refine calm_now.neverCommits.bind_settles fun createdAt => ?_
  refine (calm_lift _).neverCommits.bind_settles fun account => ?_
  split
  · exact (calm_record _).neverCommits.bind_settles fun _ => trivial
  · refine neverCommits_openWork.bind_settles fun _ => ?_
    have search : (findAccount account.reference).Calm := calm_request trivial fun _ => trivial
    refine search.neverCommits.bind_settles fun found => ?_
    split
    · trivial
    · refine (neverCommits_saveAccount account).bind_settles fun _ => ?_
      exact settles_commit rfl

private theorem settles_openFirstLedger (start : Instant) : (openFirstLedger start).Settles := by
  refine neverCommits_openWork.bind_settles fun _ => ?_
  have search : ledgers.Calm := calm_request trivial fun _ => trivial
  refine search.neverCommits.bind_settles fun found => ?_
  split
  · trivial
  · refine calm_freshId.neverCommits.bind_settles fun id => ?_
    refine settles_request (by simp) fun _ => ?_
    exact settles_commit rfl

private theorem settles_rollOver (current : Ledger) (newStart : Instant) :
    (rollOver current newStart).Settles := by
  rw [rollOver]
  refine (calm_lift _).neverCommits.bind_settles fun closed => ?_
  refine calm_freshId.neverCommits.bind_settles fun id => ?_
  refine settles_request (by simp) fun _ => settles_request (by simp) fun _ => ?_
  exact settles_commit rfl

private theorem settles_closePeriodAndOpenNext (newStart : Instant) :
    (closePeriodAndOpenNext newStart).Settles := by
  refine neverCommits_openWork.bind_settles fun _ => ?_
  refine silent_requireOpenLedger.calm.neverCommits.bind_settles fun current => ?_
  have search : (latestPosting current.id).Calm := calm_request trivial fun _ => trivial
  refine search.neverCommits.bind_settles fun found => ?_
  cases found with
  | none => exact settles_rollOver current newStart
  | some latest =>
      by_cases early : newStart ≤ latest
      · simp only [if_pos early]
        exact (calm_record _).neverCommits.bind_settles fun _ => trivial
      · simp only [if_neg early]
        exact settles_rollOver current newStart

private theorem settles_getOrCreateBalance (account : Account) (time : Instant) :
    (getOrCreateBalance account time).Settles := by
  rw [getOrCreateBalance]
  refine neverCommits_openWork.bind_settles fun _ => ?_
  refine (neverCommits_lockAccounts _).bind_settles fun _ => ?_
  refine (silent_requireLedgerAt time).calm.neverCommits.bind_settles fun ledger => ?_
  have search : (findBalance ⟨ledger.id, account.id⟩).Calm := calm_request trivial fun _ => trivial
  refine search.neverCommits.bind_settles fun found => ?_
  split
  · trivial
  · refine (silent_newBalance account ledger).calm.neverCommits.bind_settles fun balance => ?_
    refine settles_request (by simp) fun _ => ?_
    exact settles_commit rfl

variable (settings : LedgerSettings)

private theorem settles_transfer (payer payee : String) (posting : Posting) :
    (transfer settings payer payee posting).Settles := by
  refine (silent_ensurePositive posting.amount).calm.neverCommits.bind_settles fun _ => ?_
  refine neverCommits_openWork.bind_settles fun _ => ?_
  refine (silent_requireAccount payer).calm.neverCommits.bind_settles fun payer => ?_
  refine (silent_requireAccount payee).calm.neverCommits.bind_settles fun payee => ?_
  split
  · trivial
  · refine (neverCommits_lockInOrder _ _).bind_settles fun _ => ?_
    have posts := (silent_post settings payer payee posting).calm.neverCommits
    exact posts.bind_settles fun transaction => settles_commit rfl

private theorem settles_reserve (reference businessReference : String) (posting : Posting) :
    (reserve settings reference businessReference posting).Settles := by
  refine (silent_ensurePositive posting.amount).calm.neverCommits.bind_settles fun _ => ?_
  refine neverCommits_openWork.bind_settles fun _ => ?_
  refine (silent_requireAccount reference).calm.neverCommits.bind_settles fun payer => ?_
  refine (silent_requireAccount _).calm.neverCommits.bind_settles fun reservations => ?_
  split
  · trivial
  · refine calm_freshId.neverCommits.bind_settles fun id => ?_
    refine calm_now.neverCommits.bind_settles fun createdAt => ?_
    refine (calm_lift _).neverCommits.bind_settles fun reservation => ?_
    refine (neverCommits_lockInOrder _ _).bind_settles fun _ => ?_
    refine settles_request (by simp) fun found => ?_
    cases found with
    | some known => trivial
    | none =>
        refine (silent_post settings payer reservations posting).calm.neverCommits.bind_settles
          fun transaction => ?_
        refine settles_request (by simp) fun _ => ?_
        exact settles_commit rfl

private theorem settles_charge (reference businessReference : String) (posting : Posting) :
    (charge settings reference businessReference posting).Settles := by
  refine (silent_ensurePositive posting.amount).calm.neverCommits.bind_settles fun _ => ?_
  refine neverCommits_openWork.bind_settles fun _ => ?_
  refine (silent_requireAccount reference).calm.neverCommits.bind_settles fun beneficiary => ?_
  refine (silent_requireAccount _).calm.neverCommits.bind_settles fun reservations => ?_
  split
  · trivial
  · refine (neverCommits_lockInOrder _ _).bind_settles fun _ => ?_
    refine (silent_requireReservation _).calm.neverCommits.bind_settles fun reservation => ?_
    refine (silent_chargeReservation reservation _).calm.neverCommits.bind_settles fun charged => ?_
    refine (silent_post settings reservations beneficiary posting).calm.neverCommits.bind_settles
      fun transaction => ?_
    refine settles_request (by simp) fun _ => ?_
    exact settles_commit rfl

private theorem settles_release (businessReference description : String) (time : Instant) :
    (release settings businessReference description time).Settles := by
  refine neverCommits_openWork.bind_settles fun _ => ?_
  refine (silent_requireReservation _).calm.neverCommits.bind_settles fun known => ?_
  refine (silent_requireAccount _).calm.neverCommits.bind_settles fun payer => ?_
  refine (silent_requireAccount _).calm.neverCommits.bind_settles fun reservations => ?_
  refine (neverCommits_lockInOrder _ _).bind_settles fun _ => ?_
  refine (silent_requireReservation _).calm.neverCommits.bind_settles fun reservation => ?_
  dsimp only
  split
  · exact (calm_record _).neverCommits.bind_settles fun _ => trivial
  · refine (silent_post settings reservations payer _).calm.neverCommits.bind_settles
      fun transaction => ?_
    refine settles_request (by simp) fun _ => ?_
    exact settles_commit rfl

end Bank

namespace Operation

variable (settings : LedgerSettings)

private theorem perform_settles (operation : Operation) : (operation.perform settings).Settles := by
  cases operation with
  | ensureSystemAccounts => exact Bank.settles_ensureSystemAccounts settings.refs
  | createAccount reference name accountType purpose =>
      exact Bank.settles_createAccount settings.refs reference name accountType purpose
  | lookupAccount reference => exact (Bank.reads_lookupAccount reference).neverCommits.settles
  | openFirstLedger start => exact Bank.settles_openFirstLedger start
  | currentLedger => exact Bank.reads_currentLedger.neverCommits.settles
  | closePeriodAndOpenNext newStart => exact Bank.settles_closePeriodAndOpenNext newStart
  | getOrCreateBalance account time => exact Bank.settles_getOrCreateBalance account time
  | getBalance reference time => exact (Bank.reads_getBalance reference time).neverCommits.settles
  | transfer payer payee posting => exact Bank.settles_transfer settings payer payee posting
  | deposit reference posting => exact Bank.settles_transfer settings _ reference posting
  | withdraw reference posting => exact Bank.settles_transfer settings reference _ posting
  | reserve reference businessReference posting =>
      exact Bank.settles_reserve settings reference businessReference posting
  | charge reference businessReference posting =>
      exact Bank.settles_charge settings reference businessReference posting
  | release businessReference description time =>
      exact Bank.settles_release settings businessReference description time

theorem settles (operation : Operation) : (operation.action settings).Settles :=
  (operation.perform_settles settings).map operation.outcome

end Operation

structure World.Untouched (before after : World) : Prop where
  accounts : after.store.tables.accounts = before.store.tables.accounts
  ledgers : after.store.tables.ledgers = before.store.tables.ledgers
  balances : after.store.tables.balances = before.store.tables.balances
  transactions : after.store.tables.transactions = before.store.tables.transactions
  reservations : after.store.tables.reservations = before.store.tables.reservations
  held : after.store.locks.held = before.store.locks.held

private theorem World.Untouched.of_tables {before after : World}
    (tables : after.store.tables = before.store.tables)
    (held : after.store.locks.held = before.store.locks.held) : before.Untouched after where
  accounts := by rw [tables]
  ledgers := by rw [tables]
  balances := by rw [tables]
  transactions := by rw [tables]
  reservations := by rw [tables]
  held := held

/-- Whatever the store holds and whoever holds locks, an operation that fails leaves the tables
as they were and holds no lock. -/
theorem Operation.untouched_of_error (surroundings : Surroundings) (settings : LedgerSettings)
    (operation : Operation) (world : World) (e : LedgerError)
    (fails : (operation.run surroundings settings world).1 = .error e) :
    world.Untouched (operation.run surroundings settings world).2 := by
  have settles := operation.settles settings
  exact .of_tables (settles.tables_of_error fails)
    (run_held surroundings settings operation world)

/-- The second system account cannot serve, after the first one was staged; meanwhile somebody
holds a lock. -/
theorem Operation.untouched_of_error_mismatch : ∃ world : World, ∃ e : LedgerError,
    world.store.locks.held ≠ [] ∧
    (Operation.ensureSystemAccounts.run .counting .standard world).1 = .error e ∧
    world.Untouched (Operation.ensureSystemAccounts.run .counting .standard world).2 := by
  let create : Operation := .createAccount "reservations" "Claims" .asset .system
  let created : World := (create.run .counting .standard .empty).2
  let world : World :=
    { created with store := { created.store with locks := ⟨[⟨⟨7⟩⟩], [⟨⟨7⟩⟩]⟩ } }
  have fails : (Operation.ensureSystemAccounts.run .counting .standard world).1 =
      .error (.systemAccountMismatch "reservations" .asset .system) := by
    decide +kernel
  refine ⟨world, _, ?_, fails, untouched_of_error .counting .standard _ world _ fails⟩
  decide +kernel

end DoubleEntry
