import DoubleEntry.Proofs.Program.Actions
import DoubleEntry.Proofs.Store.Commit
import DoubleEntry.Proofs.Store.Sound

/-!
# Actions that vouch for their commit

Between two requests of an action, others may change the tables, though only in the
ways of `Tables.Leads`.  An action vouches for its commit if, whatever the others
do, a commit that is accepted comes with a certificate for the tables of that
moment, and nothing but events and the certified outcome is left to do after it
(`Action.Vouches`).  There is one rule for each request, and each rule hands the
changed tables on.
-/

namespace DoubleEntry

namespace Request

def Commits (request : Request) (tables : Tables) (work : UnitOfWork) : Prop :=
  request = .commit ∧ work.Acceptable tables

/-- The identifiers that were drawn, by their positions in the supply, after a request. -/
def draws (world : World) (drawn : List Nat) : Request → List Nat
  | freshId => drawn ++ [world.issued]
  | _ => drawn

end Request

namespace Action

variable {α β : Type}

def Delivers (outcome : α) : Action α → Prop
  | done value => value = outcome
  | failed _ => False
  | request (.record _) next => (next ()).Delivers outcome
  | request _ _ => False

/-- The action may run among others and certifies what it commits. -/
def Vouches (surroundings : Surroundings) (refs : SystemRefs)
    (certified : Tables → UnitOfWork → List Nat → α → Prop) :
    Action α → Tables → UnitOfWork → List Nat → Prop
  | done _, _, _, _ => True
  | failed _, _, _, _ => True
  | request q next, tables, work, drawn =>
    ∀ world : World, tables.Leads refs work.guards world.store.tables →
      (q.Commits world.store.tables work →
        ∃ outcome, certified world.store.tables work drawn outcome ∧
          (next (q.perform surroundings world work).1).Delivers outcome) ∧
      (¬ q.Commits world.store.tables work →
        (next (q.perform surroundings world work).1).Vouches surroundings refs certified
          (q.perform surroundings world work).2.1.store.tables
          (q.perform surroundings world work).2.2 (q.draws world drawn))

variable {surroundings : Surroundings} {refs : SystemRefs}
  {certified : Tables → UnitOfWork → List Nat → α → Prop} {tables : Tables} {work : UnitOfWork}
  {drawn : List Nat}

theorem Vouches.of_leads {action : Action α} {later : Tables}
    (vouches : action.Vouches surroundings refs certified tables work drawn)
    (leads : tables.Leads refs work.guards later) :
    action.Vouches surroundings refs certified later work drawn := by
  cases action with
  | done value => trivial
  | failed e => trivial
  | request q next => exact fun world further => vouches world (leads.trans further)

def NeverCommits : Action α → Prop
  | done _ => True
  | failed _ => True
  | request q next => q ≠ .commit ∧ ∀ reply, (next reply).NeverCommits

theorem NeverCommits.vouches {action : Action α} (never : action.NeverCommits) :
    action.Vouches surroundings refs certified tables work drawn := by
  induction action generalizing tables work drawn with
  | done value => trivial
  | failed e => trivial
  | request q next ih =>
      intro world _
      exact ⟨fun isCommit => absurd isCommit.1 never.1, fun _ => ih _ (never.2 _)⟩

/-! ## Sequences of actions -/

theorem Delivers.map {action : Action α} {outcome : α} (f : α → β)
    (delivers : action.Delivers outcome) : (f <$> action).Delivers (f outcome) := by
  induction action with
  | done value => exact congrArg f delivers
  | failed e => exact delivers
  | request q next ih =>
      cases q with
      | record event => exact ih () delivers
      | _ => exact delivers

theorem Delivers.handleError {action : Action α} {outcome : α} (handle : LedgerError → Action α)
    (delivers : action.Delivers outcome) : (action.handleError handle).Delivers outcome := by
  induction action with
  | done value => exact delivers
  | failed e => exact delivers.elim
  | request q next ih =>
      cases q with
      | record event => exact ih () delivers
      | _ => exact delivers

theorem Vouches.map {action : Action α} {certified : Tables → UnitOfWork → List Nat → β → Prop}
    (f : α → β) (vouches : action.Vouches surroundings refs
      (fun tables work drawn outcome => certified tables work drawn (f outcome))
      tables work drawn) :
    (f <$> action).Vouches surroundings refs certified tables work drawn := by
  induction action generalizing tables work drawn with
  | done value => trivial
  | failed e => trivial
  | request q next ih =>
      intro world leads
      obtain ⟨commits, goesOn⟩ := vouches world leads
      constructor
      · intro isCommit
        obtain ⟨outcome, holds, delivers⟩ := commits isCommit
        exact ⟨f outcome, holds, delivers.map f⟩
      · intro noCommit
        exact ih _ (goesOn noCommit)

theorem Vouches.imp {action : Action α} {weaker : Tables → UnitOfWork → List Nat → α → Prop}
    (implies : ∀ {tables work drawn outcome}, certified tables work drawn outcome →
      weaker tables work drawn outcome)
    (vouches : action.Vouches surroundings refs certified tables work drawn) :
    action.Vouches surroundings refs weaker tables work drawn := by
  induction action generalizing tables work drawn with
  | done value => trivial
  | failed e => trivial
  | request q next ih =>
      intro world leads
      obtain ⟨commits, goesOn⟩ := vouches world leads
      constructor
      · intro isCommit
        obtain ⟨outcome, holds, delivers⟩ := commits isCommit
        exact ⟨outcome, implies holds, delivers⟩
      · intro noCommit
        exact ih _ (goesOn noCommit)

theorem Vouches.handleError {action : Action α} {handle : LedgerError → Action α}
    (vouches : action.Vouches surroundings refs certified tables work drawn)
    (handles : ∀ e tables work drawn,
      (handle e).Vouches surroundings refs certified tables work drawn) :
    (action.handleError handle).Vouches surroundings refs certified tables work drawn := by
  induction action generalizing tables work drawn with
  | done value => trivial
  | failed e => exact handles e tables work drawn
  | request q next ih =>
      intro world leads
      obtain ⟨commits, goesOn⟩ := vouches world leads
      constructor
      · intro isCommit
        obtain ⟨outcome, holds, delivers⟩ := commits isCommit
        exact ⟨outcome, holds, delivers.handleError handle⟩
      · intro noCommit
        exact ih _ (goesOn noCommit)

theorem vouches_lift {result : Except LedgerError β} {next : β → Action α}
    (goesOn : ∀ value, result = .ok value →
      (next value).Vouches surroundings refs certified tables work drawn) :
    ((liftM result : Action β) >>= next).Vouches surroundings refs certified tables work drawn := by
  cases result with
  | ok value => exact goesOn value rfl
  | error e => trivial

/-! ## Requests -/

theorem vouches_request {q : Request} {next : q.Reply → Action α} (noCommit : q ≠ .commit)
    (goesOn : ∀ world : World, tables.Leads refs work.guards world.store.tables →
      (next (q.perform surroundings world work).1).Vouches surroundings refs certified
        (q.perform surroundings world work).2.1.store.tables
        (q.perform surroundings world work).2.2 (q.draws world drawn)) :
    (request q next).Vouches surroundings refs certified tables work drawn :=
  fun world leads => ⟨fun isCommit => absurd isCommit.1 noCommit, fun _ => goesOn world leads⟩

theorem vouches_openWork {next : Unit → Action α}
    (goesOn : ∀ later, tables.Leads refs work.guards later →
      (next ()).Vouches surroundings refs certified later .empty drawn) :
    (openWork >>= next).Vouches surroundings refs certified tables work drawn :=
  vouches_request nofun fun world leads => goesOn world.store.tables leads

theorem vouches_findAccount {reference : String} {next : Option Account → Action α}
    (goesOn : ∀ later, tables.Leads refs work.guards later →
      (next (work.findAccount later reference)).Vouches surroundings refs certified later work
        drawn) :
    (findAccount reference >>= next).Vouches surroundings refs certified tables work drawn :=
  vouches_request nofun fun world leads => goesOn world.store.tables leads

theorem vouches_saveAccount {account : Account} {next : Unit → Action α}
    (goesOn : ∀ later, tables.Leads refs work.guards later →
      (next ()).Vouches surroundings refs certified later (work.saveAccount account) drawn) :
    (saveAccount account >>= next).Vouches surroundings refs certified tables work drawn :=
  vouches_request nofun fun world leads => goesOn world.store.tables leads

theorem vouches_ledgerAt {time : Instant} {next : Option Ledger → Action α}
    (goesOn : ∀ later, tables.Leads refs work.guards later →
      (next (work.ledgerAt later time)).Vouches surroundings refs certified later
        (work.track (work.ledgerAt later time)) drawn) :
    (ledgerAt time >>= next).Vouches surroundings refs certified tables work drawn :=
  vouches_request nofun fun world leads => goesOn world.store.tables leads

theorem vouches_openLedger {next : Option Ledger → Action α}
    (goesOn : ∀ later, tables.Leads refs work.guards later →
      (next (work.openLedger later)).Vouches surroundings refs certified later
        (work.track (work.openLedger later)) drawn) :
    (openLedger >>= next).Vouches surroundings refs certified tables work drawn :=
  vouches_request nofun fun world leads => goesOn world.store.tables leads

theorem vouches_previousLedger {ledger : Ledger} {next : Option Ledger → Action α}
    (goesOn : ∀ later, tables.Leads refs work.guards later →
      (next (work.previousLedger later ledger)).Vouches surroundings refs certified later
        (work.track (work.previousLedger later ledger)) drawn) :
    (previousLedger ledger >>= next).Vouches surroundings refs certified tables work drawn :=
  vouches_request nofun fun world leads => goesOn world.store.tables leads

theorem vouches_ledgers {next : List Ledger → Action α}
    (goesOn : ∀ later, tables.Leads refs work.guards later →
      (next (work.ledgerView later)).Vouches surroundings refs certified later work drawn) :
    (ledgers >>= next).Vouches surroundings refs certified tables work drawn :=
  vouches_request nofun fun world leads => goesOn world.store.tables leads

theorem vouches_saveLedger {ledger : Ledger} {next : Unit → Action α}
    (goesOn : ∀ later, tables.Leads refs work.guards later →
      (next ()).Vouches surroundings refs certified later (work.saveLedger ledger) drawn) :
    (saveLedger ledger >>= next).Vouches surroundings refs certified tables work drawn :=
  vouches_request nofun fun world leads => goesOn world.store.tables leads

theorem vouches_findBalance {key : BalanceKey} {next : Option Balance → Action α}
    (goesOn : ∀ later, tables.Leads refs work.guards later →
      (next (work.findBalance later key)).Vouches surroundings refs certified later work drawn) :
    (findBalance key >>= next).Vouches surroundings refs certified tables work drawn :=
  vouches_request nofun fun world leads => goesOn world.store.tables leads

theorem vouches_saveBalance {balance : Balance} {next : Unit → Action α}
    (goesOn : ∀ later, tables.Leads refs work.guards later →
      (next ()).Vouches surroundings refs certified later (work.saveBalance balance) drawn) :
    (saveBalance balance >>= next).Vouches surroundings refs certified tables work drawn :=
  vouches_request nofun fun world leads => goesOn world.store.tables leads

theorem vouches_saveTransaction {transaction : Transaction} {next : Unit → Action α}
    (goesOn : ∀ later, tables.Leads refs work.guards later →
      (next ()).Vouches surroundings refs certified later (work.saveTransaction transaction)
        drawn) :
    (saveTransaction transaction >>= next).Vouches surroundings refs certified tables work drawn :=
  vouches_request nofun fun world leads => goesOn world.store.tables leads

theorem vouches_latestPosting {id : LedgerId} {next : Option Instant → Action α}
    (goesOn : ∀ later latest, tables.Leads refs work.guards later →
      (next latest).Vouches surroundings refs certified later work drawn) :
    (latestPosting id >>= next).Vouches surroundings refs certified tables work drawn :=
  vouches_request nofun fun world leads => goesOn world.store.tables _ leads

theorem vouches_findReservation {businessReference : String} {next : Option Reservation → Action α}
    (goesOn : ∀ later, tables.Leads refs work.guards later →
      (next (work.findReservation later businessReference)).Vouches surroundings refs certified
        later work drawn) :
    (findReservation businessReference >>= next).Vouches surroundings refs certified tables work
      drawn :=
  vouches_request nofun fun world leads => goesOn world.store.tables leads

theorem vouches_saveReservation {reservation : Reservation} {next : Unit → Action α}
    (goesOn : ∀ later, tables.Leads refs work.guards later →
      (next ()).Vouches surroundings refs certified later (work.saveReservation reservation)
        drawn) :
    (saveReservation reservation >>= next).Vouches surroundings refs certified tables work drawn :=
  vouches_request nofun fun world leads => goesOn world.store.tables leads

theorem vouches_record {event : Event} {next : Unit → Action α}
    (goesOn : ∀ later, tables.Leads refs work.guards later →
      (next ()).Vouches surroundings refs certified later work drawn) :
    (record event >>= next).Vouches surroundings refs certified tables work drawn :=
  vouches_request nofun fun world leads => goesOn world.store.tables leads

theorem vouches_freshId {kind : RecordKind} {next : Id kind → Action α}
    (goesOn : ∀ later position, tables.Leads refs work.guards later →
      (next ⟨surroundings.uuid position⟩).Vouches surroundings refs certified later work
        (drawn ++ [position])) :
    (freshId >>= next).Vouches surroundings refs certified tables work drawn :=
  vouches_request nofun fun world leads => goesOn world.store.tables world.issued leads

theorem vouches_now {next : Instant → Action α}
    (goesOn : ∀ later time, tables.Leads refs work.guards later →
      (next time).Vouches surroundings refs certified later work drawn) :
    (now >>= next).Vouches surroundings refs certified tables work drawn :=
  vouches_request nofun fun world leads => goesOn world.store.tables _ leads

theorem vouches_commit {next : Unit → Action α}
    (certifies : ∀ later, tables.Leads refs work.guards later → work.Acceptable later →
      ∃ outcome, certified later work drawn outcome ∧ (next ()).Delivers outcome) :
    (commit >>= next).Vouches surroundings refs certified tables work drawn := by
  intro world leads
  cases checked : work.check world.store.tables with
  | ok =>
      have acceptable := UnitOfWork.check_eq_ok_iff.mp checked
      obtain ⟨outcome, holds, delivers⟩ := certifies _ leads acceptable
      have reply : (Request.commit.perform surroundings world work).1 = .ok () := by
        simp [Request.perform, Request.performCommit, Store.commit, checked]
      rw [reply]
      exact ⟨fun _ => ⟨outcome, holds, delivers⟩, fun refused => absurd ⟨rfl, acceptable⟩ refused⟩
  | error e =>
      have reply : (Request.commit.perform surroundings world work).1 = .error e := by
        simp [Request.perform, Request.performCommit, Store.commit, checked]
      rw [reply]
      constructor
      · rintro ⟨_, acceptable⟩
        rw [UnitOfWork.check_eq_ok_iff.mpr acceptable] at checked
        cases checked
      · intro _
        trivial

private theorem vouches_acquire {account : AccountId} {next : Unit → Action α}
    (goesOn : ∀ later guards, tables.Leads refs work.guards later → account ∈ guards →
      work.guards ⊆ guards →
        (next ()).Vouches surroundings refs certified later { work with guards } drawn) :
    (acquire account >>= next).Vouches surroundings refs certified tables work drawn := by
  refine vouches_request (by simp) fun world leads => ?_
  by_cases held : account ∈ work.guards
  · have performed : (Request.acquire account).perform surroundings world work =
        (.ok (), world, work) := by
      simp [Request.perform, Request.performAcquire, Store.acquire, held]
    rw [performed]
    exact goesOn _ work.guards leads held (List.Subset.refl _)
  · cases free : world.store.locks.acquire? account with
    | none =>
        have performed : (Request.acquire account).perform surroundings world work =
            (.error (.lockTimeout (toString account)), world, work) := by
          simp [Request.perform, Request.performAcquire, Store.acquire, held, free]
        rw [performed]
        trivial
    | some locks =>
        have performed : (Request.acquire account).perform surroundings world work =
            (.ok (), { world with store := { world.store with locks } },
              { work with guards := work.guards ++ [account] }) := by
          simp [Request.perform, Request.performAcquire, Store.acquire, held, free]
        rw [performed]
        exact goesOn _ (work.guards ++ [account]) leads (by simp) (List.subset_append_left _ _)

theorem vouches_lockAccounts {accounts : List AccountId} {next : Unit → Action α}
    (sound : tables.Sound refs)
    (goesOn : ∀ later guards, tables.Leads refs work.guards later →
      (∀ account ∈ accounts, account ∈ guards) → work.guards ⊆ guards →
        (next ()).Vouches surroundings refs certified later { work with guards } drawn) :
    (lockAccounts accounts >>= next).Vouches surroundings refs certified tables work drawn := by
  induction accounts generalizing tables work with
  | nil => exact goesOn tables work.guards (.refl sound) nofun (List.Subset.refl _)
  | cons account rest ih =>
      have first : lockAccounts (account :: rest) =
          acquire account >>= fun _ => lockAccounts rest := rfl
      rw [first, bind_assoc]
      apply vouches_acquire
      intro middle guards leads held grows
      apply ih leads.sound
      intro later more leads' others grows'
      refine goesOn later more (leads.trans (leads'.mono grows)) ?_
        (List.Subset.trans grows grows')
      intro other member
      rcases List.mem_cons.mp member with rfl | member
      · exact grows' held
      · exact others other member

end Action

end DoubleEntry
