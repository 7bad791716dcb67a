import DoubleEntry.Proofs.Payout
import DoubleEntry.Proofs.Service.Consulting
import DoubleEntry.Proofs.Service.SystemAccounts

/-!
# Nobody takes the place of a system account

Deposits and withdrawals post to the banking reserve, and reserving, charging and
releasing post to the reservations account.  Once somebody has been given the system
accounts, these operations find exactly those accounts in their roles, whatever
accounts were created before or are created later (`System.Equipped.rolesHeld`).
-/

namespace DoubleEntry

/-! ## Roles -/

inductive Bank.Role where
  | bankingReserve
  | reservations
  deriving DecidableEq, Repr

namespace Bank.Role

def reference (refs : SystemRefs) : Role → String
  | bankingReserve => refs.bankingReserve
  | reservations => refs.reservations

def account (accounts : SystemAccounts) : Role → Account
  | bankingReserve => accounts.bankingReserve
  | reservations => accounts.reservations

def accountType : Role → AccountType
  | bankingReserve => .asset
  | reservations => .liability

end Bank.Role

/-- The system account that an operation posts to, and on which side. -/
def Operation.role? : Operation → Option (Bank.Role × EntryType)
  | deposit .. => some (.bankingReserve, .debit)
  | withdraw .. => some (.bankingReserve, .credit)
  | reserve .. => some (.reservations, .credit)
  | charge .. | release .. => some (.reservations, .debit)
  | _ => none

private theorem Tables.Ensures.role {refs : SystemRefs} {tables : Tables}
    {accounts : Bank.SystemAccounts} (ensures : tables.Ensures refs accounts) (role : Bank.Role) :
    tables.Ensured (role.reference refs) role.accountType (role.account accounts) := by
  cases role with
  | bankingReserve => exact ensures.bankingReserve
  | reservations => exact ensures.reservations

/-! ## Lookups of operations -/

namespace Operation

variable {settings : LedgerSettings} {operation : Operation} {role : Bank.Role} {side : EntryType}

private theorem keepsAccounts_of_role? (posts : operation.role? = some (role, side)) :
    (operation.action settings).KeepsAccounts := by
  apply Action.KeepsAccounts.map
  cases operation with
  | deposit reference posting => exact Bank.keepsAccounts_transfer settings _ reference posting
  | withdraw reference posting => exact Bank.keepsAccounts_transfer settings reference _ posting
  | reserve reference businessReference posting =>
      exact Bank.keepsAccounts_reserve settings reference businessReference posting
  | charge reference businessReference posting =>
      exact Bank.keepsAccounts_charge settings reference businessReference posting
  | release businessReference description time =>
      exact Bank.keepsAccounts_release settings businessReference description time
  | _ => cases posts

private theorem consults_of_role? (posts : operation.role? = some (role, side)) :
    (operation.action settings).Consults (Text.trim (role.reference settings.refs)) := by
  apply Action.Consults.map
  cases operation with
  | deposit reference posting =>
      cases posts
      exact Bank.consults_transfer_payer settings _ reference posting
  | withdraw reference posting =>
      cases posts
      exact Bank.consults_transfer_payee settings reference _ posting
  | reserve reference businessReference posting =>
      cases posts
      exact Bank.consults_reserve settings reference businessReference posting
  | charge reference businessReference posting =>
      cases posts
      exact Bank.consults_charge settings reference businessReference posting
  | release businessReference description time =>
      cases posts
      exact Bank.consults_release settings businessReference description time
  | _ => cases posts

end Operation

/-! ## Postings of operations -/

def Transaction.accountsOn (transaction : Transaction) (side : EntryType) : List AccountId :=
  (transaction.entries.filter fun entry => entry.entryType = side).map (·.accountId)

namespace Transaction

variable {transaction : Transaction} {payer payee : Account} {units : Int}

private theorem Moves.debits (moves : transaction.Moves payer payee units) :
    transaction.accountsOn .debit = [payer.id] := by
  obtain ⟨-, debited, credited, entries, isDebit, isPayer, -, isCredit, -⟩ := moves
  simp [accountsOn, entries, isDebit, isPayer, isCredit]

private theorem Moves.credits (moves : transaction.Moves payer payee units) :
    transaction.accountsOn .credit = [payee.id] := by
  obtain ⟨-, debited, credited, entries, isDebit, -, -, isCredit, isPayee, -⟩ := moves
  simp [accountsOn, entries, isDebit, isCredit, isPayee]

end Transaction

private theorem Voucher.accountsOn {settings : LedgerSettings} {tables : Tables}
    {operation : Operation}
    {work : UnitOfWork} {outcome : Outcome} {ids : List Uuid} {times : List Instant}
    {role : Bank.Role} {side : EntryType} {account : Account} (sound : tables.Sound settings.refs)
    (voucher : Voucher settings tables operation work outcome ids times)
    (posts : operation.role? = some (role, side))
    (stored : tables.account? (role.reference settings.refs) = some account) :
    ∀ transaction ∈ work.transactions, transaction.accountsOn side = [account.id] := by
  cases voucher with
  | deposit transfers =>
      cases posts
      cases transfers with
      | transfer isPayer _ apart posts =>
          cases stored.symm.trans isPayer
          exact List.forall_mem_singleton.mpr (posts.moves sound apart).debits
  | withdraw transfers =>
      cases posts
      cases transfers with
      | transfer _ isPayee apart posts =>
          cases stored.symm.trans isPayee
          exact List.forall_mem_singleton.mpr (posts.moves sound apart).credits
  | reserve _ isPool apart _ _ posts =>
      cases ‹Operation.role? _ = _›
      cases stored.symm.trans isPool
      exact List.forall_mem_singleton.mpr (posts.moves sound apart).credits
  | charge _ isPool apart _ _ posts =>
      cases ‹Operation.role? _ = _›
      cases stored.symm.trans isPool
      exact List.forall_mem_singleton.mpr (posts.moves sound apart).debits
  | release _ _ isPool apart _ _ posts =>
      cases ‹Operation.role? _ = _›
      cases stored.symm.trans isPool
      exact List.forall_mem_singleton.mpr (posts.moves sound apart).debits
  | _ => cases posts

private theorem Operation.run_accountsOn {settings : LedgerSettings} {operation : Operation}
    {role : Bank.Role} {side : EntryType} {account : Account} {world : World}
    (surroundings : Surroundings) (sound : world.store.tables.Sound settings.refs)
    (posts : operation.role? = some (role, side))
    (stored : world.store.tables.account? (role.reference settings.refs) = some account) :
    ∃ posted, (operation.run surroundings settings world).2.store.tables.transactions =
        world.store.tables.transactions ++ posted ∧
      ∀ transaction ∈ posted, transaction.accountsOn side = [account.id] := by
  have ran := operation.run_ran surroundings sound
  generalize operation.run surroundings settings world = result at ran ⊢
  cases ran with
  | @commits work _ _ _ _ voucher _ published =>
      exact ⟨work.transactions, congrArg Tables.transactions published,
        voucher.accountsOn sound posts stored⟩
  | rests _ kept => exact ⟨[], by simp [kept], by simp⟩

/-! ## Any later state -/

namespace System

structure Resolves (surroundings : Surroundings) (settings : LedgerSettings) (role : Bank.Role)
    (side : EntryType) (account : Account) (operation : Operation) (system : System) : Prop where
  consults : (operation.action settings).Consults (Text.trim (role.reference settings.refs))
  alone : operation.run surroundings settings system.world =
    ((operation.action settings).told (Text.trim (role.reference settings.refs)) account).run
      surroundings system.world
  posts : ∃ posted, (operation.run surroundings settings system.world).2.store.tables.transactions =
      system.world.store.tables.transactions ++ posted ∧
    ∀ transaction ∈ posted, transaction.accountsOn side = [account.id]
  underway : ∀ (before : System) (task : Task),
    (before.start (operation.action settings)).Reaches surroundings
      (Admission.any.Allowed settings) system →
    system.tasks[before.tasks.length]? = some task →
    task.work.findAccount system.world.store.tables
      (Text.trim (role.reference settings.refs)) = some account

structure RolesHeld (surroundings : Surroundings) (settings : LedgerSettings)
    (accounts : Bank.SystemAccounts) (system : System) : Prop where
  types : ∀ role : Bank.Role, (role.account accounts).accountType = role.accountType ∧
    (role.account accounts).purpose = .system
  resolves : ∀ (operation : Operation) (role : Bank.Role) (side : EntryType),
    operation.role? = some (role, side) →
    Resolves surroundings settings role side (role.account accounts) operation system

variable {surroundings : Surroundings} {settings : LedgerSettings} {system later : System}
  {accounts : Bank.SystemAccounts}

/-- Whatever has happened since somebody was given the system accounts, and whatever accounts were
created before, they serve in their roles. -/
theorem Equipped.rolesHeld (equipped : Equipped surroundings settings accounts system later) :
    RolesHeld surroundings settings accounts later where
  types role := (equipped.ensures.role role).role
  resolves operation role side posts := by
    have stored := (equipped.ensures.role role).found
    have keeps : (operation.action settings).KeepsAccounts := Operation.keepsAccounts_of_role? posts
    constructor
    case consults => exact Operation.consults_of_role? posts
    case alone => exact (Action.runFrom_told keeps rfl stored).symm
    case posts => exact Operation.run_accountsOn surroundings equipped.sound posts stored
    case underway =>
      intro before task reaches found
      exact reaches.findAccount_of_keeps keeps found stored

/-- Somebody tries to take the reference of the banking reserve, which is configured with a blank
before it, and fails; a deposit goes on to debit the banking reserve. -/
theorem Equipped.rolesHeld_padded : ∃ later,
    Equipped .counting .padded .standard (founding .padded) later ∧
    (later.tasks.map Task.result?)[1]? = some (some (.error (.duplicateReference "bank"))) ∧
    ((Operation.deposit "a" ⟨⟨5, by decide, by decide⟩, "", .epoch⟩).run .counting .padded
      later.world).2.store.tables.transactions.map (·.accountsOn .debit) = [[⟨⟨0⟩⟩]] ∧
    RolesHeld .counting .padded .standard later := by
  let attempt : Operation := .createAccount "bank" "Thief" .liability .current
  let customer : Operation := .createAccount "a" "a" .liability .current
  let ledger : Operation := .openFirstLedger .epoch
  let started := (((founding .padded).start (attempt.action .padded)).start
    (customer.action .padded)).start (ledger.action .padded)
  have reaches : (founding .padded).Reaches .counting (Admission.any.Allowed .padded) started :=
    ((Reaches.refl.start (attempt.action .padded) ⟨attempt, trivial, rfl⟩).start
      (customer.action .padded) ⟨customer, trivial, rfl⟩).start
        (ledger.action .padded) ⟨ledger, trivial, rfl⟩
  let schedule := List.replicate 10 1 ++ List.replicate 10 2 ++ List.replicate 10 3
  have equipped : Equipped .counting .padded .standard (founding .padded) _ :=
    ⟨reachable_founding .padded, LedgerSettings.returned_padded, reaches.stepAll schedule⟩
  refine ⟨_, equipped, ?_, ?_, equipped.rolesHeld⟩
  · decide +kernel
  · decide +kernel

end System

end DoubleEntry
