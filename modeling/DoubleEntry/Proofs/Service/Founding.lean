import DoubleEntry.Proofs.Service.Served

/-!
# The system accounts

Once the system accounts have been ensured, they stand under their trimmed references
(`Tables.Ensures`): the banking reserve is an asset, and the pool, which reserved amounts
go into, is a liability under a reference of its own (`Tables.Founded`).  Accounts are
never removed, so they stay whatever operations follow.
-/

namespace DoubleEntry

def SystemRefs.all (refs : SystemRefs) : List String :=
  [refs.bankingReserve, refs.reservations, refs.premiums]

namespace Tables

variable {refs : SystemRefs} {tables after : Tables} {account bank pool : Account}
  {accounts : Bank.SystemAccounts}

structure Ensured (tables : Tables) (reference : String) (accountType : AccountType)
    (account : Account) : Prop where
  found : tables.account? reference = some account
  suits : Bank.isSystemAccount accountType account = true

structure Ensures (refs : SystemRefs) (tables : Tables) (accounts : Bank.SystemAccounts) :
    Prop where
  bankingReserve : tables.Ensured refs.bankingReserve .asset accounts.bankingReserve
  reservations : tables.Ensured refs.reservations .liability accounts.reservations
  premiums : tables.Ensured refs.premiums .liability accounts.premiums

theorem Ensured.role {reference : String} {accountType : AccountType}
    (ensured : tables.Ensured reference accountType account) :
    account.accountType = accountType ∧ account.purpose = .system := by
  simpa [Bank.isSystemAccount] using ensured.suits

theorem Ensured.stays {reference : String} {accountType : AccountType}
    (ensured : tables.Ensured reference accountType account)
    (kept : ∀ reference account, tables.accounts.get? reference = some account →
      after.accounts.get? reference = some account) :
    after.Ensured reference accountType account :=
  ⟨kept _ _ ensured.found, ensured.suits⟩

theorem Ensures.stays (ensures : tables.Ensures refs accounts)
    (kept : ∀ reference account, tables.accounts.get? reference = some account →
      after.accounts.get? reference = some account) : after.Ensures refs accounts :=
  ⟨ensures.bankingReserve.stays kept, ensures.reservations.stays kept,
    ensures.premiums.stays kept⟩

/-- The banking reserve and the pool stand under their references, an asset and a liability. -/
structure Founded (refs : SystemRefs) (tables : Tables) (bank pool : Account) : Prop where
  bank_found : tables.account? refs.bankingReserve = some bank
  isAsset : bank.accountType = .asset
  pool_found : tables.account? refs.reservations = some pool
  isLiability : pool.accountType = .liability

private theorem Ensures.founded (ensures : tables.Ensures refs accounts) :
    tables.Founded refs accounts.bankingReserve accounts.reservations where
  bank_found := ensures.bankingReserve.found
  isAsset := ensures.bankingReserve.role.1
  pool_found := ensures.reservations.found
  isLiability := ensures.reservations.role.1

theorem Founded.refsApart (founded : tables.Founded refs bank pool) :
    Text.trim refs.bankingReserve ≠ Text.trim refs.reservations := by
  intro same
  have isBank := founded.bank_found
  rw [account?, same] at isBank
  have isAsset := founded.isAsset
  rw [← Option.some.inj (founded.pool_found.symm.trans isBank), founded.isLiability] at isAsset
  cases isAsset

variable {staged staged' : List Account} {reference name : String} {accountType : AccountType}
  {ids : List Uuid} {times : List Instant}

private theorem Located.subset
    (located : tables.Located staged reference name accountType account staged' ids times) :
    staged ⊆ staged' := by
  cases located with
  | found => exact List.Subset.refl staged
  | created => exact List.subset_append_left staged _

private theorem Located.suits
    (located : tables.Located staged reference name accountType account staged' ids times)
    (sound : tables.Sound refs)
    (trimmed : ∀ other ∈ staged, Text.trim other.reference = other.reference) :
    account.reference = Text.trim reference ∧ Bank.isSystemAccount accountType account = true ∧
      (account ∈ tables.accounts.values ∨ account ∈ staged') := by
  cases located with
  | found found suits =>
      have known : account.reference = reference ∧
          (account ∈ tables.accounts.values ∨ account ∈ staged) := by
        rw [UnitOfWork.findAccount] at found
        split at found
        next among =>
          cases found
          exact ⟨by simpa using List.find?_some among, .inr (List.mem_of_find?_eq_some among)⟩
        next =>
          exact ⟨sound.accounts.name_of_get? found, .inl (sound.accounts.mem_of_get? found)⟩
      have isTrimmed := known.2.elim (sound.trimmed account) (trimmed account)
      refine ⟨?_, suits, known.2⟩
      rw [← isTrimmed, known.1]
  | created _ created =>
      rw [Account.create_eq_ok created]
      simp [Bank.isSystemAccount]

end Tables

theorem Voucher.ensures {settings : LedgerSettings} {tables : Tables} {work : UnitOfWork}
    {outcome : Outcome} {ids : List Uuid} {times : List Instant}
    (sound : tables.Sound settings.refs)
    (voucher : Voucher settings tables .ensureSystemAccounts work outcome ids times)
    (acceptable : work.Acceptable tables) : ∃ accounts, outcome = .systemAccounts accounts ∧
      (work.publish tables).Ensures settings.refs accounts := by
  have published := (UnitOfWork.publish_sound sound voucher acceptable).accounts
  have values := UnitOfWork.publish_accounts_values acceptable
  cases voucher with
  | @ensureSystemAccounts bank pool premiums _ _ staged _ _ _ _ _ _ bank_located pool_located
      premiums_located =>
      have stands {account : Account} {reference : String} {accountType : AccountType}
          (suits : account.reference = Text.trim reference ∧
            Bank.isSystemAccount accountType account = true ∧
            (account ∈ tables.accounts.values ∨ account ∈ staged)) :
          (({ UnitOfWork.empty with accounts := staged }).publish tables).Ensured reference
            accountType account := by
        refine ⟨?_, suits.2.1⟩
        rw [Tables.account?, ← suits.1]
        apply published.get?_name
        rw [values]
        exact List.mem_append.mpr suits.2.2
      have bank_trimmed := bank_located.trimmed (by simp)
      have pool_trimmed := pool_located.trimmed bank_trimmed
      refine ⟨_, rfl, stands ?_, stands ?_, stands (premiums_located.suits sound pool_trimmed)⟩
      · obtain ⟨named, suits, known⟩ := bank_located.suits sound (by simp)
        exact ⟨named, suits, known.imp_right fun member =>
          premiums_located.subset (pool_located.subset member)⟩
      · obtain ⟨named, suits, known⟩ := pool_located.suits sound bank_trimmed
        exact ⟨named, suits, known.imp_right fun member => premiums_located.subset member⟩

/-! ## Runs -/

namespace Operation

variable {settings : LedgerSettings} {tables : Tables} {operation : Operation} {world : World}
  {result : Except LedgerError Outcome × World}

private theorem Ran.account? (ran : operation.Ran settings tables result) {reference : String}
    {account : Account} (found : tables.account? reference = some account) :
    result.2.store.tables.account? reference = some account := by
  cases ran with
  | commits voucher acceptable published =>
      rw [published]
      exact UnitOfWork.publish_accounts_get? acceptable found
  | rests _ kept => rwa [kept]

private theorem Ran.founded (ran : ensureSystemAccounts.Ran settings tables result)
    {outcome : Outcome} (sound : tables.Sound settings.refs) (succeeds : result.1 = .ok outcome) :
    ∃ bank pool, result.2.store.tables.Founded settings.refs bank pool := by
  cases ran with
  | commits voucher acceptable published =>
      rw [published]
      obtain ⟨accounts, -, ensures⟩ := voucher.ensures sound acceptable
      exact ⟨_, _, ensures.founded⟩
  | rests quiet _ => exact (quiet outcome succeeds).elim

private theorem runAll_account? (surroundings : Surroundings)
    (sound : world.store.tables.Sound settings.refs) {reference : String} {account : Account}
    (found : world.store.tables.account? reference = some account) (operations : List Operation) :
    (runAll surroundings settings operations world).2.store.tables.account? reference =
      some account := by
  induction operations generalizing world with
  | nil => exact found
  | cons operation rest ih =>
      have ran := operation.run_ran surroundings sound
      exact ih (ran.sound sound) (ran.account? found)

theorem runAll_founded (surroundings : Surroundings)
    (sound : world.store.tables.Sound settings.refs) {operations : List Operation}
    {outcome : Outcome} (ensured : (ensureSystemAccounts, .ok outcome) ∈
      transcript surroundings settings operations world) :
    ∃ bank pool, (runAll surroundings settings operations world).2.store.tables.Founded
      settings.refs bank pool := by
  induction operations generalizing world with
  | nil => cases ensured
  | cons operation rest ih =>
      have ran := operation.run_ran surroundings sound
      rcases List.mem_cons.mp ensured with isFirst | later
      · obtain ⟨rfl, succeeds⟩ := Prod.mk.inj isFirst
        obtain ⟨bank, pool, founded⟩ := ran.founded sound succeeds.symm
        have sound' := ran.sound sound
        exact ⟨bank, pool, runAll_account? surroundings sound' founded.bank_found rest,
          founded.isAsset, runAll_account? surroundings sound' founded.pool_found rest,
          founded.isLiability⟩
      · exact ih (ran.sound sound) later

end Operation

end DoubleEntry
