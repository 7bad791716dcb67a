import DoubleEntry.Proofs.Program.Failing
import DoubleEntry.Proofs.Service.Fitting
import DoubleEntry.Proofs.Service.Replay
import DoubleEntry.Proofs.Service.SystemAccounts

/-!
# Ensuring the system accounts again

Accounts are stored under trimmed references, but a system account is looked up under
its reference as it is configured.  Where no configured reference has blanks around it,
ensuring the system accounts again finds them all and changes nothing.  A reference with
blanks is never found: the account is created once more, and the commit is refused, the
second time as the first.
-/

namespace DoubleEntry

def SystemRefs.padded? (refs : SystemRefs) : Option String :=
  refs.all.find? fun reference => Text.trim reference ≠ reference

/-! ## Stored references are not blank -/

private theorem Account.create_nonblank {id : AccountId} {createdAt : Instant}
    {reference name : String} {accountType : AccountType} {purpose : Purpose} {account : Account}
    (created : create id createdAt reference name accountType purpose = .ok account) :
    account.reference.isEmpty = false := by
  simp only [create] at created
  split at created
  · cases created
  next nonblank =>
    cases created
    simpa using nonblank

private theorem Tables.Located.nonblank {tables : Tables} {staged staged' : List Account}
    {reference name : String} {accountType : AccountType} {account : Account} {ids : List Uuid}
    {times : List Instant}
    (located : tables.Located staged reference name accountType account staged' ids times)
    (before : ∀ other ∈ staged, other.reference.isEmpty = false) :
    ∀ other ∈ staged', other.reference.isEmpty = false := by
  cases located with
  | found => exact before
  | created _ created =>
      intro other member
      rcases List.mem_append.mp member with member | member
      · exact before other member
      · rw [List.mem_singleton.mp member]
        exact Account.create_nonblank created

private theorem Voucher.accounts_nonblank {settings : LedgerSettings} {tables : Tables}
    {operation : Operation} {work : UnitOfWork} {outcome : Outcome} {ids : List Uuid}
    {times : List Instant}
    (voucher : Voucher settings tables operation work outcome ids times) :
    ∀ account ∈ work.accounts, account.reference.isEmpty = false := by
  induction voucher with
  | ensureSystemAccounts reserve pool premiums =>
      exact premiums.nonblank (pool.nonblank (reserve.nonblank (by simp)))
  | createAccount created =>
      intro account member
      rw [List.mem_singleton.mp member]
      exact Account.create_nonblank created
  | deposit _ ih => exact ih
  | withdraw _ ih => exact ih
  | _ => simp [UnitOfWork.empty, UnitOfWork.ofPosting]

private theorem Chronicle.accounts_nonblank {surroundings : Surroundings}
    {settings : LedgerSettings} {admission : Admission} {deeds : List Deed} {tables : Tables}
    (chronicle : Chronicle surroundings settings admission deeds tables) :
    ∀ account ∈ tables.accounts.values, account.reference.isEmpty = false := by
  induction chronicle with
  | nothing => simp [Tables.empty]
  | deed deed voucher acceptable _ _ ih =>
      intro account member
      rw [UnitOfWork.publish_accounts_values acceptable] at member
      rcases List.mem_append.mp member with member | member
      · exact ih account member
      · exact voucher.accounts_nonblank account member

/-! ## Looking up one account -/

/-- Accounts that are staged although the store holds them already, with the same references and
types. -/
def Tables.Doubles (tables : Tables) (staged : List Account) : Prop :=
  ∀ double ∈ staged, ∃ stored, tables.account? double.reference = some stored ∧
    Text.trim double.reference = double.reference ∧
    Bank.isSystemAccount stored.accountType double = true

namespace Tables

variable {refs : SystemRefs} {tables : Tables} {staged : List Account} {reference : String}
  {accountType : AccountType} {account : Account}

private theorem doubles_nil (tables : Tables) : tables.Doubles [] := by simp [Doubles]

private theorem Doubles.findAccount_of_padded (doubles : tables.Doubles staged)
    (sound : tables.Sound refs) (padded : Text.trim reference ≠ reference) :
    ({ UnitOfWork.empty with accounts := staged }).findAccount tables reference = none := by
  rw [UnitOfWork.findAccount]
  cases among : staged.find? fun other => other.reference = reference with
  | some double =>
      have isDouble : double.reference = reference := by simpa using List.find?_some among
      obtain ⟨-, -, trimmed, -⟩ := doubles double (List.mem_of_find?_eq_some among)
      rw [isDouble] at trimmed
      exact absurd trimmed padded
  | none =>
      cases stored : tables.accounts.get? reference with
      | none => rfl
      | some other =>
          have trimmed := sound.trimmed other (sound.accounts.mem_of_get? stored)
          rw [sound.accounts.name_of_get? stored] at trimmed
          exact absurd trimmed padded

private theorem Doubles.findAccount_of_plain (doubles : tables.Doubles staged)
    (ensured : tables.Ensured reference accountType account)
    (plain : Text.trim reference = reference) : ∃ found,
      ({ UnitOfWork.empty with accounts := staged }).findAccount tables reference = some found ∧
      Bank.isSystemAccount accountType found = true ∧ (staged = [] → found = account) := by
  have stored := ensured.found
  rw [account?, plain] at stored
  rw [UnitOfWork.findAccount]
  cases among : staged.find? fun other => other.reference = reference with
  | none => exact ⟨account, stored, ensured.suits, fun _ => rfl⟩
  | some double =>
      have isDouble : double.reference = reference := by simpa using List.find?_some among
      have member := List.mem_of_find?_eq_some among
      obtain ⟨other, isOther, -, suits⟩ := doubles double member
      rw [isDouble, ensured.found] at isOther
      rw [← Option.some.inj isOther, ensured.role.1] at suits
      exact ⟨double, rfl, suits, fun none => absurd member (by simp [none])⟩

private theorem Doubles.append (doubles : tables.Doubles staged)
    (ensured : tables.Ensured reference accountType account) (id : AccountId) (name : String)
    (createdAt : Instant) : tables.Doubles
      (staged ++ [⟨id, Text.trim reference, name, accountType, .system, createdAt⟩]) := by
  intro double member
  rcases List.mem_append.mp member with member | member
  · exact doubles double member
  · obtain rfl := List.mem_singleton.mp member
    refine ⟨account, ?_, Text.trim_trim reference, ?_⟩
    · rw [account?, Text.trim_trim]
      exact ensured.found
    · simp [Bank.isSystemAccount, ensured.role.1]

end Tables

def Text.padding (reference : String) : List String :=
  if trim reference = reference then [] else [trim reference]

namespace Bank

open DoubleEntry.Action

variable (surroundings : Surroundings) (busy : List AccountId) {refs : SystemRefs}
  {tables : Tables} {staged : List Account} {accounts : SystemAccounts}

private theorem yields_systemAccount_again (sound : tables.Sound refs) {reference : String}
    (name : String) {accountType : AccountType} {account : Account}
    (ensured : tables.Ensured reference accountType account)
    (nonblank : (Text.trim reference).isEmpty = false) (doubles : tables.Doubles staged)
    (issued ticks : Nat) : ∃ found staged' issued' ticks',
      (systemAccount reference name accountType).Yields surroundings busy
        ⟨tables, issued, ticks, { UnitOfWork.empty with accounts := staged }⟩ found
        ⟨tables, issued', ticks', { UnitOfWork.empty with accounts := staged' }⟩ ∧
      tables.Doubles staged' ∧
      staged'.map Account.reference =
        staged.map Account.reference ++ Text.padding reference ∧
      (staged = [] → Text.trim reference = reference → found = account) := by
  by_cases plain : Text.trim reference = reference
  · obtain ⟨found, isFound, suits, same⟩ := doubles.findAccount_of_plain ensured plain
    have located : tables.Located staged reference name accountType found staged [] [] :=
      .found isFound suits
    refine ⟨found, staged, _, _, yields_systemAccount located trivial trivial, doubles, ?_,
      fun none _ => same none⟩
    rw [Text.padding, if_pos plain, List.append_nil]
  · let created : Account := ⟨⟨surroundings.uuid issued⟩, Text.trim reference, name, accountType,
      .system, surroundings.clock ticks⟩
    have located : tables.Located staged reference name accountType created (staged ++ [created])
        [surroundings.uuid issued] [surroundings.clock ticks] := by
      refine .created (doubles.findAccount_of_padded sound plain) ?_
      rw [Account.create, nonblank]
      rfl
    refine ⟨created, staged ++ [created], _, _,
      yields_systemAccount located ⟨rfl, trivial⟩ ⟨rfl, trivial⟩, doubles.append ensured _ _ _, ?_,
      fun _ isPlain => absurd isPlain plain⟩
    rw [Text.padding, if_neg plain, List.map_append]
    rfl

def findSystemAccounts (refs : SystemRefs) : Action SystemAccounts := do
  let bankingReserve ← systemAccount refs.bankingReserve "Banking reserve" .asset
  let reservations ← systemAccount refs.reservations "Reservations" .liability
  let premiums ← systemAccount refs.premiums "Premiums" .liability
  return { bankingReserve, reservations, premiums }

private theorem loadSystemAccounts_eq (refs : SystemRefs) : loadSystemAccounts refs = (do
    openWork
    let found ← findSystemAccounts refs
    commit
    return found) := by
  simp only [loadSystemAccounts, findSystemAccounts, bind_assoc, pure_bind]

private theorem yields_findSystemAccounts_again (sound : tables.Sound refs)
    (ensures : tables.Ensures refs accounts)
    (nonblank : ∀ reference ∈ refs.all, (Text.trim reference).isEmpty = false)
    (issued ticks : Nat) : ∃ found staged issued' ticks',
      (findSystemAccounts refs).Yields surroundings busy ⟨tables, issued, ticks, .empty⟩ found
        ⟨tables, issued', ticks', { UnitOfWork.empty with accounts := staged }⟩ ∧
      tables.Doubles staged ∧ staged.map Account.reference = refs.all.flatMap Text.padding ∧
      (refs.padded? = none → found = accounts) := by
  simp only [SystemRefs.all, List.forall_mem_cons] at nonblank
  obtain ⟨reserve, staged₁, issued₁, ticks₁, first, doubles₁, references₁, same₁⟩ :=
    yields_systemAccount_again surroundings busy sound "Banking reserve" ensures.bankingReserve
      nonblank.1 tables.doubles_nil issued ticks
  obtain ⟨pool, staged₂, issued₂, ticks₂, second, doubles₂, references₂, same₂⟩ :=
    yields_systemAccount_again surroundings busy sound "Reservations" ensures.reservations
      nonblank.2.1 doubles₁ issued₁ ticks₁
  obtain ⟨premiums, staged₃, issued₃, ticks₃, third, doubles₃, references₃, same₃⟩ :=
    yields_systemAccount_again surroundings busy sound "Premiums" ensures.premiums
      nonblank.2.2.1 doubles₂ issued₂ ticks₂
  refine ⟨⟨reserve, pool, premiums⟩, staged₃, issued₃, ticks₃, ?_, doubles₃, ?_, ?_⟩
  · rw [findSystemAccounts]
    exact first.bind (second.bind (third.bind (yields_pure _ _)))
  · rw [references₃, references₂, references₁]
    simp [SystemRefs.all]
  · intro none
    have plain : ∀ reference ∈ refs.all, Text.trim reference = reference := by
      simpa [SystemRefs.padded?] using none
    simp only [SystemRefs.all, List.forall_mem_cons] at plain
    have none₁ : staged₁ = [] := by simpa [Text.padding, plain.1] using references₁
    have none₂ : staged₂ = [] := by simpa [Text.padding, plain.2.1, none₁] using references₂
    rw [same₁ rfl plain.1, same₂ none₁ plain.2.1, same₃ none₂ plain.2.2.1]

/-! ## All system accounts -/

private theorem padding_of_padded? {references : List String} {reference : String}
    (padded : (references.find? fun reference => Text.trim reference ≠ reference) =
      some reference) :
    ∃ rest, references.flatMap Text.padding = Text.trim reference :: rest := by
  induction references with
  | nil => cases padded
  | cons first others ih =>
      by_cases plain : Text.trim first = first
      · rw [List.find?_cons_of_neg (by simpa using plain)] at padded
        simpa [Text.padding, plain] using ih padded
      · rw [List.find?_cons_of_pos (by simpa using plain)] at padded
        cases padded
        exact ⟨_, by rw [List.flatMap_cons, Text.padding, if_neg plain]; rfl⟩

private theorem padding_of_plain {references : List String}
    (plain : (references.find? fun reference => Text.trim reference ≠ reference) = none) :
    references.flatMap Text.padding = [] := by
  simp only [List.find?_eq_none, decide_eq_true_eq, not_not] at plain
  simpa [Text.padding] using plain

private theorem yields_ensureSystemAccounts_again (sound : tables.Sound refs)
    (ensures : tables.Ensures refs accounts)
    (nonblank : ∀ reference ∈ refs.all, (Text.trim reference).isEmpty = false)
    (plain : refs.padded? = none) (issued ticks : Nat) : ∃ issued' ticks',
      (ensureSystemAccounts refs).Yields surroundings busy ⟨tables, issued, ticks, .empty⟩ accounts
        ⟨tables, issued', ticks', .empty⟩ := by
  obtain ⟨found, staged, issued', ticks', looksUp, -, references, same⟩ :=
    yields_findSystemAccounts_again surroundings busy sound ensures nonblank issued ticks
  rw [padding_of_plain plain, List.map_eq_nil_iff] at references
  subst references
  have acceptable : UnitOfWork.empty.Acceptable tables := {
    accounts_new := by simp [UnitOfWork.empty]
    references_nodup := .nil
    ledgers_fit := by simp [UnitOfWork.empty]
    reads_current := by simp [UnitOfWork.empty]
    postings_inside := by simp [UnitOfWork.empty]
    one_open := sound.tiles.countP_isOpen_le
    balances_fit := by simp [UnitOfWork.empty]
    reservations_fit := by simp [UnitOfWork.empty] }
  have unchanged : UnitOfWork.empty.publish tables = tables := by
    simp [UnitOfWork.publish, UnitOfWork.empty]
  refine ⟨issued', ticks', Yields.handleError _ ?_⟩
  rw [loadSystemAccounts_eq, ← same plain]
  refine yields_openWork.bind (looksUp.bind ?_)
  have commits : commit.Yields surroundings busy ⟨tables, issued', ticks', .empty⟩ ()
      ⟨UnitOfWork.empty.publish tables, issued', ticks', .empty⟩ := yields_commit acceptable
  rw [unchanged] at commits
  exact commits.bind (yields_pure _ _)

private theorem fails_loadSystemAccounts_again (sound : tables.Sound refs)
    (ensures : tables.Ensures refs accounts)
    (nonblank : ∀ reference ∈ refs.all, (Text.trim reference).isEmpty = false)
    {reference : String} (padded : refs.padded? = some reference) (work : UnitOfWork)
    (issued ticks : Nat) : ∃ issued' ticks',
      (loadSystemAccounts refs).Fails surroundings busy ⟨tables, issued, ticks, work⟩
        (.duplicateReference (Text.trim reference)) ⟨tables, issued', ticks', .empty⟩ := by
  obtain ⟨found, staged, issued', ticks', looksUp, doubles, references, -⟩ :=
    yields_findSystemAccounts_again surroundings busy sound ensures nonblank issued ticks
  obtain ⟨rest, paddings⟩ := padding_of_padded? padded
  rw [paddings, List.map_eq_cons_iff] at references
  obtain ⟨double, others, rfl, isReference, -⟩ := references
  have refused : UnitOfWork.checkAccounts tables [] (double :: others) =
      .error (.duplicateReference (Text.trim reference)) := by
    obtain ⟨stored, isStored, trimmed, -⟩ := doubles double List.mem_cons_self
    rw [Tables.account?, trimmed] at isStored
    rw [UnitOfWork.checkAccounts, Table.contains, isStored, isReference]
    rfl
  refine ⟨issued', ticks', ?_⟩
  rw [loadSystemAccounts_eq]
  exact yields_openWork.bind_fails (looksUp.bind_fails ((fails_commit refused).bind _))

private theorem fails_ensureSystemAccounts_again (sound : tables.Sound refs)
    (ensures : tables.Ensures refs accounts)
    (nonblank : ∀ reference ∈ refs.all, (Text.trim reference).isEmpty = false)
    {reference : String} (padded : refs.padded? = some reference) (issued ticks : Nat) :
    ∃ issued' ticks', (ensureSystemAccounts refs).Fails surroundings busy
      ⟨tables, issued, ticks, .empty⟩ (.duplicateReference (Text.trim reference))
      ⟨tables, issued', ticks', .empty⟩ := by
  obtain ⟨issued₁, ticks₁, first⟩ := fails_loadSystemAccounts_again surroundings busy sound ensures
    nonblank padded .empty issued ticks
  obtain ⟨issued₂, ticks₂, second⟩ := fails_loadSystemAccounts_again surroundings busy sound ensures
    nonblank padded .empty issued₁ ticks₁
  exact ⟨issued₂, ticks₂, first.handleError ((yields_record _).bind_fails second)⟩

end Bank

/-! ## Any later call -/

/-- What ensuring the system accounts comes to once they have been ensured. -/
def SystemRefs.again (refs : SystemRefs) (accounts : Bank.SystemAccounts) :
    Except LedgerError Outcome :=
  match refs.padded? with
  | none => .ok (.systemAccounts accounts)
  | some reference => .error (.duplicateReference (Text.trim reference))

namespace System

variable {surroundings : Surroundings} {settings : LedgerSettings} {system later : System}
  {accounts : Bank.SystemAccounts}

private theorem Equipped.nonblank
    (equipped : Equipped surroundings settings accounts system later) :
    ∀ reference ∈ settings.refs.all, (Text.trim reference).isEmpty = false := by
  obtain ⟨_, _, _, orderly⟩ := (equipped.reaches.reachable equipped.reachable).exists_orderly
  have stored {reference : String} {accountType : AccountType} {account : Account}
      (ensured : later.world.store.tables.Ensured reference accountType account) :
      (Text.trim reference).isEmpty = false := by
    rw [← equipped.sound.accounts.name_of_get? ensured.found]
    exact orderly.chronicle.accounts_nonblank account
      (equipped.sound.accounts.mem_of_get? ensured.found)
  simp only [SystemRefs.all, List.forall_mem_cons]
  exact ⟨stored equipped.ensures.bankingReserve, stored equipped.ensures.reservations,
    stored equipped.ensures.premiums, nofun⟩

/-- Whatever has happened since somebody was given the system accounts, ensuring them again changes
no table.  It gives the same accounts, unless a reference has blanks around it. -/
theorem Equipped.ensured_again (equipped : Equipped surroundings settings accounts system later) :
    (Operation.ensureSystemAccounts.run surroundings settings later.world).1 =
        settings.refs.again accounts ∧
      (Operation.ensureSystemAccounts.run surroundings settings later.world).2.store.tables =
        later.world.store.tables := by
  have sound := equipped.sound
  rw [SystemRefs.again]
  cases padded : settings.refs.padded? with
  | none =>
      obtain ⟨_, _, yields⟩ := Bank.yields_ensureSystemAccounts_again surroundings
        later.world.store.locks.held sound equipped.ensures equipped.nonblank padded
        later.world.issued later.world.ticks
      exact (yields.map (Operation.outcome .ensureSystemAccounts)).run
  | some reference =>
      obtain ⟨_, _, fails⟩ := Bank.fails_ensureSystemAccounts_again surroundings
        later.world.store.locks.held sound equipped.ensures equipped.nonblank padded
        later.world.issued later.world.ticks
      exact (fails.map (Operation.outcome .ensureSystemAccounts)).run

end System

theorem System.Equipped.ensured_again_padded : ∃ later,
    Equipped .counting .padded .standard (founding .padded) later ∧
    later.world.store.tables.accounts.values.map Account.reference =
      ["bank", "reservations", "premiums", "a"] ∧
    (Operation.ensureSystemAccounts.run .counting .padded later.world).1 =
      .error (.duplicateReference "bank") ∧
    (Operation.ensureSystemAccounts.run .counting .padded later.world).2.store.tables =
      later.world.store.tables := by
  let create : Operation := .createAccount "a" "a" .liability .current
  let started := (founding .padded).start (create.action .padded)
  have reaches : (founding .padded).Reaches .counting (Admission.any.Allowed .padded) started :=
    Reaches.refl.start (create.action .padded) ⟨create, trivial, rfl⟩
  have equipped : Equipped .counting .padded .standard (founding .padded) _ :=
    ⟨reachable_founding .padded, LedgerSettings.returned_padded,
      reaches.stepAll (List.replicate 10 1)⟩
  obtain ⟨answer, kept⟩ := equipped.ensured_again
  have again : LedgerSettings.padded.refs.again .standard =
      .error (.duplicateReference "bank") := by
    decide +kernel
  refine ⟨_, equipped, ?_, answer.trans again, kept⟩
  decide +kernel

/-- Right after the accounts have been ensured, they cannot be ensured again. -/
theorem System.Equipped.not_always_same : ¬ ∀ (settings : LedgerSettings)
    (accounts : Bank.SystemAccounts) (system later : System),
    Equipped .counting settings accounts system later →
      (Operation.ensureSystemAccounts.run .counting settings later.world).1 =
        .ok (.systemAccounts accounts) := by
  intro same
  have succeeds := same .padded .standard (founding .padded) (founding .padded)
    ⟨reachable_founding .padded, LedgerSettings.returned_padded, .refl⟩
  have fails : (Operation.ensureSystemAccounts.run .counting .padded
      (founding .padded).world).1.isOk = false := by
    decide +kernel
  rw [succeeds] at fails
  cases fails

end DoubleEntry
