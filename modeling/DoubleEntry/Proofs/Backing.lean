import DoubleEntry.Proofs.Lifetime
import DoubleEntry.Proofs.Service.Founding

/-!
# The pool backs the reservations

What is reserved goes into one account, the pool, and charges and releases are paid
out of it.  As long as no caller names the pool in a posting of its own, or has a balance
of it opened with another type, each commit leaves the pool and the reservations alone,
or moves into or out of the pool what one reservation has more or less left afterwards
(`Tables.Shifts`).  So all that was ever posted to the pool comes to what is left of all
reservations; and while closed periods stay closed, this is what the pool has in the open
ledger, wherever it was posted.
-/

namespace DoubleEntry

namespace Operation

/-- The references, trimmed, that a caller names in a posting without a reservation. -/
def named : Operation → List String
  | transfer payer payee _ => [Text.trim payer, Text.trim payee]
  | deposit reference _ | withdraw reference _ => [Text.trim reference]
  | _ => []

/-- If it is for a balance of this account that the operation asks, then with its type. -/
def AsksTruly (account : Account) : Operation → Prop
  | getOrCreateBalance asked _ => asked.id = account.id → asked.accountType = account.accountType
  | _ => True

end Operation

def Transaction.worth (transaction : Transaction) (account : AccountId) : Int :=
  ((transaction.entries.filter fun entry => entry.accountId = account).map Entry.units).sum

namespace Tables

def outstanding (tables : Tables) : Int :=
  (tables.reservations.values.map fun reservation => reservation.remaining.minorUnits).sum

def Liable (tables : Tables) (account : AccountId) : Prop :=
  ∀ ledger balance, tables.balances.get? ⟨ledger, account⟩ = some balance →
    balance.accountType = .liability

/-- Only the pool stands under its reference, and only the pool has its identifier. -/
structure IsPool (refs : SystemRefs) (tables : Tables) (pool : Account) : Prop where
  isLiability : pool.accountType = .liability
  refsApart : Text.trim refs.bankingReserve ≠ Text.trim refs.reservations
  here : ∀ account, tables.account? refs.reservations = some account → account = pool
  alone : ∀ reference account, tables.account? reference = some account →
    account.id = pool.id → Text.trim reference = Text.trim refs.reservations

inductive Shifts (tables : Tables) (pool : AccountId) (work : UnitOfWork) : Prop where
  | rests (transactions : ∀ transaction ∈ work.transactions, transaction.worth pool = 0)
      (reservations : work.reservations = ∅)
  | moves {transaction : Transaction} {reservation : Reservation}
      (transactions : work.transactions = [transaction])
      (reservations : work.reservations =
        (∅ : Table String Reservation).insert reservation.businessReference reservation)
      (consistent : reservation.Consistent)
      (worth : transaction.worth pool = reservation.remaining.minorUnits -
        Table.share (fun before => before.remaining.minorUnits)
          (tables.reservations.get? reservation.businessReference))

/-- All that was posted to the pool comes to what is left of the reservations. -/
structure Backs (pool : AccountId) (tables : Tables) : Prop where
  liable : tables.Liable pool
  consistent : ∀ name reservation, tables.reservations.get? name = some reservation →
    reservation.Consistent
  lifetime : tables.lifetime pool = tables.outstanding

variable {settings : LedgerSettings} {refs : SystemRefs} {tables before after : Tables}
  {asked : Account → Prop} {account pool : Account}

/-! ## Balances of the pool -/

theorem IsPool.eq_of_id (isPool : tables.IsPool refs pool) {reference : String}
    (found : tables.account? reference = some account) (same : account.id = pool.id) :
    account = pool := by
  have isReference := isPool.alone reference account found same
  rw [account?, isReference] at found
  exact isPool.here account found

private theorem IsPool.of_kept (isPool : after.IsPool refs pool)
    (kept : ∀ reference account, before.account? reference = some account →
      after.account? reference = some account) : before.IsPool refs pool where
  isLiability := isPool.isLiability
  refsApart := isPool.refsApart
  here account found := isPool.here account (kept _ _ found)
  alone reference account found := isPool.alone reference account (kept _ _ found)

private theorem Founded.isPool {bank : Account} (founded : tables.Founded refs bank pool)
    (sound : tables.Sound refs) (identified : tables.Identified) : tables.IsPool refs pool where
  isLiability := founded.isLiability
  refsApart := founded.refsApart
  here account found := Option.some.inj (found.symm.trans founded.pool_found)
  alone reference account found same := by
    have isPool : account = pool := identified account (sound.mem_of_account? found) pool
      (sound.mem_of_account? founded.pool_found) same
    rw [← sound.accounts.name_of_get? found, isPool,
      sound.accounts.name_of_get? founded.pool_found]

private theorem Liable.balanceIn (liable : tables.Liable account.id)
    (isLiability : account.accountType = .liability) (ledger : Ledger) :
    (tables.balanceIn account ledger).accountType = .liability := by
  cases found : tables.balances.get? ⟨ledger.id, account.id⟩ with
  | some balance =>
      rw [balanceIn_of_stored found]
      exact liable ledger.id balance found
  | none =>
      rw [balanceIn_of_missing found]
      exact isLiability

private theorem Booked.liable {id : AccountId} (booked : before.Booked settings asked after)
    (liable : before.Liable id)
    (isLiability : ∀ account, asked account ∨ account ∈ before.accounts.values →
      account.id = id → account.accountType = .liability) : after.Liable id := by
  intro ledger balance found
  rcases booked.arises found with found | ⟨account, known, _, _, _, same, rfl, _⟩
  · exact liable ledger balance found
  · obtain ⟨-, rfl⟩ := BalanceKey.mk.inj same
    exact liable.balanceIn (isLiability account known rfl) _

/-! ## Postings -/

private theorem lifetime_publish (work : UnitOfWork) (tables : Tables) (account : AccountId) :
    (work.publish tables).lifetime account =
      tables.lifetime account +
        (work.transactions.map fun transaction => transaction.worth account).sum := by
  rw [lifetime, lifetime, entries, entries, UnitOfWork.publish, List.flatMap_append,
    List.filter_append, List.map_append, List.sum_append]
  congr 1
  induction work.transactions with
  | nil => rfl
  | cons transaction rest ih =>
      rw [List.flatMap_cons, List.filter_append, List.map_append, List.sum_append, ih,
        List.map_cons, List.sum_cons, Transaction.worth]

section Posting

variable {payer payee : Account} {posting : Bank.Posting} {ids : PostingIds} {time : Instant}
  {transaction : Transaction} {balances : List Balance}

private theorem Posts.worth (sound : tables.Sound settings.refs) (apart : payer.id ≠ payee.id)
    (posts : tables.Posts settings payer payee posting ids time transaction balances)
    (account : AccountId) : ∃ ledger, transaction.worth account =
      (if payer.id = account then EntryType.debit.units
        (tables.balanceIn payer ledger).accountType posting.amount else 0) +
      (if payee.id = account then EntryType.credit.units
        (tables.balanceIn payee ledger).accountType posting.amount else 0) := by
  obtain ⟨ledger, _, _, debitedEnd, creditedEnd, _, settled⟩ := posts.settled sound apart
  have debits := settled.debitedEnd_eq
  have credits := settled.creditedEnd_eq
  refine ⟨ledger, ?_⟩
  rw [Transaction.worth, settled.sum_entries]
  simp only [Line.toEntry, debitLine, creditLine, sound.balanceIn_key, decide_eq_true_eq]
  split <;> split <;> omega

private theorem Posts.worth_others (sound : tables.Sound settings.refs)
    (apart : payer.id ≠ payee.id)
    (posts : tables.Posts settings payer payee posting ids time transaction balances)
    {account : AccountId} (notPayer : payer.id ≠ account) (notPayee : payee.id ≠ account) :
    transaction.worth account = 0 := by
  obtain ⟨ledger, worth⟩ := posts.worth sound apart account
  rw [worth, if_neg notPayer, if_neg notPayee, Int.add_zero]

private theorem Posts.worth_payer (sound : tables.Sound settings.refs) (apart : payer.id ≠ payee.id)
    (posts : tables.Posts settings payer payee posting ids time transaction balances)
    (liable : tables.Liable payer.id) (isLiability : payer.accountType = .liability) :
    transaction.worth payer.id = -posting.amount.minorUnits := by
  obtain ⟨ledger, worth⟩ := posts.worth sound apart payer.id
  rw [worth, if_pos rfl, if_neg apart.symm, liable.balanceIn isLiability, Int.add_zero]
  rfl

private theorem Posts.worth_payee (sound : tables.Sound settings.refs) (apart : payer.id ≠ payee.id)
    (posts : tables.Posts settings payer payee posting ids time transaction balances)
    (liable : tables.Liable payee.id) (isLiability : payee.accountType = .liability) :
    transaction.worth payee.id = posting.amount.minorUnits := by
  obtain ⟨ledger, worth⟩ := posts.worth sound apart payee.id
  rw [worth, if_neg apart, if_pos rfl, liable.balanceIn isLiability, Int.zero_add]
  rfl

end Posting

private theorem Shifts.backs {id : AccountId} {work : UnitOfWork} (shifts : tables.Shifts id work)
    (backs : tables.Backs id) (liable : (work.publish tables).Liable id) :
    (work.publish tables).Backs id := by
  cases shifts with
  | rests transactions reservations =>
      have same : (work.publish tables).reservations = tables.reservations := by
        simp [UnitOfWork.publish, reservations]
      have nothing : (work.transactions.map fun transaction => transaction.worth id).sum = 0 :=
        List.sum_eq_zero (by simpa using transactions)
      refine ⟨liable, ?_, ?_⟩
      · rw [same]
        exact backs.consistent
      · rw [lifetime_publish, nothing, outstanding, same, Int.add_zero]
        exact backs.lifetime
  | @moves transaction reservation transactions reservations consistent worth =>
      have inserted : (work.publish tables).reservations =
          tables.reservations.insert reservation.businessReference reservation.committed := by
        simp [UnitOfWork.publish, reservations]
      refine ⟨liable, ?_, ?_⟩
      · intro name stored found
        rw [inserted, Table.get?_insert] at found
        split at found
        · cases found
          exact consistent.committed
        · exact backs.consistent name stored found
      · have still : reservation.committed.remaining = reservation.remaining := rfl
        rw [lifetime_publish, outstanding, inserted, Table.sum_insert, still, backs.lifetime,
          transactions, outstanding]
        simp only [List.map_cons, List.map_nil, List.sum_cons, List.sum_nil, worth]
        omega

end Tables

/-! ## Commits -/

namespace Voucher

open Tables

variable {settings : LedgerSettings} {tables : Tables} {pool : Account} {operation : Operation}
  {work : UnitOfWork} {outcome : Outcome} {ids : List Uuid} {times : List Instant}

private theorem shifts (sound : tables.Sound settings.refs)
    (isPool : tables.IsPool settings.refs pool) (backs : tables.Backs pool.id)
    (voucher : Voucher settings tables operation work outcome ids times)
    (unnamed : Text.trim settings.refs.reservations ∉ operation.named) :
    tables.Shifts pool.id work := by
  have other {reference : String} {account : Account}
      (found : tables.account? reference = some account)
      (otherReference : Text.trim settings.refs.reservations ≠ Text.trim reference) :
      account.id ≠ pool.id := by
    intro same
    exact otherReference (isPool.alone reference account found same).symm
  induction voucher with
  | transfer isPayer isPayee apart posts =>
      simp only [Operation.named, List.mem_cons, List.not_mem_nil, or_false, not_or] at unnamed
      refine .rests ?_ rfl
      intro transaction member
      rw [List.mem_singleton.mp member]
      exact posts.worth_others sound apart (other isPayer unnamed.1) (other isPayee unnamed.2)
  | deposit _ ih =>
      apply ih
      simp_all [Operation.named, isPool.refsApart.symm]
  | withdraw _ ih =>
      apply ih
      simp_all [Operation.named, isPool.refsApart.symm]
  | reserve isPayer isPool' apart creates missing posts =>
      cases isPool.here _ isPool'
      have consistent := Reservation.create_consistent creates
      obtain ⟨-, rfl⟩ := Reservation.create_eq creates
      refine .moves rfl rfl consistent ?_
      rw [posts.worth_payee sound apart backs.liable isPool.isLiability, missing,
        consistent.remaining_eq rfl]
      simp [Table.share, Money.zero]
  | charge isBeneficiary isPool' apart found charges posts =>
      cases isPool.here _ isPool'
      have consistent := backs.consistent _ _ found
      have sameName := (Reservation.charge_eq_ok charges).1
      have name := sound.reservations.name_of_get? found
      refine .moves rfl rfl (consistent.charge charges).2.1 ?_
      rw [posts.worth_payer sound apart backs.liable isPool.isLiability, sameName, name, found,
        consistent.remaining_charge charges, Table.share]
      omega
  | release found isPayer isPool' apart releases left posts =>
      cases isPool.here _ isPool'
      have consistent := backs.consistent _ _ found
      have name := sound.reservations.name_of_get? found
      have spent := consistent.remaining_release releases left
      obtain ⟨-, rfl, consistent', -⟩ := consistent.release releases left
      refine .moves rfl rfl consistent' ?_
      rw [posts.worth_payer sound apart backs.liable isPool.isLiability, spent]
      simp only [name, found, Table.share]
      omega
  | _ => exact .rests (by simp [UnitOfWork.empty]) rfl

private theorem backs (sound : tables.Sound settings.refs)
    (isPool : tables.IsPool settings.refs pool) (backs : tables.Backs pool.id)
    (voucher : Voucher settings tables operation work outcome ids times)
    (unnamed : Text.trim settings.refs.reservations ∉ operation.named)
    (truly : operation.AsksTruly pool) : (work.publish tables).Backs pool.id := by
  have liable : (work.publish tables).Liable pool.id := by
    refine (voucher.booked sound).liable backs.liable ?_
    rintro account (asks | known) same
    · cases operation with
      | getOrCreateBalance asked _ =>
          cases asks
          exact (truly same).trans isPool.isLiability
      | _ => cases asks
    · rw [isPool.eq_of_id (sound.account?_of_mem known) same]
      exact isPool.isLiability
  exact (voucher.shifts sound isPool backs unnamed).backs backs liable

end Voucher

/-! ## Along a run -/

def Admission.sparing (refs : SystemRefs) (pool : Account) : Admission where
  admits _ operation :=
    Text.trim refs.reservations ∉ operation.named ∧ operation.AsksTruly pool
  lasts _ admitted := admitted

namespace Chronicle

variable {surroundings : Surroundings} {settings : LedgerSettings} {deeds : List Deed}
  {tables : Tables} {pool : Account}

private theorem backs
    (chronicle : Chronicle surroundings settings (.sparing settings.refs pool) deeds tables)
    (isPool : tables.IsPool settings.refs pool) : tables.Backs pool.id := by
  induction chronicle with
  | nothing => exact ⟨fun _ _ found => (nomatch found), fun _ _ found => (nomatch found), rfl⟩
  | deed deed voucher acceptable admitted chronicle ih =>
      have isPool := isPool.of_kept fun _ _ found =>
        UnitOfWork.publish_accounts_get? acceptable found
      exact voucher.backs chronicle.sound isPool (ih isPool) admitted.1 admitted.2

private theorem latest_eq_outstanding (closed : settings.allowClosedPeriodPosting = false)
    (chronicle : Chronicle surroundings settings (.sparing settings.refs pool) deeds tables)
    (isPool : tables.IsPool settings.refs pool) :
    (tables.latest pool.id).minorUnits = tables.outstanding := by
  have backs := (chronicle.backs isPool).lifetime
  have adds_up := chronicle.lifetime_eq pool.id
  have drained := (chronicle.seamless closed).drained_eq_zero pool.id
  omega

end Chronicle

/-- At every time of the open ledger the pool has exactly what is left of all reservations. -/
def World.Backed (surroundings : Surroundings) (settings : LedgerSettings) (world : World) :
    Prop :=
  ∀ ledger ∈ world.store.tables.ledgers.values, ledger.isOpen = true →
    ∀ time, ledger.covers time = true → ∃ amount,
      ((Bank.getBalance settings.refs.reservations time).run surroundings world).1 = .ok amount ∧
      amount.minorUnits = world.store.tables.outstanding

namespace Operation

/-- Once the system accounts are ensured, the pool backs the reservations, as long as callers leave
it alone. -/
theorem backed (surroundings : Surroundings) (settings : LedgerSettings)
    (operations : List Operation) {outcome : Outcome}
    (closed : settings.allowClosedPeriodPosting = false)
    (distinct : surroundings.Distinct (runAll surroundings settings operations .empty).2.issued)
    (ensured : (ensureSystemAccounts, .ok outcome) ∈
      transcript surroundings settings operations .empty)
    (unnamed : ∀ operation ∈ operations,
      Text.trim settings.refs.reservations ∉ operation.named)
    (truly : ∀ operation ∈ operations, ∀ pool,
      (runAll surroundings settings operations .empty).2.store.tables.account?
        settings.refs.reservations = some pool → operation.AsksTruly pool) :
    (runAll surroundings settings operations .empty).2.Backed surroundings settings := by
  obtain ⟨bank, pool, founded⟩ :=
    runAll_founded surroundings (Tables.sound_empty settings.refs) ensured
  obtain ⟨tasks, reachable⟩ := exists_reachable_runAll
    (.empty : System.Reachable surroundings
      ((Admission.sparing settings.refs pool).Allowed settings) ⟨.empty, []⟩) operations
    fun operation member _ => ⟨unnamed operation member,
      truly operation member pool founded.pool_found⟩
  obtain ⟨_, deeds, _, orderly⟩ := reachable.exists_orderly
  have chronicle := orderly.chronicle
  have sound := chronicle.sound
  have isPool := founded.isPool sound (chronicle.identified (orderly.ids_nodup distinct))
  intro ledger stored isOpen time covers
  refine ⟨_, Bank.getBalance_run_of_found sound founded.pool_found stored covers, ?_⟩
  rw [sound.endAmount_open stored isOpen]
  exact chronicle.latest_eq_outstanding closed isPool

private def ensuredAccounts : Bank.SystemAccounts :=
  let system (i : Nat) (reference name : String) (accountType : AccountType) : Account :=
    ⟨⟨⟨BitVec.ofNat 128 i⟩⟩, reference, name, accountType, .system, .epoch⟩
  ⟨system 0 "bank" "Banking reserve" .asset, system 1 "reservations" "Reservations" .liability,
    system 2 "premiums" "Premiums" .liability⟩

/-- Two amounts are reserved in the first period.  In the second one a part of the first amount is
charged, in the third one the rest of it is released; the other amount is still reserved. -/
theorem backed_rollovers : ∃ (operations : List Operation) (outcome : Outcome),
    Surroundings.counting.Distinct (runAll .counting .standard operations .empty).2.issued ∧
    (ensureSystemAccounts, .ok outcome) ∈ transcript .counting .standard operations .empty ∧
    (∀ result ∈ (runAll .counting .standard operations .empty).1, result.isOk = true) ∧
    (runAll .counting .standard operations .empty).2.store.tables.outstanding = 30 ∧
    (runAll .counting .standard operations .empty).2.Backed .counting .standard := by
  let instant (seconds : Fin 1000) : Instant := ⟨seconds, 0, by unfold Instant.firstSecond; omega,
    by unfold Instant.lastSecond; omega, by omega⟩
  let posting (units seconds : Fin 1000) : Bank.Posting :=
    ⟨⟨units, by omega, by omega⟩, "", instant seconds⟩
  let operations : List Operation := [.ensureSystemAccounts, .openFirstLedger (instant 0),
    .createAccount "a" "a" .liability .current, .deposit "a" (posting 100 0),
    .reserve "a" "r" (posting 60 0), .reserve "a" "s" (posting 30 50),
    .closePeriodAndOpenNext (instant 100), .charge "a" "r" (posting 20 150),
    .closePeriodAndOpenNext (instant 200), .release "r" "" (instant 250)]
  have distinct : Surroundings.counting.Distinct
      (runAll .counting .standard operations .empty).2.issued :=
    Surroundings.counting_distinct (by decide +kernel)
  have ensured : (ensureSystemAccounts, .ok (.systemAccounts ensuredAccounts)) ∈
      transcript .counting .standard operations .empty := by
    decide +kernel
  have unnamed : ∀ operation ∈ operations,
      Text.trim LedgerSettings.standard.refs.reservations ∉ operation.named := by
    decide +kernel
  have truly : ∀ operation ∈ operations, ∀ pool,
      (runAll .counting .standard operations .empty).2.store.tables.account?
        LedgerSettings.standard.refs.reservations = some pool → operation.AsksTruly pool := by
    simp [operations, AsksTruly]
  exact ⟨operations, _, distinct, ensured, by decide +kernel, by decide +kernel,
    backed .counting .standard operations rfl distinct ensured unnamed truly⟩

/-- Where a balance of the pool was opened as that of an asset, reserved money is taken from it. -/
theorem not_always_backed :
    ¬ ∀ (surroundings : Surroundings) (settings : LedgerSettings) (operations : List Operation)
      (outcome : Outcome), settings.allowClosedPeriodPosting = false →
      surroundings.Distinct (runAll surroundings settings operations .empty).2.issued →
      (ensureSystemAccounts, .ok outcome) ∈ transcript surroundings settings operations .empty →
      (∀ operation ∈ operations, Text.trim settings.refs.reservations ∉ operation.named) →
      (runAll surroundings settings operations .empty).2.Backed surroundings settings := by
  intro claimed
  let pool : Account := { ensuredAccounts.reservations with accountType := .asset }
  let operations : List Operation := [.ensureSystemAccounts, .openFirstLedger .epoch,
    .createAccount "a" "a" .liability .current,
    .deposit "a" ⟨⟨100, by decide, by decide⟩, "", .epoch⟩, .getOrCreateBalance pool .epoch,
    .reserve "a" "r" ⟨⟨60, by decide, by decide⟩, "", .epoch⟩]
  obtain ⟨amount, isAmount, backed⟩ := claimed .counting .standard operations
    (.systemAccounts ensuredAccounts) rfl (Surroundings.counting_distinct (by decide +kernel))
    (by decide +kernel) (by decide +kernel) ⟨⟨⟨3⟩⟩, "1970", .epoch, none, 1⟩ (by decide +kernel) rfl
    .epoch (by decide +kernel)
  have reserved :
      (runAll .counting .standard operations .empty).2.store.tables.outstanding = 60 := by
    decide +kernel
  have taken : ((Bank.getBalance LedgerSettings.standard.refs.reservations .epoch).run .counting
      (runAll .counting .standard operations .empty).2).1 = .ok ⟨-60, by decide, by decide⟩ := by
    decide +kernel
  cases isAmount.symm.trans taken
  cases backed.trans reserved

end Operation

end DoubleEntry
