import DoubleEntry.Proofs.Continuity
import DoubleEntry.Proofs.Program.Settling
import DoubleEntry.Proofs.Service.Endings
import DoubleEntry.Proofs.Service.Rejections

/-!
# Looking a balance up and opening it

An amount is looked up without a trace, and a balance is opened where there is none.
Both walk back through the ledgers, and both end with what the account has in the last
ledger that holds a balance of it.  `Walk` is that walk without a bound on its steps.
-/

namespace DoubleEntry

/-! ## Walking back -/

inductive Walk (previous : Ledger → Option Ledger) (held : LedgerId → Option Balance) :
    Ledger → Money → Prop where
  | begins {ledger : Ledger} (first : previous ledger = none) : Walk previous held ledger .zero
  | stops {ledger other : Ledger} {balance : Balance} (back : previous ledger = some other)
      (holds : held other.id = some balance) : Walk previous held ledger balance.endAmount
  | goesOn {ledger other : Ledger} {amount : Money} (back : previous ledger = some other)
      (missing : held other.id = none) (rest : Walk previous held other amount) :
      Walk previous held ledger amount

private theorem Walk.unique {previous : Ledger → Option Ledger} {held : LedgerId → Option Balance}
    {ledger : Ledger} {amount amount' : Money} (walk : Walk previous held ledger amount)
    (walk' : Walk previous held ledger amount') : amount = amount' := by
  induction walk with
  | begins first => cases walk' <;> simp_all
  | stops back holds => cases walk' <;> simp_all
  | goesOn back missing _ ih => cases walk' <;> simp_all

abbrev UnitOfWork.Walk (work : UnitOfWork) (tables : Tables) (account : AccountId) :
    Ledger → Money → Prop :=
  DoubleEntry.Walk (work.previousLedger tables) fun id => work.findBalance tables ⟨id, account⟩

private theorem UnitOfWork.previousLedger_early {work : UnitOfWork} {tables : Tables}
    {ledger other : Ledger} (found : work.previousLedger tables ledger = some other) :
    other.opensAt < ledger.opensAt := by
  have member := List.mem_of_getLast? found
  exact of_decide_eq_true (List.mem_filter.mp member).2

private theorem UnitOfWork.walk_track (work : UnitOfWork) (tables : Tables) (account : AccountId)
    (found : Option Ledger) :
    (work.track found).Walk tables account = work.Walk tables account := by
  cases found <;> rfl

namespace Bank

open DoubleEntry.Action

private theorem exists_walk_carriedFrom (surroundings : Surroundings) (world : World)
    (work : UnitOfWork)
    (account : AccountId) {steps : Nat} {ledger : Ledger} (enough : ledger.opensAt.rank ≤ steps) :
    ∃ amount work', work.Walk world.store.tables account ledger amount ∧
      (carriedFrom account steps ledger).exec surroundings world work =
        (.ok amount, world, work') := by
  induction steps generalizing ledger work with
  | zero =>
      refine ⟨.zero, work, .begins ?_, rfl⟩
      cases back : work.previousLedger world.store.tables ledger with
      | none => rfl
      | some other =>
          have early := UnitOfWork.previousLedger_early back
          rw [Instant.lt_def] at early
          omega
  | succ steps ih =>
      let read := work.track (work.previousLedger world.store.tables ledger)
      have stepped : (previousLedger ledger).exec surroundings world work =
          (.ok (work.previousLedger world.store.tables ledger), world, read) := rfl
      rw [carriedFrom, exec_bind _ stepped]
      cases back : work.previousLedger world.store.tables ledger with
      | none => exact ⟨.zero, read, .begins back, rfl⟩
      | some other =>
          have early := UnitOfWork.previousLedger_early back
          have looked : (findBalance ⟨other.id, account⟩).exec surroundings world read =
              (.ok (read.findBalance world.store.tables ⟨other.id, account⟩), world, read) := rfl
          have same : read.Walk world.store.tables account =
              work.Walk world.store.tables account := UnitOfWork.walk_track ..
          have unread : read.findBalance world.store.tables ⟨other.id, account⟩ =
              work.findBalance world.store.tables ⟨other.id, account⟩ := by
            cases found : work.previousLedger world.store.tables ledger <;>
              simp only [read, found] <;> rfl
          rw [exec_bind _ looked, unread]
          cases holds : work.findBalance world.store.tables ⟨other.id, account⟩ with
          | some balance => exact ⟨balance.endAmount, read, .stops back holds, rfl⟩
          | none =>
              have nearer : other.opensAt.rank ≤ steps := by
                rw [Instant.lt_def] at early
                omega
              obtain ⟨amount, work', walk, executed⟩ := ih read nearer
              rw [same] at walk
              exact ⟨amount, work', .goesOn back holds walk, executed⟩

end Bank

/-! ## What an account has -/

namespace Tables

def UpTo (tables : Tables) (ledger other : Ledger) : Prop :=
  other ∈ tables.ledgers.values ∧ (other = ledger ∨ other.opensAt < ledger.opensAt)

/-- An account has in a ledger what the latest of this ledger and those before it says that holds a
balance of it, and nothing if none does. -/
inductive Has (tables : Tables) (account : AccountId) (ledger : Ledger) : Money → Prop where
  | latest {last : Ledger} {balance : Balance} (upTo : tables.UpTo ledger last)
      (holds : tables.balances.get? ⟨last.id, account⟩ = some balance)
      (latest : ∀ other, tables.UpTo ledger other →
        tables.balances.get? ⟨other.id, account⟩ ≠ none → other.opensAt ≤ last.opensAt) :
      Has tables account ledger balance.endAmount
  | nothing (none : ∀ other, tables.UpTo ledger other →
        tables.balances.get? ⟨other.id, account⟩ = none) :
      Has tables account ledger .zero

private theorem has_balanceIn {tables : Tables} (tiles : Tiles tables.ledgers.values)
    {ledger : Ledger} (stored : ledger ∈ tables.ledgers.values) (account : Account) :
    tables.Has account.id ledger (tables.balanceIn account ledger).endAmount := by
  cases found : tables.balances.get? ⟨ledger.id, account.id⟩ with
  | some balance =>
      rw [balanceIn_of_stored found]
      refine .latest ⟨stored, .inl rfl⟩ found fun other upTo _ => ?_
      rcases upTo.2 with rfl | early
      · exact Nat.le_refl _
      · exact Nat.le_of_lt early
  | none =>
      rw [balanceIn_of_missing found]
      rcases carried_cases tiles account.id ledger.opensAt with
        ⟨last, balance, latest, carries⟩ | ⟨none, carries⟩
      · show tables.Has account.id ledger (tables.carried account.id ledger.opensAt)
        rw [carries]
        refine .latest ⟨latest.stored, .inr latest.early⟩ latest.holds fun other upTo present => ?_
        rcases upTo.2 with rfl | early
        · exact absurd found present
        · exact latest.last other upTo.1 early present
      · show tables.Has account.id ledger (tables.carried account.id ledger.opensAt)
        rw [carries]
        refine .nothing fun other upTo => ?_
        rcases upTo.2 with rfl | early
        · exact found
        · exact none other upTo.1 early

end Tables

/-! ## Opening a balance -/

namespace Bank

open DoubleEntry.Action

variable {surroundings : Surroundings} {refs : SystemRefs} {tables : Tables} {issued ticks : Nat}

private theorem yields_getOrCreateBalance_stored (sound : tables.Sound refs) {account : Account}
    {time : Instant} {ledger : Ledger} {balance : Balance}
    (stored : ledger ∈ tables.ledgers.values) (covers : ledger.covers time = true)
    (found : tables.balances.get? ⟨ledger.id, account.id⟩ = some balance) :
    (getOrCreateBalance account time).Yields surroundings [] ⟨tables, issued, ticks, .empty⟩ balance
      ⟨tables, issued, ticks, .empty⟩ := by
  rw [getOrCreateBalance]
  refine yields_openWork.bind ?_
  refine (yields_lockAccounts (by simp)).bind ?_
  refine (yields_requireLedgerAt sound stored covers).bind ?_
  refine (yields_findBalance ⟨ledger.id, account.id⟩).bind ?_
  have answer : UnitOfWork.empty.findBalance tables ⟨ledger.id, account.id⟩ = some balance := found
  simp only [answer]
  exact yields_pure _ _

private theorem fails_getOrCreateBalance (sound : tables.Sound refs) (account : Account)
    {time : Instant} (uncovered : ∀ ledger ∈ tables.ledgers.values, ledger.covers time = false) :
    (getOrCreateBalance account time).Fails surroundings [] ⟨tables, issued, ticks, .empty⟩
      (.noLedgerForInstant time) ⟨tables, issued, ticks, .empty⟩ := by
  rw [getOrCreateBalance]
  refine yields_openWork.bind_fails ?_
  refine (yields_lockAccounts (by simp)).bind_fails ?_
  exact (fails_requireLedgerAt sound uncovered).bind _

private theorem fails_getBalance (sound : tables.Sound refs) {busy : List AccountId}
    {reference : String}
    {account : Account} {time : Instant} (found : tables.account? reference = some account)
    (uncovered : ∀ ledger ∈ tables.ledgers.values, ledger.covers time = false) :
    (getBalance reference time).Fails surroundings busy ⟨tables, issued, ticks, .empty⟩
      (.noLedgerForInstant time) ⟨tables, issued, ticks, .empty⟩ := by
  rw [getBalance]
  refine yields_openWork.bind_fails ?_
  refine (yields_requireAccount found).bind_fails ?_
  exact (fails_requireLedgerAt sound uncovered).bind _

end Bank

/-! ## Both side by side -/

/-- What comes of looking an amount up (`looked`), of opening the balance (`opened`), and of opening
it once more (`again`). -/
structure Consulted (tables : Tables) (account : Account) (time : Instant)
    (looked opened again : Except LedgerError Outcome × World) : Prop where
  looked_tables : looked.2.store.tables = tables
  agree :
    ((∀ ledger ∈ tables.ledgers.values, ledger.covers time = false) ∧
      looked.1 = .error (.noLedgerForInstant time) ∧ opened.1 = .error (.noLedgerForInstant time) ∧
      opened.2.store.tables = tables) ∨
    ∃ ledger ∈ tables.ledgers.values, ∃ balance, ledger.covers time = true ∧
      looked.1 = .ok (.amount balance.endAmount) ∧ opened.1 = .ok (.balance balance) ∧
      tables.Has account.id ledger balance.endAmount ∧ balance.key = ⟨ledger.id, account.id⟩ ∧
      opened.2.store.tables.balances.get? balance.key = some balance
  again_result : again.1 = opened.1
  again_tables : again.2.store.tables = opened.2.store.tables

namespace Operation

variable (surroundings : Surroundings) {settings : LedgerSettings} {world : World}
  {account : Account} {ledger : Ledger} {time : Instant}

theorem run_getBalance (sound : world.store.tables.Sound settings.refs)
    (known : account ∈ world.store.tables.accounts.values)
    (stored : ledger ∈ world.store.tables.ledgers.values) (covers : ledger.covers time = true) :
    ((getBalance account.reference time).run surroundings settings world).1 =
        .ok (.amount (world.store.tables.balanceIn account ledger).endAmount) ∧
      ((getBalance account.reference time).run surroundings settings world).2.store.tables =
        world.store.tables :=
  ((Bank.yields_getBalance sound (sound.account?_of_mem known) stored covers).map _).run

private theorem run_getBalance_uncovered (sound : world.store.tables.Sound settings.refs)
    (known : account ∈ world.store.tables.accounts.values)
    (uncovered : ∀ ledger ∈ world.store.tables.ledgers.values, ledger.covers time = false) :
    ((getBalance account.reference time).run surroundings settings world).1 =
        .error (.noLedgerForInstant time) ∧
      ((getBalance account.reference time).run surroundings settings world).2.store.tables =
        world.store.tables :=
  ((Bank.fails_getBalance sound (sound.account?_of_mem known) uncovered).map _).run

private theorem run_getOrCreateBalance_stored (sound : world.store.tables.Sound settings.refs)
    (free : world.store.locks.held = []) {balance : Balance}
    (stored : ledger ∈ world.store.tables.ledgers.values) (covers : ledger.covers time = true)
    (found : world.store.tables.balances.get? ⟨ledger.id, account.id⟩ = some balance) :
    ((getOrCreateBalance account time).run surroundings settings world).1 =
        .ok (.balance balance) ∧
      ((getOrCreateBalance account time).run surroundings settings world).2.store.tables =
        world.store.tables :=
  ((Bank.yields_getOrCreateBalance_stored sound stored covers found).map _).run_of_free free

private theorem run_getOrCreateBalance_missing (sound : world.store.tables.Sound settings.refs)
    (free : world.store.locks.held = [])
    (stored : ledger ∈ world.store.tables.ledgers.values) (covers : ledger.covers time = true)
    (missing : world.store.tables.balances.get? ⟨ledger.id, account.id⟩ = none) :
    ((getOrCreateBalance account time).run surroundings settings world).1 =
        .ok (.balance (world.store.tables.balanceIn account ledger).committed) ∧
      ((getOrCreateBalance account time).run surroundings settings world).2.store.tables =
        ({ UnitOfWork.empty with
          balances := stagedBalances [world.store.tables.balanceIn account ledger] }).publish
            world.store.tables :=
  have acceptable := (sound.current_of_opening account ledger).acceptable rfl rfl rfl
  ((Bank.yields_getOrCreateBalance sound stored covers missing acceptable).map _).run_of_free free

private theorem run_getOrCreateBalance_uncovered (sound : world.store.tables.Sound settings.refs)
    (free : world.store.locks.held = []) (account : Account)
    (uncovered : ∀ ledger ∈ world.store.tables.ledgers.values, ledger.covers time = false) :
    ((getOrCreateBalance account time).run surroundings settings world).1 =
        .error (.noLedgerForInstant time) ∧
      ((getOrCreateBalance account time).run surroundings settings world).2.store.tables =
        world.store.tables :=
  ((Bank.fails_getOrCreateBalance sound account uncovered).map _).run_of_free free

private theorem exists_opened (sound : world.store.tables.Sound settings.refs)
    (free : world.store.locks.held = []) (account : Account)
    (stored : ledger ∈ world.store.tables.ledgers.values) (covers : ledger.covers time = true) :
    ∃ balance,
      ((getOrCreateBalance account time).run surroundings settings world).1 =
        .ok (.balance balance) ∧
      balance.key = ⟨ledger.id, account.id⟩ ∧
      balance.endAmount = (world.store.tables.balanceIn account ledger).endAmount ∧
      ((getOrCreateBalance account time).run surroundings settings
        world).2.store.tables.balances.get? ⟨ledger.id, account.id⟩ = some balance ∧
      ((getOrCreateBalance account time).run surroundings settings world).2.store.tables.ledgers =
        world.store.tables.ledgers := by
  have key := sound.balanceIn_key account ledger
  cases found : world.store.tables.balances.get? ⟨ledger.id, account.id⟩ with
  | some balance =>
      obtain ⟨result, kept⟩ :=
        run_getOrCreateBalance_stored surroundings sound free stored covers found
      rw [Tables.balanceIn_of_stored found] at key ⊢
      exact ⟨balance, result, key, rfl, by rw [kept, found], by rw [kept]⟩
  | none =>
      obtain ⟨result, published⟩ :=
        run_getOrCreateBalance_missing surroundings sound free stored covers found
      refine ⟨_, result, key, rfl, ?_, by rw [published]; rfl⟩
      rw [published]
      show (world.store.tables.balances.insert _ _).get? _ = _
      rw [key, Table.get?_insert, if_pos rfl]

private theorem consulted (sound : world.store.tables.Sound settings.refs)
    (free : world.store.locks.held = []) (known : account ∈ world.store.tables.accounts.values)
    (time : Instant) :
    Consulted world.store.tables account time
      ((getBalance account.reference time).run surroundings settings world)
      ((getOrCreateBalance account time).run surroundings settings world)
      ((getOrCreateBalance account time).run surroundings settings
        ((getOrCreateBalance account time).run surroundings settings world).2) := by
  have sound' := (run_ran surroundings sound (getOrCreateBalance account time)).sound sound
  have free' : ((getOrCreateBalance account time).run surroundings settings
      world).2.store.locks.held = [] := by
    rw [← free, ← world.heldByOthers_empty]
    exact Action.runFrom_held ..
  by_cases uncovered : ∀ ledger ∈ world.store.tables.ledgers.values, ledger.covers time = false
  · have looks := run_getBalance_uncovered surroundings sound known uncovered
    have opens := run_getOrCreateBalance_uncovered surroundings sound free account uncovered
    generalize (getOrCreateBalance account time).run surroundings settings world = opened
      at sound' free' opens ⊢
    rw [← opens.2] at uncovered
    have again := run_getOrCreateBalance_uncovered surroundings sound' free' account uncovered
    rw [opens.2] at uncovered
    exact ⟨looks.2, .inl ⟨uncovered, looks.1, opens.1, opens.2⟩, again.1.trans opens.1.symm,
      again.2⟩
  · simp only [not_forall, Bool.not_eq_false] at uncovered
    obtain ⟨ledger, stored, covers⟩ := uncovered
    have looks := run_getBalance surroundings sound known stored covers
    have has := Tables.has_balanceIn sound.tiles stored account
    obtain ⟨balance, result, key, same, found, ledgers⟩ :=
      exists_opened surroundings sound free account stored covers
    generalize (getOrCreateBalance account time).run surroundings settings world = opened
      at sound' free' result found ledgers ⊢
    have again := run_getOrCreateBalance_stored surroundings sound' free' (by rwa [ledgers]) covers
      found
    rw [← same] at has looks
    exact ⟨looks.2, .inr ⟨ledger, stored, balance, covers, looks.1, result, has, key, key ▸ found⟩,
      again.1.trans result.symm, again.2⟩

end Operation

/-- Where nobody holds a lock, looking up the balance of a stored account and opening it agree, and
every walk through whatever ledgers comes to its end. -/
theorem System.Reachable.lookups_agree {surroundings : Surroundings} {settings : LedgerSettings}
    {world : World} {tasks : List Task}
    (reachable : System.Reachable surroundings (Admission.any.Allowed settings) ⟨world, tasks⟩)
    (free : world.store.locks.held = []) {account : Account}
    (known : account ∈ world.store.tables.accounts.values) (time : Instant) :
    Consulted world.store.tables account time
      ((Operation.getBalance account.reference time).run surroundings settings world)
      ((Operation.getOrCreateBalance account time).run surroundings settings world)
      ((Operation.getOrCreateBalance account time).run surroundings settings
        ((Operation.getOrCreateBalance account time).run surroundings settings world).2) ∧
    ∀ (any : World) (work : UnitOfWork) (id : AccountId) (ledger : Ledger), ∃ amount work',
      work.Walk any.store.tables id ledger amount ∧
      (∀ other, work.Walk any.store.tables id ledger other → other = amount) ∧
      (Bank.carriedAmount id ledger).exec surroundings any work = (.ok amount, any, work') := by
  refine ⟨Operation.consulted surroundings reachable.sound free known time, ?_⟩
  intro any work id ledger
  obtain ⟨amount, work', walk, executed⟩ :=
    Bank.exists_walk_carriedFrom surroundings any work id (Nat.le_refl ledger.opensAt.rank)
  exact ⟨amount, work', walk, fun other walk' => walk'.unique walk, executed⟩

/-- The account skipped the second of three periods; looked up and opened in the third one, it has
what the first one left. -/
theorem System.Reachable.lookups_agree_skipped : ∃ (world : World) (account : Account)
    (time : Instant),
    (∃ tasks, System.Reachable .counting (Admission.any.Allowed .standard) ⟨world, tasks⟩) ∧
    world.store.locks.held = [] ∧ account ∈ world.store.tables.accounts.values ∧
    world.store.tables.ledgers.values.length = 3 ∧
    world.store.tables.balances.values.length = 2 ∧
    ((Operation.getBalance account.reference time).run .counting .standard world).1 =
      .ok (.amount ⟨100, by decide, by decide⟩) ∧
    Consulted world.store.tables account time
      ((Operation.getBalance account.reference time).run .counting .standard world)
      ((Operation.getOrCreateBalance account time).run .counting .standard world)
      ((Operation.getOrCreateBalance account time).run .counting .standard
        ((Operation.getOrCreateBalance account time).run .counting .standard world).2) := by
  let account : Account := ⟨⟨⟨4⟩⟩, "a", "a", .liability, .current, .epoch⟩
  have start : System.Reachable .counting (Admission.any.Allowed .standard) ⟨.empty, []⟩ := .empty
  obtain ⟨tasks, reachable⟩ := Operation.exists_reachable_runAll start [.ensureSystemAccounts,
    .openFirstLedger .epoch, .createAccount "a" "a" .liability .current,
    .deposit "a" ⟨⟨100, by decide, by decide⟩, "", .epoch⟩,
    .closePeriodAndOpenNext ⟨100, 0, by decide, by decide, by decide⟩,
    .closePeriodAndOpenNext ⟨200, 0, by decide, by decide, by decide⟩] fun _ _ _ => trivial
  refine ⟨_, account, ⟨250, 0, by decide, by decide, by decide⟩, ⟨tasks, reachable⟩, ?free, ?known,
    ?ledgers, ?balances, ?looked, (System.Reachable.lookups_agree reachable ?free ?known _).1⟩
  case free => decide +kernel
  case known => decide +kernel
  case ledgers => decide +kernel
  case balances => decide +kernel
  case looked => decide +kernel

end DoubleEntry
