import DoubleEntry.Proofs.Lifetime
import DoubleEntry.Proofs.Service.Replay

/-!
# The trial balance

At any instant that a ledger covers, what the bank answers for all assets comes to what
it answers for all liabilities.  Some of the answers are balances of that ledger and
others are carried over from different ledgers before it.  As balances carry over
without a gap, an account has after a row of ledgers what it has before the last of
them and what it moved there (`Seamless.heldAfter_concat`); so assets and liabilities
stay level from each ledger to the next (`Seamless.level`).
-/

namespace DoubleEntry

namespace Tables

def accountsOf (tables : Tables) (accountType : AccountType) : List Account :=
  tables.accounts.values.filter fun account => account.accountType = accountType

def total (tables : Tables) (amount : Account → Money) (accountType : AccountType) : Int :=
  ((tables.accountsOf accountType).map fun account => (amount account).minorUnits).sum

def Level (tables : Tables) (amount : Account → Money) : Prop :=
  tables.total amount .asset = tables.total amount .liability

end Tables

def World.InBalance (world : World) (surroundings : Surroundings) (time : Instant) : Prop :=
  ∃ amount : Account → Money,
    (∀ account ∈ world.store.tables.accounts.values,
      ((Bank.getBalance account.reference time).run surroundings world).1 =
        .ok (amount account)) ∧
    world.store.tables.Level amount

namespace Tables

variable {refs : SystemRefs} {tables : Tables}

/-! ## One ledger -/

private theorem sum_change_eq_moved (sound : tables.Sound refs) (owned : tables.Owned)
    (identified : tables.Identified) (id : LedgerId) (accountType : AccountType) :
    ((tables.accountsOf accountType).map fun account =>
      Table.share Balance.change (tables.balances.get? ⟨id, account.id⟩)).sum =
        tables.moved id accountType := by
  have accounts_nodup : (tables.accountsOf accountType).Nodup :=
    (sound.accounts.names_nodup.of_map Account.reference).filter _
  have keys_nodup : ((tables.accountsOf accountType).map fun account =>
      (⟨id, account.id⟩ : BalanceKey)).Nodup := by
    refine accounts_nodup.map_on fun account stored other stored' same => ?_
    exact identified account (List.mem_of_mem_filter stored) other (List.mem_of_mem_filter stored')
      (congrArg BalanceKey.accountId same)
  have shares := sound.balances.sum_share Balance.change keys_nodup
  rw [List.map_map] at shares
  refine shares.trans ?_
  rw [moved]
  congr 2
  apply List.filter_congr
  intro balance member
  obtain ⟨⟨owner, known, sameId, sameType, _⟩, _⟩ := owned _ _ (sound.balances.get?_name member)
  rw [decide_eq_decide, List.mem_map]
  constructor
  · rintro ⟨account, listed, isKey⟩
    obtain ⟨stored, isType⟩ := List.mem_filter.mp listed
    rw [← isKey] at sameId ⊢
    have isOwner := identified owner known account stored sameId
    exact ⟨rfl, by simpa [sameType, isOwner] using isType⟩
  · rintro ⟨inside, isType⟩
    refine ⟨owner, List.mem_filter.mpr ⟨known, by simp [← sameType, isType]⟩, ?_⟩
    rw [sameId, ← inside]

/-! ## From ledger to ledger -/

namespace Seamless

private theorem heldAfter_concat (seamless : tables.Seamless) (sound : tables.Sound refs)
    (account : AccountId) {ledgers : List Ledger} {ledger : Ledger}
    (row : ledgers ++ [ledger] <+: tables.ledgers.values) :
    (tables.heldAfter account (ledgers ++ [ledger])).minorUnits =
      (tables.heldAfter account ledgers).minorUnits +
        Table.share Balance.change (tables.balances.get? ⟨ledger.id, account⟩) := by
  have stored : ledger ∈ tables.ledgers.values := row.subset (by simp)
  have noGap : Table.share (tables.gap account ledger)
      (tables.balances.get? ⟨ledger.id, account⟩) = 0 := by
    cases found : tables.balances.get? ⟨ledger.id, account⟩ with
    | none => rfl
    | some balance => simp [Table.share, gap, seamless ledger stored account balance found]
  rw [heldAfter_concat_units sound account row, noGap, Int.add_zero]

/-- After any row of ledgers from the first one on, assets and liabilities are level. -/
private theorem level (seamless : tables.Seamless) (sound : tables.Sound refs)
    (owned : tables.Owned) (identified : tables.Identified)
    (balanced : ∀ id, tables.moved id .asset = tables.moved id .liability) {ledgers : List Ledger}
    (row : ledgers <+: tables.ledgers.values) :
    tables.Level fun account => tables.heldAfter account.id ledgers := by
  induction ledgers using List.reverseRecOn with
  | nil => simp [Level, total, heldAfter, Money.zero]
  | append_singleton ledgers ledger ih =>
      have before := ih ((List.prefix_append ledgers [ledger]).trans row)
      have grows (accountType : AccountType) :
          tables.total (fun account => tables.heldAfter account.id (ledgers ++ [ledger]))
              accountType =
            tables.total (fun account => tables.heldAfter account.id ledgers) accountType +
              tables.moved ledger.id accountType := by
        simp only [total, seamless.heldAfter_concat sound _ row]
        rw [List.sum_map_add, sum_change_eq_moved sound owned identified]
      rw [Level, grows, grows, before, balanced]

end Seamless

end Tables

/-- The trial balance is zero at every instant that is covered. -/
theorem Operation.Reached.in_balance {surroundings : Surroundings} {settings : LedgerSettings}
    {world : World} (reached : Operation.Reached surroundings settings world)
    (distinct : surroundings.Distinct world.issued)
    (closed : settings.allowClosedPeriodPosting = false) {ledger : Ledger}
    (stored : ledger ∈ world.store.tables.ledgers.values) {time : Instant}
    (covers : ledger.covers time) : world.InBalance surroundings time := by
  obtain ⟨deeds, chronicle, nodup⟩ := reached.exists_distinct_chronicle distinct
  have sound := chronicle.sound
  have level := (chronicle.seamless closed).level sound chronicle.owned
    (chronicle.identified nodup) chronicle.balanced
    (Tables.earlier_prefix_concat sound.tiles stored)
  refine ⟨_, fun account known => ?_, level⟩
  rw [Bank.getBalance_run sound known stored covers, Tables.balanceIn_endAmount]

theorem Operation.Reached.in_balance_second : ∃ (world : World) (ledger : Ledger) (time : Instant),
    Operation.Reachable .counting .standard world ∧
    Surroundings.counting.Distinct world.issued ∧
    LedgerSettings.standard.allowClosedPeriodPosting = false ∧
    ledger ∈ world.store.tables.ledgers.values ∧ ledger.covers time ∧
    (world.store.tables.accounts.values.map fun account =>
      (account.accountType, (((Bank.getBalance account.reference time).run .counting
        world).1.map Money.minorUnits).toOption)) =
      [(.asset, some 140), (.liability, some 0), (.liability, some 0), (.liability, some 100),
        (.liability, some 40)] ∧
    world.InBalance .counting time := by
  let second : Instant := ⟨100, 0, by decide, by decide, by decide⟩
  let third : Instant := ⟨200, 0, by decide, by decide, by decide⟩
  have start : Operation.Reachable .counting .standard .empty := .empty
  have reachable := start.runAll [.ensureSystemAccounts, .openFirstLedger .epoch,
    .createAccount "a" "a" .liability .current, .createAccount "b" "b" .liability .premium,
    .deposit "a" ⟨⟨100, by decide, by decide⟩, "", .epoch⟩, .closePeriodAndOpenNext second,
    .deposit "b" ⟨⟨40, by decide, by decide⟩, "", second⟩, .closePeriodAndOpenNext third,
    .withdraw "a" ⟨⟨30, by decide, by decide⟩, "", third⟩]
    (by simp [Operation.Admissible])
  refine ⟨_, ⟨⟨⟨9⟩⟩, "1970", second, some third, 2⟩, second, reachable, ?distinct, rfl, ?stored,
    ?covers, ?answers, Operation.Reached.in_balance (.inTurn reachable) ?distinct rfl ?stored
      ?covers⟩
  case distinct => exact Surroundings.counting_distinct (by decide +kernel)
  case stored => decide +kernel
  case covers => decide +kernel
  case answers => decide +kernel

end DoubleEntry
