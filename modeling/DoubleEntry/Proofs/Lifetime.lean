import DoubleEntry.Proofs.Overdraft
import DoubleEntry.Proofs.Reconciliation
import DoubleEntry.Proofs.Service.Seamless

/-!
# What an account moved in its lifetime

The money of an account is spread over one balance for each period.  All entries
against it together come to what it has after the last period, less what is drained:
the amounts by which its balances start above what it has in the periods before.
Nothing is drained while closed periods stay closed, so a protected account spends
no more than it receives.  Postings into closed periods can drain an account, as what
was carried over is not carried back.
-/

namespace DoubleEntry

namespace Tables

def lifetime (tables : Tables) (account : AccountId) : Int :=
  ((tables.entries.filter fun entry => entry.accountId = account).map Entry.units).sum

def latest (tables : Tables) (account : AccountId) : Money :=
  tables.heldAfter account tables.ledgers.values

/-- By how much a balance starts above what its account has in the ledgers before. -/
def gap (tables : Tables) (account : AccountId) (ledger : Ledger) (balance : Balance) : Int :=
  balance.startAmount.minorUnits - (tables.carried account ledger.opensAt).minorUnits

def drained (tables : Tables) (account : AccountId) : Int :=
  (tables.ledgers.values.map fun ledger =>
    Table.share (tables.gap account ledger) (tables.balances.get? ⟨ledger.id, account⟩)).sum

def Undrained (tables : Tables) (account : AccountId) : Prop :=
  ∀ ledger ∈ tables.ledgers.values, ∀ balance,
    tables.balances.get? ⟨ledger.id, account⟩ = some balance →
      balance.startAmount.minorUnits ≤ (tables.carried account ledger.opensAt).minorUnits

variable {refs : SystemRefs} {tables : Tables}

/-! ## Over all ledgers -/

private theorem sum_entry {ids : List LedgerId} (nodup : ids.Nodup) {entry : Entry}
    (inside : entry.balance.ledgerId ∈ ids) (wellFormed : entry.WellFormed) (account : AccountId) :
    (ids.map fun id => if entry.balance = ⟨id, account⟩ then entry.units else 0).sum =
      if entry.accountId = account then entry.units else 0 := by
  by_cases isAccount : entry.accountId = account
  · have key : ∀ id, entry.balance = ⟨id, account⟩ ↔ id = entry.balance.ledgerId := by
      intro id
      rw [← isAccount, wellFormed.account]
      exact ⟨fun same => by rw [same], fun same => by rw [same]⟩
    simp only [key, isAccount, if_true]
    rw [List.sum_map_ite_eq, List.count_eq_one_of_mem nodup inside]
    simp
  · have other : ∀ id, entry.balance ≠ ⟨id, account⟩ := by
      intro id same
      rw [wellFormed.account, same] at isAccount
      exact isAccount rfl
    simp [other, isAccount]

private theorem sum_entries {ids : List LedgerId} (nodup : ids.Nodup) {entries : List Entry}
    (inside : ∀ entry ∈ entries, entry.balance.ledgerId ∈ ids)
    (wellFormed : ∀ entry ∈ entries, entry.WellFormed) (account : AccountId) :
    (ids.map fun id =>
        ((entries.filter fun entry => entry.balance = ⟨id, account⟩).map Entry.units).sum).sum =
      ((entries.filter fun entry => entry.accountId = account).map Entry.units).sum := by
  have counted : ∀ (passes : Entry → Bool) (entry : Entry) (rest : List Entry),
      (((entry :: rest).filter passes).map Entry.units).sum =
        (if passes entry = true then entry.units else 0) +
          ((rest.filter passes).map Entry.units).sum := by
    intro passes entry rest
    rw [List.filter_cons]
    split <;> simp
  induction entries with
  | nil => simp
  | cons entry rest ih =>
      simp only [counted, decide_eq_true_eq]
      rw [List.sum_map_add, ih (fun other member => inside other (List.mem_cons_of_mem _ member))
          (fun other member => wellFormed other (List.mem_cons_of_mem _ member)),
        sum_entry nodup (inside entry List.mem_cons_self) (wellFormed entry List.mem_cons_self)]

/-- What is held after one more ledger: what was held before, what moved, and the gap. -/
theorem heldAfter_concat_units (sound : tables.Sound refs) (account : AccountId)
    {ledgers : List Ledger} {ledger : Ledger}
    (row : ledgers ++ [ledger] <+: tables.ledgers.values) :
    (tables.heldAfter account (ledgers ++ [ledger])).minorUnits =
      (tables.heldAfter account ledgers).minorUnits +
        Table.share Balance.change (tables.balances.get? ⟨ledger.id, account⟩) +
        Table.share (tables.gap account ledger) (tables.balances.get? ⟨ledger.id, account⟩) := by
  obtain ⟨later, split⟩ := row
  rw [List.append_assoc, List.singleton_append] at split
  have before : tables.carried account ledger.opensAt = tables.heldAfter account ledgers := by
    rw [carried, earlier_of_split sound.tiles split.symm]
  rw [heldAfter_concat]
  cases tables.balances.get? ⟨ledger.id, account⟩ with
  | none => simp [Table.share]
  | some balance =>
      simp only [Table.share, Balance.change, gap, before]
      omega

private theorem sum_change (sound : tables.Sound refs) (account : AccountId) {ledgers : List Ledger}
    (row : ledgers <+: tables.ledgers.values) :
    (ledgers.map fun ledger =>
        Table.share Balance.change (tables.balances.get? ⟨ledger.id, account⟩)).sum =
      (tables.heldAfter account ledgers).minorUnits - (ledgers.map fun ledger =>
        Table.share (tables.gap account ledger)
          (tables.balances.get? ⟨ledger.id, account⟩)).sum := by
  induction ledgers using List.reverseRecOn with
  | nil => rfl
  | append_singleton ledgers last ih =>
      have ih := ih ((List.prefix_append ledgers [last]).trans row)
      rw [heldAfter_concat_units sound account row]
      simp only [List.map_append, List.sum_append, List.map_cons, List.map_nil, List.sum_cons,
        List.sum_nil, ih]
      omega

theorem Sound.endAmount_open (sound : tables.Sound refs) {ledger : Ledger}
    (stored : ledger ∈ tables.ledgers.values) (isOpen : ledger.isOpen = true) (account : Account) :
    (tables.balanceIn account ledger).endAmount = tables.latest account.id := by
  obtain ⟨others, shape⟩ := sound.tiles.append_of_open stored isOpen
  rw [balanceIn_endAmount, latest, earlier_of_split sound.tiles shape, shape]

private theorem Undrained.drained_nonpos {account : AccountId}
    (undrained : tables.Undrained account) : tables.drained account ≤ 0 := by
  have each : ∀ ledger ∈ tables.ledgers.values, Table.share (tables.gap account ledger)
      (tables.balances.get? ⟨ledger.id, account⟩) ≤ 0 := by
    intro ledger stored
    cases found : tables.balances.get? ⟨ledger.id, account⟩ with
    | none => exact Int.le_refl 0
    | some balance =>
        have starts := undrained ledger stored balance found
        rw [Table.share, gap]
        omega
  calc tables.drained account
      ≤ (tables.ledgers.values.map fun _ => 0).sum := List.sum_le_sum each
    _ = 0 := by simp

private theorem Seamless.undrained (seamless : tables.Seamless) (account : AccountId) :
    tables.Undrained account := by
  intro ledger stored balance found
  rw [seamless ledger stored account balance found]

theorem Seamless.drained_eq_zero (seamless : tables.Seamless) (account : AccountId) :
    tables.drained account = 0 := by
  rw [drained]
  apply List.sum_eq_zero
  intro gap member
  obtain ⟨ledger, stored, rfl⟩ := List.mem_map.mp member
  cases found : tables.balances.get? ⟨ledger.id, account⟩ with
  | none => rfl
  | some balance =>
      rw [Table.share, Tables.gap, seamless ledger stored account balance found, Int.sub_self]

end Tables

/-! ## Along a run -/

namespace Chronicle

variable {surroundings : Surroundings} {settings : LedgerSettings} {admission : Admission}
  {deeds : List Deed} {tables : Tables}

private theorem entry_inside (chronicle : Chronicle surroundings settings admission deeds tables) :
    ∀ entry ∈ tables.entries, entry.balance.ledgerId ∈ tables.ledgers.values.map Ledger.id := by
  intro entry member
  obtain ⟨transaction, posted, among⟩ := List.mem_flatMap.mp member
  obtain ⟨balance, found, _, _⟩ := chronicle.homed transaction posted entry among
  obtain ⟨ledger, stored, sameId⟩ := chronicle.housed _ _ found
  exact List.mem_map.mpr ⟨ledger, stored, sameId⟩

theorem lifetime_eq (chronicle : Chronicle surroundings settings admission deeds tables)
    (account : AccountId) :
    tables.lifetime account = (tables.latest account).minorUnits - tables.drained account := by
  have sound := chronicle.sound
  calc tables.lifetime account
      = ((tables.ledgers.values.map Ledger.id).map fun id => tables.posted ⟨id, account⟩).sum :=
        (Tables.sum_entries sound.ledgers.names_nodup chronicle.entry_inside chronicle.wellFormed
          account).symm
    _ = (tables.ledgers.values.map fun ledger =>
          Table.share Balance.change (tables.balances.get? ⟨ledger.id, account⟩)).sum := by
        simp only [List.map_map, Function.comp_def, chronicle.changes]
    _ = (tables.latest account).minorUnits - tables.drained account :=
        Tables.sum_change sound account List.prefix_rfl

end Chronicle

/-- What a protected account moved in its lifetime, and when this is not below zero. -/
structure Tables.Accounted (settings : LedgerSettings) (tables : Tables) (account : AccountId) :
    Prop where
  nonneg : settings.allowClosedPeriodPosting = false ∨ tables.Undrained account →
    0 ≤ tables.lifetime account
  adds_up : tables.lifetime account = (tables.latest account).minorUnits - tables.drained account
  latest_nonneg : 0 ≤ (tables.latest account).minorUnits

/-- A protected account spends no more than it receives, unless it is drained. -/
theorem Operation.Reached.accounted {surroundings : Surroundings} {settings : LedgerSettings}
    {world : World} (reached : Operation.Reached surroundings settings world)
    (distinct : surroundings.Distinct world.issued) {account : Account}
    (stored : account ∈ world.store.tables.accounts.values) (isProtected : account.Protected) :
    world.store.tables.Accounted settings account.id := by
  obtain ⟨deeds, chronicle, nodup⟩ := reached.exists_distinct_chronicle distinct
  have adds_up := chronicle.lifetime_eq account.id
  have latest_nonneg : 0 ≤ (world.store.tables.latest account.id).minorUnits :=
    (chronicle.solvent nodup).heldAfter_nonneg chronicle.owned (chronicle.identified nodup) stored
      isProtected world.store.tables.ledgers.values
  refine ⟨?_, adds_up, latest_nonneg⟩
  intro condition
  have undrained : world.store.tables.Undrained account.id := by
    rcases condition with closed | undrained
    · exact (chronicle.seamless closed).undrained account.id
    · exact undrained
  have drained := undrained.drained_nonpos
  omega

theorem Operation.Reached.accounted_rollover : ∃ (world : World) (account : Account),
    Operation.Reachable .counting .standard world ∧
    Surroundings.counting.Distinct world.issued ∧
    account ∈ world.store.tables.accounts.values ∧ account.Protected ∧
    world.store.tables.lifetime account.id = 20 ∧
    world.store.tables.Accounted .standard account.id := by
  have start : Operation.Reachable .counting .standard .empty := .empty
  have reachable := start.runAll [.ensureSystemAccounts, .openFirstLedger .epoch,
    .createAccount "a" "a" .liability .current,
    .deposit "a" ⟨⟨100, by decide, by decide⟩, "", .epoch⟩,
    .closePeriodAndOpenNext ⟨100, 0, by decide, by decide, by decide⟩,
    .withdraw "a" ⟨⟨80, by decide, by decide⟩, "", ⟨100, 0, by decide, by decide, by decide⟩⟩]
    (by simp [Operation.Admissible])
  refine ⟨_, ⟨⟨⟨4⟩⟩, "a", "a", .liability, .current, .epoch⟩, reachable, ?distinct, ?stored,
    ?isProtected, ?lifetime,
    Operation.Reached.accounted (.inTurn reachable) ?distinct ?stored ?isProtected⟩
  case distinct => exact Surroundings.counting_distinct (by decide +kernel)
  case stored => decide +kernel
  case isProtected => decide
  case lifetime => decide +kernel

/-- When closed periods are open to postings, what was carried over can be spent twice: in the
period that it was carried to, and again in the one that it came from. -/
theorem Operation.Reachable.not_lifetime_nonneg :
    ¬ ∀ surroundings settings world, Operation.Reachable surroundings settings world →
      surroundings.Distinct world.issued →
      ∀ account ∈ world.store.tables.accounts.values, account.Protected →
        0 ≤ world.store.tables.lifetime account.id := by
  intro claimed
  let lenient : LedgerSettings := { LedgerSettings.standard with allowClosedPeriodPosting := true }
  have start : Operation.Reachable .counting lenient .empty := .empty
  have reachable := start.runAll [.ensureSystemAccounts, .openFirstLedger .epoch,
    .createAccount "a" "a" .liability .current,
    .deposit "a" ⟨⟨100, by decide, by decide⟩, "", .epoch⟩,
    .closePeriodAndOpenNext ⟨100, 0, by decide, by decide, by decide⟩,
    .withdraw "a" ⟨⟨100, by decide, by decide⟩, "", ⟨100, 0, by decide, by decide, by decide⟩⟩,
    .withdraw "a" ⟨⟨100, by decide, by decide⟩, "", .epoch⟩]
    (by simp [Operation.Admissible])
  have all := claimed _ _ _ reachable (Surroundings.counting_distinct (by decide +kernel))
  revert all
  decide +kernel

end DoubleEntry
