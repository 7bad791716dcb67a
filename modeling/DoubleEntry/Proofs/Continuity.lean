import DoubleEntry.Proofs.Service.Seamless

/-!
# Balances carry over without a gap

While closed periods stay closed to postings, every balance starts with what its
account has in the last ledger before that holds a balance of it, and with nothing if
there is none.  Balances are opened in any order of their periods: one that is opened
between two others hands on what was carried past it.
-/

namespace DoubleEntry

namespace Tables

structure Latest (tables : Tables) (account : AccountId) (time : Instant) (ledger : Ledger)
    (balance : Balance) : Prop where
  stored : ledger ∈ tables.ledgers.values
  early : ledger.opensAt < time
  holds : tables.balances.get? ⟨ledger.id, account⟩ = some balance
  last : ∀ other ∈ tables.ledgers.values, other.opensAt < time →
    tables.balances.get? ⟨other.id, account⟩ ≠ none → other.opensAt ≤ ledger.opensAt

def NoneBefore (tables : Tables) (account : AccountId) (time : Instant) : Prop :=
  ∀ ledger ∈ tables.ledgers.values, ledger.opensAt < time →
    tables.balances.get? ⟨ledger.id, account⟩ = none

/-- Every balance is that of a stored ledger and takes over from the last one before it. -/
def Gapless (tables : Tables) : Prop :=
  ∀ balance ∈ tables.balances.values, ∃ ledger ∈ tables.ledgers.values,
    ledger.id = balance.key.ledgerId ∧
    ((∃ previous before, tables.Latest balance.key.accountId ledger.opensAt previous before ∧
        balance.startAmount = before.endAmount) ∨
      tables.NoneBefore balance.key.accountId ledger.opensAt ∧ balance.startAmount = .zero)

theorem carried_cases {tables : Tables} (tiles : Tiles tables.ledgers.values)
    (account : AccountId) (time : Instant) :
    (∃ previous before, tables.Latest account time previous before ∧
      tables.carried account time = before.endAmount) ∨
    tables.NoneBefore account time ∧ tables.carried account time = .zero := by
  rcases tables.heldAfter_split account (tables.earlier time) with
    ⟨missing, nothing⟩ | ⟨before, ledger, after, balance, split, found, missing, holds⟩
  · exact .inr ⟨fun other stored early => missing other (mem_earlier.mpr ⟨stored, early⟩), nothing⟩
  · obtain ⟨stored, early⟩ := mem_earlier.mp (split ▸ by simp : ledger ∈ tables.earlier time)
    have ordered : (tables.earlier time).Pairwise fun a b => a.opensAt < b.opensAt :=
      tiles.pairwise.filter _
    rw [split] at ordered
    refine .inl ⟨ledger, balance, ⟨stored, early, found, ?_⟩, holds⟩
    intro other stored' early' present
    have among : other ∈ before ++ ledger :: after := split ▸ mem_earlier.mpr ⟨stored', early'⟩
    rcases List.mem_append.mp among with isBefore | among
    · exact Nat.le_of_lt ((List.pairwise_append.mp ordered).2.2 other isBefore ledger (by simp))
    · rcases List.mem_cons.mp among with rfl | isAfter
      · exact Nat.le_refl _
      · exact absurd (missing other isAfter) present

private theorem gapless_of_seamless {refs : SystemRefs} {tables : Tables}
    (sound : tables.Sound refs)
    (owned : tables.Owned) (seamless : tables.Seamless) : tables.Gapless := by
  intro balance member
  have found := sound.balances.get?_name member
  obtain ⟨_, ledger, stored, sameId⟩ := owned _ _ found
  have starts : balance.startAmount = tables.carried balance.key.accountId ledger.opensAt :=
    seamless ledger stored balance.key.accountId balance (by rw [sameId]; exact found)
  refine ⟨ledger, stored, sameId, ?_⟩
  rw [starts]
  exact carried_cases sound.tiles balance.key.accountId ledger.opensAt

end Tables

/-- No gap opens between the balances of an account as long as closed periods are not posted to. -/
theorem Operation.Reached.gapless {surroundings : Surroundings} {settings : LedgerSettings}
    {world : World} (reached : Operation.Reached surroundings settings world)
    (closed : settings.allowClosedPeriodPosting = false) : world.store.tables.Gapless := by
  obtain ⟨deeds, chronicle⟩ := reached.exists_chronicle
  exact Tables.gapless_of_seamless chronicle.sound chronicle.owned (chronicle.seamless closed)

theorem Operation.Reached.gapless_skipped : ∃ world : World,
    Operation.Reachable .counting .standard world ∧
    LedgerSettings.standard.allowClosedPeriodPosting = false ∧
    (world.store.tables.balances.values.map fun balance =>
      (balance.reference, balance.startAmount.minorUnits, balance.endAmount.minorUnits)) =
      [("bank", 0, 100), ("a", 0, 100), ("a", 100, 70), ("bank", 100, 70), ("a", 100, 100)] ∧
    world.store.tables.Gapless := by
  let second : Instant := ⟨100, 0, by decide, by decide, by decide⟩
  let third : Instant := ⟨200, 0, by decide, by decide, by decide⟩
  let account : Account := ⟨⟨⟨4⟩⟩, "a", "a", .liability, .current, .epoch⟩
  have start : Operation.Reachable .counting .standard .empty := .empty
  have reachable := start.runAll [.ensureSystemAccounts, .openFirstLedger .epoch,
    .createAccount "a" "a" .liability .current,
    .deposit "a" ⟨⟨100, by decide, by decide⟩, "", .epoch⟩, .closePeriodAndOpenNext second,
    .closePeriodAndOpenNext third, .withdraw "a" ⟨⟨30, by decide, by decide⟩, "", third⟩]
    (by simp [Operation.Admissible])
  have opened := reachable.run (.getOrCreateBalance account second) (by
    rw [Operation.Admissible]
    decide +kernel)
  refine ⟨_, opened, rfl, ?_, Operation.Reached.gapless (.inTurn opened) rfl⟩
  decide +kernel

end DoubleEntry
