import DoubleEntry.Proofs.Service.Ownership
import DoubleEntry.Proofs.Service.Replay

/-!
# Protected balances are never negative

A posting is checked against the balance that it will move, stored or about to be
opened.  What a balance is opened with was checked when it was posted to an earlier
balance of the same account; so no stored balance of a protected account is
negative, and neither is what the bank answers when it is asked for one.
-/

namespace DoubleEntry

namespace Tables

def Solvent (tables : Tables) : Prop :=
  ∀ key balance, tables.balances.get? key = some balance → balance.isOverdraftProtected = true →
    0 ≤ balance.startAmount.minorUnits ∧ 0 ≤ balance.endAmount.minorUnits

variable {settings : LedgerSettings} {asked : Account → Prop} {tables before after : Tables}
  {account : Account} {ledger : Ledger}

theorem Solvent.heldAfter_nonneg (solvent : tables.Solvent) (owned : tables.Owned)
    (identified : tables.Identified) (known : account ∈ tables.accounts.values)
    (isProtected : account.Protected) (ledgers : List Ledger) :
    0 ≤ (tables.heldAfter account.id ledgers).minorUnits := by
  rcases heldAfter_cases tables account.id ledgers with
    nothing | ⟨ledger, _, balance, found, holds⟩
  · rw [nothing]
    exact Int.le_refl 0
  · rw [holds]
    exact (solvent _ _ found ((owned.protected_iff identified known found).mpr isProtected)).2

theorem Solvent.balanceIn_nonneg (solvent : tables.Solvent) (owned : tables.Owned)
    (identified : tables.Identified) (known : account ∈ tables.accounts.values)
    (isProtected : account.Protected) (ledger : Ledger) :
    0 ≤ (tables.balanceIn account ledger).startAmount.minorUnits ∧
      0 ≤ (tables.balanceIn account ledger).endAmount.minorUnits := by
  cases found : tables.balances.get? ⟨ledger.id, account.id⟩ with
  | some balance =>
      rw [balanceIn_of_stored found]
      exact solvent _ _ found ((owned.protected_iff identified known found).mpr isProtected)
  | none =>
      have carried := solvent.heldAfter_nonneg owned identified known isProtected
        (tables.earlier ledger.opensAt)
      rw [balanceIn_of_missing found]
      exact ⟨carried, carried⟩

/-! ## What a commit keeps -/

private theorem Booked.solvent (booked : before.Booked settings asked after)
    (solvent : before.Solvent)
    (knows : ∀ account, asked account → account ∈ before.accounts.values) (owned : before.Owned)
    (identified : before.Identified) : after.Solvent := by
  intro key balance found isProtected
  rcases booked.arises found with
    found | ⟨account, known, ledger, stored, endAmount, rfl, rfl, settled⟩
  · exact solvent key balance found isProtected
  · have known := known.elim (knows account) id
    have isProtected : (before.balanceIn account ledger).isOverdraftProtected = true := isProtected
    have started := solvent.balanceIn_nonneg owned identified known
      ((owned.balanceIn_protected_iff identified known ledger).mp isProtected) ledger
    refine ⟨started.1, ?_⟩
    rcases settled with ⟨_, rfl⟩ | ⟨_, covered⟩
    · exact started.2
    · exact covered isProtected

end Tables

/-! ## Along a run -/

namespace Chronicle

variable {surroundings : Surroundings} {settings : LedgerSettings} {deeds : List Deed}
  {tables : Tables}

theorem solvent (chronicle : Chronicle surroundings settings .known deeds tables)
    (nodup : (deeds.flatMap (Deed.ids surroundings)).Nodup) : tables.Solvent := by
  induction chronicle with
  | nothing => exact fun _ _ found => nomatch found
  | deed deed voucher _ isAdmissible chronicle ih =>
      rw [List.flatMap_append] at nodup
      have before := nodup.of_append_left
      exact (voucher.booked chronicle.sound).solvent (ih before)
        (isAdmissible.known chronicle.sound) chronicle.owned (chronicle.identified before)

end Chronicle

/-! ## No overdraft -/

structure World.NeverOverdrawn (world : World) (surroundings : Surroundings) : Prop where
  owners : ∀ balance ∈ world.store.tables.balances.values,
    ∃ account ∈ world.store.tables.accounts.values, account.id = balance.key.accountId
  balances : ∀ balance ∈ world.store.tables.balances.values,
    ∀ account ∈ world.store.tables.accounts.values, account.id = balance.key.accountId →
      account.Protected → 0 ≤ balance.startAmount.minorUnits ∧ 0 ≤ balance.endAmount.minorUnits
  answers : ∀ account ∈ world.store.tables.accounts.values, account.Protected →
    ∀ ledger ∈ world.store.tables.ledgers.values, ∀ time, ledger.covers time = true →
      ∃ amount, ((Bank.getBalance account.reference time).run surroundings world).1 = .ok amount ∧
        0 ≤ amount.minorUnits

/-- In no state that operations reach is a protected account below zero. -/
theorem Operation.Reached.never_overdrawn {surroundings : Surroundings} {settings : LedgerSettings}
    {world : World} (reached : Operation.Reached surroundings settings world)
    (distinct : surroundings.Distinct world.issued) : world.NeverOverdrawn surroundings := by
  obtain ⟨deeds, chronicle, nodup⟩ := reached.exists_distinct_chronicle distinct
  have sound := chronicle.sound
  have owned := chronicle.owned
  have identified := chronicle.identified nodup
  have solvent := chronicle.solvent nodup
  constructor
  case owners =>
    intro balance member
    obtain ⟨⟨account, known, sameId, _⟩, _⟩ := owned _ _ (sound.balances.get?_name member)
    exact ⟨account, known, sameId⟩
  case balances =>
    intro balance member account known sameId isProtected
    have found := sound.balances.get?_name member
    refine solvent _ _ found ?_
    have key : balance.key = ⟨balance.key.ledgerId, account.id⟩ := by rw [sameId]
    rw [key] at found
    exact (owned.protected_iff identified known found).mpr isProtected
  case answers =>
    intro account known isProtected ledger stored time covers
    exact ⟨_, Bank.getBalance_run sound known stored covers,
      (solvent.balanceIn_nonneg owned identified known isProtected ledger).2⟩

/-- Two withdrawals side by side, together more than there is: one of them is refused. -/
theorem Operation.Reached.never_overdrawn_withdrawals : ∃ system,
    System.Reachable .counting (Operation.Allowed .standard) system ∧
    Surroundings.counting.Distinct system.world.issued ∧
    system.world.store.tables.balances.values.map (fun balance => balance.endAmount.minorUnits) =
      [20, 20] ∧ system.world.NeverOverdrawn .counting := by
  have first : Operation.Run .counting .standard _ _ :=
    ((Operation.Run.empty.start .ensureSystemAccounts trivial).start
      (.openFirstLedger .epoch) trivial).start (.createAccount "a" "a" .liability .current) trivial
  have second := first.start (.deposit "a" ⟨⟨100, by decide, by decide⟩, "", .epoch⟩) trivial
  have third := second.start (.withdraw "a" ⟨⟨80, by decide, by decide⟩, "", .epoch⟩) trivial
  have fourth := third.start (.withdraw "a" ⟨⟨80, by decide, by decide⟩, "", .epoch⟩) trivial
  have run := fourth.follow (List.replicate 20 0 ++ List.replicate 10 1 ++ List.replicate 10 2 ++
    List.replicate 30 3 ++ [4, 5, 4, 5] ++ List.replicate 30 4 ++ List.replicate 30 5)
  refine ⟨_, run.reachable, ?distinct, ?ends,
    Operation.Reached.never_overdrawn (.together run.reachable) ?distinct⟩
  case distinct => exact Surroundings.counting_distinct (by decide +kernel)
  case ends => decide +kernel

end DoubleEntry
