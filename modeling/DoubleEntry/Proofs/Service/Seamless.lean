import DoubleEntry.Proofs.Service.Ownership

/-!
# Periods without a gap

As long as nothing is posted into closed periods, what a balance was opened with
stays what its account has in the ledgers before.  A posting moves a balance of the
last ledger, on which no other balance builds; and a balance that is opened later
than those after it has what was carried past it anyway.
-/

namespace DoubleEntry

namespace Tables

def Seamless (tables : Tables) : Prop :=
  ∀ ledger ∈ tables.ledgers.values, ∀ account balance,
    tables.balances.get? ⟨ledger.id, account⟩ = some balance →
      balance.startAmount = tables.carried account ledger.opensAt

variable {settings : LedgerSettings} {asked : Account → Prop} {refs : SystemRefs}
  {before after : Tables}

private theorem Seamless.balanceIn_startAmount {tables : Tables} (seamless : tables.Seamless)
    {ledger : Ledger} (stored : ledger ∈ tables.ledgers.values) (account : Account) :
    (tables.balanceIn account ledger).startAmount = tables.carried account.id ledger.opensAt := by
  cases found : tables.balances.get? ⟨ledger.id, account.id⟩ with
  | some balance =>
      rw [balanceIn_of_stored found]
      exact seamless ledger stored account.id balance found
  | none =>
      rw [balanceIn_of_missing found]
      rfl

/-- To open a balance changes nothing about what is held after any ledgers. -/
theorem heldAfter_of_opened (sound : before.Sound refs) {account : Account} {ledger : Ledger}
    (stored : ledger ∈ before.ledgers.values)
    (missing : before.balances.get? ⟨ledger.id, account.id⟩ = none)
    (opened : after.balances = before.settle account ledger
      (before.balanceIn account ledger).endAmount before.balances) (other : AccountId)
    {ledgers : List Ledger} (row : ledgers <+: before.ledgers.values) :
    after.heldAfter other ledgers = before.heldAfter other ledgers := by
  induction ledgers using List.reverseRecOn with
  | nil => rfl
  | append_singleton ledgers last ih =>
      have ih := ih ((List.prefix_append ledgers [last]).trans row)
      obtain ⟨later, split⟩ := row
      rw [List.append_assoc] at split
      rw [heldAfter_concat, heldAfter_concat, opened, get?_settle]
      by_cases same : (⟨ledger.id, account.id⟩ : BalanceKey) = ⟨last.id, other⟩
      · rw [if_pos same]
        obtain ⟨sameId, rfl⟩ := BalanceKey.mk.inj same
        have isLast : last = ledger :=
          sound.ledgers.eq_of_name (by rw [← split]; simp) stored sameId.symm
        subst isLast
        rw [missing, ← earlier_of_split sound.tiles split.symm]
        show (before.balanceIn account last).endAmount = _
        rw [balanceIn_of_missing missing]
        rfl
      · rw [if_neg same, ih]

private theorem heldAfter_of_posted (sound : before.Sound refs) {payer payee : Account}
    {current : Ledger} (stored : current ∈ before.ledgers.values) (isOpen : current.isOpen = true)
    {debitedEnd creditedEnd : Money}
    (posted : after.balances = before.settle payee current creditedEnd
      (before.settle payer current debitedEnd before.balances)) (account : AccountId)
    {ledger : Ledger} (member : ledger ∈ before.ledgers.values) :
    after.heldAfter account (before.earlier ledger.opensAt) =
      before.heldAfter account (before.earlier ledger.opensAt) := by
  apply heldAfter_congr
  intro other isEarlier
  obtain ⟨among, opens⟩ := mem_earlier.mp isEarlier
  obtain ⟨others, shape⟩ := sound.tiles.append_of_open stored isOpen
  have notCurrent : ∀ {account : AccountId} {owner : Account},
      (⟨current.id, owner.id⟩ : BalanceKey) ≠ ⟨other.id, account⟩ := by
    intro account owner same
    have isCurrent : current = other :=
      sound.ledgers.eq_of_name stored among (congrArg BalanceKey.ledgerId same)
    have tiles := sound.tiles
    rw [shape] at member tiles
    have last := tiles.opensAt_le_last ledger member
    rw [isCurrent] at last
    exact Nat.lt_irrefl _ (Nat.lt_of_lt_of_le opens last)
  rw [posted, get?_settle, if_neg notCurrent, get?_settle, if_neg notCurrent]

namespace Booked

private theorem heldAfter_eq (closed : settings.allowClosedPeriodPosting = false)
    (sound : before.Sound refs) (booked : before.Booked settings asked after) (account : AccountId)
    {ledger : Ledger} (member : ledger ∈ before.ledgers.values) :
    after.heldAfter account (before.earlier ledger.opensAt) =
      before.carried account ledger.opensAt := by
  cases booked with
  | nothing balances => exact heldAfter_congr fun other _ => by rw [balances]
  | opening _ stored missing balances =>
      obtain ⟨others, later, split⟩ := List.append_of_mem member
      have row : before.earlier ledger.opensAt <+: before.ledgers.values := by
        rw [earlier_of_split sound.tiles split, split]
        exact List.prefix_append others _
      exact heldAfter_of_opened sound stored missing balances account row
  | posting _ _ _ stored postable _ balances =>
      have isOpen := postable.resolve_right (by simp [closed])
      exact heldAfter_of_posted sound stored isOpen balances account member

theorem carried_eq (closed : settings.allowClosedPeriodPosting = false)
    (sound : before.Sound refs) (booked : before.Booked settings asked after)
    (continues : before.Continues after) (account : AccountId) {ledger : Ledger}
    (member : ledger ∈ before.ledgers.values) :
    after.carried account ledger.opensAt = before.carried account ledger.opensAt := by
  rw [carried, continues.earlier_eq ledger member]
  exact booked.heldAfter_eq closed sound account member

private theorem seamless (closed : settings.allowClosedPeriodPosting = false)
    (sound : before.Sound refs)
    (sound' : after.Sound refs) (booked : before.Booked settings asked after)
    (housed : before.Housed) (continues : before.Continues after) (seamless : before.Seamless) :
    after.Seamless := by
  intro ledger stored account balance found
  have known : ∃ known ∈ before.ledgers.values, known.id = ledger.id ∧
      balance.startAmount = before.carried account known.opensAt := by
    rcases booked.arises found with
      found | ⟨owner, _, known, stored', endAmount, same, rfl, _⟩
    · obtain ⟨known, stored', sameId⟩ := housed _ _ found
      refine ⟨known, stored', sameId, seamless known stored' account balance ?_⟩
      rw [sameId]
      exact found
    · obtain ⟨sameId, rfl⟩ := BalanceKey.mk.inj same
      exact ⟨known, stored', sameId.symm, seamless.balanceIn_startAmount stored' owner⟩
  obtain ⟨known, stored', sameId, starts⟩ := known
  obtain ⟨still, member, sameId', opensAt, _⟩ := continues.remembers known stored'
  have isLedger : still = ledger :=
    sound'.ledgers.eq_of_name member stored (sameId'.trans sameId)
  have carries : after.carried account known.opensAt = before.carried account known.opensAt :=
    booked.carried_eq closed sound continues account stored'
  rw [starts, ← isLedger, opensAt, carries]

end Booked

end Tables

theorem Chronicle.seamless {surroundings : Surroundings} {settings : LedgerSettings}
    {admission : Admission} {deeds : List Deed} {tables : Tables}
    (closed : settings.allowClosedPeriodPosting = false)
    (chronicle : Chronicle surroundings settings admission deeds tables) : tables.Seamless := by
  induction chronicle with
  | nothing => simp [Tables.Seamless, Tables.empty]
  | deed deed voucher acceptable _ chronicle ih =>
      have sound := chronicle.sound
      exact (voucher.booked sound).seamless closed sound
        (UnitOfWork.publish_sound sound voucher acceptable) chronicle.housed
        (UnitOfWork.publish_continues sound voucher acceptable) ih

end DoubleEntry
