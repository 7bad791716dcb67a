import DoubleEntry.Proofs.Journal.Reckoning
import DoubleEntry.Proofs.Program.Failing
import DoubleEntry.Proofs.Service.Fares

/-!
# Operations that are turned away

What the parts of an operation fail with when it runs alone, and what has to be so.
-/

namespace DoubleEntry.Bank

open DoubleEntry.Action

variable {surroundings : Surroundings} {settings : LedgerSettings} {refs : SystemRefs}
  {busy : List AccountId} {tables : Tables} {issued ticks : Nat} {point : Point}

theorem fails_requireAccount {reference : String} (missing : tables.account? reference = none) :
    (requireAccount reference).Fails surroundings busy ⟨tables, issued, ticks, .empty⟩
      (.accountNotFound (Text.trim reference)) ⟨tables, issued, ticks, .empty⟩ := by
  rw [requireAccount]
  exact (yields_findAccount (Text.trim reference)).bind_fails (fails_orThrow missing _ _)

private theorem ledgerAt_eq_none (sound : tables.Sound refs) {time : Instant}
    (uncovered : ∀ ledger ∈ tables.ledgers.values, ledger.covers time = false) :
    UnitOfWork.empty.ledgerAt tables time = none := by
  cases found : UnitOfWork.empty.ledgerAt tables time with
  | none => rfl
  | some ledger =>
      obtain ⟨stored, covers⟩ := (UnitOfWork.ledgerAt_eq_some_iff rfl sound.tiles).mp found
      simp [uncovered ledger stored] at covers

theorem fails_requireLedgerAt (sound : tables.Sound refs) {time : Instant}
    (uncovered : ∀ ledger ∈ tables.ledgers.values, ledger.covers time = false) :
    (requireLedgerAt time).Fails surroundings busy ⟨tables, issued, ticks, .empty⟩
      (.noLedgerForInstant time) ⟨tables, issued, ticks, .empty⟩ := by
  rw [requireLedgerAt]
  exact (yields_ledgerAt_missing (ledgerAt_eq_none sound uncovered)).bind_fails
    (fails_orThrow rfl _ _)

/-! ## Postings -/

theorem fails_ensurePositive {amount : Money} (refused : amount.isPositive = false) :
    (ensurePositive amount).Fails surroundings busy point (.nonPositiveAmount amount) point := by
  rw [ensurePositive, refused]
  exact fails_throw _ _

private theorem fails_requirePostable_uncovered (sound : tables.Sound refs) {time : Instant}
    (uncovered : ∀ ledger ∈ tables.ledgers.values, ledger.covers time = false) :
    (requirePostable settings time).Fails surroundings busy ⟨tables, issued, ticks, .empty⟩
      (.noLedgerForInstant time) ⟨tables, issued, ticks, .empty⟩ := by
  rw [requirePostable]
  exact (fails_requireLedgerAt sound uncovered).bind _

private theorem fails_requirePostable_closed (sound : tables.Sound refs) {time : Instant}
    {ledger : Ledger} (stored : ledger ∈ tables.ledgers.values) (covers : ledger.covers time = true)
    (isClosed : ledger.isOpen = false) (refused : settings.allowClosedPeriodPosting = false) :
    (requirePostable settings time).Fails surroundings busy ⟨tables, issued, ticks, .empty⟩
      (.periodClosed ledger.name) ⟨tables, issued, ticks, .empty⟩ := by
  rw [requirePostable]
  refine (yields_requireLedgerAt sound stored covers).bind_fails ?_
  simp only [isClosed, refused, Bool.not_false, Bool.and_self, if_true]
  exact (yields_record _).bind_fails (Fails.bind (fails_throw _ _) _)

theorem fails_checkOverdraft {ledger : Ledger} {prepared : Prepared} {amount endAmount : Money}
    {balance : Balance} (isProtected : balance.isOverdraftProtected = true)
    (projects : balance.projected (prepared.deltaFor balance.key) = .ok endAmount)
    (negative : endAmount.isNegative = true) :
    (checkOverdraft ledger prepared amount balance).Fails surroundings busy point
      (.overdrawn balance.reference ledger.name balance.endAmount amount) point := by
  rw [checkOverdraft, if_pos isProtected]
  refine (yields_lift projects point).bind_fails ?_
  simp only [negative, if_true]
  exact (yields_record _).bind_fails (fails_throw _ _)

theorem fails_checkOverdraft_outside {ledger : Ledger} {prepared : Prepared} {amount : Money}
    {balance : Balance} {e : LedgerError} (isProtected : balance.isOverdraftProtected = true)
    (fails : balance.projected (prepared.deltaFor balance.key) = .error e) :
    (checkOverdraft ledger prepared amount balance).Fails surroundings busy point e point := by
  rw [checkOverdraft, if_pos isProtected]
  exact (fails_lift fails point).bind _

private theorem exists_fails_checkOverdraft {prepared : Prepared} {balance : Balance}
    (refused : ¬ prepared.Permits balance) (ledger : Ledger) (amount : Money) : ∃ e,
      ∀ (surroundings : Surroundings) (busy : List AccountId) (point : Point),
        (checkOverdraft ledger prepared amount balance).Fails surroundings busy point e point := by
  rw [Prepared.Permits, Classical.not_imp] at refused
  obtain ⟨isProtected, refused⟩ := refused
  cases projects : balance.projected (prepared.deltaFor balance.key) with
  | error e => exact ⟨e, fun _ _ _ => fails_checkOverdraft_outside isProtected projects⟩
  | ok endAmount =>
      have negative : endAmount.isNegative = true := by
        by_contra nonneg
        exact refused ⟨endAmount, projects, Bool.eq_false_iff.mpr nonneg⟩
      exact ⟨_, fun _ _ _ => fails_checkOverdraft isProtected projects negative⟩

def clear (ledger : Ledger) (prepared : Prepared) (amount : Money) (debited credited : Balance) :
    Action (Transaction × List Balance) := do
  checkOverdraft ledger prepared amount debited
  checkOverdraft ledger prepared amount credited
  prepared.apply [debited, credited]

private theorem post_eq (payer payee : Account) (posting : Posting) :
    post settings payer payee posting = (do
      let ledger ← requirePostable settings posting.time
      let debited ← loadBalance payer ledger
      let credited ← loadBalance payee ledger
      let draft ← transferDraft ledger debited credited posting (← now)
      let prepared ← draft.prepare (← freshPostingIds)
      let (transaction, balances) ← clear ledger prepared posting.amount debited credited
      balances.forM saveBalance
      saveTransaction transaction
      return transaction) := by
  simp only [post, clear, bind_assoc]

section Clearing

variable {ledger : Ledger} {debited credited : Balance} {posting : Posting} {ids : PostingIds}
  {time : Instant} {draft : Draft} {prepared : Prepared} {debitEffect creditEffect : Money}

theorem fails_clear_overdrawn
    (prepares : Prepares ledger debited credited posting ids time draft prepared debitEffect
      creditEffect) (apart : debited.key ≠ credited.key) (amount : Money)
    (isProtected : debited.isOverdraftProtected = true)
    (inRange : Money.InRange (debited.endAmount.minorUnits + debitEffect.minorUnits))
    (negative : debited.endAmount.minorUnits + debitEffect.minorUnits < 0) :
    (clear ledger prepared amount debited credited).Fails surroundings busy point
      (.overdrawn debited.reference ledger.name debited.endAmount amount) point := by
  obtain ⟨endAmount, projects, units⟩ := projected_of_inRange inRange
  rw [← (prepares.deltaFor apart).1] at projects
  rw [← units] at negative
  exact (fails_checkOverdraft isProtected projects (decide_eq_true negative)).bind _

/-- What a posting that does not clear fails with depends on its changes alone. -/
theorem exists_fails_clear (refused : ¬ prepared.Clears debited credited) (ledger : Ledger)
    (amount : Money) : ∃ e, ∀ (surroundings : Surroundings) (busy : List AccountId)
      (point : Point) (other : Prepared), other.deltas = prepared.deltas →
        (clear ledger other amount debited credited).Fails surroundings busy point e point := by
  by_cases permits : prepared.Permits debited
  · by_cases permits' : prepared.Permits credited
    · cases applied : prepared.apply [debited, credited] with
      | error e =>
          refine ⟨e, fun _ _ _ ⟨transaction, deltas⟩ same => ?_⟩
          cases same
          rw [Prepared.apply_eq_error_iff] at applied
          have applied' : Prepared.apply ⟨transaction, prepared.deltas⟩ [debited, credited] =
              .error e := Prepared.apply_eq_error_iff.mpr applied
          exact (yields_checkOverdraft permits).bind_fails
            ((yields_checkOverdraft permits').bind_fails (fails_lift applied' _))
      | ok result => exact absurd ⟨permits, permits', result, applied⟩ refused
    · obtain ⟨e, fails⟩ := exists_fails_checkOverdraft permits' ledger amount
      refine ⟨e, fun surroundings busy point ⟨transaction, deltas⟩ same => ?_⟩
      cases same
      exact (yields_checkOverdraft permits).bind_fails ((fails surroundings busy point).bind _)
  · obtain ⟨e, fails⟩ := exists_fails_checkOverdraft permits ledger amount
    refine ⟨e, fun surroundings busy point ⟨transaction, deltas⟩ same => ?_⟩
    cases same
    exact (fails surroundings busy point).bind _

/-- With both covered, an end amount out of range is what is left to fail with. -/
theorem exists_overflow
    (prepares : Prepares ledger debited credited posting ids time draft prepared debitEffect
      creditEffect) (apart : debited.key ≠ credited.key) (amount : Money)
    (debited_covered : debited.isOverdraftProtected = true →
      Money.InRange (debited.endAmount.minorUnits + debitEffect.minorUnits) ∧
        0 ≤ debited.endAmount.minorUnits + debitEffect.minorUnits)
    (credited_covered : credited.isOverdraftProtected = true →
      0 ≤ credited.endAmount.minorUnits + creditEffect.minorUnits)
    (outside : ¬ Money.InRange (debited.endAmount.minorUnits + debitEffect.minorUnits) ∨
      ¬ Money.InRange (credited.endAmount.minorUnits + creditEffect.minorUnits)) : ∃ cause,
      (¬ Money.InRange (debited.endAmount.minorUnits + debitEffect.minorUnits) ∧
          cause = ⟨debited.endAmount, '+', debitEffect⟩ ∨
        ¬ Money.InRange (credited.endAmount.minorUnits + creditEffect.minorUnits) ∧
          cause = ⟨credited.endAmount, '+', creditEffect⟩) ∧
      ∀ (surroundings : Surroundings) (busy : List AccountId) (point : Point),
        (clear ledger prepared amount debited credited).Fails surroundings busy point
          (.overflow cause) point := by
  obtain ⟨debitChange, creditChange⟩ := prepares.deltaFor apart
  have permits : prepared.Permits debited :=
    Prepared.permits_of_nonneg debitChange debited_covered
  by_cases caught : credited.isOverdraftProtected = true ∧
      ¬ Money.InRange (credited.endAmount.minorUnits + creditEffect.minorUnits)
  · refine ⟨_, .inr ⟨caught.2, rfl⟩, fun _ _ _ => ?_⟩
    have fails := projected_eq_error_iff.mpr ⟨caught.2, rfl⟩
    rw [← creditChange] at fails ⊢
    exact (yields_checkOverdraft permits).bind_fails
      ((fails_checkOverdraft_outside caught.1 fails).bind _)
  · have permits' : prepared.Permits credited :=
      Prepared.permits_of_nonneg creditChange fun isProtected =>
        ⟨not_not.mp fun beyond => caught ⟨isProtected, beyond⟩, credited_covered isProtected⟩
    cases applied : prepared.apply [debited, credited] with
    | error e =>
        have explained := (apply_pair_eq_error apart prepares.deltas applied).imp
          projected_eq_error_iff.mp projected_eq_error_iff.mp
        obtain ⟨cause, rfl⟩ : ∃ cause, e = .overflow cause := by
          rcases explained with ⟨-, rfl⟩ | ⟨-, rfl⟩ <;> exact ⟨_, rfl⟩
        exact ⟨cause, by simpa using explained, fun _ _ _ =>
          (yields_checkOverdraft permits).bind_fails
            ((yields_checkOverdraft permits').bind_fails (fails_lift applied _))⟩
    | ok result =>
        obtain ⟨debitedEnd, creditedEnd, debits, credits, -⟩ :=
          apply_pair apart prepares.deltas applied
        rw [← projected_eq_ok_iff.mp debits, ← projected_eq_ok_iff.mp credits] at outside
        exact absurd outside (by simp [Money.inRange])

end Clearing

theorem fails_post_uncovered (sound : tables.Sound refs) {payer payee : Account}
    {posting : Posting}
    (uncovered : ∀ ledger ∈ tables.ledgers.values, ledger.covers posting.time = false) :
    (post settings payer payee posting).Fails surroundings busy ⟨tables, issued, ticks, .empty⟩
      (.noLedgerForInstant posting.time) ⟨tables, issued, ticks, .empty⟩ := by
  rw [post]
  exact (fails_requirePostable_uncovered sound uncovered).bind _

theorem fails_post_closed (sound : tables.Sound refs) {payer payee : Account} {posting : Posting}
    {ledger : Ledger} (stored : ledger ∈ tables.ledgers.values)
    (covers : ledger.covers posting.time = true) (isClosed : ledger.isOpen = false)
    (refused : settings.allowClosedPeriodPosting = false) :
    (post settings payer payee posting).Fails surroundings busy ⟨tables, issued, ticks, .empty⟩
      (.periodClosed ledger.name) ⟨tables, issued, ticks, .empty⟩ := by
  rw [post]
  exact (fails_requirePostable_closed sound stored covers isClosed refused).bind _

theorem fails_post (sound : tables.Sound settings.refs) {payer payee : Account} {posting : Posting}
    {ledger : Ledger} {draft : Draft} {prepared : Prepared} {debitEffect creditEffect : Money}
    {e : LedgerError} (stored : ledger ∈ tables.ledgers.values)
    (covers : ledger.covers posting.time = true)
    (postable : ledger.isOpen = true ∨ settings.allowClosedPeriodPosting = true)
    (prepares : Prepares ledger (tables.balanceIn payer ledger) (tables.balanceIn payee ledger)
      posting (.ofThree (surroundings.uuid issued) (surroundings.uuid (issued + 1))
        (surroundings.uuid (issued + 2))) (surroundings.clock ticks) draft prepared debitEffect
      creditEffect)
    (fails : (clear ledger prepared posting.amount (tables.balanceIn payer ledger)
      (tables.balanceIn payee ledger)).Fails surroundings busy
        ⟨tables, issued + 3, ticks + 1, .empty⟩ e ⟨tables, issued + 3, ticks + 1, .empty⟩) :
    (post settings payer payee posting).Fails surroundings busy ⟨tables, issued, ticks, .empty⟩ e
      ⟨tables, issued + 3, ticks + 1, .empty⟩ := by
  rw [post_eq]
  refine (yields_requirePostable sound stored covers postable).bind_fails ?_
  refine (yields_loadBalance sound payer ledger).bind_fails ?_
  refine (yields_loadBalance sound payee ledger).bind_fails ?_
  refine (yields_now rfl).bind_fails ?_
  refine (yields_lift prepares.drafted _).bind_fails ?_
  refine (yields_freshPostingIds ⟨rfl, rfl, rfl, trivial⟩).bind_fails ?_
  refine (yields_lift prepares.isPrepared _).bind_fails ?_
  exact fails.bind _

end DoubleEntry.Bank
