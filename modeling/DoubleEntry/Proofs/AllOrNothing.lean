import DoubleEntry.Proofs.Journal.Applying
import DoubleEntry.Proofs.Journal.Netting
import Mathlib

/-!
# All changes or none

A prepared transaction changes the first balance of every key that it touches, each by
its own amount, or it changes no balance at all (`Prepared.carries_all_or_none`).  What
stands in the way is told of the least key for which something does.
-/

namespace DoubleEntry

namespace Delta

def Fits (delta : Delta) (balances : List Balance) : Prop :=
  ∃ balance, balances.find? (fun balance => balance.key = delta.balance) = some balance ∧
    Money.InRange (balance.endAmount.minorUnits + delta.amount.minorUnits)

inductive Fails (delta : Delta) (balances : List Balance) : LedgerError → Prop where
  | missing (absent : ∀ balance ∈ balances, balance.key ≠ delta.balance) :
      Fails delta balances (.balanceNotLoaded delta.balance)
  | overflow (balance : Balance)
      (first : balances.find? (fun balance => balance.key = delta.balance) = some balance)
      (outside : ¬ Money.InRange (balance.endAmount.minorUnits + delta.amount.minorUnits)) :
      Fails delta balances (.overflow ⟨balance.endAmount, '+', delta.amount⟩)

/-- The first balance of every changed key has moved by the change, and all else is as it was. -/
structure Carried (deltas : List Delta) (before after : List Balance) : Prop where
  moved : ∀ delta ∈ deltas, ∃ balance endAmount,
    before[Balance.place delta.balance before]? = some balance ∧
    balance.key = delta.balance ∧
    after[Balance.place delta.balance before]? = some { balance with endAmount } ∧
    endAmount.minorUnits = balance.endAmount.minorUnits + delta.amount.minorUnits
  kept : ∀ index, (∀ delta ∈ deltas, Balance.place delta.balance before ≠ index) →
    after[index]? = before[index]?

variable {delta : Delta} {deltas : List Delta} {balances after : List Balance}
  {prepared : Prepared} {transaction : Transaction} {e : LedgerError}

private theorem fits_iff : delta.Fits balances ↔
    ∃ endAmount, Prepared.outcome balances delta = .ok endAmount := by
  rw [Fits, Prepared.outcome_eq, Balance.getElem?_place]
  cases balances.find? fun balance => balance.key = delta.balance with
  | none => simp
  | some balance =>
      constructor
      · rintro ⟨_, found, inRange⟩
        cases found
        obtain ⟨endAmount, projected, -⟩ := projected_of_inRange inRange
        exact ⟨endAmount, projected⟩
      · rintro ⟨endAmount, projected⟩
        exact ⟨balance, rfl, projected_eq_ok_iff.mp projected ▸ endAmount.inRange⟩

private theorem fails_of_outcome (fails : Prepared.outcome balances delta = .error e) :
    delta.Fails balances e := by
  rw [Prepared.outcome_eq, Balance.getElem?_place] at fails
  cases found : balances.find? fun balance => balance.key = delta.balance with
  | none =>
      rw [found] at fails
      cases fails
      exact .missing fun balance member => by simpa using List.find?_eq_none.mp found balance member
  | some balance =>
      rw [found] at fails
      obtain ⟨outside, rfl⟩ := projected_eq_error_iff.mp fails
      exact .overflow balance found outside

private theorem carried_of_apply (ascending : Ascending prepared.deltas)
    (applied : prepared.apply balances = .ok (transaction, after)) :
    Carried prepared.deltas balances after := by
  obtain ⟨endAmounts, maps, -, rfl⟩ := Prepared.apply_eq_ok_iff.mp applied
  obtain ⟨length, outcomes⟩ := mapM_zip maps
  have firsts : (prepared.deltas.zip endAmounts).map Prod.fst = prepared.deltas :=
    List.map_fst_zip length.ge
  constructor
  case moved =>
    intro delta member
    rw [← firsts] at member
    obtain ⟨change, listed, rfl⟩ := List.mem_map.mp member
    have outcome := outcomes change listed
    rw [Prepared.outcome_eq] at outcome
    split at outcome
    next balance found =>
      have distinct := ascending.nodup
      rw [← firsts, List.map_map] at distinct
      exact ⟨balance, change.2, found, Balance.key_of_place found,
        Balance.settleAll_at distinct listed found, projected_eq_ok_iff.mp outcome⟩
    next => cases outcome
  case kept =>
    intro index elsewhere
    exact Balance.settleAll_elsewhere fun change member =>
      elsewhere change.1 (List.of_mem_zip member).1

private theorem exists_fails_of_apply (ascending : Ascending prepared.deltas)
    (fails : prepared.apply balances = .error e) :
    ∃ delta ∈ prepared.deltas, delta.Fails balances e ∧
      ∀ other ∈ prepared.deltas, compare other.balance delta.balance = .lt →
        other.Fits balances := by
  obtain ⟨before, delta, rest, split, succeed, fails⟩ :=
    mapM_eq_error_split (Prepared.apply_eq_error_iff.mp fails)
  rw [split] at ascending ⊢
  refine ⟨delta, by simp, fails_of_outcome fails, fun other member less => ?_⟩
  have notLater : other ∉ delta :: rest := by
    intro later
    rcases List.mem_cons.mp later with rfl | later
    · simp at less
    · have greater := (List.pairwise_cons.mp (List.pairwise_append.mp ascending).2.1).1 other later
      rw [Std.OrientedCmp.gt_of_lt greater] at less
      cases less
  exact fits_iff.mpr (succeed other ((List.mem_append.mp member).resolve_right notLater))

end Delta

/-- Whatever the balances are, in whatever order and however often: a prepared transaction is
carried out as a whole, or the balances stay as they are. -/
theorem Prepared.carries_all_or_none {draft : Draft} {ids : PostingIds} {prepared : Prepared}
    (isPrepared : draft.prepare ids = .ok prepared) (balances : List Balance) :
    ((∃ transaction after, prepared.applyInPlace.on balances = (.ok transaction, after)) ↔
      ∀ delta ∈ prepared.deltas, delta.Fits balances) ∧
    (∀ transaction after, prepared.applyInPlace.on balances = (.ok transaction, after) →
      transaction = prepared.transaction ∧ Delta.Carried prepared.deltas balances after) ∧
    (∀ e after, prepared.applyInPlace.on balances = (.error e, after) →
      after = balances ∧
      ∃ delta ∈ prepared.deltas, delta.Fails balances e ∧
        ∀ other ∈ prepared.deltas, compare other.balance delta.balance = .lt →
          other.Fits balances) := by
  obtain ⟨-, -, -, netted, -⟩ := prepare_eq_ok_iff.mp isPrepared
  have ascending := (Delta.nets_ofLines netted).ascending
  refine ⟨?succeeds, ?success, ?failure⟩
  case succeeds =>
    simp only [applyInPlace_eq_ok_iff, Delta.fits_iff, ← exists_mapM_iff, apply_eq_ok_iff]
    exact ⟨fun ⟨_, _, endAmounts, maps, _⟩ => ⟨endAmounts, maps⟩,
      fun ⟨endAmounts, maps⟩ => ⟨_, _, endAmounts, maps, rfl, rfl⟩⟩
  case success =>
    intro transaction after carried
    have applied := applyInPlace_eq_ok_iff.mp carried
    obtain ⟨_, -, isTransaction, -⟩ := apply_eq_ok_iff.mp applied
    exact ⟨isTransaction.symm, Delta.carried_of_apply ascending applied⟩
  case failure =>
    intro e after failed
    obtain ⟨fails, unchanged⟩ := applyInPlace_eq_error_iff.mp failed
    exact ⟨unchanged, Delta.exists_fails_of_apply ascending fails⟩

/-- The first of two balances with the same key is changed; if it is full already, nothing is,
whatever the second could take. -/
theorem Prepared.carries_all_or_none_twice : ∃ (draft : Draft) (ids : PostingIds)
    (prepared : Prepared) (low high credited : Balance),
    low.key = high.key ∧ draft.prepare ids = .ok prepared ∧
    (prepared.applyInPlace.on [credited, low, high]).2 =
      [{ credited with endAmount := ⟨5, by decide, by decide⟩ },
        { low with endAmount := ⟨5, by decide, by decide⟩ }, high] ∧
    Delta.Carried prepared.deltas [credited, low, high]
      (prepared.applyInPlace.on [credited, low, high]).2 ∧
    prepared.applyInPlace.on [credited, high, low] =
      (.error (.overflow ⟨high.endAmount, '+', ⟨5, by decide, by decide⟩⟩),
        [credited, high, low]) ∧
    ¬ ∀ delta ∈ prepared.deltas, delta.Fits [credited, high, low] := by
  let five : Money := ⟨5, by decide, by decide⟩
  let balance (account : Uuid) (accountType : AccountType) (amount : Money) : Balance :=
    ⟨⟨⟨⟨1⟩⟩, ⟨account⟩⟩, "", accountType, .current, .zero, amount, 0⟩
  let low := balance ⟨3⟩ .asset .zero
  let high := balance ⟨3⟩ .asset ⟨0x7FFFFFFFFFFFFFFF, by decide, by decide⟩
  let credited := balance ⟨2⟩ .liability .zero
  let draft : Draft := ⟨⟨⟨1⟩⟩, "", .epoch, .epoch, [debitLine low five, creditLine credited five]⟩
  have isPrepared : ∃ prepared, draft.prepare (.ofThree ⟨4⟩ ⟨5⟩ ⟨6⟩) = .ok prepared ∧
      prepared.applyInPlace.on [credited, low, high] = (.ok prepared.transaction,
        [{ credited with endAmount := five }, { low with endAmount := five }, high]) ∧
      prepared.applyInPlace.on [credited, high, low] =
        (.error (.overflow ⟨high.endAmount, '+', five⟩), [credited, high, low]) :=
    ⟨_, rfl, rfl, rfl⟩
  obtain ⟨prepared, isPrepared, succeeds, fails⟩ := isPrepared
  have success := (carries_all_or_none isPrepared [credited, low, high]).2.1 _ _ succeeds
  have refusal := (carries_all_or_none isPrepared [credited, high, low]).1
  refine ⟨draft, _, prepared, low, high, credited, rfl, isPrepared, ?_, ?_, fails, fun fits => ?_⟩
  · rw [succeeds]
  · rw [succeeds]
    exact success.2
  · obtain ⟨transaction, after, carried⟩ := refusal.mpr fits
    rw [fails] at carried
    cases carried

end DoubleEntry
