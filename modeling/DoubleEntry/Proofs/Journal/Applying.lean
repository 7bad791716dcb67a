import DoubleEntry.Proofs.Journal.Settlement
import Mathlib

/-!
# Applying changes

Work in place that only reads its balances leaves them as they are, so applying in
place changes nothing before all new end amounts are known: it comes to what `apply`
gives, and to the old balances where that fails (`Prepared.applyInPlace_on`).  A change
goes to the first balance with its key.  No change moves a key, so the changes of
different keys go to different balances (`Balance.settleAll_at`).
-/

namespace DoubleEntry

/-! ## Work in place -/

namespace InPlace

variable {α β : Type}

theorem on_bind (work : InPlace α) (rest : α → InPlace β) (balances : List Balance) :
    (work >>= rest).on balances =
      match work.on balances with
      | (.ok value, after) => (rest value).on after
      | (.error e, after) => (.error e, after) := by
  show (work >>= rest).run.run balances = _
  rw [run_bind, on]
  rcases work.run.run balances with ⟨_ | _, _⟩ <;> rfl

def Reads (work : InPlace α) (result : List Balance → Except LedgerError α) : Prop :=
  ∀ balances, work.on balances = (result balances, balances)

theorem Reads.bind {work : InPlace α} {result : List Balance → Except LedgerError α}
    (reads : work.Reads result) (rest : α → InPlace β) (balances : List Balance) :
    (work >>= rest).on balances =
      match result balances with
      | .ok value => (rest value).on balances
      | .error e => (.error e, balances) := by
  rw [on_bind, reads balances]
  cases result balances <;> rfl

private theorem Reads.mapM {work : α → InPlace β} {result : List Balance → α → Except LedgerError β}
    (reads : ∀ value, (work value).Reads fun balances => result balances value)
    (values : List α) : (values.mapM work).Reads fun balances => values.mapM (result balances) := by
  induction values with
  | nil => exact fun balances => rfl
  | cons first rest ih =>
      intro balances
      show _ = ((first :: rest).mapM (result balances), balances)
      rw [List.mapM_cons, (reads first).bind, List.mapM_cons]
      cases result balances first with
      | error e => rfl
      | ok value =>
          show (rest.mapM work >>= fun values => pure (value :: values)).on balances = _
          rw [ih.bind]
          cases rest.mapM (result balances) <;> rfl

private theorem on_forM_modify (update : α → List Balance → List Balance) (values : List α)
    (balances : List Balance) :
    InPlace.on (values.forM fun value => modify (update value)) balances =
      (.ok (), values.foldl (fun balances value => update value balances) balances) := by
  induction values generalizing balances with
  | nil => rfl
  | cons first rest ih =>
      show InPlace.on (modify (update first) >>= fun _ => rest.forM _) balances = _
      rw [on_bind]
      exact ih (update first balances)

end InPlace

/-! ## Where a change goes -/

namespace Balance

/-- The place of the first balance with this key, the number of balances if there is none. -/
def place (key : BalanceKey) (balances : List Balance) : Nat :=
  balances.findIdx fun balance => balance.key = key

variable {key other : BalanceKey} {endAmount : Money} {index : Nat} {balance : Balance}
  {balances : List Balance} {changes : List (Delta × Money)}

theorem place_cons (key : BalanceKey) (balance : Balance) (balances : List Balance) :
    place key (balance :: balances) =
      if balance.key = key then 0 else place key balances + 1 := by
  by_cases own : balance.key = key <;> simp [place, List.findIdx_cons, own]

theorem settle_eq_modify (key : BalanceKey) (endAmount : Money) (balances : List Balance) :
    settle key endAmount balances =
      balances.modify (place key balances) ({ · with endAmount }) := by
  induction balances with
  | nil => rfl
  | cons first rest ih =>
      rw [settle, place_cons]
      split
      · rfl
      · rw [ih, List.modify_succ_cons]

theorem settle_getElem? (key : BalanceKey) (endAmount : Money) (balances : List Balance)
    (index : Nat) : (settle key endAmount balances)[index]? =
      if place key balances = index then balances[index]?.map ({ · with endAmount })
      else balances[index]? := by
  rw [settle_eq_modify, List.getElem?_modify]
  split <;> simp

private theorem map_key_settle (key : BalanceKey) (endAmount : Money) (balances : List Balance) :
    (settle key endAmount balances).map Balance.key = balances.map Balance.key := by
  induction balances with
  | nil => rfl
  | cons first rest ih =>
      rw [settle]
      split <;> simp [ih]

private theorem place_eq (key : BalanceKey) (balances : List Balance) :
    place key balances = (balances.map Balance.key).findIdx (· = key) := by
  rw [List.findIdx_map]
  rfl

theorem place_settle (key other : BalanceKey) (endAmount : Money) (balances : List Balance) :
    place key (settle other endAmount balances) = place key balances := by
  rw [place_eq, map_key_settle, ← place_eq]

theorem getElem?_place (key : BalanceKey) (balances : List Balance) :
    balances[place key balances]? = balances.find? fun balance => balance.key = key :=
  List.find?_eq_getElem?_findIdx.symm

theorem key_of_place (found : balances[place key balances]? = some balance) :
    balance.key = key := by
  rw [getElem?_place] at found
  simpa using List.find?_some found

private theorem key_eq_of_place_eq (found : balances[place key balances]? = some balance)
    (same : place other balances = place key balances) : other = key := by
  have found' : balances[place other balances]? = some balance := by rw [same, found]
  rw [← key_of_place found, key_of_place found']

theorem settleAll_elsewhere
    (elsewhere : ∀ change ∈ changes, place change.1.balance balances ≠ index) :
    (settleAll changes balances)[index]? = balances[index]? := by
  induction changes generalizing balances with
  | nil => rfl
  | cons first rest ih =>
      obtain ⟨apart, elsewhere⟩ := List.forall_mem_cons.mp elsewhere
      show (settleAll rest (settle first.1.balance first.2 balances))[index]? = _
      rw [ih fun change member => by rw [place_settle]; exact elsewhere change member,
        settle_getElem?, if_neg apart]

theorem settleAll_at {change : Delta × Money}
    (distinct : (changes.map fun change => change.1.balance).Nodup) (member : change ∈ changes)
    (found : balances[place change.1.balance balances]? = some balance) :
    (settleAll changes balances)[place change.1.balance balances]? =
      some { balance with endAmount := change.2 } := by
  induction changes generalizing balances with
  | nil => cases member
  | cons first rest ih =>
      rw [List.map_cons, List.nodup_cons] at distinct
      obtain ⟨fresh, distinct⟩ := distinct
      show (settleAll rest (settle first.1.balance first.2 balances))[_]? = _
      rcases List.mem_cons.mp member with rfl | member
      · rw [settleAll_elsewhere, settle_getElem?, if_pos rfl, found]
        · rfl
        · intro other member same
          rw [place_settle] at same
          exact fresh (List.mem_map.mpr ⟨other, member, key_eq_of_place_eq found same⟩)
      · have apart : place first.1.balance balances ≠ place change.1.balance balances := fun same =>
          fresh (List.mem_map.mpr ⟨change, member, (key_eq_of_place_eq found same).symm⟩)
        rw [← place_settle change.1.balance first.1.balance first.2 balances]
        exact ih distinct member (by rw [place_settle, settle_getElem?, if_neg apart, found])

private theorem settleAll_eq_foldl (changes : List (Delta × Money)) (balances : List Balance) :
    settleAll changes balances =
      (changes.map fun change => (place change.1.balance balances, change.2)).foldl
        (fun balances update => balances.modify update.1 ({ · with endAmount := update.2 }))
        balances := by
  induction changes generalizing balances with
  | nil => rfl
  | cons first rest ih =>
      show settleAll rest (settle first.1.balance first.2 balances) = _
      rw [ih]
      simp only [place_settle]
      rw [settle_eq_modify]
      rfl

private theorem find?_zipIdx (key : BalanceKey) (balances : List Balance) (start : Nat) :
    (balances.zipIdx start).find? (fun (balance, _) => balance.key = key) =
      (balances.find? fun balance => balance.key = key).map (·, start + place key balances) := by
  induction balances generalizing start with
  | nil => rfl
  | cons first rest ih =>
      by_cases own : first.key = key
      · simp [place_cons, own]
      · simp [place_cons, own, ih, Nat.add_assoc, Nat.add_comm 1]

end Balance

/-! ## The two ways to apply -/

namespace Prepared

variable {prepared : Prepared} {transaction : Transaction} {balances after : List Balance}

theorem outcome_eq (balances : List Balance) (delta : Delta) : outcome balances delta =
    match balances[Balance.place delta.balance balances]? with
    | some balance => balance.projected delta.amount
    | none => .error (.balanceNotLoaded delta.balance) := by
  rw [Balance.getElem?_place]
  rfl

private theorem locate_reads (delta : Delta) : (locate delta).Reads fun balances =>
    (outcome balances delta).map (Balance.place delta.balance balances, ·) := by
  intro balances
  have got : InPlace.on get balances = (.ok balances, balances) := rfl
  simp only [locate, InPlace.on_bind, got, Balance.find?_zipIdx, Nat.zero_add, outcome_eq,
    Balance.getElem?_place]
  cases balances.find? fun balance => balance.key = delta.balance with
  | none => rfl
  | some balance =>
      show InPlace.on (ExceptT.mk (pure (balance.projected delta.amount)) >>= _) balances =
        ((balance.projected delta.amount).map _, balances)
      cases balance.projected delta.amount <;> rfl

theorem applyInPlace_on (prepared : Prepared) (balances : List Balance) :
    prepared.applyInPlace.on balances =
      match prepared.apply balances with
      | .ok (transaction, after) => (.ok transaction, after)
      | .error e => (.error e, balances) := by
  rw [applyInPlace, (InPlace.Reads.mapM locate_reads prepared.deltas).bind, apply, mapM_map_pair]
  cases prepared.deltas.mapM (outcome balances) with
  | error e => rfl
  | ok endAmounts =>
      show InPlace.on (List.forM _ _ >>= _) balances = (_, Balance.settleAll _ balances)
      rw [InPlace.on_bind, InPlace.on_forM_modify, Balance.settleAll_eq_foldl]
      rfl

theorem applyInPlace_eq_ok_iff : prepared.applyInPlace.on balances = (.ok transaction, after) ↔
    prepared.apply balances = .ok (transaction, after) := by
  rw [applyInPlace_on]
  cases prepared.apply balances <;> simp [Prod.ext_iff]

theorem applyInPlace_eq_error_iff {e : LedgerError} :
    prepared.applyInPlace.on balances = (.error e, after) ↔
      prepared.apply balances = .error e ∧ after = balances := by
  rw [applyInPlace_on]
  cases prepared.apply balances <;> simp [eq_comm]

end Prepared

end DoubleEntry
