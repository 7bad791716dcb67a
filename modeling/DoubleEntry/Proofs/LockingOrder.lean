import DoubleEntry.Proofs.Service.Precedence
import DoubleEntry.Proofs.Text.Utf8
import Mathlib

/-!
# One locking order for all

Every account has a place that depends on the account and the configured references
alone (`Account.place`).  Sorting puts any list of accounts by their places, so two
accounts come out in the same order whatever else is sorted with them
(`Account.sortForLocking_one_order`).
-/

namespace DoubleEntry.Account

variable {refs : SystemRefs} {a b : Account} {accounts : List Account}

/-! ## Places -/

/-- The place in the locking order: first the purpose, then the role of a system account, then the
bytes of the reference, then the identifier. -/
def place (refs : SystemRefs) (account : Account) : Nat ×ₗ Nat ×ₗ List Nat ×ₗ Nat :=
  let role := if account.purpose = .system then refs.rank account.reference else 0
  toLex (account.purpose.lockRank, toLex (role,
    toLex (Text.utf8 account.reference, account.id.uuid.bits.toNat)))

private theorem lockKey_eq (refs : SystemRefs) (account : Account) : account.lockKey refs =
    ⟨account.purpose.lockRank,
      if account.purpose = .system then refs.rank account.reference else 0,
      account.reference, account.id⟩ := by
  cases purpose : account.purpose <;> simp [lockKey, purpose]

private theorem precedes_iff_place_lt : a.Precedes refs b ↔ a.place refs < b.place refs := by
  have references : compare a.reference b.reference = .lt ↔
      Text.utf8 a.reference < Text.utf8 b.reference :=
    compareOfLessAndEq_eq_lt.trans Text.utf8_strictMono.lt_iff_lt.symm
  have ids : compare a.id b.id = .lt ↔ a.id.uuid.bits.toNat < b.id.uuid.bits.toNat :=
    Nat.compare_eq_lt
  rw [Precedes, lockKey_eq, lockKey_eq]
  show (compare _ _).then ((compare _ _).then ((compare _ _).then (compare _ _))) = .lt ↔ _
  simp only [place, Ordering.then_eq_lt, Prod.Lex.toLex_lt_toLex, Nat.compare_eq_lt,
    references, ids, Std.LawfulEqOrd.compare_eq_iff_eq, Text.utf8_strictMono.injective.eq_iff]

private theorem locksBefore_iff_place_le : locksBefore refs a b ↔ a.place refs ≤ b.place refs := by
  rw [← not_lt, ← precedes_iff_place_lt, Precedes, ← Std.OrientedCmp.gt_iff_lt, locksBefore]
  cases compare (a.lockKey refs) (b.lockKey refs) <;> simp

private theorem id_eq_of_place_eq (same : a.place refs = b.place refs) : a.id = b.id := by
  simp only [place, toLex_inj, Prod.mk.injEq] at same
  obtain ⟨-, -, -, bits⟩ := same
  exact Id.eq_of_compare (Nat.compare_eq_eq.mpr bits)

/-! ## Rows by places -/

private theorem sortForLocking_perm (refs : SystemRefs) (accounts : List Account) :
    (sortForLocking refs accounts).Perm accounts :=
  sortBy_perm _ accounts

private theorem sortForLocking_ascends (refs : SystemRefs) (accounts : List Account) :
    (sortForLocking refs accounts).Pairwise fun a b => a.place refs ≤ b.place refs :=
  (sortForLocking_pairwise refs accounts).imp locksBefore_iff_place_le.mp

private theorem pair_sublist_sortForLocking (less : a.place refs < b.place refs)
    (mem_a : a ∈ accounts) (mem_b : b ∈ accounts) : [a, b].Sublist (sortForLocking refs accounts) ∧
      ¬ [b, a].Sublist (sortForLocking refs accounts) := by
  have ascends := sortForLocking_ascends refs accounts
  constructor
  · have found := (sortForLocking_perm refs accounts).mem_iff.mpr mem_a
    have found' := (sortForLocking_perm refs accounts).mem_iff.mpr mem_b
    obtain ⟨before, after, row⟩ := List.append_of_mem found
    rw [row] at ascends found' ⊢
    rcases List.mem_append.mp found' with earlier | later
    · have le := (List.pairwise_append.mp ascends).2.2 b earlier a List.mem_cons_self
      exact absurd less (not_lt.mpr le)
    · rcases List.mem_cons.mp later with rfl | later
      · exact absurd less (lt_irrefl _)
      · have tail : [a, b].Sublist (a :: after) := (List.singleton_sublist.mpr later).cons_cons a
        exact tail.trans (List.sublist_append_right before _)
  · intro reversed
    have le := List.rel_of_pairwise_cons (ascends.sublist reversed) List.mem_cons_self
    exact absurd less (not_lt.mpr le)

private theorem sortForLocking_of_perm (nodup : (accounts.map Account.id).Nodup)
    {others : List Account}
    (perm : others.Perm accounts) : sortForLocking refs others = sortForLocking refs accounts := by
  have sorted := sortForLocking_perm refs others
  refine List.Perm.eq_of_pairwise (fun a b mem_a mem_b le ge => ?_)
    (sortForLocking_ascends refs others) (sortForLocking_ascends refs accounts)
    (sorted.trans (perm.trans (sortForLocking_perm refs accounts).symm))
  have known := perm.mem_iff.mp (sorted.mem_iff.mp mem_a)
  have known' := (sortForLocking_perm refs accounts).mem_iff.mp mem_b
  exact List.inj_on_of_nodup_map nodup known known' (id_eq_of_place_eq (le_antisymm le ge))

/-- `sorted` has the accounts by their places, and those with the same place as they were. -/
structure ByPlace (refs : SystemRefs) (accounts sorted : List Account) : Prop where
  perm : sorted.Perm accounts
  ascends : sorted.Pairwise fun a b => a.place refs ≤ b.place refs
  stable : ∀ place, sorted.filter (fun account => account.place refs = place) =
    accounts.filter fun account => account.place refs = place

private theorem sortForLocking_byPlace (refs : SystemRefs) (accounts : List Account) :
    ByPlace refs accounts (sortForLocking refs accounts) where
  perm := sortForLocking_perm refs accounts
  ascends := sortForLocking_ascends refs accounts
  stable place := by
    refine sortBy_filter (fun a b at_a at_b => ?_) accounts
    rw [locksBefore_iff_place_le, of_decide_eq_true at_a, of_decide_eq_true at_b]

/-- Sorting for locking gives one order for all lists, however the accounts are held. -/
theorem sortForLocking_one_order (refs : SystemRefs) (accounts : List Account) :
    ByPlace refs accounts (sortForLocking refs accounts) ∧
    sortForLocking refs (sortForLocking refs accounts) = sortForLocking refs accounts ∧
    (∀ (α : Type) (account : α → Account) (values : List α), values.map account = accounts →
      (sortForLockingVia account refs values).map account = sortForLocking refs accounts) ∧
    ((accounts.map Account.id).Nodup → ∀ others : List Account, others.Perm accounts →
      sortForLocking refs others = sortForLocking refs accounts) ∧
    ∀ a b : Account, a.id ≠ b.id →
      (∀ list : List Account, a ∈ list → b ∈ list →
        [a, b].Sublist (sortForLocking refs list) ∧
          ¬ [b, a].Sublist (sortForLocking refs list)) ∨
      ∀ list : List Account, a ∈ list → b ∈ list →
        [b, a].Sublist (sortForLocking refs list) ∧
          ¬ [a, b].Sublist (sortForLocking refs list) := by
  refine ⟨sortForLocking_byPlace refs accounts, ?idempotent, ?borrowed, ?permuted, ?pairs⟩
  case idempotent => exact sortBy_of_pairwise (sortForLocking_pairwise refs accounts)
  case borrowed =>
    rintro α account values rfl
    exact (sortBy_map (fun _ _ => rfl) values).symm
  case permuted => exact fun nodup others => sortForLocking_of_perm nodup
  case pairs =>
    intro a b apart
    have places : a.place refs ≠ b.place refs := fun same => apart (id_eq_of_place_eq same)
    rcases lt_or_gt_of_ne places with less | greater
    · exact .inl fun list mem_a mem_b => pair_sublist_sortForLocking less mem_a mem_b
    · exact .inr fun list mem_a mem_b => pair_sublist_sortForLocking greater mem_b mem_a

-- a current account gains nothing by the reference of the reserve
example :
    let account (number : Nat) (reference : String) (purpose : Purpose) : Account :=
      ⟨⟨⟨.ofNat 128 number⟩⟩, reference, reference, .liability, purpose, .epoch⟩
    (sortForLocking ⟨"bank", "reservations", "premiums"⟩
      [account 1 "user" .premium, account 2 "bank" .current, account 3 "audit" .system,
        account 4 "premiums" .system, account 5 "bank" .system]).map (·.id.uuid.bits.toNat) =
      [5, 4, 3, 2, 1] := by decide +kernel

end DoubleEntry.Account
