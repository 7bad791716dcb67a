import DoubleEntry.Proofs.Journal.Settlement
import DoubleEntry.Proofs.Service.Ownership
import Mathlib

/-!
# Precedence of accounts

The locking order compares keys that end with the identifier, so only an account
itself has the same key.  The accounts that an operation locks stand in a row in
which each precedes all that follow (`ordered_pairwise`).  Where no identifier is
used twice, precedence is a strict order of the identifiers of the stored accounts.
-/

namespace DoubleEntry

/-! ## Keys -/

namespace LockKey

private theorem compare_eq (a b : LockKey) : compare a b =
    compareLex (compareOn purposeRank) (compareLex (compareOn systemRank)
      (compareLex (compareOn reference) (compareOn fun key => key.id.uuid.bits.toNat))) a b := by
  rfl

instance : Std.TransOrd LockKey := by
  have same : (compare : LockKey → LockKey → Ordering) = _ := funext₂ compare_eq
  rw [Std.TransOrd, same]
  infer_instance

private theorem id_eq_of_compare {a b : LockKey} (same : compare a b = .eq) : a.id = b.id := by
  have parts : (compare a.purposeRank b.purposeRank).then ((compare a.systemRank b.systemRank).then
      ((compare a.reference b.reference).then (compare a.id b.id))) = .eq := same
  simp only [Ordering.then_eq_eq] at parts
  exact Id.eq_of_compare parts.2.2.2

end LockKey

/-! ## Rows of accounts -/

namespace Account

/-- Whoever needs the locks of both takes that of `a` first. -/
def Precedes (refs : SystemRefs) (a b : Account) : Prop :=
  compare (a.lockKey refs) (b.lockKey refs) = .lt

variable {refs : SystemRefs} {a b c : Account}

private theorem not_precedes_self : ¬ a.Precedes refs a := by
  have same : compare (a.lockKey refs) (a.lockKey refs) = .eq := Std.ReflCmp.compare_self
  rw [Precedes, same]
  nofun

private theorem Precedes.trans (first : a.Precedes refs b) (second : b.Precedes refs c) :
    a.Precedes refs c :=
  Std.TransCmp.lt_trans first second

private theorem Precedes.trans_locksBefore (first : a.Precedes refs b)
    (second : locksBefore refs b c) : a.Precedes refs c :=
  Std.TransCmp.lt_of_lt_of_isLE first second

private theorem precedes_of_locksBefore (before : locksBefore refs a b) (apart : a.id ≠ b.id) :
    a.Precedes refs b := by
  rcases Ordering.isLE_iff_eq_lt_or_eq_eq.mp before with less | same
  · exact less
  · exact absurd (LockKey.id_eq_of_compare same) apart

theorem sortForLocking_pairwise (refs : SystemRefs) (accounts : List Account) :
    (sortForLocking refs accounts).Pairwise (locksBefore refs · ·) := by
  refine sortBy_pairwise (fun a b c => Std.TransCmp.isLE_trans) (fun a b => ?_) accounts
  have swap : compare (a.lockKey refs) (b.lockKey refs) =
      (compare (b.lockKey refs) (a.lockKey refs)).swap := Std.OrientedCmp.eq_swap
  rw [locksBefore, locksBefore, swap]
  cases compare (b.lockKey refs) (a.lockKey refs) <;> rfl

end Account

namespace Bank

variable {refs : SystemRefs} {account : Account} {accounts others : List Account}

theorem mem_of_mem_dropRepeatedAfter {member : Account}
    (among : member ∈ dropRepeatedAfter account others) : member ∈ account :: others := by
  induction others generalizing account with
  | nil => exact among
  | cons next rest ih =>
      rw [dropRepeatedAfter] at among
      split at among
      next =>
        rcases List.mem_cons.mp (ih among) with rfl | among
        · exact List.mem_cons_self
        · exact List.mem_cons_of_mem _ (List.mem_cons_of_mem _ among)
      next =>
        rcases List.mem_cons.mp among with rfl | among
        · exact List.mem_cons_self
        · exact List.mem_cons_of_mem _ (ih among)

private theorem dropRepeatedAfter_pairwise
    (sorted : (account :: others).Pairwise (Account.locksBefore refs · ·)) :
    (dropRepeatedAfter account others).Pairwise (Account.Precedes refs) := by
  induction others generalizing account with
  | nil => exact List.pairwise_singleton _ _
  | cons next rest ih =>
      obtain ⟨first, others⟩ := List.pairwise_cons.mp sorted
      rw [dropRepeatedAfter]
      split
      next =>
        refine ih (List.pairwise_cons.mpr ⟨?_, (List.pairwise_cons.mp others).2⟩)
        exact fun later member => first later (List.mem_cons_of_mem _ member)
      next apart =>
        refine List.pairwise_cons.mpr ⟨?_, ih others⟩
        intro later among
        have precedes := Account.precedes_of_locksBefore (first next List.mem_cons_self) apart
        rcases List.mem_cons.mp (mem_of_mem_dropRepeatedAfter among) with rfl | member
        · exact precedes
        · exact precedes.trans_locksBefore ((List.pairwise_cons.mp others).1 later member)

theorem mem_of_mem_ordered {member : Account}
    (among : member ∈ dropRepeated (Account.sortForLocking refs accounts)) :
    member ∈ accounts := by
  apply (sortBy_perm (Account.locksBefore refs) accounts).mem_iff.mp
  rw [Account.sortForLocking] at among
  cases shape : sortBy (Account.locksBefore refs) accounts with
  | nil => simp [shape, dropRepeated] at among
  | cons first rest =>
      rw [shape] at among
      exact mem_of_mem_dropRepeatedAfter among

theorem ordered_pairwise (refs : SystemRefs) (accounts : List Account) :
    (dropRepeated (Account.sortForLocking refs accounts)).Pairwise (Account.Precedes refs) := by
  have sorted := Account.sortForLocking_pairwise refs accounts
  cases shape : Account.sortForLocking refs accounts with
  | nil => exact .nil
  | cons first rest =>
      rw [shape] at sorted
      exact dropRepeatedAfter_pairwise sorted

end Bank

/-! ## Identifiers of stored accounts -/

namespace Tables

def Precedes (refs : SystemRefs) (tables : Tables) (a b : AccountId) : Prop :=
  ∃ account ∈ tables.accounts.values, ∃ other ∈ tables.accounts.values,
    account.id = a ∧ other.id = b ∧ account.Precedes refs other

variable {refs : SystemRefs} {tables : Tables} {a b c : AccountId}

theorem Identified.not_precedes_self (identified : tables.Identified) :
    ¬ tables.Precedes refs a a := by
  rintro ⟨account, stored, other, stored', rfl, same, precedes⟩
  rw [identified other stored' account stored same] at precedes
  exact Account.not_precedes_self precedes

theorem Identified.precedes_trans (identified : tables.Identified)
    (first : tables.Precedes refs a b) (second : tables.Precedes refs b c) :
    tables.Precedes refs a c := by
  obtain ⟨account, known, middle, stored, rfl, rfl, precedes⟩ := first
  obtain ⟨middle', stored', other, known', same, rfl, precedes'⟩ := second
  rw [identified middle' stored' middle stored same] at precedes'
  exact ⟨account, known, other, known', rfl, rfl, precedes.trans precedes'⟩

end Tables

end DoubleEntry
