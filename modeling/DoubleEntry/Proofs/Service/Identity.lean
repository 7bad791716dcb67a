import DoubleEntry.Proofs.Service.Chronicle
import Mathlib

/-!
# Identifiers are not reused

No two commits of a run use the same position of the supply.  As long as the supply
repeats nothing, accounts with the same identifier are therefore the same account.
-/

namespace DoubleEntry

/-- The supply repeats none of its first `count` identifiers. -/
def Surroundings.Distinct (surroundings : Surroundings) (count : Nat) : Prop :=
  ∀ i < count, ∀ j < count, surroundings.uuid i = surroundings.uuid j → i = j

/-- Identifiers that are counted, while the clock stands still. -/
def Surroundings.counting : Surroundings := ⟨fun i => ⟨BitVec.ofNat 128 i⟩, fun _ => .epoch⟩

theorem Surroundings.counting_distinct {count : Nat} (few : count ≤ 2 ^ 128) :
    counting.Distinct count := by
  intro i within j within' same
  have bits : BitVec.ofNat 128 i = BitVec.ofNat 128 j := congrArg Uuid.bits same
  have values := congrArg BitVec.toNat bits
  rwa [BitVec.toNat_ofNat, BitVec.toNat_ofNat, Nat.mod_eq_of_lt (Nat.lt_of_lt_of_le within few),
    Nat.mod_eq_of_lt (Nat.lt_of_lt_of_le within' few)] at values

theorem Surroundings.Distinct.mono {surroundings : Surroundings} {count fewer : Nat}
    (distinct : surroundings.Distinct count) (le : fewer ≤ count) : surroundings.Distinct fewer :=
  fun i within j within' =>
    distinct i (Nat.lt_of_lt_of_le within le) j (Nat.lt_of_lt_of_le within' le)

variable {surroundings : Surroundings} {settings : LedgerSettings} {admission : Admission}
  {history : History} {system : System} {deeds : List Deed} {owner : Nat → Nat} {tables : Tables}

theorem Deed.flatMap_ids (surroundings : Surroundings) (deeds : List Deed) :
    deeds.flatMap (Deed.ids surroundings) =
      (deeds.flatMap Deed.used).map surroundings.uuid := by
  rw [List.map_flatMap]
  rfl

namespace Orderly

theorem used_issued (orderly : Orderly surroundings settings admission history system deeds owner) :
    ∀ i ∈ deeds.flatMap Deed.used, i < system.world.issued := by
  intro i member
  obtain ⟨deed, among, used⟩ := List.mem_flatMap.mp member
  exact (orderly.used deed among).issued i used

/-- Each position of the supply is used once: its owner commits once, and uses it once. -/
theorem used_nodup (orderly : Orderly surroundings settings admission history system deeds owner) :
    (deeds.flatMap Deed.used).Nodup := by
  rw [List.nodup_flatMap]
  constructor
  · intro deed member
    exact (orderly.used deed member).ascends.imp Nat.ne_of_lt
  · have apart : deeds.Pairwise fun a b => a.position ≠ b.position := by
      have nodup := orderly.commits_nodup
      rw [orderly.commits] at nodup
      exact List.pairwise_map.mp nodup
    refine apart.imp_of_mem fun {a b} memberA memberB differ => ?_
    intro i usedA usedB
    have ownedA := (orderly.used a memberA).owned i usedA
    have ownedB := (orderly.used b memberB).owned i usedB
    exact differ (ownedA.symm.trans ownedB)

theorem ids_nodup (orderly : Orderly surroundings settings admission history system deeds owner)
    (distinct : surroundings.Distinct system.world.issued) :
    (deeds.flatMap (Deed.ids surroundings)).Nodup := by
  rw [Deed.flatMap_ids]
  refine List.Nodup.map_on ?_ orderly.used_nodup
  intro i usedI j usedJ same
  exact distinct i (orderly.used_issued i usedI) j (orderly.used_issued j usedJ) same

end Orderly

private theorem Chronicle.accounts_sublist
    (chronicle : Chronicle surroundings settings admission deeds tables) :
    (tables.accounts.values.map fun account => account.id.uuid).Sublist
      (deeds.flatMap (Deed.ids surroundings)) := by
  induction chronicle with
  | nothing => exact .slnil
  | deed deed voucher acceptable _ _ ih =>
      rw [UnitOfWork.publish_accounts_values acceptable, List.map_append, List.flatMap_append]
      refine ih.append ?_
      simpa using voucher.accounts_ids

theorem Chronicle.account_eq (chronicle : Chronicle surroundings settings admission deeds tables)
    (nodup : (deeds.flatMap (Deed.ids surroundings)).Nodup) {account other : Account}
    (stored : account ∈ tables.accounts.values) (stored' : other ∈ tables.accounts.values)
    (same : account.id = other.id) : account = other :=
  List.inj_on_of_nodup_map (nodup.sublist chronicle.accounts_sublist) stored stored'
    (congrArg Id.uuid same)

theorem Operation.Reached.exists_distinct_chronicle {world : World}
    (reached : Operation.Reached surroundings settings world)
    (distinct : surroundings.Distinct world.issued) :
    ∃ deeds, Chronicle surroundings settings .known deeds world.store.tables ∧
      (deeds.flatMap (Deed.ids surroundings)).Nodup := by
  obtain ⟨_, _, run⟩ := reached.exists_history
  obtain ⟨deeds, _, orderly⟩ := run.orderly
  exact ⟨deeds, orderly.chronicle, orderly.ids_nodup distinct⟩

end DoubleEntry
