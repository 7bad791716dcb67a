import DoubleEntry.Proofs.Store.Table
import Mathlib

/-!
# Sums over the records of a table

An insertion takes the share of the record that it replaces out of a sum and puts
that of the new record in.  A sum over lookups under different keys is one over the
records that stand under these keys.
-/

namespace DoubleEntry.Table

variable {κ ν : Type} [DecidableEq κ]

def share (measure : ν → Int) : Option ν → Int
  | some value => measure value
  | none => 0

theorem sum_insert (table : Table κ ν) (measure : ν → Int) (key : κ) (value : ν) :
    ((table.insert key value).values.map measure).sum =
      (table.values.map measure).sum - share measure (table.get? key) + measure value := by
  cases found : table.get? key with
  | none =>
      rw [values_insert_of_absent value found]
      simp [share]
  | some old =>
      obtain ⟨before, after, values, inserted⟩ := values_insert_of_present value found
      rw [values, inserted]
      simp only [List.map_append, List.map_cons, List.sum_append, List.sum_cons, share]
      omega

private theorem sum_share_get? (table : Table κ ν) (measure : ν → Int) (keys : List κ) :
    (keys.map fun key => share measure (table.get? key)).sum =
      ((keys.filterMap table.get?).map measure).sum := by
  induction keys with
  | nil => rfl
  | cons key keys ih =>
      rw [List.map_cons, List.sum_cons, ih]
      cases found : table.get? key <;> simp [found, share]

theorem KeyedBy.filterMap_get?_perm {name : ν → κ} {table : Table κ ν} (keyed : table.KeyedBy name)
    {keys : List κ} (nodup : keys.Nodup) :
    (keys.filterMap table.get?).Perm (table.values.filter fun value => name value ∈ keys) := by
  have found_nodup : (keys.filterMap table.get?).Nodup := by
    refine nodup.filterMap fun key other value found found' => ?_
    rw [← keyed.name_of_get? found, ← keyed.name_of_get? found']
  have values_nodup : table.values.Nodup := keyed.names_nodup.of_map name
  rw [List.perm_ext_iff_of_nodup found_nodup (values_nodup.filter _)]
  intro value
  simp only [List.mem_filterMap, keyed.get?_eq_some_iff, List.mem_filter, decide_eq_true_eq]
  constructor
  · rintro ⟨key, listed, member, rfl⟩
    exact ⟨member, listed⟩
  · rintro ⟨member, listed⟩
    exact ⟨name value, listed, member, rfl⟩

theorem KeyedBy.sum_share {name : ν → κ} {table : Table κ ν} (keyed : table.KeyedBy name)
    (measure : ν → Int) {keys : List κ} (nodup : keys.Nodup) :
    (keys.map fun key => share measure (table.get? key)).sum =
      ((table.values.filter fun value => name value ∈ keys).map measure).sum := by
  rw [sum_share_get?]
  exact ((keyed.filterMap_get?_perm nodup).map measure).sum_eq

end DoubleEntry.Table
