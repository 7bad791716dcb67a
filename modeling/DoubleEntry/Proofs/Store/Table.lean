import DoubleEntry.Store.Table

/-!
# Tables keyed by their records

A table is keyed by a name if every record stands under its own name and no name
occurs twice.  Then a lookup finds exactly the records of the table
(`get?_eq_some_iff`), and an insertion either replaces one record in its place or
adds one at the end.
-/

namespace DoubleEntry.Table

variable {κ ν : Type}

/-- Every record stands under its own name, and no name occurs twice. -/
structure KeyedBy (name : ν → κ) (table : Table κ ν) : Prop where
  named : ∀ entry ∈ table.entries, entry.1 = name entry.2
  nodup : (table.entries.map Prod.fst).Nodup

theorem keyedBy_empty (name : ν → κ) : (∅ : Table κ ν).KeyedBy name where
  named := by intro entry h; cases h
  nodup := .nil

theorem KeyedBy.names_nodup {name : ν → κ} {table : Table κ ν} (keyed : table.KeyedBy name) :
    (table.values.map name).Nodup := by
  have names : table.values.map name = table.entries.map Prod.fst := by
    rw [values, List.map_map]
    exact List.map_congr_left fun entry member => (keyed.named entry member).symm
  rw [names]
  exact keyed.nodup

@[simp] theorem values_empty : (∅ : Table κ ν).values = [] := rfl

@[simp] theorem entries_empty : (∅ : Table κ ν).entries = [] := rfl

variable [DecidableEq κ]

@[simp] theorem get?_emptyCollection (key : κ) : (∅ : Table κ ν).get? key = none := rfl

@[simp] theorem values_insert_empty (key : κ) (value : ν) :
    ((∅ : Table κ ν).insert key value).values = [value] := rfl

@[simp] theorem overlay_empty (under : Table κ ν) : under.overlay ∅ = under := rfl

/-! ## Lookups -/

theorem find?_eq_none_iff {key : κ} {entries : List (κ × ν)} :
    find? key entries = none ↔ key ∉ entries.map Prod.fst := by
  induction entries with
  | nil => simp [find?]
  | cons entry entries ih =>
      obtain ⟨k, value⟩ := entry
      by_cases hk : k = key
      · simp [find?, hk]
      · simp [find?, hk, ih, Ne.symm hk]

theorem mem_of_find?_eq_some {key : κ} {value : ν} {entries : List (κ × ν)}
    (found : find? key entries = some value) : (key, value) ∈ entries := by
  induction entries with
  | nil => cases found
  | cons entry entries ih =>
      obtain ⟨k, old⟩ := entry
      by_cases hk : k = key
      · subst hk
        simp only [find?, if_pos, Option.some.injEq] at found
        simp [found]
      · simp only [find?, if_neg hk] at found
        exact List.mem_cons_of_mem _ (ih found)

private theorem find?_eq_some_of_mem {key : κ} {value : ν} {entries : List (κ × ν)}
    (nodup : (entries.map Prod.fst).Nodup) (member : (key, value) ∈ entries) :
    find? key entries = some value := by
  induction entries with
  | nil => cases member
  | cons entry entries ih =>
      obtain ⟨k, old⟩ := entry
      simp only [List.map_cons, List.nodup_cons] at nodup
      rcases List.mem_cons.mp member with same | later
      · cases same
        simp [find?]
      · have differs : k ≠ key := by
          rintro rfl
          exact nodup.1 (List.mem_map.mpr ⟨_, later, rfl⟩)
        simpa [find?, differs] using ih nodup.2 later

theorem contains_eq_false_iff {table : Table κ ν} {key : κ} :
    table.contains key = false ↔ table.get? key = none := by
  simp [contains]

namespace KeyedBy

variable {name : ν → κ} {table : Table κ ν}

theorem get?_eq_some_iff (keyed : table.KeyedBy name) {key : κ} {value : ν} :
    table.get? key = some value ↔ value ∈ table.values ∧ name value = key := by
  constructor
  · intro found
    have member := mem_of_find?_eq_some found
    exact ⟨List.mem_map.mpr ⟨_, member, rfl⟩, (keyed.named _ member).symm⟩
  · rintro ⟨member, rfl⟩
    obtain ⟨⟨key, value⟩, entry, rfl⟩ := List.mem_map.mp member
    have named : key = name value := keyed.named _ entry
    subst named
    exact find?_eq_some_of_mem keyed.nodup entry

theorem get?_name (keyed : table.KeyedBy name) {value : ν} (member : value ∈ table.values) :
    table.get? (name value) = some value :=
  keyed.get?_eq_some_iff.mpr ⟨member, rfl⟩

theorem mem_of_get? (keyed : table.KeyedBy name) {key : κ} {value : ν}
    (found : table.get? key = some value) : value ∈ table.values :=
  (keyed.get?_eq_some_iff.mp found).1

theorem name_of_get? (keyed : table.KeyedBy name) {key : κ} {value : ν}
    (found : table.get? key = some value) : name value = key :=
  (keyed.get?_eq_some_iff.mp found).2

theorem eq_of_name (keyed : table.KeyedBy name) {value other : ν} (member : value ∈ table.values)
    (member' : other ∈ table.values) (same : name value = name other) : value = other := by
  have found := keyed.get?_name member
  rw [same, keyed.get?_name member'] at found
  exact (Option.some.inj found).symm

end KeyedBy

/-! ## Insertions -/

theorem place_of_notMem {key : κ} {entries : List (κ × ν)} (value : ν)
    (absent : key ∉ entries.map Prod.fst) :
    place key value entries = entries ++ [(key, value)] := by
  induction entries with
  | nil => rfl
  | cons entry entries ih =>
      obtain ⟨k, old⟩ := entry
      simp only [List.map_cons, List.mem_cons, not_or] at absent
      simp [place, Ne.symm absent.1, ih absent.2]

theorem place_of_mem {key : κ} {old : ν} {entries : List (κ × ν)} (value : ν)
    (found : find? key entries = some old) :
    ∃ before after, entries = before ++ (key, old) :: after ∧
      place key value entries = before ++ (key, value) :: after := by
  induction entries with
  | nil => cases found
  | cons entry entries ih =>
      obtain ⟨k, first⟩ := entry
      by_cases hk : k = key
      · subst hk
        simp only [find?, if_pos, Option.some.injEq] at found
        subst found
        exact ⟨[], entries, rfl, by simp [place]⟩
      · simp only [find?, if_neg hk] at found
        obtain ⟨before, after, rfl, placed⟩ := ih found
        exact ⟨(k, first) :: before, after, rfl, by simp [place, hk, placed]⟩

theorem values_insert_of_absent {table : Table κ ν} {key : κ} (value : ν)
    (absent : table.get? key = none) :
    (table.insert key value).values = table.values ++ [value] := by
  simp [insert, values, place_of_notMem value (find?_eq_none_iff.mp absent)]

theorem values_insert_of_present {table : Table κ ν} {key : κ} {old : ν} (value : ν)
    (found : table.get? key = some old) :
    ∃ before after, table.values = before ++ old :: after ∧
      (table.insert key value).values = before ++ value :: after := by
  obtain ⟨before, after, entries, placed⟩ := place_of_mem value found
  exact ⟨before.map Prod.snd, after.map Prod.snd, by simp [values, entries],
    by simp [insert, values, placed]⟩

namespace KeyedBy

variable {name : ν → κ} {table : Table κ ν}

theorem insert (keyed : table.KeyedBy name) (value : ν) :
    (table.insert (name value) value).KeyedBy name := by
  cases found : table.get? (name value) with
  | none =>
      have absent := find?_eq_none_iff.mp found
      have placed := place_of_notMem value absent
      constructor
      · intro entry member
        simp only [Table.insert, placed, List.mem_append, List.mem_singleton] at member
        rcases member with member | rfl
        · exact keyed.named entry member
        · rfl
      · simp only [Table.insert, placed, List.map_append, List.map_cons, List.map_nil]
        exact List.nodup_append.mpr ⟨keyed.nodup, by simp, by
          rintro key member _ (_ | _) rfl
          · exact absent member
          · contradiction⟩
  | some old =>
      obtain ⟨before, after, entries, placed⟩ := place_of_mem value found
      constructor
      · intro entry member
        simp only [Table.insert, placed, List.mem_append, List.mem_cons] at member
        have among : ∀ e ∈ before ++ after, e.1 = name e.2 := by
          intro e h
          apply keyed.named
          rw [entries]
          rcases List.mem_append.mp h with h | h <;> simp [h]
        rcases member with member | rfl | member
        · exact among entry (List.mem_append_left _ member)
        · rfl
        · exact among entry (List.mem_append_right _ member)
      · have nodup := keyed.nodup
        rw [entries] at nodup
        simpa [Table.insert, placed] using nodup

end KeyedBy

/-! ## Many insertions -/

section Many

variable {μ : Type} {name : ν → κ} (key : μ → κ) (record : μ → ν)

theorem KeyedBy.foldl_insert {table : Table κ ν} (keyed : table.KeyedBy name)
    (named : ∀ source, name (record source) = key source) (sources : List μ) :
    (sources.foldl (fun t source => t.insert (key source) (record source)) table).KeyedBy name := by
  induction sources generalizing table with
  | nil => exact keyed
  | cons source rest ih =>
      have step := keyed.insert (record source)
      rw [named source] at step
      exact ih step

theorem get?_foldl_insert {table : Table κ ν} {sources : List μ} {other : κ}
    (absent : ∀ source ∈ sources, key source ≠ other) :
    (sources.foldl (fun t source => t.insert (key source) (record source)) table).get? other =
      table.get? other := by
  induction sources generalizing table with
  | nil => rfl
  | cons source rest ih =>
      rw [List.foldl_cons, ih fun later member => absent later (List.mem_cons_of_mem _ member),
        get?_insert, if_neg (absent source List.mem_cons_self)]

theorem values_foldl_insert_of_absent {table : Table κ ν} {sources : List μ}
    (absent : ∀ source ∈ sources, table.get? (key source) = none)
    (nodup : (sources.map key).Nodup) :
    (sources.foldl (fun t source => t.insert (key source) (record source)) table).values =
      table.values ++ sources.map record := by
  induction sources generalizing table with
  | nil => simp
  | cons source rest ih =>
      rw [List.map_cons, List.nodup_cons] at nodup
      have still : ∀ later ∈ rest,
          (table.insert (key source) (record source)).get? (key later) = none := by
        intro later member
        have differ : key source ≠ key later := fun same =>
          nodup.1 (List.mem_map.mpr ⟨later, member, same.symm⟩)
        rw [get?_insert, if_neg differ]
        exact absent later (List.mem_cons_of_mem _ member)
      rw [List.foldl_cons, ih still nodup.2,
        values_insert_of_absent (record source) (absent source List.mem_cons_self)]
      simp

theorem mem_entries_of_mem_insert {table : Table κ ν} {place : κ} {value : ν} {entry : κ × ν}
    (member : entry ∈ (table.insert place value).entries) :
    entry = (place, value) ∨ entry ∈ table.entries := by
  cases found : table.get? place with
  | none =>
      have absent := place_of_notMem value (find?_eq_none_iff.mp found)
      rw [insert, absent] at member
      simpa [or_comm] using member
  | some old =>
      obtain ⟨before, after, entries, placed⟩ := place_of_mem value found
      rw [insert, placed] at member
      rw [entries]
      simp only [List.mem_append, List.mem_cons] at member ⊢
      rcases member with member | member | member
      · exact .inr (.inl member)
      · exact .inl member
      · exact .inr (.inr (.inr member))

theorem mem_of_mem_insert {table : Table κ ν} {place : κ} {value other : ν}
    (member : other ∈ (table.insert place value).values) :
    other = value ∨ other ∈ table.values := by
  obtain ⟨entry, among, rfl⟩ := List.mem_map.mp member
  rcases mem_entries_of_mem_insert among with rfl | among
  · exact .inl rfl
  · exact .inr (List.mem_map.mpr ⟨entry, among, rfl⟩)

theorem mem_of_mem_foldl_insert {table : Table κ ν} {sources : List μ} {value : ν}
    (member : value ∈
      (sources.foldl (fun t source => t.insert (key source) (record source)) table).values) :
    value ∈ table.values ∨ ∃ source ∈ sources, value = record source := by
  induction sources generalizing table with
  | nil => exact .inl member
  | cons source rest ih =>
      rcases ih member with member | ⟨later, among, rfl⟩
      · rcases mem_of_mem_insert member with rfl | member
        · exact .inr ⟨source, List.mem_cons_self, rfl⟩
        · exact .inl member
      · exact .inr ⟨later, List.mem_cons_of_mem _ among, rfl⟩

end Many

end DoubleEntry.Table
