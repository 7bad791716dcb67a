/-!
# Sorting

Sorting by insertion, as data that evaluates step by step.  `sortBy` keeps all
elements (`sortBy_perm`), puts them in order (`sortBy_pairwise`), and leaves a list
that is in order as it is (`sortBy_of_pairwise`).  Elements neither of which must
follow the other keep their order (`sortBy_filter`).
-/

namespace DoubleEntry

variable {α : Type}

def insertBy (before : α → α → Bool) (a : α) : List α → List α
  | [] => [a]
  | b :: rest => if before a b then a :: b :: rest else b :: insertBy before a rest

def sortBy (before : α → α → Bool) : List α → List α
  | [] => []
  | a :: rest => insertBy before a (sortBy before rest)

theorem insertBy_perm (before : α → α → Bool) (a : α) (l : List α) :
    (insertBy before a l).Perm (a :: l) := by
  induction l with
  | nil => exact .refl _
  | cons b rest ih =>
    rw [insertBy]
    split
    · exact .refl _
    · exact (ih.cons b).trans (.swap a b rest)

theorem sortBy_perm (before : α → α → Bool) (l : List α) : (sortBy before l).Perm l := by
  induction l with
  | nil => exact .refl _
  | cons a rest ih => exact (insertBy_perm before a _).trans (ih.cons a)

private theorem insertBy_pairwise {before : α → α → Bool}
    (trans : ∀ a b c, before a b → before b c → before a c)
    (total : ∀ a b, before a b || before b a) (a : α) {l : List α}
    (h : l.Pairwise (before · ·)) : (insertBy before a l).Pairwise (before · ·) := by
  induction l with
  | nil => simp [insertBy]
  | cons b rest ih =>
    obtain ⟨hb, hrest⟩ := List.pairwise_cons.mp h
    rw [insertBy]
    split
    next hab =>
      refine List.pairwise_cons.mpr ⟨fun c hc => ?_, h⟩
      rcases List.mem_cons.mp hc with rfl | hc
      · exact hab
      · exact trans a b c hab (hb c hc)
    next hab =>
      refine List.pairwise_cons.mpr ⟨fun c hc => ?_, ih hrest⟩
      rcases List.mem_cons.mp ((insertBy_perm before a rest).mem_iff.mp hc) with rfl | hc
      · simpa [hab] using total c b
      · exact hb c hc

theorem sortBy_pairwise {before : α → α → Bool}
    (trans : ∀ a b c, before a b → before b c → before a c)
    (total : ∀ a b, before a b || before b a) (l : List α) :
    (sortBy before l).Pairwise (before · ·) := by
  induction l with
  | nil => exact .nil
  | cons a rest ih => exact insertBy_pairwise trans total a ih

theorem sortBy_of_pairwise {before : α → α → Bool} {l : List α}
    (h : l.Pairwise (before · ·)) : sortBy before l = l := by
  induction l with
  | nil => rfl
  | cons a rest ih =>
    obtain ⟨ha, hrest⟩ := List.pairwise_cons.mp h
    rw [sortBy, ih hrest]
    cases rest with
    | nil => rfl
    | cons b rest => rw [insertBy, if_pos (ha b List.mem_cons_self)]

section Mapping

variable {β : Type} {before : α → α → Bool} {before' : β → β → Bool} {f : α → β}

private theorem insertBy_map (same : ∀ a b, before' (f a) (f b) = before a b) (a : α) (l : List α) :
    insertBy before' (f a) (l.map f) = (insertBy before a l).map f := by
  induction l with
  | nil => rfl
  | cons b rest ih =>
    rw [List.map_cons, insertBy, insertBy, same]
    split
    · rfl
    · rw [ih, List.map_cons]

theorem sortBy_map (same : ∀ a b, before' (f a) (f b) = before a b) (l : List α) :
    sortBy before' (l.map f) = (sortBy before l).map f := by
  induction l with
  | nil => rfl
  | cons a rest ih => rw [List.map_cons, sortBy, ih, insertBy_map same, sortBy]

end Mapping

private theorem insertBy_filter {before : α → α → Bool} {p : α → Bool}
    (tied : ∀ a b, p a → p b → before a b) (a : α) (l : List α) :
    (insertBy before a l).filter p = (a :: l).filter p := by
  induction l with
  | nil => rfl
  | cons b rest ih =>
    rw [insertBy]
    split
    · rfl
    next after =>
      have apart : ¬ (p a ∧ p b) := fun both => after (tied a b both.1 both.2)
      rw [List.filter_cons, ih]
      by_cases pa : p a <;> by_cases pb : p b <;> simp_all

theorem sortBy_filter {before : α → α → Bool} {p : α → Bool}
    (tied : ∀ a b, p a → p b → before a b) (l : List α) :
    (sortBy before l).filter p = l.filter p := by
  induction l with
  | nil => rfl
  | cons a rest ih => rw [sortBy, insertBy_filter tied, List.filter_cons, List.filter_cons, ih]

end DoubleEntry
