import DoubleEntry.Proofs.Store.Table
import DoubleEntry.Store.UnitOfWork

/-!
# Periods that tile the time line

The ledgers of the bank follow each other without a gap: each closes where the
next one opens, and the last one is open.  So an instant lies in at most one
ledger (`Tiles.eq_of_covers`), the open ledger is the last one, and closing it to
open another keeps the order (`Tiles.rollover`).  A ledger has version 1 while it
is open and version 2 from then on, so its version tells which of the two it is.
-/

namespace DoubleEntry

theorem Ledger.covers_iff {ledger : Ledger} {time : Instant} :
    ledger.covers time ↔ ledger.opensAt ≤ time ∧
      ∀ closesAt, ledger.closesAt = some closesAt → time < closesAt := by
  rw [Ledger.covers, Bool.and_eq_true, Option.all_eq_true, decide_eq_true_iff]
  simp only [decide_eq_true_iff]

/-- Ledgers in the order of their periods, with the versions that they are stored with. -/
inductive Tiles : List Ledger → Prop where
  | none : Tiles []
  | last {ledger : Ledger} (isOpen : ledger.closesAt = .none) (version : ledger.version = 1) :
      Tiles [ledger]
  | before {first second : Ledger} {rest : List Ledger}
      (meets : first.closesAt = some second.opensAt) (forward : first.opensAt < second.opensAt)
      (version : first.version = 2) :
      Tiles (second :: rest) → Tiles (first :: second :: rest)

namespace Tiles

variable {ledgers : List Ledger}

/-! ## Order -/

theorem closes_before {first : Ledger} {rest : List Ledger} (tiles : Tiles (first :: rest)) :
    ∀ ledger ∈ rest, ∃ closesAt, first.closesAt = some closesAt ∧
      first.opensAt < closesAt ∧ closesAt.rank ≤ ledger.opensAt.rank := by
  generalize shape : first :: rest = ledgers at tiles
  induction tiles generalizing first rest with
  | none => cases shape
  | last => cases shape; simp
  | @before a second others meets forward _ _ ih =>
      cases shape
      intro ledger member
      rcases List.mem_cons.mp member with rfl | later
      · exact ⟨_, meets, forward, Nat.le_refl _⟩
      · obtain ⟨closesAt, _, opens, reaches⟩ := ih rfl ledger later
        exact ⟨_, meets, forward, Nat.le_trans (Nat.le_of_lt opens) reaches⟩

theorem opens_before {first : Ledger} {rest : List Ledger} (tiles : Tiles (first :: rest)) :
    ∀ ledger ∈ rest, first.opensAt < ledger.opensAt := by
  intro ledger member
  obtain ⟨closesAt, _, opens, reaches⟩ := tiles.closes_before ledger member
  exact Nat.lt_of_lt_of_le opens reaches

theorem tail {first : Ledger} {rest : List Ledger} (tiles : Tiles (first :: rest)) :
    Tiles rest := by
  cases tiles with
  | last => exact .none
  | before _ _ _ rest => exact rest

theorem pairwise (tiles : Tiles ledgers) :
    ledgers.Pairwise fun a b => a.opensAt < b.opensAt := by
  induction ledgers with
  | nil => exact .nil
  | cons first rest ih => exact .cons tiles.opens_before (ih tiles.tail)

theorem opensAt_le_last {earlier : List Ledger} {current : Ledger}
    (tiles : Tiles (earlier ++ [current])) :
    ∀ ledger ∈ earlier ++ [current], ledger.opensAt.rank ≤ current.opensAt.rank := by
  intro ledger member
  rcases List.mem_append.mp member with member | member
  · exact Nat.le_of_lt ((List.pairwise_append.mp tiles.pairwise).2.2 ledger member current
      (List.mem_singleton_self _))
  · have isCurrent := List.mem_singleton.mp member
    exact Nat.le_of_eq (congrArg (fun ledger => ledger.opensAt.rank) isCurrent)

/-! ## Coverage -/

theorem eq_of_covers (tiles : Tiles ledgers) {a b : Ledger} (ha : a ∈ ledgers) (hb : b ∈ ledgers)
    {time : Instant} (coversA : a.covers time) (coversB : b.covers time) : a = b := by
  have apart {first : Ledger} {rest : List Ledger} (tiles : Tiles (first :: rest)) {ledger : Ledger}
      (member : ledger ∈ rest) (early : first.covers time) (late : ledger.covers time) : False := by
    obtain ⟨closesAt, closes, _, reaches⟩ := tiles.closes_before ledger member
    have ends : time.rank < closesAt.rank := (Ledger.covers_iff.mp early).2 closesAt closes
    have begins : ledger.opensAt.rank ≤ time.rank := (Ledger.covers_iff.mp late).1
    exact Nat.lt_irrefl _ (Nat.lt_of_lt_of_le ends (Nat.le_trans reaches begins))
  induction ledgers with
  | nil => cases ha
  | cons first rest ih =>
      rcases List.mem_cons.mp ha with isFirst | ha <;> rcases List.mem_cons.mp hb with isFirst' | hb
      · rw [isFirst, isFirst']
      · exact (apart tiles hb (isFirst ▸ coversA) coversB).elim
      · exact (apart tiles ha (isFirst' ▸ coversB) coversA).elim
      · exact ih tiles.tail ha hb

theorem find?_covers_eq_some_iff (tiles : Tiles ledgers) {time : Instant} {ledger : Ledger} :
    ledgers.find? (fun l => l.covers time) = some ledger ↔
      ledger ∈ ledgers ∧ ledger.covers time := by
  constructor
  · intro found
    exact ⟨List.mem_of_find?_eq_some found, by simpa using List.find?_some found⟩
  · rintro ⟨member, covers⟩
    cases found : ledgers.find? fun l => l.covers time with
    | none => exact absurd covers (by simpa using List.find?_eq_none.mp found ledger member)
    | some other =>
        rw [tiles.eq_of_covers (List.mem_of_find?_eq_some found) member
          (by simpa using List.find?_some found) covers]

private theorem exists_covers {first : Ledger} {rest : List Ledger} (tiles : Tiles (first :: rest))
    {time : Instant} (begun : first.opensAt ≤ time) :
    ∃ ledger ∈ first :: rest, ledger.covers time := by
  induction rest generalizing first with
  | nil =>
      cases tiles with
      | last isOpen => exact ⟨first, by simp, Ledger.covers_iff.mpr ⟨begun, by simp [isOpen]⟩⟩
  | cons second rest ih =>
      cases tiles with
      | before meets _ _ tiles =>
          rcases Nat.lt_or_ge time.rank second.opensAt.rank with early | late
          · have ends : ∀ closesAt, first.closesAt = some closesAt → time < closesAt := by
              rintro closesAt closes
              cases meets.symm.trans closes
              exact early
            exact ⟨first, by simp, Ledger.covers_iff.mpr ⟨begun, ends⟩⟩
          · obtain ⟨ledger, member, covers⟩ := ih tiles late
            exact ⟨ledger, List.mem_cons_of_mem _ member, covers⟩

theorem find?_covers_isSome_iff (tiles : Tiles ledgers) {time : Instant} :
    (ledgers.find? fun l => l.covers time).isSome ↔
      ∃ first, ledgers.head? = some first ∧ first.opensAt ≤ time := by
  cases ledgers with
  | nil => simp
  | cons first rest =>
      simp only [List.find?_isSome, List.head?_cons, Option.some.injEq, exists_eq_left']
      constructor
      · rintro ⟨ledger, member, covers⟩
        have begun : ledger.opensAt.rank ≤ time.rank := (Ledger.covers_iff.mp covers).1
        rcases List.mem_cons.mp member with rfl | later
        · exact begun
        · exact Nat.le_trans (Nat.le_of_lt (tiles.opens_before ledger later)) begun
      · exact tiles.exists_covers

theorem exists_next (tiles : Tiles ledgers) {ledger : Ledger} (member : ledger ∈ ledgers)
    {closesAt : Instant} (closes : ledger.closesAt = some closesAt) :
    ∃ earlier next later, ledgers = earlier ++ ledger :: next :: later ∧
      next.opensAt = closesAt := by
  induction tiles with
  | none => cases member
  | last isOpen =>
      cases List.mem_singleton.mp member
      simp [isOpen] at closes
  | @before first second rest meets _ _ _ ih =>
      rcases List.mem_cons.mp member with rfl | later
      · exact ⟨[], second, rest, rfl, Option.some.inj (meets.symm.trans closes)⟩
      · obtain ⟨earlier, next, others, shape, opens⟩ := ih later
        exact ⟨first :: earlier, next, others, by rw [shape]; rfl, opens⟩

/-! ## The open ledger -/

theorem version_eq (tiles : Tiles ledgers) {ledger : Ledger} (member : ledger ∈ ledgers) :
    ledger.version = if ledger.isOpen then 1 else 2 := by
  induction tiles with
  | none => cases member
  | last isOpen version =>
      cases List.mem_singleton.mp member
      simp [Ledger.isOpen, isOpen, version]
  | before meets _ version _ ih =>
      rcases List.mem_cons.mp member with rfl | later
      · simp [Ledger.isOpen, meets, version]
      · exact ih later

theorem append_of_open (tiles : Tiles ledgers) {ledger : Ledger} (member : ledger ∈ ledgers)
    (isOpen : ledger.isOpen) : ∃ earlier, ledgers = earlier ++ [ledger] := by
  induction tiles with
  | none => cases member
  | last => exact ⟨[], by rw [List.mem_singleton.mp member]; rfl⟩
  | @before first second rest meets _ _ _ ih =>
      rcases List.mem_cons.mp member with rfl | later
      · simp [Ledger.isOpen, meets] at isOpen
      · obtain ⟨earlier, shape⟩ := ih later
        exact ⟨first :: earlier, by rw [shape]; rfl⟩

theorem eq_nil_of_open {earlier later : List Ledger} {ledger : Ledger}
    (tiles : Tiles (earlier ++ ledger :: later)) (isOpen : ledger.isOpen) : later = [] := by
  induction earlier with
  | nil =>
      cases tiles with
      | last => rfl
      | before meets => simp [Ledger.isOpen, meets] at isOpen
  | cons first rest ih => exact ih tiles.tail

theorem exists_open (tiles : Tiles ledgers) (nonempty : ledgers ≠ []) :
    ∃ ledger ∈ ledgers, ledger.isOpen := by
  induction tiles with
  | none => exact absurd rfl nonempty
  | last isOpen => exact ⟨_, List.mem_singleton_self _, by simp [Ledger.isOpen, isOpen]⟩
  | before _ _ _ _ ih =>
      obtain ⟨ledger, member, isOpen⟩ := ih (by simp)
      exact ⟨ledger, List.mem_cons_of_mem _ member, isOpen⟩

theorem eq_of_open (tiles : Tiles ledgers) {a b : Ledger} (ha : a ∈ ledgers) (hb : b ∈ ledgers)
    (openA : a.isOpen) (openB : b.isOpen) : a = b := by
  obtain ⟨earlier, shape⟩ := tiles.append_of_open ha openA
  obtain ⟨others, shape'⟩ := tiles.append_of_open hb openB
  exact (List.append_inj' (shape.symm.trans shape') rfl).2 |> List.head_eq_of_cons_eq

theorem isOpen_iff_getLast? (tiles : Tiles ledgers) {ledger : Ledger} (member : ledger ∈ ledgers) :
    ledger.isOpen ↔ ledgers.getLast? = some ledger := by
  constructor
  · intro isOpen
    obtain ⟨earlier, rfl⟩ := tiles.append_of_open member isOpen
    simp
  · intro isLast
    obtain ⟨current, stored, isOpen⟩ := tiles.exists_open (List.ne_nil_of_mem member)
    obtain ⟨earlier, rfl⟩ := tiles.append_of_open stored isOpen
    simp only [List.getLast?_concat, Option.some.injEq] at isLast
    rwa [← isLast]

theorem find?_isOpen_eq_some_iff (tiles : Tiles ledgers) {ledger : Ledger} :
    ledgers.find? Ledger.isOpen = some ledger ↔ ledger ∈ ledgers ∧ ledger.isOpen := by
  constructor
  · exact fun found => ⟨List.mem_of_find?_eq_some found, List.find?_some found⟩
  · rintro ⟨member, isOpen⟩
    cases found : ledgers.find? Ledger.isOpen with
    | none => exact absurd isOpen (List.find?_eq_none.mp found ledger member)
    | some other =>
        rw [tiles.eq_of_open (List.mem_of_find?_eq_some found) member
          (List.find?_some found) isOpen]

theorem rollover {earlier : List Ledger} {current closed next : Ledger}
    (tiles : Tiles (earlier ++ [current])) (opensAt : closed.opensAt = current.opensAt)
    (meets : closed.closesAt = some next.opensAt) (forward : current.opensAt < next.opensAt)
    (closedVersion : closed.version = 2) (isOpen : next.closesAt = .none)
    (nextVersion : next.version = 1) : Tiles (earlier ++ [closed, next]) := by
  induction earlier with
  | nil =>
      exact .before meets (by rw [opensAt]; exact forward) closedVersion (.last isOpen nextVersion)
  | cons first rest ih =>
      have ih := ih tiles.tail
      cases rest with
      | nil =>
          cases tiles with
          | before meetsFirst forwardFirst version _ =>
              rw [← opensAt] at meetsFirst forwardFirst
              exact .before meetsFirst forwardFirst version ih
      | cons second rest =>
          cases tiles with
          | before meetsFirst forwardFirst version _ =>
              exact .before meetsFirst forwardFirst version ih

end Tiles

end DoubleEntry
