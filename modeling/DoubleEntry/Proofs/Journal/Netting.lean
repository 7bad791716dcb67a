import DoubleEntry.Proofs.Journal.Totals
import Mathlib

/-!
# Netting the lines of a balance

The changes are kept in the order of their keys, one for each key.  Adding a line
changes one of them by what the line is worth (`exists_accumulate`), so after any number
of lines every change is the exact sum over the lines of its key (`Delta.nets_ofLines`).
Netting fails only if such a sum leaves the range on the way.
-/

namespace DoubleEntry

/-! ## The order of the keys -/

namespace BalanceKey

private theorem compare_eq (a b : BalanceKey) : compare a b =
    compareLex (compareOn fun key => key.ledgerId.uuid.bits.toNat)
      (compareOn fun key => key.accountId.uuid.bits.toNat) a b :=
  rfl

instance : Std.TransOrd BalanceKey := by
  have same : (compare : BalanceKey → BalanceKey → Ordering) = _ := funext₂ compare_eq
  rw [Std.TransOrd, same]
  infer_instance

end BalanceKey

namespace Delta

def Ascending (deltas : List Delta) : Prop :=
  deltas.Pairwise fun a b => compare a.balance b.balance = .lt

def amountAt (key : BalanceKey) (deltas : List Delta) : Money :=
  match deltas.find? fun delta => delta.balance = key with
  | some delta => delta.amount
  | none => .zero

variable {key : BalanceKey} {effect sum : Money} {delta : Delta} {deltas : List Delta}

theorem ne_of_lt {a b : BalanceKey} (less : compare a b = .lt) : a ≠ b := by
  rintro rfl
  have same : compare a a = .eq := Std.ReflCmp.compare_self
  rw [same] at less
  cases less

theorem amountAt_of_notMem (absent : ∀ delta ∈ deltas, delta.balance ≠ key) :
    amountAt key deltas = .zero := by
  have none : deltas.find? (fun delta => delta.balance = key) = none := by
    simpa using absent
  rw [amountAt, none]

theorem amountAt_cons_self (delta : Delta) (deltas : List Delta) :
    amountAt delta.balance (delta :: deltas) = delta.amount := by
  simp [amountAt]

theorem amountAt_cons_of_ne (apart : delta.balance ≠ key) (deltas : List Delta) :
    amountAt key (delta :: deltas) = amountAt key deltas := by
  simp [amountAt, apart]

theorem Ascending.head_lt (ascending : Ascending (delta :: deltas)) :
    ∀ other ∈ deltas, compare delta.balance other.balance = .lt :=
  (List.pairwise_cons.mp ascending).1

theorem Ascending.nodup (ascending : Ascending deltas) : (deltas.map Delta.balance).Nodup :=
  List.pairwise_map.mpr (ascending.imp ne_of_lt)

theorem Ascending.lt_of_lt_head (ascending : Ascending (delta :: deltas))
    (less : compare key delta.balance = .lt) :
    ∀ other ∈ delta :: deltas, compare key other.balance = .lt := by
  intro other member
  rcases List.mem_cons.mp member with rfl | later
  · exact less
  · exact Std.TransCmp.lt_trans less (ascending.head_lt other later)

theorem amountAt_of_lt (ascending : Ascending (delta :: deltas))
    (less : compare key delta.balance = .lt) : amountAt key (delta :: deltas) = .zero :=
  amountAt_of_notMem fun other member =>
    (ne_of_lt (ascending.lt_of_lt_head less other member)).symm

private theorem Ascending.amountAt_of_mem (ascending : Ascending deltas) (member : delta ∈ deltas) :
    amountAt delta.balance deltas = delta.amount := by
  induction deltas with
  | nil => cases member
  | cons first rest ih =>
      rcases List.mem_cons.mp member with rfl | later
      · exact amountAt_cons_self _ _
      · rw [amountAt_cons_of_ne (ne_of_lt (ascending.head_lt _ later))]
        exact ih ascending.tail later

theorem exists_accumulate (ascending : Ascending deltas)
    (added : (amountAt key deltas).add effect = .ok sum) :
    ∃ after, accumulate key effect deltas = .ok after ∧ Ascending after ∧
      ∀ delta, delta ∈ after ↔ delta = ⟨key, sum⟩ ∨ delta ∈ deltas ∧ delta.balance ≠ key := by
  induction deltas with
  | nil =>
      cases (Money.zero_add effect).symm.trans added
      exact ⟨_, rfl, List.pairwise_singleton _ _, by simp⟩
  | cons first rest ih =>
      rw [accumulate]
      cases order : compare key first.balance with
      | lt =>
          have before := ascending.lt_of_lt_head order
          rw [amountAt_of_lt ascending order] at added
          cases (Money.zero_add effect).symm.trans added
          refine ⟨_, rfl, List.pairwise_cons.mpr ⟨before, ascending⟩, fun delta => ?_⟩
          rw [List.mem_cons]
          refine or_congr_right ⟨fun member => ⟨member, ?_⟩, And.left⟩
          exact (ne_of_lt (before delta member)).symm
      | eq =>
          obtain rfl := BalanceKey.eq_of_compare order
          rw [amountAt_cons_self] at added
          have later : ∀ other ∈ rest, other.balance ≠ first.balance := fun other member =>
            (ne_of_lt (ascending.head_lt other member)).symm
          refine ⟨⟨first.balance, sum⟩ :: rest, ?_,
            List.pairwise_cons.mpr ⟨ascending.head_lt, ascending.tail⟩, fun delta => ?_⟩
          · rw [added]
            rfl
          · simp only [List.mem_cons]
            refine or_congr_right ⟨fun member => ⟨.inr member, later delta member⟩, ?_⟩
            rintro ⟨rfl | member, apart⟩
            · exact absurd rfl apart
            · exact member
      | gt =>
          have greater : compare first.balance key = .lt := Std.OrientedCmp.lt_of_gt order
          have apart : first.balance ≠ key := ne_of_lt greater
          rw [amountAt_cons_of_ne apart] at added
          obtain ⟨after, accumulated, ascends, members⟩ := ih ascending.tail added
          refine ⟨first :: after, ?_, ?_, fun delta => ?_⟩
          · rw [accumulated]
            rfl
          · refine List.pairwise_cons.mpr ⟨fun other member => ?_, ascends⟩
            rcases (members other).mp member with rfl | ⟨member, -⟩
            · exact greater
            · exact ascending.head_lt other member
          · rw [List.mem_cons, List.mem_cons, members]
            grind

private theorem accumulate_eq_error (ascending : Ascending deltas) {overflow : Overflow}
    (overflows : (amountAt key deltas).add effect = .error overflow) :
    accumulate key effect deltas = .error overflow := by
  induction deltas with
  | nil => cases Money.zero_add effect ▸ overflows
  | cons first rest ih =>
      rw [accumulate]
      cases order : compare key first.balance with
      | lt =>
          rw [amountAt_of_lt ascending order] at overflows
          cases Money.zero_add effect ▸ overflows
      | eq =>
          obtain rfl := BalanceKey.eq_of_compare order
          rw [amountAt_cons_self] at overflows
          rw [overflows]
          rfl
      | gt =>
          rw [amountAt_cons_of_ne (ne_of_lt (Std.OrientedCmp.lt_of_gt order))] at overflows
          rw [ih ascending.tail overflows]
          rfl

end Delta

/-! ## Changes of balances -/

namespace Line

def units (line : Line) : Int := line.entryType.units line.accountType line.amount

def net (key : BalanceKey) (lines : List Line) : Int :=
  ((lines.filter fun line => line.balance = key).map units).sum

theorem net_concat (key : BalanceKey) (lines : List Line) (line : Line) :
    net key (lines ++ [line]) = net key lines + if line.balance = key then line.units else 0 := by
  by_cases own : line.balance = key <;> simp [net, own]

private theorem net_of_notMem {key : BalanceKey} {lines : List Line}
    (absent : ∀ line ∈ lines, line.balance ≠ key) : net key lines = 0 := by
  have none : lines.filter (fun line => line.balance = key) = [] := by simpa using absent
  simp [net, none]

end Line

namespace Delta

/-- The changes are the net ones of the lines: one for each key among them, in order. -/
structure Nets (deltas : List Delta) (lines : List Line) : Prop where
  ascending : Ascending deltas
  keys : ∀ key, (∃ delta ∈ deltas, delta.balance = key) ↔ ∃ line ∈ lines, line.balance = key
  exact : ∀ delta ∈ deltas, delta.amount.minorUnits = Line.net delta.balance lines

variable {line : Line} {lines : List Line} {deltas after : List Delta}

private theorem nets_nil : Nets [] [] := ⟨.nil, by simp, by simp⟩

theorem Nets.amountAt (nets : Nets deltas lines) (key : BalanceKey) :
    (amountAt key deltas).minorUnits = Line.net key lines := by
  by_cases named : ∃ delta ∈ deltas, delta.balance = key
  case pos =>
    obtain ⟨delta, member, rfl⟩ := named
    rw [nets.ascending.amountAt_of_mem member, nets.exact delta member]
  case neg =>
    have unnamed := mt (nets.keys key).mpr named
    rw [amountAt_of_notMem fun delta member same => named ⟨delta, member, same⟩,
      Line.net_of_notMem fun line member same => unnamed ⟨line, member, same⟩]
    rfl

private theorem Nets.count_eq_ok (nets : Nets deltas lines)
    (counted : count deltas line = .ok after) : Nets after (lines ++ [line]) := by
  obtain ⟨effect, isEffect, accumulated⟩ := bind_eq_ok_iff.mp counted
  have worth : effect.minorUnits = line.units := EntryType.effect_eq_ok_iff.mp isEffect
  cases added : (Delta.amountAt line.balance deltas).add effect with
  | error overflow =>
      rw [accumulate_eq_error nets.ascending added] at accumulated
      cases accumulated
  | ok sum =>
      obtain ⟨_, accumulated', ascends, members⟩ := exists_accumulate nets.ascending added
      cases accumulated.symm.trans accumulated'
      have isSum : sum.minorUnits = Line.net line.balance lines + line.units := by
        rw [Money.add_eq_ok_iff.mp added, nets.amountAt, worth]
      refine ⟨ascends, fun key => ?_, fun delta member => ?_⟩
      · have keys := nets.keys key
        by_cases own : line.balance = key
        case pos =>
          exact iff_of_true ⟨_, (members _).mpr (.inl rfl), own⟩ ⟨line, by simp, own⟩
        case neg =>
          have kept : (∃ delta ∈ after, delta.balance = key) ↔
              ∃ delta ∈ deltas, delta.balance = key := by
            simp only [members]
            grind
          rw [kept, keys]
          simp [or_and_right, exists_or, own]
      · rw [Line.net_concat]
        rcases (members delta).mp member with rfl | ⟨member, apart⟩
        · rw [if_pos rfl, isSum]
        · rw [if_neg apart.symm, nets.exact delta member, Int.add_zero]

private theorem Nets.exists_count (nets : Nets deltas lines)
    (positive : line.amount.isPositive = true)
    (inRange : Money.InRange (Line.net line.balance (lines ++ [line]))) :
    ∃ after, count deltas line = .ok after := by
  obtain ⟨effect, isEffect⟩ := exists_effect line.entryType line.accountType positive
  have worth : effect.minorUnits = line.units := EntryType.effect_eq_ok_iff.mp isEffect
  rw [Line.net_concat, if_pos rfl, ← nets.amountAt, ← worth] at inRange
  have added : (Delta.amountAt line.balance deltas).add effect = .ok ⟨_, inRange.1, inRange.2⟩ :=
    Money.add_eq_ok_iff.mpr rfl
  obtain ⟨after, accumulated, -⟩ := exists_accumulate nets.ascending added
  exact ⟨after, bind_eq_ok_iff.mpr ⟨effect, isEffect, accumulated⟩⟩

theorem ofLines_concat (lines : List Line) (line : Line) :
    ofLines (lines ++ [line]) = ofLines lines >>= fun deltas => count deltas line := by
  simp [ofLines]

theorem nets_ofLines (netted : ofLines lines = .ok deltas) : Nets deltas lines := by
  induction lines using List.reverseRecOn generalizing deltas with
  | nil =>
      cases netted
      exact nets_nil
  | append_singleton lines line ih =>
      rw [ofLines_concat, bind_eq_ok_iff] at netted
      obtain ⟨before, netted, counted⟩ := netted
      exact (ih netted).count_eq_ok counted

/-- Netting succeeds if no change leaves the range after some of the lines. -/
theorem exists_ofLines (positive : Line.Positive lines)
    (inRange : ∀ earlier, earlier <+: lines → ∀ key, Money.InRange (Line.net key earlier)) :
    ∃ deltas, ofLines lines = .ok deltas := by
  induction lines using List.reverseRecOn with
  | nil => exact ⟨[], rfl⟩
  | append_singleton lines line ih =>
      have own := positive line (by simp)
      obtain ⟨before, netted⟩ := ih (fun other member => positive other (by simp [member]))
        fun earlier within => inRange earlier (within.trans (List.prefix_append _ _))
      obtain ⟨after, counted⟩ := (nets_ofLines netted).exists_count (decide_eq_true own)
        (inRange _ List.prefix_rfl line.balance)
      exact ⟨after, by rw [ofLines_concat, netted]; exact counted⟩

end Delta

end DoubleEntry
