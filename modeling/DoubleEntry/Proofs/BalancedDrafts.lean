import DoubleEntry.Proofs.Journal.Netting
import Mathlib

/-!
# Balanced drafts

A draft is prepared exactly if it is balanced (`Draft.prepares_balanced`).  Under one
account type a line raises its balance on one side and lowers it on the other, so no
change on the way is greater than the total of one side, and netting cannot fail once
the totals have a representation.
-/

namespace DoubleEntry

namespace AccountType

def increase : AccountType → EntryType
  | .asset => .debit
  | .liability => .credit

def decrease : AccountType → EntryType
  | .asset => .credit
  | .liability => .debit

end AccountType

namespace Line

/-- The lines of a balance name it under one account type. -/
def Uniform (lines : List Line) : Prop :=
  ∀ line ∈ lines, ∀ other ∈ lines, line.balance = other.balance →
    line.accountType = other.accountType

variable {accountType : AccountType} {side : EntryType} {key : BalanceKey} {line : Line}
  {lines earlier : List Line}

/-! ## Bounds of the changes -/

private theorem units_eq (line : Line) : line.units =
    line.share line.accountType.increase - line.share line.accountType.decrease := by
  obtain ⟨balance, accountType, entryType, amount⟩ := line
  cases accountType <;> cases entryType <;>
    simp [units, EntryType.units, share, AccountType.increase, AccountType.decrease]

private theorem sum_units_eq (own : ∀ line ∈ lines, line.accountType = accountType) :
    (lines.map units).sum =
      total accountType.increase lines - total accountType.decrease lines := by
  induction lines with
  | nil => simp
  | cons line rest ih =>
      have first := units_eq line
      rw [own line List.mem_cons_self] at first
      rw [List.map_cons, List.sum_cons, ih fun other member => own other (by simp [member]), first,
        total_cons, total_cons]
      omega

private theorem Positive.total_le (positive : Positive lines) (part : earlier.Sublist lines) :
    total side earlier ≤ total side lines := by
  induction part with
  | slnil => exact Int.le_refl _
  | cons line part ih =>
      have least := share_nonneg positive.tail.1 side
      have rest := ih positive.tail.2
      rw [total_cons]
      omega
  | cons_cons line part ih =>
      have rest := ih positive.tail.2
      rw [total_cons, total_cons]
      omega

private theorem Uniform.of_key (uniform : Uniform lines) (key : BalanceKey) :
    ∃ accountType, ∀ line ∈ lines, line.balance = key → line.accountType = accountType := by
  by_cases named : ∃ line ∈ lines, line.balance = key
  case pos =>
    obtain ⟨line, member, rfl⟩ := named
    exact ⟨line.accountType, fun other member' => uniform other member' line member⟩
  case neg => exact ⟨.asset, fun line member own => absurd ⟨line, member, own⟩ named⟩

private theorem Uniform.net_bounds (uniform : Uniform lines) (positive : Positive lines)
    {bound : Int} (bounded : ∀ side, total side lines ≤ bound) (part : earlier.Sublist lines)
    (key : BalanceKey) : -bound ≤ net key earlier ∧ net key earlier ≤ bound := by
  obtain ⟨accountType, typed⟩ := uniform.of_key key
  let own := earlier.filter fun line => line.balance = key
  have ownPart : own.Sublist lines := List.filter_sublist.trans part
  have sums : net key earlier =
      total accountType.increase own - total accountType.decrease own := by
    refine sum_units_eq fun line member => ?_
    obtain ⟨member, isKey⟩ := List.mem_filter.mp member
    exact typed line (part.subset member) (of_decide_eq_true isKey)
  have nonneg (side : EntryType) : 0 ≤ total side own :=
    Positive.total_nonneg (fun line member => positive line (ownPart.subset member)) side
  have increased := nonneg accountType.increase
  have decreased := nonneg accountType.decrease
  have increase_le := (positive.total_le ownPart).trans (bounded accountType.increase)
  have decrease_le := (positive.total_le ownPart).trans (bounded accountType.decrease)
  omega

/-! ## Changes by account type -/

def typeOf (lines : List Line) (key : BalanceKey) : Option AccountType :=
  (lines.find? fun line => line.balance = key).map Line.accountType

private theorem Uniform.typeOf_eq (uniform : Uniform lines) (member : line ∈ lines) :
    typeOf lines line.balance = some line.accountType := by
  cases found : lines.find? fun other => other.balance = line.balance with
  | none => simpa using List.find?_eq_none.mp found line member
  | some other =>
      have same : other.balance = line.balance := by simpa using List.find?_some found
      have member' := List.mem_of_find?_eq_some found
      rw [typeOf, found, Option.map_some, uniform other member' line member same]

private theorem sum_net {keys : List BalanceKey} (nodup : keys.Nodup)
    (named : ∀ line ∈ lines, line.balance ∈ keys) :
    (keys.map fun key => net key lines).sum = (lines.map units).sum := by
  induction lines using List.reverseRecOn with
  | nil => simp [net]
  | append_singleton lines line ih =>
      have once : keys.count line.balance = 1 :=
        List.count_eq_one_of_mem nodup (named line (by simp))
      have step (key : BalanceKey) : net key (lines ++ [line]) =
          if key = line.balance then net key lines + line.units else net key lines := by
        by_cases own : key = line.balance
        · simp [net_concat, own]
        · simp [net_concat, own, Ne.symm own]
      simp only [step, List.sum_map_ite_eq, once, one_smul]
      rw [ih fun other member => named other (by simp [member])]
      simp [Int.add_comm]

private theorem total_split (side : EntryType) (lines : List Line) : total side lines =
    total side (lines.filter fun line => line.accountType = .asset) +
      total side (lines.filter fun line => line.accountType = .liability) := by
  have others : ∀ line ∈ lines, decide (line.accountType = .liability) =
      decide (¬ line.accountType = .asset) := by
    intro line _
    cases line.accountType <;> rfl
  rw [List.filter_congr others]
  exact (List.sum_map_filter_add_sum_map_filter_not _ _ _).symm

private theorem Uniform.sum_changes (uniform : Uniform lines) {deltas : List Delta}
    (nets : Delta.Nets deltas lines) (accountType : AccountType) :
    ((deltas.filter fun delta => typeOf lines delta.balance = some accountType).map
      fun delta => delta.amount.minorUnits).sum =
    ((lines.filter fun line => line.accountType = accountType).map units).sum := by
  let typed := lines.filter fun line => line.accountType = accountType
  let changed := deltas.filter fun delta => typeOf lines delta.balance = some accountType
  have exact : ∀ delta ∈ changed, delta.amount.minorUnits = net delta.balance typed := by
    intro delta member
    obtain ⟨member, isType⟩ := List.mem_filter.mp member
    have isType : typeOf lines delta.balance = some accountType := of_decide_eq_true isType
    have own : (typed.filter fun line => line.balance = delta.balance) =
        lines.filter fun line => line.balance = delta.balance := by
      rw [List.filter_filter]
      refine List.filter_congr fun line listed => ?_
      by_cases isKey : line.balance = delta.balance
      · have same := (uniform.typeOf_eq listed).symm.trans (isKey ▸ isType)
        simp [isKey, Option.some.inj same]
      · simp [isKey]
    rw [nets.exact delta member, net, net, own]
  have nodup : (changed.map Delta.balance).Nodup :=
    nets.ascending.nodup.sublist (List.filter_sublist.map Delta.balance)
  have named : ∀ line ∈ typed, line.balance ∈ changed.map Delta.balance := by
    intro line member
    obtain ⟨member, isType⟩ := List.mem_filter.mp member
    obtain ⟨delta, changes, same⟩ := (nets.keys line.balance).mpr ⟨line, member, rfl⟩
    refine List.mem_map.mpr ⟨delta, List.mem_filter.mpr ⟨changes, ?_⟩, same⟩
    rw [same, uniform.typeOf_eq member]
    simpa using isType
  rw [← sum_net nodup named, List.map_map]
  exact congrArg List.sum (List.map_congr_left exact)

private theorem Uniform.changes_level (uniform : Uniform lines) {deltas : List Delta}
    (nets : Delta.Nets deltas lines) (level : total .debit lines = total .credit lines) :
    ((deltas.filter fun delta => typeOf lines delta.balance = some .asset).map
      fun delta => delta.amount.minorUnits).sum =
    ((deltas.filter fun delta => typeOf lines delta.balance = some .liability).map
      fun delta => delta.amount.minorUnits).sum := by
  have own (accountType : AccountType) :
      ∀ line ∈ lines.filter fun line => line.accountType = accountType,
        line.accountType = accountType := by simp
  rw [uniform.sum_changes nets, uniform.sum_changes nets, sum_units_eq (own .asset),
    sum_units_eq (own .liability)]
  rw [total_split .debit, total_split .credit] at level
  simp only [AccountType.increase, AccountType.decrease]
  omega

end Line

/-! ## Preparing -/

namespace Draft

/-- The lines belong to the ledger, and their two sides have the same total, which has a
representation. -/
structure Balanced (draft : Draft) : Prop where
  inside : ∀ line ∈ draft.lines, line.balance.ledgerId = draft.ledgerId
  two_lines : 2 ≤ draft.lines.length
  positive : Line.Positive draft.lines
  level : Line.total .debit draft.lines = Line.total .credit draft.lines
  fits : Line.total .debit draft.lines ≤ 0x7FFFFFFFFFFFFFFF

/-- The transaction has the lines as they are, and the changes are the exact net ones. -/
structure Netted (draft : Draft) (ids : PostingIds) (prepared : Prepared) : Prop where
  entries : prepared.transaction.entries =
    draft.lines.mapIdx fun position line => line.toEntry (ids.entry position)
  total : ∀ side, prepared.transaction.total.minorUnits = Line.total side draft.lines
  nets : Delta.Nets prepared.deltas draft.lines
  bounded : ∀ delta ∈ prepared.deltas,
    -prepared.transaction.total.minorUnits ≤ delta.amount.minorUnits ∧
      delta.amount.minorUnits ≤ prepared.transaction.total.minorUnits
  level : ((prepared.deltas.filter fun delta =>
      Line.typeOf draft.lines delta.balance = some .asset).map
        fun delta => delta.amount.minorUnits).sum =
    ((prepared.deltas.filter fun delta =>
      Line.typeOf draft.lines delta.balance = some .liability).map
        fun delta => delta.amount.minorUnits).sum

variable {draft : Draft} {ids : PostingIds} {prepared : Prepared}

private theorem Balanced.total_eq (balanced : draft.Balanced) (side : EntryType) :
    Line.total side draft.lines = Line.total .debit draft.lines := by
  cases side
  · rfl
  · exact balanced.level.symm

private theorem balanced_of_prepared (isPrepared : draft.prepare ids = .ok prepared) :
    draft.Balanced := by
  obtain ⟨inside, totals, counted, -, -⟩ := prepare_eq_ok_iff.mp isPrepared
  obtain ⟨enough, positive, level, sums⟩ := Totals.ofLines_eq_ok_iff.mp counted
  have upper := (totals.side .debit).upper
  rw [sums] at upper
  exact ⟨inside, enough, positive, level, by omega⟩

private theorem Balanced.exists_prepared (balanced : draft.Balanced)
    (uniform : Line.Uniform draft.lines) (ids : PostingIds) :
    ∃ prepared, draft.prepare ids = .ok prepared := by
  have nonneg := balanced.positive.total_nonneg .debit
  have fits := balanced.fits
  let total : Money := ⟨Line.total .debit draft.lines, by omega, by omega⟩
  have counted : Totals.ofLines draft.lines = .ok ⟨total, total⟩ := by
    refine Totals.ofLines_eq_ok_iff.mpr
      ⟨balanced.two_lines, balanced.positive, balanced.level, fun side => ?_⟩
    rw [balanced.total_eq]
    cases side <;> rfl
  obtain ⟨deltas, netted⟩ := Delta.exists_ofLines balanced.positive fun earlier part key => by
    have bounds := uniform.net_bounds balanced.positive
      (fun side => (balanced.total_eq side).le) part.sublist key
    constructor <;> omega
  exact ⟨⟨_, deltas⟩, prepare_eq_ok_iff.mpr ⟨balanced.inside, _, counted, netted, rfl⟩⟩

private theorem netted_of_prepared (uniform : Line.Uniform draft.lines)
    (isPrepared : draft.prepare ids = .ok prepared) : draft.Netted ids prepared := by
  have balanced := balanced_of_prepared isPrepared
  obtain ⟨-, totals, counted, netted, isTransaction⟩ := prepare_eq_ok_iff.mp isPrepared
  obtain ⟨-, -, -, sums⟩ := Totals.ofLines_eq_ok_iff.mp counted
  have nets := Delta.nets_ofLines netted
  have total (side : EntryType) :
      prepared.transaction.total.minorUnits = Line.total side draft.lines := by
    rw [balanced.total_eq, ← sums .debit, isTransaction]
    rfl
  constructor
  case entries => rw [isTransaction]
  case total => exact total
  case nets => exact nets
  case bounded =>
    intro delta member
    rw [nets.exact delta member]
    exact uniform.net_bounds balanced.positive (fun side => (total side).ge) (List.Sublist.refl _) _
  case level => exact uniform.changes_level nets balanced.level

/-- Among the drafts that name every balance under one account type, the balanced ones are
prepared, and preparing nets them exactly. -/
theorem prepares_balanced {draft : Draft} (uniform : Line.Uniform draft.lines)
    (ids : PostingIds) :
    ((∃ prepared, draft.prepare ids = .ok prepared) ↔ draft.Balanced) ∧
    ∀ prepared, draft.prepare ids = .ok prepared → draft.Netted ids prepared :=
  ⟨⟨fun ⟨_, isPrepared⟩ => balanced_of_prepared isPrepared,
    fun balanced => balanced.exists_prepared uniform ids⟩,
    fun _ isPrepared => netted_of_prepared uniform isPrepared⟩

theorem prepares_balanced_extreme : ∃ (draft : Draft) (ids : PostingIds) (prepared : Prepared),
    Line.total .debit draft.lines = 0x7FFFFFFFFFFFFFFF ∧
    Line.Uniform draft.lines ∧ draft.prepare ids = .ok prepared ∧
    (prepared.deltas.map fun delta => delta.amount.minorUnits) =
      [0x7FFFFFFFFFFFFFF9, 0x7FFFFFFFFFFFFFF9] ∧
    draft.Balanced ∧ draft.Netted ids prepared := by
  let asset : BalanceKey := ⟨⟨⟨1⟩⟩, ⟨⟨2⟩⟩⟩
  let liability : BalanceKey := ⟨⟨⟨1⟩⟩, ⟨⟨3⟩⟩⟩
  let much : Money := ⟨0x7FFFFFFFFFFFFFFC, by decide, by decide⟩
  let little : Money := ⟨3, by decide, by decide⟩
  let draft : Draft := ⟨⟨⟨1⟩⟩, "", .epoch, .epoch,
    [⟨liability, .liability, .credit, much⟩, ⟨asset, .asset, .debit, much⟩,
      ⟨liability, .liability, .debit, little⟩, ⟨asset, .asset, .credit, little⟩]⟩
  have uniform : Line.Uniform draft.lines := by
    unfold Line.Uniform
    decide +kernel
  have isPrepared : ∃ prepared, draft.prepare (.ofThree ⟨4⟩ ⟨5⟩ ⟨6⟩) = .ok prepared ∧
      (prepared.deltas.map fun delta => delta.amount.minorUnits) =
        [0x7FFFFFFFFFFFFFF9, 0x7FFFFFFFFFFFFFF9] := ⟨_, rfl, rfl⟩
  obtain ⟨prepared, isPrepared, changes⟩ := isPrepared
  obtain ⟨accepted, nets⟩ := prepares_balanced uniform (.ofThree ⟨4⟩ ⟨5⟩ ⟨6⟩)
  exact ⟨draft, _, prepared, rfl, uniform, isPrepared, changes,
    accepted.mp ⟨prepared, isPrepared⟩, nets prepared isPrepared⟩

end Draft

end DoubleEntry
