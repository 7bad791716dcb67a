import DoubleEntry.Proofs.Book.Periods
import Mathlib.Data.List.Induction

/-!
# What a balance carries over

A balance that is missing in a ledger is worth what its account had in the most
recent earlier ledger that holds a balance of it.  `Tables.heldAfter` says what an
account has after a row of ledgers, and `heldAfter_concat` what one more ledger
changes.  `Tables.carried` is what it has after the ledgers before an instant;
`carried_step` is one step of the walk back that finds it.

While ledgers are only closed and added at the end (`Continues`), the ledgers
before a known one stay the same, and with them everything that is carried over.
-/

namespace DoubleEntry

/-! ## Searches of a unit of work that stages no ledger -/

namespace UnitOfWork

variable {work : UnitOfWork} {tables : Tables}

theorem ledgerView_eq (unstaged : work.ledgers = ∅) (tiles : Tiles tables.ledgers.values) :
    work.ledgerView tables = tables.ledgers.values := by
  rw [ledgerView, unstaged, Table.overlay_empty]
  apply sortBy_of_pairwise
  exact tiles.pairwise.imp fun opensBefore => decide_eq_true (Nat.le_of_lt opensBefore)

theorem ledgerAt_eq_some_iff (unstaged : work.ledgers = ∅) (tiles : Tiles tables.ledgers.values)
    {time : Instant} {ledger : Ledger} : work.ledgerAt tables time = some ledger ↔
      ledger ∈ tables.ledgers.values ∧ ledger.covers time := by
  rw [ledgerAt, ledgerView_eq unstaged tiles, tiles.find?_covers_eq_some_iff]

theorem openLedger_eq_some_iff (unstaged : work.ledgers = ∅)
    (tiles : Tiles tables.ledgers.values) {ledger : Ledger} :
    work.openLedger tables = some ledger ↔ ledger ∈ tables.ledgers.values ∧ ledger.isOpen := by
  rw [openLedger, ledgerView_eq unstaged tiles, tiles.find?_isOpen_eq_some_iff]

end UnitOfWork

namespace Tables

def earlier (tables : Tables) (time : Instant) : List Ledger :=
  tables.ledgers.values.filter fun ledger => ledger.opensAt < time

/-- What an account has in the last one of these ledgers that holds a balance of it. -/
def heldAfter (tables : Tables) (account : AccountId) (ledgers : List Ledger) : Money :=
  match ledgers.reverse.findSome? fun ledger => tables.balances.get? ⟨ledger.id, account⟩ with
  | some balance => balance.endAmount
  | none => .zero

/-- What a balance opened at an instant starts with. -/
def carried (tables : Tables) (account : AccountId) (time : Instant) : Money :=
  tables.heldAfter account (tables.earlier time)

/-- The balance of an account in a ledger, stored or about to be opened. -/
def balanceIn (tables : Tables) (account : Account) (ledger : Ledger) : Balance :=
  match tables.balances.get? ⟨ledger.id, account.id⟩ with
  | some balance => balance
  | none => .opening ledger account (tables.carried account.id ledger.opensAt)

theorem previousLedger_eq {tables : Tables} {work : UnitOfWork} (unstaged : work.ledgers = ∅)
    (tiles : Tiles tables.ledgers.values) (ledger : Ledger) :
    work.previousLedger tables ledger = (tables.earlier ledger.opensAt).getLast? := by
  rw [UnitOfWork.previousLedger, UnitOfWork.ledgerView_eq unstaged tiles, earlier]

/-! ## Rows of ledgers -/

theorem heldAfter_concat (tables : Tables) (account : AccountId) (ledgers : List Ledger)
    (ledger : Ledger) : tables.heldAfter account (ledgers ++ [ledger]) =
      match tables.balances.get? ⟨ledger.id, account⟩ with
      | some balance => balance.endAmount
      | none => tables.heldAfter account ledgers := by
  rw [heldAfter, List.reverse_append, List.reverse_singleton, List.singleton_append,
    List.findSome?_cons]
  cases tables.balances.get? ⟨ledger.id, account⟩ <;> rfl

/-- The last ledger of a row that holds a balance of the account decides; if none does, the account
has nothing. -/
theorem heldAfter_split (tables : Tables) (account : AccountId) (ledgers : List Ledger) :
    ((∀ ledger ∈ ledgers, tables.balances.get? ⟨ledger.id, account⟩ = none) ∧
      tables.heldAfter account ledgers = .zero) ∨
    ∃ before ledger after balance, ledgers = before ++ ledger :: after ∧
      tables.balances.get? ⟨ledger.id, account⟩ = some balance ∧
      (∀ other ∈ after, tables.balances.get? ⟨other.id, account⟩ = none) ∧
      tables.heldAfter account ledgers = balance.endAmount := by
  rw [heldAfter]
  cases last : ledgers.reverse.findSome? fun ledger =>
    tables.balances.get? ⟨ledger.id, account⟩ with
  | none => exact .inl ⟨by simpa using last, rfl⟩
  | some balance =>
      obtain ⟨after, ledger, before, shape, found, missing⟩ := List.findSome?_eq_some_iff.mp last
      have shape := congrArg List.reverse shape
      simp only [List.reverse_reverse, List.reverse_append, List.reverse_cons, List.append_assoc,
        List.singleton_append] at shape
      exact .inr ⟨before.reverse, ledger, after.reverse, balance, shape, found,
        fun other member => missing other (List.mem_reverse.mp member), rfl⟩

theorem heldAfter_cases (tables : Tables) (account : AccountId) (ledgers : List Ledger) :
    tables.heldAfter account ledgers = .zero ∨ ∃ ledger ∈ ledgers, ∃ balance,
      tables.balances.get? ⟨ledger.id, account⟩ = some balance ∧
      tables.heldAfter account ledgers = balance.endAmount := by
  rcases tables.heldAfter_split account ledgers with
    ⟨_, nothing⟩ | ⟨before, ledger, after, balance, rfl, found, _, holds⟩
  · exact .inl nothing
  · exact .inr ⟨ledger, by simp, balance, found, holds⟩

theorem heldAfter_congr {before after : Tables} {account : AccountId} {ledgers : List Ledger}
    (same : ∀ ledger ∈ ledgers, after.balances.get? ⟨ledger.id, account⟩ =
      before.balances.get? ⟨ledger.id, account⟩) :
    after.heldAfter account ledgers = before.heldAfter account ledgers := by
  induction ledgers using List.reverseRecOn with
  | nil => rfl
  | append_singleton ledgers ledger ih =>
      rw [heldAfter_concat, heldAfter_concat, same ledger (by simp),
        ih fun other member => same other (List.mem_append_left _ member)]

/-! ## Walking back -/

theorem mem_earlier {tables : Tables} {time : Instant} {ledger : Ledger} :
    ledger ∈ tables.earlier time ↔ ledger ∈ tables.ledgers.values ∧ ledger.opensAt < time := by
  simp [earlier]

theorem earlier_eq_nil {tables : Tables} {time : Instant} (first : time.rank = 0) :
    tables.earlier time = [] := by
  rw [earlier, List.filter_eq_nil_iff]
  intro other _ early
  have before : other.opensAt.rank < time.rank := of_decide_eq_true early
  omega

theorem earlier_eq_append {tables : Tables} (tiles : Tiles tables.ledgers.values) {time : Instant}
    {ledger : Ledger} (previous : (tables.earlier time).getLast? = some ledger) :
    tables.earlier time = tables.earlier ledger.opensAt ++ [ledger] := by
  obtain ⟨others, shape⟩ := List.getLast?_eq_some_iff.mp previous
  have isEarlier : ledger.opensAt < time := (mem_earlier.mp (by rw [shape]; simp)).2
  have ordered : (others ++ [ledger]).Pairwise fun a b => a.opensAt < b.opensAt := by
    rw [← shape]
    exact tiles.pairwise.filter _
  have before : ∀ other ∈ others, other.opensAt < ledger.opensAt := fun other member =>
    (List.pairwise_append.mp ordered).2.2 other member ledger (List.mem_singleton_self _)
  have narrowed : tables.earlier ledger.opensAt =
      (tables.earlier time).filter fun other => other.opensAt < ledger.opensAt := by
    rw [earlier, earlier, List.filter_filter]
    apply List.filter_congr
    intro other _
    by_cases opens : other.opensAt < ledger.opensAt
    · simp [opens, show other.opensAt < time from Nat.lt_trans opens isEarlier]
    · simp [opens]
  have all : others.filter (fun other => other.opensAt < ledger.opensAt) = others :=
    List.filter_eq_self.mpr fun other member => decide_eq_true (before other member)
  rw [narrowed, shape, List.filter_append, all]
  simp [Instant.lt_def]

theorem earlier_of_split {tables : Tables} (tiles : Tiles tables.ledgers.values)
    {others later : List Ledger} {ledger : Ledger}
    (split : tables.ledgers.values = others ++ ledger :: later) :
    tables.earlier ledger.opensAt = others := by
  have ordered := tiles.pairwise
  rw [split, List.pairwise_append] at ordered
  have before : others.filter (fun other => other.opensAt < ledger.opensAt) = others :=
    List.filter_eq_self.mpr fun other member =>
      decide_eq_true (ordered.2.2 other member ledger List.mem_cons_self)
  have after : (ledger :: later).filter (fun other => other.opensAt < ledger.opensAt) = [] := by
    rw [List.filter_eq_nil_iff]
    intro other member opens
    have opens : other.opensAt.rank < ledger.opensAt.rank := of_decide_eq_true opens
    rcases List.mem_cons.mp member with rfl | member
    · exact Nat.lt_irrefl _ opens
    · exact Nat.lt_asymm opens (List.rel_of_pairwise_cons ordered.2.1 member)
  rw [earlier, split, List.filter_append, before, after, List.append_nil]

theorem carried_start {tables : Tables} {account : AccountId} {time : Instant}
    (first : (tables.earlier time).getLast? = none) : tables.carried account time = .zero := by
  rw [carried, List.getLast?_eq_none_iff.mp first]
  rfl

theorem carried_found {tables : Tables} (tiles : Tiles tables.ledgers.values)
    {account : AccountId} {time : Instant} {ledger : Ledger} {balance : Balance}
    (previous : (tables.earlier time).getLast? = some ledger)
    (found : tables.balances.get? ⟨ledger.id, account⟩ = some balance) :
    tables.carried account time = balance.endAmount := by
  rw [carried, earlier_eq_append tiles previous, heldAfter_concat, found]

theorem carried_step {tables : Tables} (tiles : Tiles tables.ledgers.values)
    {account : AccountId} {time : Instant} {ledger : Ledger}
    (previous : (tables.earlier time).getLast? = some ledger)
    (missing : tables.balances.get? ⟨ledger.id, account⟩ = none) :
    tables.carried account time = tables.carried account ledger.opensAt := by
  rw [carried, carried, earlier_eq_append tiles previous, heldAfter_concat, missing]

/-! ## Balances in a ledger -/

theorem balanceIn_endAmount (tables : Tables) (account : Account) (ledger : Ledger) :
    (tables.balanceIn account ledger).endAmount =
      tables.heldAfter account.id (tables.earlier ledger.opensAt ++ [ledger]) := by
  rw [balanceIn, heldAfter_concat]
  cases tables.balances.get? ⟨ledger.id, account.id⟩ <;> rfl

theorem earlier_prefix_concat {tables : Tables} (tiles : Tiles tables.ledgers.values)
    {ledger : Ledger} (stored : ledger ∈ tables.ledgers.values) :
    tables.earlier ledger.opensAt ++ [ledger] <+: tables.ledgers.values := by
  obtain ⟨others, later, split⟩ := List.append_of_mem stored
  rw [earlier_of_split tiles split, split]
  exact ⟨later, by simp⟩

theorem exists_next_carried {tables : Tables} (tiles : Tiles tables.ledgers.values)
    {ledger : Ledger} (stored : ledger ∈ tables.ledgers.values) (isClosed : ledger.isOpen = false) :
    ∃ next ∈ tables.ledgers.values, ledger.closesAt = some next.opensAt ∧ ∀ account : Account,
      (tables.balanceIn account ledger).endAmount = tables.carried account.id next.opensAt := by
  obtain ⟨closesAt, closes⟩ : ∃ closesAt, ledger.closesAt = some closesAt := by
    simpa [Ledger.isOpen, Option.isSome_iff_exists] using isClosed
  obtain ⟨others, next, later, split, rfl⟩ := tiles.exists_next stored closes
  have split' : tables.ledgers.values = (others ++ [ledger]) ++ next :: later := by simp [split]
  refine ⟨next, by simp [split], closes, fun account => ?_⟩
  rw [balanceIn_endAmount, carried, earlier_of_split tiles split, earlier_of_split tiles split']

/-! ## Ledgers that only grow -/

/-- The ledger is there as it was read, or was closed since. -/
def Remembers (tables : Tables) (ledger : Ledger) : Prop :=
  ∃ stored ∈ tables.ledgers.values, stored.id = ledger.id ∧ stored.opensAt = ledger.opensAt ∧
    (stored = ledger ∨ ledger.isOpen = true ∧ stored.isOpen = false)

/-- Ledgers stay, but for being closed, and no ledger is put before one that is there. -/
structure Continues (before after : Tables) : Prop where
  remembers : ∀ ledger ∈ before.ledgers.values, after.Remembers ledger
  earlier_eq : ∀ ledger ∈ before.ledgers.values,
    after.earlier ledger.opensAt = before.earlier ledger.opensAt

theorem remembers_of_mem {tables : Tables} {ledger : Ledger}
    (member : ledger ∈ tables.ledgers.values) : tables.Remembers ledger :=
  ⟨ledger, member, rfl, rfl, .inl rfl⟩

theorem Remembers.continues {before after : Tables} {ledger : Ledger}
    (remembers : before.Remembers ledger) (continues : before.Continues after) :
    after.Remembers ledger := by
  obtain ⟨middle, member, id, opensAt, was⟩ := remembers
  obtain ⟨stored, member', id', opensAt', is⟩ := continues.remembers middle member
  refine ⟨stored, member', id'.trans id, opensAt'.trans opensAt, ?_⟩
  rcases was with rfl | ⟨wasOpen, closed⟩
  · exact is
  · rcases is with rfl | ⟨stillOpen, _⟩
    · exact .inr ⟨wasOpen, closed⟩
    · simp [closed] at stillOpen

theorem Remembers.earlier_eq {before after : Tables} {ledger : Ledger}
    (remembers : before.Remembers ledger) (continues : before.Continues after) :
    after.earlier ledger.opensAt = before.earlier ledger.opensAt := by
  obtain ⟨stored, member, _, opensAt, _⟩ := remembers
  rw [← opensAt]
  exact continues.earlier_eq stored member

theorem Remembers.mem_of_closed {tables : Tables} {ledger : Ledger}
    (remembers : tables.Remembers ledger) (isClosed : ledger.isOpen = false) :
    ledger ∈ tables.ledgers.values := by
  obtain ⟨stored, member, _, _, rfl | ⟨wasOpen, _⟩⟩ := remembers
  · exact member
  · simp [isClosed] at wasOpen

theorem Continues.refl (tables : Tables) : tables.Continues tables where
  remembers _ := remembers_of_mem
  earlier_eq _ _ := rfl

theorem Continues.of_ledgers_eq {before after : Tables} (same : after.ledgers = before.ledgers) :
    before.Continues after where
  remembers ledger member := remembers_of_mem (by rw [same]; exact member)
  earlier_eq ledger _ := by rw [earlier, earlier, same]

theorem Continues.trans {first second third : Tables} (h : first.Continues second)
    (h' : second.Continues third) : first.Continues third where
  remembers ledger member := (h.remembers ledger member).continues h'
  earlier_eq ledger member := by
    rw [(h.remembers ledger member).earlier_eq h', h.earlier_eq ledger member]

theorem Remembers.mem_of_version {tables : Tables} (tiles : Tiles tables.ledgers.values)
    {ledger : Ledger} (remembers : tables.Remembers ledger)
    (keyed : tables.ledgers.KeyedBy Ledger.id)
    (version : ledger.version = if ledger.isOpen then 1 else 2)
    (current : (tables.ledgers.get? ledger.id).map Ledger.version = some ledger.version) :
    ledger ∈ tables.ledgers.values := by
  obtain ⟨stored, member, id, _, rfl | ⟨wasOpen, closed⟩⟩ := remembers
  · exact member
  · have found := keyed.get?_name member
    rw [id] at found
    rw [found, version, wasOpen] at current
    have closedVersion := tiles.version_eq member
    simp [closed] at closedVersion
    simp [closedVersion] at current

theorem carried_congr {before after : Tables} {account : AccountId} {time : Instant}
    (ledgers : after.earlier time = before.earlier time)
    (balances : ∀ id, after.balances.get? ⟨id, account⟩ = before.balances.get? ⟨id, account⟩) :
    after.carried account time = before.carried account time := by
  rw [carried, carried, ledgers]
  exact heldAfter_congr fun ledger _ => balances ledger.id

theorem balanceIn_congr {before after : Tables} {account : Account} {ledger : Ledger}
    (ledgers : after.earlier ledger.opensAt = before.earlier ledger.opensAt)
    (balances : ∀ id, after.balances.get? ⟨id, account.id⟩ =
      before.balances.get? ⟨id, account.id⟩) :
    after.balanceIn account ledger = before.balanceIn account ledger := by
  simp only [balanceIn, balances, carried_congr ledgers balances]

end Tables

end DoubleEntry
