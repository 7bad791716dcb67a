import DoubleEntry.Proofs.Representation

/-!
# What a unit of work sees and what its commit publishes

A unit of work reads its own records over the committed ones.  The publication puts the
same records into the tables, so that every search finds afterwards what the unit of
work found before, each staged record with its version raised by one
(`Request.raised_perform`).  Ledgers are listed in the order of their openings; as long as
no two of them open at the same instant, it does not matter how the tables list them
(`UnitOfWork.view_of_perm`).
-/

namespace DoubleEntry

/-! ## Sorting -/

section Sorting

variable {α : Type}

private theorem sortBy_rank_of_perm (rank : α → Nat) {l l' : List α} (nodup : (l.map rank).Nodup)
    (perm : l.Perm l') :
    sortBy (fun a b => rank a ≤ rank b) l = sortBy (fun a b => rank a ≤ rank b) l' := by
  have ascends (l : List α) : (sortBy (fun a b => rank a ≤ rank b) l).Pairwise
      fun a b => rank a ≤ rank b := by
    have pairwise := @sortBy_pairwise α (fun a b => decide (rank a ≤ rank b))
      (fun a b c => by simpa using Nat.le_trans) (fun a b => by simpa using Nat.le_total _ _) l
    simpa using pairwise
  have sorted := sortBy_perm (fun a b => decide (rank a ≤ rank b)) l
  have same := sorted.trans (perm.trans (sortBy_perm (fun a b => decide (rank a ≤ rank b)) l').symm)
  refine same.eq_of_pairwise (fun a b member member' le ge => ?_) (ascends l) (ascends l')
  refine List.inj_on_of_nodup_map nodup (sorted.mem_iff.mp member) ?_ (Nat.le_antisymm le ge)
  exact sorted.mem_iff.mp (same.mem_iff.mpr member')

end Sorting

/-! ## Searches in changed lists -/

section Searches

variable {α : Type} {p : α → Bool} {f : α → α}

theorem find?_map_of_same (same : ∀ a, p (f a) = p a) (l : List α) :
    (l.map f).find? p = (l.find? p).map f := by
  have composed : p ∘ f = p := funext same
  rw [List.find?_map, composed]

private theorem getLast?_filter_map_of_same (same : ∀ a, p (f a) = p a) (l : List α) :
    ((l.map f).filter p).getLast? = ((l.filter p).getLast?).map f := by
  have composed : p ∘ f = p := funext same
  rw [List.filter_map, List.getLast?_map, composed]

end Searches

/-! ## Tables -/

namespace Table

variable {κ ν : Type} [DecidableEq κ]

/-- A record as it is read once the staged records are committed. -/
def raised (staged : Table κ ν) (name : ν → κ) (committed : ν → ν) (value : ν) : ν :=
  if staged.contains (name value) then committed value else value

private theorem get?_map {μ : Type} (f : ν → μ) (table : Table κ ν) (key : κ) :
    (table.map f).get? key = (table.get? key).map f := by
  obtain ⟨entries⟩ := table
  induction entries with
  | nil => rfl
  | cons entry entries ih =>
      obtain ⟨k, value⟩ := entry
      by_cases same : k = key
      · simp [map, get?, find?, same]
      · simpa [map, get?, find?, same] using ih

theorem eq_of_get? {table other : Table κ ν}
    (keys : table.entries.map Prod.fst = other.entries.map Prod.fst)
    (nodup : (table.entries.map Prod.fst).Nodup)
    (same : ∀ key ∈ table.entries.map Prod.fst, table.get? key = other.get? key) :
    table = other := by
  obtain ⟨entries⟩ := table
  obtain ⟨others⟩ := other
  congr
  simp only at keys nodup same
  induction entries generalizing others with
  | nil => exact (List.map_eq_nil_iff.mp keys.symm).symm
  | cons entry entries ih =>
      obtain ⟨key, value⟩ := entry
      cases others with
      | nil => cases keys
      | cons entry' others =>
          obtain ⟨key', value'⟩ := entry'
          simp only [List.map_cons, List.cons.injEq, List.nodup_cons] at keys nodup
          obtain ⟨rfl, keys⟩ := keys
          have first := same key (by simp)
          simp only [get?, find?, if_true, Option.some.injEq] at first
          rw [first, ih nodup.2 others keys fun later member => ?_]
          have differ : key ≠ later := by
            rintro rfl
            exact nodup.1 member
          simpa [get?, find?, differ] using same later (List.mem_cons_of_mem _ member)

variable {name : ν → κ} {staged table : Table κ ν} {committed : ν → ν}

/-- What stands under a key after a publication is what the unit of work read there, raised. -/
theorem KeyedBy.get?_published (keyed : staged.KeyedBy name) (stored : table.KeyedBy name)
    (committed : ν → ν) (key : κ) :
    (staged.values.foldl (fun t value => t.insert (name value) (committed value)) table).get? key =
      ((staged.get? key).or (table.get? key)).map (staged.raised name committed) := by
  rw [keyed.get?_foldl_insert committed]
  cases own : staged.get? key with
  | some value =>
      have contained : staged.contains (name value) = true := by
        rw [contains, keyed.name_of_get? own, own]
        rfl
      simp [raised, contained]
  | none =>
      cases found : table.get? key with
      | none => rfl
      | some value =>
          have absent : staged.contains (name value) = false := by
            rw [contains, stored.name_of_get? found, own]
            rfl
          simp [raised, absent]

private theorem KeyedBy.published_eq (keyed : staged.KeyedBy name) (stored : table.KeyedBy name)
    (named : ∀ value, name (committed value) = name value) :
    staged.values.foldl (fun t value => t.insert (name value) (committed value)) table =
      (table.overlay staged).map (staged.raised name committed) := by
  have shape : (staged.values.foldl (fun t value => t.insert (name value) (committed value))
      table).map (fun _ => ()) = (table.overlay staged).map fun _ => () := by
    rw [keyed.overlay_eq]
    exact (map_foldl_insert (fun _ => ()) name committed _ _).trans
      (map_foldl_insert (fun _ => ()) name id _ _).symm
  have keys {μ : Type} (f : ν → μ) (t : Table κ ν) :
      (t.map f).entries.map Prod.fst = t.entries.map Prod.fst := by
    simp [map, Function.comp_def]
  have published := stored.foldl_insert name committed named staged.values
  refine eq_of_get? ?_ published.nodup fun key _ => ?_
  · rw [keys, ← keys fun _ => (), shape, keys]
  · rw [keyed.get?_published stored, get?_map, keyed.overlay_eq]
    have overlaid : (staged.values.foldl (fun t value => t.insert (name value) value)
        table).get? key = ((staged.get? key).map id).or (table.get? key) :=
      keyed.get?_foldl_insert id key
    rw [Option.map_id] at overlaid
    exact congrArg _ overlaid.symm

end Table

/-! ## Records that a unit of work sees -/

namespace UnitOfWork

variable {work : UnitOfWork} {tables : Tables}

def raisedLedger (work : UnitOfWork) : Ledger → Ledger :=
  work.ledgers.raised Ledger.id Ledger.committed

def raisedBalance (work : UnitOfWork) : Balance → Balance :=
  work.balances.raised Balance.key Balance.committed

def raisedReservation (work : UnitOfWork) : Reservation → Reservation :=
  work.reservations.raised Reservation.businessReference Reservation.committed

@[simp] theorem raisedLedger_opensAt (work : UnitOfWork) (ledger : Ledger) :
    (work.raisedLedger ledger).opensAt = ledger.opensAt := by
  rw [raisedLedger, Table.raised]
  split <;> rfl

@[simp] theorem raisedLedger_closesAt (work : UnitOfWork) (ledger : Ledger) :
    (work.raisedLedger ledger).closesAt = ledger.closesAt := by
  rw [raisedLedger, Table.raised]
  split <;> rfl

private theorem isOpen_raisedLedger (work : UnitOfWork) (ledger : Ledger) :
    (work.raisedLedger ledger).isOpen = ledger.isOpen := by
  rw [Ledger.isOpen, Ledger.isOpen, raisedLedger_closesAt]

private theorem covers_raisedLedger (work : UnitOfWork) (ledger : Ledger) (time : Instant) :
    (work.raisedLedger ledger).covers time = ledger.covers time := by
  rw [Ledger.covers, Ledger.covers, raisedLedger_opensAt, raisedLedger_closesAt]

private theorem precedes_raisedLedger (work : UnitOfWork) (ledger : Ledger) (time : Instant) :
    decide ((work.raisedLedger ledger).opensAt < time) = decide (ledger.opensAt < time) := by
  rw [raisedLedger_opensAt]

theorem published_account (keyed : tables.Keyed) (acceptable : work.Acceptable tables)
    (reference : String) :
    (work.publish tables).accounts.get? reference = work.findAccount tables reference := by
  rw [findAccount]
  cases staged : work.accounts.find? fun account => account.reference = reference with
  | some account =>
      have named : account.reference = reference := by simpa using List.find?_some staged
      apply (keyed.publish work).accounts.get?_eq_some_iff.mpr
      rw [publish_accounts_values acceptable]
      exact ⟨List.mem_append_right _ (List.mem_of_find?_eq_some staged), named⟩
  | none =>
      apply Table.get?_foldl_insert
      intro account member
      simpa using List.find?_eq_none.mp staged account member

theorem published_ledgers (named : work.Named) (keyed : tables.Keyed) :
    (work.publish tables).ledgers.values =
      (tables.ledgers.overlay work.ledgers).values.map work.raisedLedger := by
  rw [← Table.values_map]
  exact congrArg _ (named.ledgers.published_eq keyed.ledgers fun _ => rfl)

theorem sortBy_map_raisedLedger (ledgers : List Ledger) :
    sortBy (fun a b => a.opensAt ≤ b.opensAt) (ledgers.map work.raisedLedger) =
      (sortBy (fun a b => a.opensAt ≤ b.opensAt) ledgers).map work.raisedLedger :=
  sortBy_map (fun a b => by simp) ledgers

theorem published_view (named : work.Named) (keyed : tables.Keyed) :
    empty.ledgerView (work.publish tables) = (work.ledgerView tables).map work.raisedLedger := by
  rw [ledgerView, ledgerView, ← sortBy_map_raisedLedger]
  exact congrArg _ (published_ledgers named keyed)

private theorem published_ledgerAt (named : work.Named) (keyed : tables.Keyed) (time : Instant) :
    empty.ledgerAt (work.publish tables) time =
      (work.ledgerAt tables time).map work.raisedLedger := by
  rw [ledgerAt, ledgerAt, published_view named keyed]
  exact find?_map_of_same (fun ledger => work.covers_raisedLedger ledger time) _

private theorem published_openLedger (named : work.Named) (keyed : tables.Keyed) :
    empty.openLedger (work.publish tables) = (work.openLedger tables).map work.raisedLedger := by
  rw [openLedger, openLedger, published_view named keyed]
  exact find?_map_of_same work.isOpen_raisedLedger _

private theorem published_previousLedger (named : work.Named) (keyed : tables.Keyed)
    (ledger : Ledger) : empty.previousLedger (work.publish tables) ledger =
      (work.previousLedger tables ledger).map work.raisedLedger := by
  rw [previousLedger, previousLedger, published_view named keyed]
  exact getLast?_filter_map_of_same
    (fun other => work.precedes_raisedLedger other ledger.opensAt) _

private theorem published_balance (named : work.Named) (keyed : tables.Keyed) (key : BalanceKey) :
    (work.publish tables).balances.get? key =
      (work.findBalance tables key).map work.raisedBalance := by
  refine (named.balances.get?_published keyed.balances Balance.committed key).trans ?_
  rw [findBalance]
  cases work.balances.get? key <;> rfl

private theorem published_reservation (named : work.Named) (keyed : tables.Keyed)
    (businessReference : String) :
    (work.publish tables).reservations.get? businessReference =
      (work.findReservation tables businessReference).map work.raisedReservation := by
  refine (named.reservations.get?_published keyed.reservations Reservation.committed
    businessReference).trans ?_
  rw [findReservation]
  cases work.reservations.get? businessReference <;> rfl

theorem view_of_perm (named : work.Named) (keyed : tables.Keyed)
    (distinct : ((work.ledgerView tables).map Ledger.opensAt).Nodup) {listed listed' : List Ledger}
    (before : listed.Perm (tables.ledgers.overlay work.ledgers).values)
    (after : listed'.Perm (work.publish tables).ledgers.values) :
    sortBy (fun a b => a.opensAt ≤ b.opensAt) listed' =
      (sortBy (fun a b => a.opensAt ≤ b.opensAt) listed).map work.raisedLedger := by
  rw [published_ledgers named keyed] at after
  have ranks : (listed'.map fun ledger => ledger.opensAt.rank).Nodup := by
    have seen := (sortBy_perm (fun a b => a.opensAt ≤ b.opensAt)
      (tables.ledgers.overlay work.ledgers).values).map Ledger.opensAt
    have ranked := (seen.nodup_iff.mp distinct).map fun a b => Instant.rank_inj.mp
    rw [(after.map _).nodup_iff, List.map_map]
    simpa [Function.comp_def] using ranked
  rw [← sortBy_map_raisedLedger]
  exact sortBy_rank_of_perm (fun ledger => ledger.opensAt.rank) ranks
    (after.trans (before.map work.raisedLedger).symm)

end UnitOfWork

/-! ## Searches -/

namespace Request

def Searches : Request → Prop
  | findAccount _ | ledgerAt _ | openLedger | previousLedger _ | ledgers | findBalance _
  | latestPosting _ | findReservation _ => True
  | _ => False

def raised (work : UnitOfWork) : (q : Request) → q.Reply → q.Reply
  | ledgerAt _, found => found.map work.raisedLedger
  | openLedger, found => found.map work.raisedLedger
  | previousLedger _, found => found.map work.raisedLedger
  | ledgers, found => found.map work.raisedLedger
  | findBalance _, found => found.map work.raisedBalance
  | findReservation _, found => found.map work.raisedReservation
  | _, reply => reply

variable {surroundings : Surroundings} {q : Request} {world after : World} {work : UnitOfWork}

/-- Right after a publication a new unit of work finds what the published one found before. -/
theorem Searches.published (searches : q.Searches) (named : work.Named)
    (keyed : world.store.tables.Keyed) (acceptable : work.Acceptable world.store.tables)
    (publishes : after.store.tables = work.publish world.store.tables) :
    (q.perform surroundings after .empty).1 =
      q.raised work (q.perform surroundings world work).1 := by
  have view := UnitOfWork.published_view named keyed
  cases q with
  | findAccount reference =>
      simp only [perform, raised, publishes]
      exact UnitOfWork.published_account keyed acceptable reference
  | ledgerAt time =>
      simp only [perform, raised, tracked, publishes]
      exact UnitOfWork.published_ledgerAt named keyed time
  | openLedger =>
      simp only [perform, raised, tracked, publishes]
      exact UnitOfWork.published_openLedger named keyed
  | previousLedger ledger =>
      simp only [perform, raised, tracked, publishes]
      exact UnitOfWork.published_previousLedger named keyed ledger
  | ledgers => simpa only [perform, raised, publishes] using view
  | findBalance key =>
      simp only [perform, raised, publishes]
      exact UnitOfWork.published_balance named keyed key
  | latestPosting ledgerId =>
      simp [perform, raised, publishes, UnitOfWork.latestPosting, UnitOfWork.publish,
        UnitOfWork.empty]
  | findReservation businessReference =>
      simp only [perform, raised, publishes]
      exact UnitOfWork.published_reservation named keyed businessReference
  | _ => exact searches.elim

end Request

end DoubleEntry
