import DoubleEntry.Proofs.Program.Sessions
import DoubleEntry.Proofs.Service.Enrolment
import DoubleEntry.Proofs.Service.Tallies
import DoubleEntry.Proofs.Time.Years
import DoubleEntry.Seeding

/-!
# The accounts that a seeding creates

The seeding starts from an empty store.  First come the system accounts, then a ledger that
begins with the year, and then the customers, one after the other.  None of this posts
anything, and it stops at the first customer whose reference is taken.
-/

namespace DoubleEntry.Seeding

variable {surroundings : Surroundings} {settings : LedgerSettings} {tables : Tables}
  {issued ticks : Nat} {operation : Operation} {work : UnitOfWork} {outcome : Outcome}
  {ids : List Uuid} {times : List Instant}

/-! ## One operation after the other -/

theorem goes_perform (sound : tables.Sound settings.refs)
    (voucher : Voucher settings tables operation work outcome ids times)
    (acceptable : work.Acceptable tables) (supplies : Supplies surroundings.uuid issued ids)
    (ticking : Supplies surroundings.clock ticks times) :
    (perform surroundings settings operation).Goes ⟨tables, issued, ticks, .empty⟩
      ⟨work.publish tables, issued + ids.length, ticks + times.length, .empty⟩ :=
  Session.goes_during (voucher.yields sound acceptable supplies ticking) _

theorem stops_perform (refuses : (operation.perform settings).Refuses surroundings []
      ⟨tables, issued, ticks, .empty⟩) (none : tables.transactions = []) :
    (perform surroundings settings operation).Stops ⟨tables, issued, ticks, .empty⟩
      (·.transactions = []) :=
  Session.stops_during refuses none _

/-! ## Before anything is posted -/

/-- There are accounts, with different positions of the supply as identifiers, and perhaps
ledgers. -/
structure Unposted (surroundings : Surroundings) (refs : SystemRefs) (issued : Nat)
    (tables : Tables) : Prop where
  sound : tables.Sound refs
  drawn : (tables.accounts.values.map fun account => account.id.uuid).Sublist
    ((List.range issued).map surroundings.uuid)
  balances : tables.balances = ∅
  transactions : tables.transactions = []
  reservations : tables.reservations = ∅

private theorem map_range_of_supplies {β : Type} {supply : Nat → β} {position : Nat}
    {values : List β} (supplies : Supplies supply position values) :
    (List.range (position + values.length)).map supply =
      (List.range position).map supply ++ values := by
  induction values generalizing position with
  | nil => simp
  | cons value values ih =>
      have rest := ih supplies.2
      rw [List.length_cons, Nat.add_comm values.length, ← Nat.add_assoc, rest, List.range_succ]
      simp [supplies.1]

namespace Unposted

private theorem empty (surroundings : Surroundings) (refs : SystemRefs) :
    Unposted surroundings refs 0 .empty where
  sound := Tables.sound_empty refs
  drawn := .slnil
  balances := rfl
  transactions := rfl
  reservations := rfl

private theorem identified (unposted : Unposted surroundings settings.refs issued tables)
    (distinct : surroundings.Distinct issued) : tables.Identified := by
  have nodup : ((List.range issued).map surroundings.uuid).Nodup := by
    refine List.Nodup.map_on (fun i drawn j drawn' => ?_) List.nodup_range
    exact distinct i (List.mem_range.mp drawn) j (List.mem_range.mp drawn')
  intro account known other known' same
  exact List.inj_on_of_nodup_map (nodup.sublist unposted.drawn) known known'
    (congrArg Id.uuid same)

theorem publish (unposted : Unposted surroundings settings.refs issued tables)
    (voucher : Voucher settings tables operation work outcome ids times)
    (acceptable : work.Acceptable tables) (supplies : Supplies surroundings.uuid issued ids)
    (balances : work.balances = ∅) (transactions : work.transactions = [])
    (reservations : work.reservations = ∅) :
    Unposted surroundings settings.refs (issued + ids.length) (work.publish tables) where
  sound := UnitOfWork.publish_sound unposted.sound voucher acceptable
  drawn := by
    rw [UnitOfWork.publish_accounts_values acceptable, List.map_append,
      map_range_of_supplies supplies]
    exact unposted.drawn.append voucher.accounts_ids
  balances := by
    rw [UnitOfWork.publish, balances]
    exact unposted.balances
  transactions := by
    rw [UnitOfWork.publish, transactions]
    exact (List.append_nil _).trans unposted.transactions
  reservations := by
    rw [UnitOfWork.publish, reservations]
    exact unposted.reservations

theorem tallies (unposted : Unposted surroundings settings.refs issued tables)
    (distinct : surroundings.Distinct issued) {ledger : Ledger}
    (one : tables.ledgers.values = [ledger]) (isOpen : ledger.isOpen = true) :
    tables.Tallies settings.refs ledger [] where
  sound := unposted.sound
  identified := unposted.identified distinct
  ledgers := one
  isOpen := isOpen
  balances account known := by
    have missing : tables.balances.get? ⟨ledger.id, account.id⟩ = none := by
      rw [unposted.balances]
      rfl
    have first : tables.earlier ledger.opensAt = [] := by
      simp [Tables.earlier, one, Instant.lt_def]
    refine ⟨.zero, 0, rfl, ?_⟩
    rw [Tables.balanceIn_of_missing missing, Tables.carried_start (by rw [first]; rfl)]
    rfl
  solvent _ _ _ := Int.le_refl 0
  positive := by simp
  transactions := congrArg List.length unposted.transactions
  closing accountType := by
    rw [Tables.closing, unposted.balances]
    rfl

end Unposted

/-! ## System accounts and the ledger -/

private theorem exists_founded (creatable : settings.refs.Creatable) (surroundings : Surroundings) :
    ∃ tables issued ticks accounts, issued ≤ 3 ∧
      (perform surroundings settings .ensureSystemAccounts).Goes ⟨.empty, 0, 0, .empty⟩
        ⟨tables, issued, ticks, .empty⟩ ∧
      Unposted surroundings settings.refs issued tables ∧ tables.ledgers = ∅ ∧
      tables.Ensures settings.refs accounts ∧
      ∀ account ∈ tables.accounts.values,
        account.reference ∈ settings.refs.all.map Text.trim := by
  obtain ⟨staged, accounts, ids, times, voucher, supplies, ticking, few, nodup, named⟩ :=
    Bank.exists_ensureSystemAccounts creatable surroundings 0 0
  have empty := Unposted.empty surroundings settings.refs
  have acceptable : ({ UnitOfWork.empty with accounts := staged }).Acceptable .empty :=
    (empty.sound.current_of_accounts staged).acceptable_of_new (fun _ _ => rfl) nodup
      (by simp [UnitOfWork.empty]) rfl
  obtain ⟨_, same, ensures⟩ := voucher.ensures empty.sound acceptable
  refine ⟨_, _, _, _, by omega, goes_perform empty.sound voucher acceptable supplies ticking,
    empty.publish voucher acceptable supplies rfl rfl rfl, rfl, ensures, ?_⟩
  rw [UnitOfWork.publish_accounts_values acceptable]
  exact fun account member => named (List.mem_map_of_mem member)

private theorem exists_opened (unposted : Unposted surroundings settings.refs issued tables)
    (none : tables.ledgers = ∅) (start : Instant) (ticks : Nat) : ∃ after ledger,
      (perform surroundings settings (.openFirstLedger start)).Goes ⟨tables, issued, ticks, .empty⟩
        ⟨after, issued + 1, ticks, .empty⟩ ∧
      Unposted surroundings settings.refs (issued + 1) after ∧ after.accounts = tables.accounts ∧
      after.ledgers.values = [ledger] ∧ ledger.opensAt = start ∧ ledger.isOpen = true := by
  have none' : tables.ledgers.values = [] := by rw [none]; rfl
  let opening := UnitOfWork.empty.saveLedger (.ofYear ⟨surroundings.uuid issued⟩ start)
  have voucher : Voucher settings tables (.openFirstLedger start) opening _
    [surroundings.uuid issued] [] := .openFirstLedger none'
  have acceptable : opening.Acceptable tables :=
    (unposted.sound.current_of_first none').acceptable rfl rfl rfl
  refine ⟨_, (Ledger.ofYear ⟨surroundings.uuid issued⟩ start).committed,
    goes_perform unposted.sound voucher acceptable ⟨rfl, trivial⟩ trivial,
    unposted.publish voucher acceptable ⟨rfl, trivial⟩ rfl rfl rfl, rfl, ?_, rfl, rfl⟩
  rw [UnitOfWork.publish, none]
  rfl

def prepare (surroundings : Surroundings) (settings : LedgerSettings) : Session Unit := do
  let perform := perform surroundings settings
  let system ← perform .ensureSystemAccounts
  Session.record (.systemAccountsReady system.bankingReserve.reference
    system.reservations.reference system.premiums.reference)
  let time ← Session.now surroundings
  let start := (Instant.startOfYear? time.year).getD time
  let ledger ← perform (.openFirstLedger start)
  Session.record (.ledgerOpened ledger.name)

structure Prepared (surroundings : Surroundings) (refs : SystemRefs) (issued ticks : Nat)
    (tables : Tables) : Prop where
  unposted : Unposted surroundings refs issued tables
  few : issued ≤ 4
  ensures : ∃ accounts, tables.Ensures refs accounts
  only : ∀ account ∈ tables.accounts.values, account.reference ∈ refs.all.map Text.trim
  ledger : ∃ ledger, tables.ledgers.values = [ledger] ∧ ledger.isOpen = true ∧
    ∃ tick ≤ ticks, ledger.opensAt ≤ surroundings.clock tick

theorem exists_prepared (creatable : settings.refs.Creatable) (surroundings : Surroundings) :
    ∃ tables issued ticks,
      (prepare surroundings settings).Goes ⟨.empty, 0, 0, .empty⟩
        ⟨tables, issued, ticks, .empty⟩ ∧
      Prepared surroundings settings.refs issued ticks tables := by
  obtain ⟨tables, issued, ticks, accounts, few, founded, unposted, none, ensures, only⟩ :=
    exists_founded creatable surroundings
  let time := surroundings.clock ticks
  obtain ⟨after, ledger, opened, unposted', same, one, opens, isOpen⟩ :=
    exists_opened unposted none ((Instant.startOfYear? time.year).getD time) (ticks + 1)
  refine ⟨after, issued + 1, ticks + 1, ?_, unposted', by omega, ⟨accounts, ?_⟩, ?_, ledger, one,
    isOpen, ticks, Nat.le_succ ticks, ?_⟩
  · rw [prepare]
    refine founded.bind fun _ => (Session.goes_record _ _).bind fun _ => ?_
    exact Session.goes_now (opened.bind fun _ => Session.goes_record _ _)
  · refine ensures.stays ?_
    rw [same]
    exact fun _ _ found => found
  · rw [same]
    exact only
  · rw [opens]
    exact Instant.getD_startOfYear_le time

namespace Prepared

variable (prepared : Prepared surroundings settings.refs issued ticks tables)
include prepared

theorem account?_ne_none_iff {reference : String} :
    tables.account? reference ≠ none ↔ Text.trim reference ∈ settings.refs.all.map Text.trim := by
  have sound := prepared.unposted.sound
  obtain ⟨accounts, ensures⟩ := prepared.ensures
  constructor
  · intro taken
    obtain ⟨account, found⟩ := Option.ne_none_iff_exists'.mp taken
    rw [← sound.accounts.name_of_get? found]
    exact prepared.only account (sound.mem_of_account? found)
  · intro member
    obtain ⟨system, isSystem, same⟩ := List.mem_map.mp member
    have stored : ∀ system ∈ settings.refs.all, tables.account? system ≠ none := by
      simp [SystemRefs.all, ensures.bankingReserve.found, ensures.reservations.found,
        ensures.premiums.found]
    rw [Tables.account?, ← same]
    exact stored system isSystem

theorem occupied : ∀ reference ∈ settings.refs.all, tables.account? reference ≠ none :=
  fun _ member => prepared.account?_ne_none_iff.mpr (List.mem_map_of_mem member)

end Prepared

/-! ## Customers -/

def enrol (surroundings : Surroundings) (settings : LedgerSettings) (customer : Customer) :
    Session Unit := do
  let _ ← perform surroundings settings
    (.createAccount customer.reference customer.name .liability customer.purpose)

structure Enrolled (tables : Tables) (reference : String) (purpose : Purpose)
    (account : Account) : Prop where
  found : tables.account? reference = some account
  isLiability : account.accountType = .liability
  isPurpose : account.purpose = purpose

theorem Enrolled.stays {after : Tables} {reference : String} {purpose : Purpose} {account : Account}
    (enrolled : Enrolled tables reference purpose account)
    (kept : ∀ reference account, tables.accounts.get? reference = some account →
      after.accounts.get? reference = some account) : Enrolled after reference purpose account :=
  ⟨kept _ _ enrolled.found, enrolled.isLiability, enrolled.isPurpose⟩

structure Extends (before after : Tables) : Prop where
  accounts : ∀ reference account, before.accounts.get? reference = some account →
    after.accounts.get? reference = some account
  ledgers : after.ledgers = before.ledgers

namespace Extends

variable {before middle after : Tables}

private theorem refl (tables : Tables) : Extends tables tables := ⟨fun _ _ found => found, rfl⟩

private theorem trans (first : Extends before middle) (second : Extends middle after) :
    Extends before after where
  accounts reference account found :=
    second.accounts reference account (first.accounts reference account found)
  ledgers := second.ledgers.trans first.ledgers

theorem occupied (leads : Extends before after) {reference : String}
    (occupied : before.account? reference ≠ none) : after.account? reference ≠ none := by
  obtain ⟨account, found⟩ := Option.ne_none_iff_exists'.mp occupied
  rw [Tables.account?, leads.accounts _ _ found]
  exact Option.some_ne_none account

end Extends

theorem exists_enrolled (unposted : Unposted surroundings settings.refs issued tables)
    (occupied : ∀ reference ∈ settings.refs.all, tables.account? reference ≠ none)
    {customer : Customer} (named : (Text.trim customer.reference).isEmpty = false)
    (free : tables.account? customer.reference = none) (ticks : Nat) : ∃ after account,
      (enrol surroundings settings customer).Goes ⟨tables, issued, ticks, .empty⟩
        ⟨after, issued + 1, ticks + 1, .empty⟩ ∧
      Unposted surroundings settings.refs (issued + 1) after ∧ Extends tables after ∧
      Enrolled after customer.reference customer.purpose account ∧
      ∀ reference, Text.trim reference ≠ Text.trim customer.reference →
        after.account? reference = tables.account? reference := by
  obtain ⟨account, voucher, isReference, isLiability, isPurpose⟩ :=
    Bank.exists_createAccount occupied named free (surroundings.uuid issued)
      (surroundings.clock ticks) customer.name .liability customer.purpose
  have isNew : ∀ other ∈ [account], tables.accounts.get? other.reference = none := by
    intro other member
    rw [List.mem_singleton.mp member, isReference]
    exact free
  have acceptable : ({ UnitOfWork.empty with accounts := [account] }).Acceptable tables :=
    (unposted.sound.current_of_accounts [account]).acceptable_of_new isNew (by simp)
      (by simp [UnitOfWork.empty]) rfl
  refine ⟨_, account,
    (goes_perform unposted.sound voucher acceptable ⟨rfl, trivial⟩ ⟨rfl, trivial⟩).bind fun _ =>
      Session.goes_pure () _,
    unposted.publish voucher acceptable ⟨rfl, trivial⟩ rfl rfl rfl,
    ⟨fun _ _ => UnitOfWork.publish_accounts_get? acceptable, rfl⟩,
    ⟨?_, isLiability, isPurpose⟩, ?_⟩
  · have sound := UnitOfWork.publish_sound unposted.sound voucher acceptable
    rw [Tables.account?, ← isReference]
    apply sound.accounts.get?_name
    rw [UnitOfWork.publish_accounts_values acceptable]
    exact List.mem_append_right _ (List.mem_singleton_self account)
  · intro reference apart
    rw [← isReference] at apart
    exact (Table.get?_insert _ _ _ _).trans (if_neg apart.symm)

theorem exists_all_enrolled (unposted : Unposted surroundings settings.refs issued tables)
    (occupied : ∀ reference ∈ settings.refs.all, tables.account? reference ≠ none)
    {customers : List Customer}
    (named : ∀ customer ∈ customers, (Text.trim customer.reference).isEmpty = false)
    (nodup : (customers.map fun customer => Text.trim customer.reference).Nodup)
    (free : ∀ customer ∈ customers, tables.account? customer.reference = none) (ticks : Nat) :
    ∃ after, (customers.forM (enrol surroundings settings)).Goes ⟨tables, issued, ticks, .empty⟩
        ⟨after, issued + customers.length, ticks + customers.length, .empty⟩ ∧
      Unposted surroundings settings.refs (issued + customers.length) after ∧
      Extends tables after ∧
      ∀ customer ∈ customers, ∃ account,
        Enrolled after customer.reference customer.purpose account := by
  induction customers generalizing tables issued ticks with
  | nil =>
      exact ⟨tables, Session.goes_pure () _, unposted, .refl tables, by simp⟩
  | cons customer rest ih =>
      obtain ⟨middle, account, goes, unposted', leads, enrolled, others⟩ :=
        exists_enrolled unposted occupied (named customer List.mem_cons_self)
          (free customer List.mem_cons_self) ticks
      obtain ⟨apart, nodup⟩ := List.nodup_cons.mp nodup
      have stillFree : ∀ other ∈ rest, middle.account? other.reference = none := by
        intro other member
        rw [others other.reference fun same => apart (List.mem_map.mpr ⟨other, member, same⟩)]
        exact free other (List.mem_cons_of_mem _ member)
      obtain ⟨after, goes', unposted'', leads', enrolled'⟩ :=
        ih unposted' (fun reference member => leads.occupied (occupied reference member))
          (fun other member => named other (List.mem_cons_of_mem _ member)) nodup stillFree
          (ticks + 1)
      rw [Nat.add_assoc, Nat.add_comm 1] at unposted''
      rw [Nat.add_assoc, Nat.add_assoc, Nat.add_comm 1] at goes'
      refine ⟨after, goes.bind fun _ => goes', unposted'', leads.trans leads', ?_⟩
      intro other member
      rcases List.mem_cons.mp member with rfl | member
      · exact ⟨account, enrolled.stays leads'.accounts⟩
      · exact enrolled' other member

private theorem stops_enrol {customer : Customer} {account : Account}
    (named : (Text.trim customer.reference).isEmpty = false)
    (taken : tables.account? customer.reference = some account)
    (none : tables.transactions = []) :
    (enrol surroundings settings customer).Stops ⟨tables, issued, ticks, .empty⟩
      (·.transactions = []) := by
  rw [enrol]
  refine Session.Stops.bind ?_ _
  exact stops_perform (Bank.refuses_createAccount named taken) none

theorem stops_enrol_all (unposted : Unposted surroundings settings.refs issued tables)
    (occupied : ∀ reference ∈ settings.refs.all, tables.account? reference ≠ none)
    {customers : List Customer}
    (named : ∀ customer ∈ customers, (Text.trim customer.reference).isEmpty = false)
    (taken : ∃ customer ∈ customers, tables.account? customer.reference ≠ none) (ticks : Nat) :
    (customers.forM (enrol surroundings settings)).Stops ⟨tables, issued, ticks, .empty⟩
      (·.transactions = []) := by
  induction customers generalizing tables issued ticks with
  | nil => simp at taken
  | cons customer rest ih =>
      have namedFirst := named customer List.mem_cons_self
      cases found : tables.account? customer.reference with
      | some account =>
          exact (stops_enrol namedFirst found unposted.transactions).bind _
      | none =>
          obtain ⟨middle, account, goes, unposted', leads, -⟩ :=
            exists_enrolled unposted occupied namedFirst found ticks
          have takenLater : ∃ other ∈ rest, middle.account? other.reference ≠ none := by
            obtain ⟨other, member, taken⟩ := taken
            rcases List.mem_cons.mp member with rfl | member
            · exact absurd found taken
            · exact ⟨other, member, leads.occupied taken⟩
          exact goes.bind_stops fun _ =>
            ih unposted' (fun reference member => leads.occupied (occupied reference member))
              (fun other member => named other (List.mem_cons_of_mem _ member)) takenLater
              (ticks + 1)

end DoubleEntry.Seeding
