import DoubleEntry.Proofs.Program.Vouching
import DoubleEntry.Service.Holds

/-!
# Lookups and locks among others

What the shared parts of the operations find and hold while others commit: an
account or a reservation under a trimmed reference, a ledger that covers an
instant, the locks of several accounts, and the balance of a locked account.
-/

namespace DoubleEntry

/-- A unit of work that has locks and was given ledgers, but stages nothing. -/
def UnitOfWork.reading (guards : List AccountId) (reads : Table LedgerId Version) : UnitOfWork :=
  { empty with guards, ledgerReads := reads }

namespace UnitOfWork

variable (guards : List AccountId) (reads : Table LedgerId Version) (tables : Tables)

@[simp] theorem reading_findAccount (reference : String) :
    (reading guards reads).findAccount tables reference = tables.accounts.get? reference := rfl

@[simp] theorem reading_findBalance (key : BalanceKey) :
    (reading guards reads).findBalance tables key = tables.balances.get? key := rfl

@[simp] theorem reading_findReservation (businessReference : String) :
    (reading guards reads).findReservation tables businessReference =
      tables.reservations.get? businessReference := rfl

end UnitOfWork

namespace Bank

open DoubleEntry.Action

variable {α : Type} {surroundings : Surroundings} {refs : SystemRefs}
  {certified : Tables → UnitOfWork → List Nat → α → Prop} {tables : Tables}
  {guards : List AccountId} {reads : Table LedgerId Version} {drawn : List Nat}

/-! ## Accounts, reservations and locks -/

theorem vouches_requireAccount {reference : String} {next : Account → Action α}
    (goesOn : ∀ later account, tables.Leads refs guards later →
      later.account? reference = some account →
        (next account).Vouches surroundings refs certified later (.reading guards reads) drawn) :
    (requireAccount reference >>= next).Vouches surroundings refs certified tables
      (.reading guards reads) drawn := by
  rw [requireAccount, bind_assoc]
  apply vouches_findAccount
  intro later leads
  rw [UnitOfWork.reading_findAccount]
  cases found : later.accounts.get? (Text.trim reference) with
  | none => trivial
  | some account => exact goesOn later account leads found

theorem vouches_requireReservation {businessReference : String} {next : Reservation → Action α}
    (goesOn : ∀ later reservation, tables.Leads refs guards later →
      later.reservations.get? (Text.trim businessReference) = some reservation →
        (next reservation).Vouches surroundings refs certified later (.reading guards reads)
          drawn) :
    (requireReservation businessReference >>= next).Vouches surroundings refs certified tables
      (.reading guards reads) drawn := by
  rw [requireReservation, bind_assoc]
  apply vouches_findReservation
  intro later leads
  rw [UnitOfWork.reading_findReservation]
  cases found : later.reservations.get? (Text.trim businessReference) with
  | none => trivial
  | some reservation => exact goesOn later reservation leads found

private theorem id_mem_dropRepeatedAfter (account : Account) (others : List Account) :
    ∀ member ∈ account :: others,
      member.id ∈ (dropRepeatedAfter account others).map Account.id := by
  induction others generalizing account with
  | nil => simp [dropRepeatedAfter]
  | cons next rest ih =>
      intro member among
      rw [dropRepeatedAfter]
      split
      next same =>
        rcases List.mem_cons.mp among with rfl | among
        · exact ih member member List.mem_cons_self
        · rcases List.mem_cons.mp among with rfl | among
          · rw [← same]
            exact ih account account List.mem_cons_self
          · exact ih account member (List.mem_cons_of_mem _ among)
      next =>
        rcases List.mem_cons.mp among with rfl | among
        · simp
        · simpa using .inr (by simpa using ih next member among)

private theorem id_mem_ordered {refs : SystemRefs} {accounts : List Account} {account : Account}
    (member : account ∈ accounts) :
    account.id ∈ (dropRepeated (Account.sortForLocking refs accounts)).map Account.id := by
  have sorted : account ∈ Account.sortForLocking refs accounts :=
    (sortBy_perm _ accounts).mem_iff.mpr member
  cases shape : Account.sortForLocking refs accounts with
  | nil => simp [shape] at sorted
  | cons first rest =>
      rw [shape] at sorted
      exact id_mem_dropRepeatedAfter first rest account sorted

theorem vouches_lockInOrder {order : SystemRefs} {accounts : List Account}
    {next : Unit → Action α} (sound : tables.Sound refs)
    (goesOn : ∀ later more, tables.Leads refs guards later → guards ⊆ more →
      (∀ account ∈ accounts, account.id ∈ more) →
        (next ()).Vouches surroundings refs certified later (.reading more reads) drawn) :
    (lockInOrder order accounts >>= next).Vouches surroundings refs certified tables
      (.reading guards reads) drawn := by
  rw [lockInOrder, bind_assoc]
  apply vouches_lockAccounts sound
  intro middle more leads held grows
  apply vouches_record
  intro later leads'
  refine goesOn later more (leads.trans (leads'.mono grows)) grows ?_
  exact fun account member => held account.id (id_mem_ordered member)

/-! ## Ledgers -/

theorem vouches_requireLedgerAt {time : Instant} {next : Ledger → Action α}
    (goesOn : ∀ later ledger, tables.Leads refs guards later → ledger ∈ later.ledgers.values →
      ledger.covers time = true →
        (next ledger).Vouches surroundings refs certified later
          (.reading guards (reads.insert ledger.id ledger.version)) drawn) :
    (requireLedgerAt time >>= next).Vouches surroundings refs certified tables
      (.reading guards reads) drawn := by
  rw [requireLedgerAt, bind_assoc]
  apply vouches_ledgerAt
  intro later leads
  cases found : (UnitOfWork.reading guards reads).ledgerAt later time with
  | none => trivial
  | some ledger =>
      obtain ⟨stored, covers⟩ :=
        (UnitOfWork.ledgerAt_eq_some_iff rfl leads.sound.tiles).mp found
      exact goesOn later ledger leads stored covers

theorem vouches_requirePostable {settings : LedgerSettings} {time : Instant}
    {next : Ledger → Action α}
    (goesOn : ∀ later ledger, tables.Leads refs guards later → ledger ∈ later.ledgers.values →
      ledger.covers time = true →
      (ledger.isOpen = true ∨ settings.allowClosedPeriodPosting = true) →
        (next ledger).Vouches surroundings refs certified later
          (.reading guards (reads.insert ledger.id ledger.version)) drawn) :
    (requirePostable settings time >>= next).Vouches surroundings refs certified tables
      (.reading guards reads) drawn := by
  rw [requirePostable, bind_assoc]
  apply vouches_requireLedgerAt
  intro later ledger leads stored covers
  by_cases postable : ledger.isOpen = true ∨ settings.allowClosedPeriodPosting = true
  · have passes : (!ledger.isOpen && !settings.allowClosedPeriodPosting) = false := by
      rcases postable with isOpen | allowed <;> simp [*]
    simpa [passes] using goesOn later ledger leads stored covers postable
  · have refuses : (!ledger.isOpen && !settings.allowClosedPeriodPosting) = true := by
      simpa [not_or] using postable
    simp only [refuses, if_true, bind_assoc]
    apply vouches_record
    intro _ _
    trivial

/-! ## Balances of locked accounts -/

private theorem tracked_insert {root previous : Ledger} (sound : tables.Sound refs)
    (known : tables.Remembers root) (stored : previous ∈ tables.ledgers.values)
    (before : previous.opensAt < root.opensAt)
    (tracked : reads.get? root.id = some root.version) :
    (reads.insert previous.id previous.version).get? root.id = some root.version := by
  have apart : previous.id ≠ root.id := by
    intro same
    obtain ⟨now, member, id, opensAt, _⟩ := known
    have first := sound.ledgers.get?_name stored
    rw [same, ← id, sound.ledgers.get?_name member] at first
    cases first
    rw [opensAt] at before
    exact Nat.lt_irrefl _ before
  rw [Table.get?_insert, if_neg apart, tracked]

private theorem vouches_carriedFrom {account : AccountId} {steps : Nat} {ledger root : Ledger}
    {next : Money → Action α} (sound : tables.Sound refs) (guarded : account ∈ guards)
    (enough : ledger.opensAt.rank ≤ steps) (known : tables.Remembers ledger)
    (root_known : tables.Remembers root) (reaches : ledger.opensAt.rank ≤ root.opensAt.rank)
    (tracked : reads.get? root.id = some root.version)
    (goesOn : ∀ later more, tables.Leads refs guards later →
      more.get? root.id = some root.version →
        (next (tables.carried account ledger.opensAt)).Vouches surroundings refs certified later
          (.reading guards more) drawn) :
    (carriedFrom account steps ledger >>= next).Vouches surroundings refs certified tables
      (.reading guards reads) drawn := by
  induction steps generalizing tables reads ledger with
  | zero =>
      have nothing : tables.earlier ledger.opensAt = [] := Tables.earlier_eq_nil (by omega)
      have zero : tables.carried account ledger.opensAt = .zero :=
        Tables.carried_start (by rw [nothing]; rfl)
      rw [zero] at goesOn
      exact goesOn tables reads (.refl sound) tracked
  | succ steps ih =>
      rw [carriedFrom, bind_assoc]
      apply vouches_previousLedger
      intro middle leads
      have carried : middle.carried account ledger.opensAt =
          tables.carried account ledger.opensAt :=
        Tables.carried_congr (known.earlier_eq leads.continues) (leads.balances account guarded)
      rw [Tables.previousLedger_eq rfl leads.sound.tiles]
      cases previous : (middle.earlier ledger.opensAt).getLast? with
      | none =>
          rw [← carried, Tables.carried_start previous] at goesOn
          exact goesOn middle reads leads tracked
      | some other =>
          obtain ⟨stored, before⟩ := Tables.mem_earlier.mp (List.mem_of_getLast? previous)
          have remembered := Tables.remembers_of_mem stored
          have tracked' := tracked_insert leads.sound (root_known.continues leads.continues) stored
            (Nat.lt_of_lt_of_le before reaches) tracked
          simp only [bind_assoc]
          apply vouches_findBalance
          intro last leads'
          have answer : ((UnitOfWork.reading guards reads).track (some other)).findBalance last
              ⟨other.id, account⟩ = middle.balances.get? ⟨other.id, account⟩ :=
            leads'.balances account guarded other.id
          rw [answer]
          cases found : middle.balances.get? ⟨other.id, account⟩ with
          | some balance =>
              rw [← carried, Tables.carried_found leads.sound.tiles previous found] at goesOn
              exact goesOn last _ (leads.trans leads') tracked'
          | none =>
              have stays : last.carried account other.opensAt =
                  middle.carried account other.opensAt :=
                Tables.carried_congr (remembered.earlier_eq leads'.continues)
                  (leads'.balances account guarded)
              have step := Tables.carried_step leads.sound.tiles previous found
              rw [← carried, step, ← stays] at goesOn
              refine ih leads'.sound (Nat.le_of_lt_succ (Nat.lt_of_lt_of_le before enough))
                (remembered.continues leads'.continues)
                ((root_known.continues leads.continues).continues leads'.continues)
                (Nat.le_trans (Nat.le_of_lt before) reaches) tracked' ?_
              intro later more leads'' tracked''
              exact goesOn later more ((leads.trans leads').trans leads'') tracked''

theorem vouches_newBalance {account : Account} {ledger : Ledger} {next : Balance → Action α}
    (sound : tables.Sound refs) (guarded : account.id ∈ guards) (known : tables.Remembers ledger)
    (tracked : reads.get? ledger.id = some ledger.version)
    (missing : tables.balances.get? ⟨ledger.id, account.id⟩ = none)
    (goesOn : ∀ later more, tables.Leads refs guards later →
      more.get? ledger.id = some ledger.version →
        (next (tables.balanceIn account ledger)).Vouches surroundings refs certified later
          (.reading guards more) drawn) :
    (newBalance account ledger >>= next).Vouches surroundings refs certified tables
      (.reading guards reads) drawn := by
  rw [Tables.balanceIn, missing] at goesOn
  simp only [newBalance, bind_assoc]
  refine vouches_carriedFrom sound guarded (Nat.le_refl _) known known (Nat.le_refl _) tracked ?_
  intro middle more leads tracked'
  apply vouches_record
  intro later leads'
  exact goesOn later more (leads.trans leads') tracked'

theorem vouches_loadBalance {account : Account} {ledger : Ledger} {next : Balance → Action α}
    (guarded : account.id ∈ guards) (known : tables.Remembers ledger)
    (tracked : reads.get? ledger.id = some ledger.version)
    (goesOn : ∀ later more, tables.Leads refs guards later →
      more.get? ledger.id = some ledger.version →
        (next (tables.balanceIn account ledger)).Vouches surroundings refs certified later
          (.reading guards more) drawn) :
    (loadBalance account ledger >>= next).Vouches surroundings refs certified tables
      (.reading guards reads) drawn := by
  rw [loadBalance, bind_assoc]
  apply vouches_findBalance
  intro middle leads
  rw [UnitOfWork.reading_findBalance]
  rw [← leads.balanceIn guarded known] at goesOn
  cases found : middle.balances.get? ⟨ledger.id, account.id⟩ with
  | some balance =>
      rw [Tables.balanceIn, found] at goesOn
      exact goesOn middle reads leads tracked
  | none =>
      have known := known.continues leads.continues
      refine vouches_newBalance leads.sound guarded known tracked found ?_
      intro later more leads' tracked'
      exact goesOn later more (leads.trans leads') tracked'

end Bank

end DoubleEntry
