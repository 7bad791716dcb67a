import DoubleEntry.Proofs.Program.Upholding
import DoubleEntry.Proofs.Service.Founding
import DoubleEntry.Proofs.Store.Refusal
import DoubleEntry.Proofs.Store.Sums
import DoubleEntry.Proofs.Store.Views

/-!
# Ensuring the system accounts among others

As long as nobody else creates system accounts, they come all at once, with the first
commit of somebody who ensures them (`Tendency.staffing`).  Whoever looks them up
finds the right accounts or, if none are there yet, stages new ones.  If others commit
meanwhile, the commit is refused, but then all accounts are there, so that looking
them up once more is enough (`Bank.upholds_ensureSystemAccounts`).
-/

namespace DoubleEntry

namespace SystemRefs

/-- References that are stored as they are configured; the banking reserve has one of its own. -/
structure Plain (refs : SystemRefs) : Prop where
  trimmed : ∀ reference ∈ refs.all, Text.trim reference = reference
  nonblank : ∀ reference ∈ refs.all, reference.isEmpty = false
  reservations_apart : refs.reservations ≠ refs.bankingReserve
  premiums_apart : refs.premiums ≠ refs.bankingReserve

def typeOf (refs : SystemRefs) (reference : String) : AccountType :=
  if reference = refs.bankingReserve then .asset else .liability

variable {refs : SystemRefs}

theorem bankingReserve_mem : refs.bankingReserve ∈ refs.all := by simp [all]

theorem reservations_mem : refs.reservations ∈ refs.all := by simp [all]

theorem premiums_mem : refs.premiums ∈ refs.all := by simp [all]

theorem typeOf_bankingReserve : refs.typeOf refs.bankingReserve = .asset := if_pos rfl

theorem Plain.typeOf_reservations (plain : refs.Plain) :
    refs.typeOf refs.reservations = .liability := if_neg plain.reservations_apart

theorem Plain.typeOf_premiums (plain : refs.Plain) : refs.typeOf refs.premiums = .liability :=
  if_neg plain.premiums_apart

end SystemRefs

namespace Tables

def Vacant (refs : SystemRefs) (tables : Tables) : Prop :=
  ∀ reference ∈ refs.all, tables.accounts.get? reference = none

def Staffed (refs : SystemRefs) (tables : Tables) : Prop :=
  ∀ reference ∈ refs.all, ∃ account, tables.accounts.get? reference = some account ∧
    Bank.isSystemAccount (refs.typeOf reference) account = true

def OneOpen (tables : Tables) : Prop := tables.ledgers.values.countP Ledger.isOpen ≤ 1

structure Ready (refs : SystemRefs) (tables : Tables) : Prop where
  keyed : tables.Keyed
  oneOpen : tables.OneOpen
  filled : tables.Vacant refs ∨ tables.Staffed refs

variable {refs : SystemRefs} {tables after : Tables} {work : UnitOfWork}

theorem Staffed.stays (staffed : tables.Staffed refs)
    (kept : ∀ reference account, tables.accounts.get? reference = some account →
      after.accounts.get? reference = some account) : after.Staffed refs := by
  intro reference member
  obtain ⟨account, found, suits⟩ := staffed reference member
  exact ⟨account, kept reference account found, suits⟩

theorem Ready.publish (ready : tables.Ready refs) (named : work.Named)
    (acceptable : work.Acceptable tables)
    (filled : (work.publish tables).Vacant refs ∨ (work.publish tables).Staffed refs) :
    (work.publish tables).Ready refs where
  keyed := ready.keyed.publish work
  oneOpen := by
    rw [OneOpen, countP_isOpen_publish named]
    exact acceptable.one_open
  filled := filled

theorem Ready.publish_foreign (ready : tables.Ready refs) (named : work.Named)
    (acceptable : work.Acceptable tables)
    (foreign : ∀ account ∈ work.accounts, account.reference ∉ refs.all) :
    (work.publish tables).Ready refs := by
  apply ready.publish named acceptable
  refine ready.filled.imp (fun vacant reference member => ?_) fun staffed =>
    staffed.stays fun _ _ => UnitOfWork.publish_accounts_get? acceptable
  have unstaged : work.accounts.find? (fun account => account.reference = reference) = none := by
    rw [List.find?_eq_none]
    rintro account staged isReference
    have same : account.reference = reference := by simpa using isReference
    exact foreign account staged (same ▸ member)
  rw [UnitOfWork.published_account ready.keyed acceptable, UnitOfWork.findAccount, unstaged]
  exact vacant reference member

theorem Ensures.unique {accounts others : Bank.SystemAccounts}
    (ensures : tables.Ensures refs accounts) (ensures' : tables.Ensures refs others) :
    accounts = others := by
  obtain ⟨reserve, pool, premiums⟩ := accounts
  obtain ⟨reserve', pool', premiums'⟩ := others
  cases ensures.bankingReserve.found.symm.trans ensures'.bankingReserve.found
  cases ensures.reservations.found.symm.trans ensures'.reservations.found
  cases ensures.premiums.found.symm.trans ensures'.premiums.found
  rfl

end Tables

/-- Accounts stay, and the system accounts come all at once. -/
def Tendency.staffing (refs : SystemRefs) : Tendency where
  leads before after := (∀ reference account, before.accounts.get? reference = some account →
    after.accounts.get? reference = some account) ∧ after.Ready refs
  trans first second :=
    ⟨fun reference account found => second.1 _ _ (first.1 reference account found), second.2⟩
  rests leads := ⟨fun _ _ found => found, leads.2⟩

/-! ## Looking the accounts up -/

structure Staging (refs : SystemRefs) (staged : List Account) : Prop where
  nodup : (staged.map Account.reference).Nodup
  member : ∀ account ∈ staged, account.reference ∈ refs.all
  suits : ∀ account ∈ staged,
    Bank.isSystemAccount (refs.typeOf account.reference) account = true

structure Tables.Chosen (refs : SystemRefs) (tables : Tables) (staged : List Account)
    (reference : String) (account : Account) : Prop where
  named : account.reference = reference
  suits : Bank.isSystemAccount (refs.typeOf reference) account = true
  known : tables.accounts.get? reference = some account ∨ account ∈ staged

private theorem Staging.nil (refs : SystemRefs) : Staging refs [] := ⟨.nil, by simp, by simp⟩

namespace Tables

variable {refs : SystemRefs} {tables after : Tables} {staged staged' : List Account}
  {reference : String} {account : Account}

private theorem Chosen.later (chosen : tables.Chosen refs staged reference account)
    (leads : (Tendency.staffing refs).leads tables after) (subset : staged ⊆ staged') :
    after.Chosen refs staged' reference account where
  named := chosen.named
  suits := chosen.suits
  known := chosen.known.imp (leads.1 reference account) fun member => subset member

private theorem Chosen.published (chosen : tables.Chosen refs staged reference account)
    (keyed : tables.Keyed)
    (acceptable : ({ UnitOfWork.empty with accounts := staged }).Acceptable tables) :
    (({ UnitOfWork.empty with accounts := staged }).publish tables).accounts.get? reference =
      some account := by
  rcases chosen.known with stored | among
  · exact UnitOfWork.publish_accounts_get? acceptable stored
  · apply (keyed.publish _).accounts.get?_eq_some_iff.mpr
    rw [UnitOfWork.publish_accounts_values acceptable]
    exact ⟨List.mem_append_right _ among, chosen.named⟩

private theorem Ready.chosen_of_found (ready : tables.Ready refs) (staging : Staging refs staged)
    (member : reference ∈ refs.all)
    (found : ({ UnitOfWork.empty with accounts := staged }).findAccount tables reference =
      some account) : tables.Chosen refs staged reference account := by
  rw [UnitOfWork.findAccount] at found
  split at found
  next other among =>
    cases found
    have named : account.reference = reference := by simpa using List.find?_some among
    have isStaged := List.mem_of_find?_eq_some among
    exact ⟨named, named ▸ staging.suits account isStaged, .inr isStaged⟩
  next =>
    rcases ready.filled with vacant | staffed
    · rw [vacant reference member] at found
      cases found
    · obtain ⟨other, isOther, suits⟩ := staffed reference member
      rw [found] at isOther
      cases isOther
      exact ⟨ready.keyed.accounts.name_of_get? found, suits, .inl found⟩

private theorem not_staffed_of_missing (member : reference ∈ refs.all)
    (missing : ({ UnitOfWork.empty with accounts := staged }).findAccount tables reference = none) :
    ¬ tables.Staffed refs := by
  intro staffed
  obtain ⟨account, stored, -⟩ := staffed reference member
  rw [UnitOfWork.findAccount] at missing
  split at missing
  · cases missing
  · rw [stored] at missing
    cases missing

end Tables

private theorem Staging.append {refs : SystemRefs} {tables : Tables} {staged : List Account}
    {account : Account} (staging : Staging refs staged) (member : account.reference ∈ refs.all)
    (suits : Bank.isSystemAccount (refs.typeOf account.reference) account = true)
    (missing : ({ UnitOfWork.empty with accounts := staged }).findAccount tables
      account.reference = none) : Staging refs (staged ++ [account]) where
  nodup := by
    rw [List.map_append, List.nodup_append]
    refine ⟨staging.nodup, List.nodup_singleton _, ?_⟩
    rintro reference among other isOther rfl
    obtain ⟨double, isStaged, same⟩ := List.mem_map.mp among
    rw [List.map_singleton, List.mem_singleton] at isOther
    rw [UnitOfWork.findAccount] at missing
    split at missing
    · cases missing
    next none =>
      refine List.find?_eq_none.mp none double isStaged ?_
      simpa using same.trans isOther
  member := by simpa [or_imp, forall_and] using ⟨staging.member, member⟩
  suits := by simpa [or_imp, forall_and] using ⟨staging.suits, suits⟩

namespace Bank

open DoubleEntry.Action

variable {α : Type} {surroundings : Surroundings} {refs : SystemRefs} {tables : Tables}
  {staged : List Account}

private theorem upholds_systemAccount {ends : Tables → Except LedgerError α → Prop}
    (plain : refs.Plain)
    (staging : Staging refs staged) {reference name : String} (member : reference ∈ refs.all)
    {accountType : AccountType} (isType : refs.typeOf reference = accountType)
    {next : Account → Action α}
    (goesOn : ∀ later account staged', (Tendency.staffing refs).leads tables later →
      Staging refs staged' → staged ⊆ staged' → later.Chosen refs staged' reference account →
      (tables.Staffed refs → staged' = staged) →
      (next account).Upholds surroundings (.staffing refs) ends later
        { UnitOfWork.empty with accounts := staged' }) :
    (systemAccount reference name accountType >>= next).Upholds surroundings (.staffing refs) ends
      tables { UnitOfWork.empty with accounts := staged } := by
  subst isType
  rw [systemAccount, bind_assoc]
  apply upholds_findAccount
  intro t₁ leads₁
  cases found : ({ UnitOfWork.empty with accounts := staged }).findAccount t₁ reference with
  | some account =>
      have chosen := leads₁.2.chosen_of_found staging member found
      simp only [chosen.suits, if_true]
      exact goesOn t₁ account staged leads₁ staging (List.Subset.refl _) chosen fun _ => rfl
  | none =>
      have unstaffed : ¬ tables.Staffed refs := fun staffed =>
        Tables.not_staffed_of_missing member found (staffed.stays leads₁.1)
      simp only [bind_assoc]
      apply upholds_freshId
      intro t₂ id leads₂
      apply upholds_now
      intro t₃ time leads₃
      let account : Account := ⟨id, reference, name, refs.typeOf reference, .system, time⟩
      have created : Account.create id time reference name (refs.typeOf reference) .system =
          .ok account := by
        rw [Account.create, plain.trimmed reference member, plain.nonblank reference member]
        rfl
      rw [created]
      apply upholds_saveAccount
      intro t₄ leads₄
      apply upholds_record
      intro t₅ leads₅
      have suits : isSystemAccount (refs.typeOf reference) account = true := by
        simp [isSystemAccount, account]
      have leads₁₂ := (Tendency.staffing refs).trans leads₁ leads₂
      have leads₁₃ := (Tendency.staffing refs).trans leads₁₂ leads₃
      have leads₁₄ := (Tendency.staffing refs).trans leads₁₃ leads₄
      have leads₁₅ := (Tendency.staffing refs).trans leads₁₄ leads₅
      refine goesOn t₅ account (staged ++ [account]) leads₁₅ ?_ (List.subset_append_left _ _)
        ⟨rfl, suits, .inr (by simp)⟩ fun staffed => absurd staffed unstaffed
      exact staging.append member suits found

/-- What looking up the system accounts comes to: either they stand there, or others have been
faster. -/
def Loads (refs : SystemRefs) (before after : Tables) : Except LedgerError SystemAccounts → Prop
  | .ok accounts => after.Ensures refs accounts
  | .error e => ¬ before.Staffed refs ∧ after.Staffed refs ∧
      ∃ reference, e = .duplicateReference reference

end Bank

theorem Tables.Ensures.staffed {refs : SystemRefs} {tables : Tables}
    {accounts : Bank.SystemAccounts} (plain : refs.Plain)
    (ensures : tables.Ensures refs accounts) : tables.Staffed refs := by
  have stands {reference : String} {account : Account} (member : reference ∈ refs.all)
      (ensured : tables.Ensured reference (refs.typeOf reference) account) :
      ∃ account, tables.accounts.get? reference = some account ∧
        Bank.isSystemAccount (refs.typeOf reference) account = true := by
    have found := ensured.found
    rw [Tables.account?, plain.trimmed reference member] at found
    exact ⟨account, found, ensured.suits⟩
  intro reference member
  have among := member
  simp only [SystemRefs.all, List.mem_cons, List.not_mem_nil, or_false] at among
  rcases among with rfl | rfl | rfl
  · exact stands member (SystemRefs.typeOf_bankingReserve ▸ ensures.bankingReserve)
  · exact stands member (plain.typeOf_reservations ▸ ensures.reservations)
  · exact stands member (plain.typeOf_premiums ▸ ensures.premiums)

theorem Tables.Staffed.unique {refs : SystemRefs} {tables : Tables} (staffed : tables.Staffed refs)
    (keyed : tables.Keyed) {reference : String} (member : reference ∈ refs.all) :
    ∃ account, tables.accounts.values.filter (fun account => account.reference = reference) =
      [account] := by
  obtain ⟨account, stored, -⟩ := staffed reference member
  have alone := keyed.accounts.filterMap_get?_perm (List.nodup_singleton reference)
  have found : [reference].filterMap tables.accounts.get? = [account] := by simp [stored]
  rw [found] at alone
  exact ⟨account, by simpa using List.perm_singleton.mp alone.symm⟩

private theorem Tables.Ready.commit {refs : SystemRefs} {tables : Tables} {staged : List Account}
    {reserve pool premiums : Account} (ready : tables.Ready refs) (plain : refs.Plain)
    (acceptable : ({ UnitOfWork.empty with accounts := staged }).Acceptable tables)
    (isReserve : tables.Chosen refs staged refs.bankingReserve reserve)
    (isPool : tables.Chosen refs staged refs.reservations pool)
    (isPremiums : tables.Chosen refs staged refs.premiums premiums) :
    (({ UnitOfWork.empty with accounts := staged }).publish tables).Ensures refs
        ⟨reserve, pool, premiums⟩ ∧
      (({ UnitOfWork.empty with accounts := staged }).publish tables).Ready refs := by
  have stands {reference : String} {accountType : AccountType} {account : Account}
      (member : reference ∈ refs.all) (isType : refs.typeOf reference = accountType)
      (chosen : tables.Chosen refs staged reference account) :
      (({ UnitOfWork.empty with accounts := staged }).publish tables).Ensured reference accountType
        account := by
    refine ⟨?_, isType ▸ chosen.suits⟩
    rw [Tables.account?, plain.trimmed reference member]
    exact chosen.published ready.keyed acceptable
  have ensures : (({ UnitOfWork.empty with accounts := staged }).publish tables).Ensures refs
      ⟨reserve, pool, premiums⟩ :=
    ⟨stands SystemRefs.bankingReserve_mem SystemRefs.typeOf_bankingReserve isReserve,
      stands SystemRefs.reservations_mem plain.typeOf_reservations isPool,
      stands SystemRefs.premiums_mem plain.typeOf_premiums isPremiums⟩
  have named : ({ UnitOfWork.empty with accounts := staged }).Named :=
    ⟨Table.keyedBy_empty _, Table.keyedBy_empty _, Table.keyedBy_empty _⟩
  exact ⟨ensures, ready.publish named acceptable (.inr (ensures.staffed plain))⟩

private theorem Tables.Ready.refused {refs : SystemRefs} {tables : Tables} {staged : List Account}
    {e : LedgerError} (ready : tables.Ready refs) (staging : Staging refs staged)
    (refused : ({ UnitOfWork.empty with accounts := staged }).check tables = .error e) :
    staged ≠ [] ∧ tables.Staffed refs ∧ ∃ reference, e = .duplicateReference reference := by
  have oneOpen : ({ UnitOfWork.empty with accounts := staged }).checkOpenLedger tables = .ok () :=
    UnitOfWork.checkOpenLedger_eq_ok_iff.mpr ready.oneOpen
  have isRefused : UnitOfWork.checkAccounts tables [] staged = .error e := by
    cases accounts : UnitOfWork.checkAccounts tables [] staged with
    | error other =>
        rw [UnitOfWork.check, accounts] at refused
        exact refused
    | ok =>
        rw [UnitOfWork.check, accounts, oneOpen] at refused
        cases refused
  refine ⟨?_, ?_, UnitOfWork.checkAccounts_eq_error isRefused⟩
  · rintro rfl
    cases isRefused
  · refine ready.filled.resolve_left fun vacant => ?_
    have fine : UnitOfWork.checkAccounts tables [] staged = .ok () := by
      rw [UnitOfWork.checkAccounts_eq_ok_iff]
      exact ⟨fun account among => ⟨vacant _ (staging.member account among), by simp⟩,
        staging.nodup⟩
    rw [fine] at isRefused
    cases isRefused

namespace Bank

open DoubleEntry.Action

variable {surroundings : Surroundings} {refs : SystemRefs} {tables : Tables} {work : UnitOfWork}

private theorem upholds_loadSystemAccounts (plain : refs.Plain) :
    (loadSystemAccounts refs).Upholds surroundings (.staffing refs) (Loads refs tables) tables
      work := by
  rw [loadSystemAccounts]
  apply upholds_openWork
  intro t₁ leads₁
  refine upholds_systemAccount plain (.nil refs) SystemRefs.bankingReserve_mem
    SystemRefs.typeOf_bankingReserve ?_
  intro t₂ reserve staged₂ leads₂ staging₂ _ isReserve idle₂
  refine upholds_systemAccount plain staging₂ SystemRefs.reservations_mem
    plain.typeOf_reservations ?_
  intro t₃ pool staged₃ leads₃ staging₃ subset₃ isPool idle₃
  refine upholds_systemAccount plain staging₃ SystemRefs.premiums_mem plain.typeOf_premiums ?_
  intro t₄ premiums staged₄ leads₄ staging₄ subset₄ isPremiums idle₄
  apply upholds_commit
  case accepted =>
    intro t₅ leads₅ acceptable
    obtain ⟨ensures, ready⟩ := leads₅.2.commit plain acceptable
      ((isReserve.later leads₃ subset₃).later
        ((Tendency.staffing refs).trans leads₄ leads₅) subset₄)
      (isPool.later ((Tendency.staffing refs).trans leads₄ leads₅) subset₄)
      (isPremiums.later leads₅ (List.Subset.refl _))
    exact ⟨⟨fun _ _ => UnitOfWork.publish_accounts_get? acceptable, ready⟩, ensures⟩
  case refused =>
    intro t₅ e leads₅ refused
    obtain ⟨nonempty, staffed, isDuplicate⟩ := leads₅.2.refused staging₄ refused
    refine ⟨fun before => nonempty ?_, staffed, isDuplicate⟩
    -- had the accounts been there from the start, nothing would be staged
    have staffed₁ := before.stays leads₁.1
    have staffed₂ := staffed₁.stays leads₂.1
    rw [idle₄ (staffed₂.stays leads₃.1), idle₃ staffed₂, idle₂ staffed₁]

theorem upholds_ensureSystemAccounts (plain : refs.Plain) :
    (ensureSystemAccounts refs).Upholds surroundings (.staffing refs)
      (fun tables result => ∃ accounts, result = .ok accounts ∧ tables.Ensures refs accounts)
      tables work := by
  refine (upholds_loadSystemAccounts plain).handleError ?_ ?_
  · exact fun tables accounts ensures => ⟨accounts, rfl, ensures⟩
  · rintro tables _ work ⟨-, staffed, reference, rfl⟩
    apply upholds_record
    intro later leads
    refine (upholds_loadSystemAccounts plain).imp fun tables result loads => ?_
    cases result with
    | ok accounts => exact ⟨accounts, rfl, loads⟩
    | error e => exact absurd (staffed.stays leads.1) loads.1

/-! ## How many requests there are -/

private theorem within_systemAccount (reference name : String) (accountType : AccountType) :
    (systemAccount reference name accountType).Within 5 := by
  rw [systemAccount]
  refine (within_findAccount reference).bind fun found => (?_ : Within _ 4)
  cases found with
  | some account =>
      dsimp only
      split <;> trivial
  | none =>
      refine within_freshId.bind fun id => (?_ : Within _ 3)
      refine within_now.bind fun time => (?_ : Within _ 2)
      refine (within_lift _).bind fun account => (?_ : Within _ 2)
      refine (within_saveAccount account).bind fun _ => (?_ : Within _ 1)
      refine (within_record _).bind fun _ => (?_ : Within _ 0)
      trivial

private theorem within_loadSystemAccounts (refs : SystemRefs) :
    (loadSystemAccounts refs).Within 17 := by
  refine within_request fun _ => ?_
  refine (within_systemAccount _ _ _).bind fun reserve => (?_ : Within _ 11)
  refine (within_systemAccount _ _ _).bind fun pool => (?_ : Within _ 6)
  refine (within_systemAccount _ _ _).bind fun premiums => (?_ : Within _ 1)
  refine within_request fun reply => ?_
  cases reply <;> trivial

theorem within_ensureSystemAccounts (refs : SystemRefs) :
    (ensureSystemAccounts refs).Within 35 := by
  refine (within_loadSystemAccounts refs).handleError fun e => (?_ : Within _ 18)
  split
  · exact within_request fun _ => within_loadSystemAccounts refs
  · trivial

end Bank

end DoubleEntry
