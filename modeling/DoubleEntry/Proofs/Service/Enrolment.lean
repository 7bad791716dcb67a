import DoubleEntry.Proofs.Program.Failing
import DoubleEntry.Proofs.Service.Fitting
import DoubleEntry.Proofs.Service.Founding
import DoubleEntry.Proofs.Service.Replay

/-!
# Accounts that are created when nobody else acts

In an empty store, whether the system accounts can be created is decided by their
references alone (`SystemRefs.Creatable`): a trimmed reference is looked up as it is
configured, so two of the accounts are one only if the reference of the second is that of
the first without the blanks around it.  An account of a customer can be created exactly
if no account stands under its reference.
-/

namespace DoubleEntry

structure SystemRefs.Creatable (refs : SystemRefs) : Prop where
  reserve_named : (Text.trim refs.bankingReserve).isEmpty = false
  pool_named : (Text.trim refs.reservations).isEmpty = false
  premiums_named : (Text.trim refs.premiums).isEmpty = false
  pool_apart : Text.trim refs.bankingReserve ≠ Text.trim refs.reservations
  premiums_apart : Text.trim refs.bankingReserve ≠ Text.trim refs.premiums
  shared : Text.trim refs.reservations ≠ Text.trim refs.premiums ∨
    refs.premiums = Text.trim refs.reservations

theorem Account.create_of_named {reference : String} (named : (Text.trim reference).isEmpty = false)
    (id : AccountId) (time : Instant) (name : String) (accountType : AccountType)
    (purpose : Purpose) : create id time reference name accountType purpose =
      .ok ⟨id, Text.trim reference, name, accountType, purpose, time⟩ := by
  simp [create, named]

private theorem Account.create_of_blank {reference : String}
    (blank : (Text.trim reference).isEmpty = true)
    (id : AccountId) (time : Instant) (name : String) (accountType : AccountType)
    (purpose : Purpose) : create id time reference name accountType purpose =
      .error .blankReference := by
  simp [create, blank]

theorem UnitOfWork.findAccount_of_empty (staged : List Account) (reference : String) :
    ({ UnitOfWork.empty with accounts := staged }).findAccount .empty reference =
      staged.find? fun account => account.reference = reference := by
  rw [findAccount]
  split
  next found => exact found.symm
  next missing => exact missing.symm

namespace Bank

open DoubleEntry.Action

variable {β : Type} {surroundings : Surroundings} {settings : LedgerSettings} {refs : SystemRefs}
  {busy : List AccountId} {tables : Tables} {issued ticks : Nat} {staged : List Account}
  {reference name : String} {accountType : AccountType} {purpose : Purpose} {account : Account}

/-! ## System accounts -/

def newAccount (surroundings : Surroundings) (issued ticks : Nat) (reference name : String)
    (accountType : AccountType) : Account :=
  ⟨⟨surroundings.uuid issued⟩, Text.trim reference, name, accountType, .system,
    surroundings.clock ticks⟩

@[simp] theorem newAccount_reference (surroundings : Surroundings) (issued ticks : Nat)
    (reference name : String) (accountType : AccountType) :
    (newAccount surroundings issued ticks reference name accountType).reference =
      Text.trim reference := rfl

private theorem refuses_systemAccount_blank
    (missing : ({ UnitOfWork.empty with accounts := staged }).findAccount tables reference = none)
    (blank : (Text.trim reference).isEmpty = true) :
    (systemAccount reference name accountType).Refuses surroundings busy
      ⟨tables, issued, ticks, { UnitOfWork.empty with accounts := staged }⟩ := by
  rw [systemAccount]
  refine (yields_findAccount reference).bind_refuses rfl ?_
  simp only [missing]
  refine (yields_freshId rfl).bind_refuses rfl ?_
  refine (yields_now rfl).bind_refuses rfl ?_
  exact ((fails_lift (Account.create_of_blank blank _ _ _ _ _) _).refuses rfl).bind _

theorem refuses_systemAccount_mismatch
    (found : ({ UnitOfWork.empty with accounts := staged }).findAccount tables reference =
      some account) (unsuited : isSystemAccount accountType account = false) :
    (systemAccount reference name accountType).Refuses surroundings busy
      ⟨tables, issued, ticks, { UnitOfWork.empty with accounts := staged }⟩ := by
  rw [systemAccount]
  refine (yields_findAccount reference).bind_refuses rfl ?_
  simp only [found, unsuited]
  exact (fails_throw _ _).refuses rfl

private theorem refuses_commit_repeated (repeated : ¬ (staged.map Account.reference).Nodup) :
    commit.Refuses surroundings busy
      ⟨tables, issued, ticks, { UnitOfWork.empty with accounts := staged }⟩ := by
  cases checked : UnitOfWork.checkAccounts tables [] staged with
  | ok => exact absurd (UnitOfWork.checkAccounts_eq_ok_iff.mp checked).2 repeated
  | error e => exact (fails_commit checked).refuses rfl

theorem located_new (missing : ({ UnitOfWork.empty with accounts := staged }).findAccount tables
      reference = none) (named : (Text.trim reference).isEmpty = false) :
    tables.Located staged reference name accountType
      (newAccount surroundings issued ticks reference name accountType)
      (staged ++ [newAccount surroundings issued ticks reference name accountType])
      [surroundings.uuid issued] [surroundings.clock ticks] :=
  .created missing (Account.create_of_named named _ _ _ _ _)

theorem refuses_systemAccount_or (staged : List Account) {rest : Account → Action β}
    (missing : ({ UnitOfWork.empty with accounts := staged }).findAccount tables reference = none)
    (goesOn : (Text.trim reference).isEmpty = false →
      (rest (newAccount surroundings issued ticks reference name accountType)).Refuses surroundings
        busy ⟨tables, issued + 1, ticks + 1, { UnitOfWork.empty with
          accounts := staged ++
            [newAccount surroundings issued ticks reference name accountType] }⟩) :
    (systemAccount reference name accountType >>= rest).Refuses surroundings busy
      ⟨tables, issued, ticks, { UnitOfWork.empty with accounts := staged }⟩ := by
  cases named : (Text.trim reference).isEmpty with
  | true => exact (refuses_systemAccount_blank missing named).bind _
  | false =>
      exact (yields_systemAccount (located_new missing named) ⟨rfl, trivial⟩
        ⟨rfl, trivial⟩).bind_refuses rfl (goesOn named)

section Refused

variable {reserve pool : Account} {name' : String} {rest : Account → Action β}

private theorem refuses_premiums (unfit : ¬ refs.Creatable)
    (reserve_named : (Text.trim refs.bankingReserve).isEmpty = false)
    (pool_named : (Text.trim refs.reservations).isEmpty = false)
    (isReserve : reserve.reference = Text.trim refs.bankingReserve)
    (isAsset : isSystemAccount .liability reserve = false)
    (isPool : pool.reference = Text.trim refs.reservations)
    (isLiability : isSystemAccount .liability pool = true) :
    (systemAccount refs.premiums name .liability >>= fun premiums => commit >>= fun _ =>
      rest premiums).Refuses surroundings busy
        ⟨.empty, issued, ticks, { UnitOfWork.empty with accounts := [reserve, pool] }⟩ := by
  by_cases first : reserve.reference = refs.premiums
  · have found : ({ UnitOfWork.empty with accounts := [reserve, pool] }).findAccount .empty
        refs.premiums = some reserve := by
      simp [UnitOfWork.findAccount_of_empty, first]
    exact (refuses_systemAccount_mismatch found isAsset).bind _
  by_cases second : pool.reference = refs.premiums
  · have found : ({ UnitOfWork.empty with accounts := [reserve, pool] }).findAccount .empty
        refs.premiums = some pool := by
      simp [UnitOfWork.findAccount_of_empty, first, second]
    refine (yields_systemAccount (.found found isLiability) trivial trivial).bind_refuses rfl ?_
    refine (refuses_commit_repeated ?_).bind _
    intro nodup
    have premiums_eq : refs.premiums = Text.trim refs.reservations := second ▸ isPool
    have same : Text.trim refs.premiums = Text.trim refs.reservations := by
      rw [premiums_eq, Text.trim_trim]
    have apart : Text.trim refs.bankingReserve ≠ Text.trim refs.reservations := by
      simpa [isReserve, isPool] using nodup
    refine unfit ⟨reserve_named, pool_named, ?_, apart, ?_, .inr premiums_eq⟩
    · rw [same]
      exact pool_named
    · rw [same]
      exact apart
  · have missing : ({ UnitOfWork.empty with accounts := [reserve, pool] }).findAccount .empty
        refs.premiums = none := by
      simp [UnitOfWork.findAccount_of_empty, first, second]
    refine refuses_systemAccount_or _ missing fun premiums_named => ?_
    refine (refuses_commit_repeated ?_).bind _
    intro nodup
    have apart : (Text.trim refs.bankingReserve ≠ Text.trim refs.reservations ∧
        Text.trim refs.bankingReserve ≠ Text.trim refs.premiums) ∧
        Text.trim refs.reservations ≠ Text.trim refs.premiums := by
      simpa [isReserve, isPool] using nodup
    exact unfit ⟨reserve_named, pool_named, premiums_named, apart.1.1, apart.1.2, .inl apart.2⟩

private theorem refuses_pool {rest : Account → Account → Action β} (unfit : ¬ refs.Creatable)
    (reserve_named : (Text.trim refs.bankingReserve).isEmpty = false)
    (isReserve : reserve.reference = Text.trim refs.bankingReserve)
    (isAsset : isSystemAccount .liability reserve = false) :
    (systemAccount refs.reservations name .liability >>= fun pool =>
      systemAccount refs.premiums name' .liability >>= fun premiums => commit >>= fun _ =>
        rest pool premiums).Refuses surroundings busy
          ⟨.empty, issued, ticks, { UnitOfWork.empty with accounts := [reserve] }⟩ := by
  by_cases first : reserve.reference = refs.reservations
  · have found : ({ UnitOfWork.empty with accounts := [reserve] }).findAccount .empty
        refs.reservations = some reserve := by
      simp [UnitOfWork.findAccount_of_empty, first]
    exact (refuses_systemAccount_mismatch found isAsset).bind _
  · have missing : ({ UnitOfWork.empty with accounts := [reserve] }).findAccount .empty
        refs.reservations = none := by
      simp [UnitOfWork.findAccount_of_empty, first]
    exact refuses_systemAccount_or _ missing fun pool_named =>
      refuses_premiums unfit reserve_named pool_named isReserve isAsset rfl rfl

private theorem refuses_loadSystemAccounts (unfit : ¬ refs.Creatable) (issued ticks : Nat)
    (work : UnitOfWork) :
    (loadSystemAccounts refs).Refuses surroundings busy ⟨.empty, issued, ticks, work⟩ := by
  rw [loadSystemAccounts]
  refine yields_openWork.bind_refuses rfl ?_
  exact refuses_systemAccount_or [] rfl fun reserve_named =>
    refuses_pool unfit reserve_named rfl rfl

theorem refuses_ensureSystemAccounts (unfit : ¬ refs.Creatable) (issued ticks : Nat) :
    (ensureSystemAccounts refs).Refuses surroundings busy ⟨.empty, issued, ticks, .empty⟩ := by
  rw [ensureSystemAccounts]
  refine (refuses_loadSystemAccounts unfit issued ticks .empty).handleError ?_
  rintro e ⟨tables, issued, ticks, staged⟩ rfl
  cases e with
  | duplicateReference reference =>
      exact (yields_record _).bind_refuses rfl
        (refuses_loadSystemAccounts unfit issued ticks staged)
  | _ => exact (fails_throw _ _).refuses rfl

end Refused

private theorem trim_ne_of_apart {first second : String}
    (apart : Text.trim first ≠ Text.trim second) : Text.trim first ≠ second := by
  rintro rfl
  exact apart (Text.trim_trim first).symm

theorem exists_ensureSystemAccounts (creatable : settings.refs.Creatable)
    (surroundings : Surroundings) (issued ticks : Nat) : ∃ staged accounts ids times,
      Voucher settings .empty .ensureSystemAccounts { UnitOfWork.empty with accounts := staged }
        (.systemAccounts accounts) ids times ∧
      Supplies surroundings.uuid issued ids ∧ Supplies surroundings.clock ticks times ∧
      ids.length ≤ 3 ∧ (staged.map Account.reference).Nodup ∧
      staged.map Account.reference ⊆ settings.refs.all.map Text.trim := by
  let reserve := newAccount surroundings issued ticks settings.refs.bankingReserve
    "Banking reserve" .asset
  let pool := newAccount surroundings (issued + 1) (ticks + 1) settings.refs.reservations
    "Reservations" .liability
  have reserve_located : Tables.empty.Located [] settings.refs.bankingReserve "Banking reserve"
      .asset reserve [reserve] [surroundings.uuid issued] [surroundings.clock ticks] :=
    located_new rfl creatable.reserve_named
  have pool_located : Tables.empty.Located [reserve] settings.refs.reservations "Reservations"
      .liability pool [reserve, pool] [surroundings.uuid (issued + 1)]
      [surroundings.clock (ticks + 1)] := by
    refine located_new ?_ creatable.pool_named
    simp [UnitOfWork.findAccount_of_empty, reserve, trim_ne_of_apart creatable.pool_apart]
  have first := trim_ne_of_apart creatable.premiums_apart
  by_cases shared : Text.trim settings.refs.reservations = settings.refs.premiums
  · have found : ({ UnitOfWork.empty with accounts := [reserve, pool] }).findAccount .empty
        settings.refs.premiums = some pool := by
      simp [UnitOfWork.findAccount_of_empty, reserve, pool, first, shared]
    refine ⟨_, _, _, _, .ensureSystemAccounts reserve_located pool_located (.found found rfl),
      ⟨rfl, rfl, trivial⟩, ⟨rfl, rfl, trivial⟩, by simp, ?_, ?_⟩
    · simpa [reserve, pool] using creatable.pool_apart
    · simp [reserve, pool, SystemRefs.all]
  · have missing : ({ UnitOfWork.empty with accounts := [reserve, pool] }).findAccount .empty
        settings.refs.premiums = none := by
      simp [UnitOfWork.findAccount_of_empty, reserve, pool, first, shared]
    have apart := creatable.shared.resolve_right fun same => shared same.symm
    refine ⟨_, _, _, _, .ensureSystemAccounts reserve_located pool_located
      (located_new missing creatable.premiums_named), ⟨rfl, rfl, rfl, trivial⟩,
      ⟨rfl, rfl, rfl, trivial⟩, by simp, ?_, ?_⟩
    · simp [reserve, pool, creatable.pool_apart, creatable.premiums_apart, apart]
    · simp [reserve, pool, SystemRefs.all]

/-! ## Accounts of customers -/

private theorem isSystemReference_iff :
    refs.isSystemReference reference = true ↔ reference ∈ refs.all := by
  simp only [SystemRefs.isSystemReference, SystemRefs.rank, SystemRefs.all, List.mem_cons,
    List.not_mem_nil, or_false]
  grind

theorem refuses_createAccount (named : (Text.trim reference).isEmpty = false)
    (taken : tables.account? reference = some account) :
    (createAccount refs reference name accountType purpose).Refuses surroundings busy
      ⟨tables, issued, ticks, .empty⟩ := by
  rw [createAccount]
  refine (yields_freshId rfl).bind_refuses rfl ?_
  refine (yields_now rfl).bind_refuses rfl ?_
  refine (yields_lift (Account.create_of_named named _ _ _ _ _) _).bind_refuses rfl ?_
  split
  · exact (yields_record _).bind_refuses rfl (((fails_throw _ _).refuses rfl).bind _)
  · refine yields_openWork.bind_refuses rfl ?_
    refine (yields_findAccount _).bind_refuses rfl ?_
    have answer : UnitOfWork.empty.findAccount tables (Text.trim reference) = some account := taken
    simp only [answer]
    exact ((fails_throw _ _).refuses rfl).bind _

theorem exists_createAccount
    (occupied : ∀ reference ∈ settings.refs.all, tables.account? reference ≠ none)
    (named : (Text.trim reference).isEmpty = false) (missing : tables.account? reference = none)
    (uuid : Uuid) (time : Instant) (name : String) (accountType : AccountType)
    (purpose : Purpose) : ∃ account, Voucher settings tables
      (.createAccount reference name accountType purpose)
      { UnitOfWork.empty with accounts := [account] } (.account account) [uuid] [time] ∧
      account.reference = Text.trim reference ∧ account.accountType = accountType ∧
      account.purpose = purpose := by
  refine ⟨_, .createAccount (Account.create_of_named named _ _ _ _ _) ?_ missing, rfl, rfl, rfl⟩
  rintro ⟨-, reserved⟩
  refine occupied _ (isSystemReference_iff.mp reserved) ?_
  rw [Tables.account?, Text.trim_trim]
  exact missing

end Bank

end DoubleEntry
