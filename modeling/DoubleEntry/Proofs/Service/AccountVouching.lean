import DoubleEntry.Proofs.Service.Posting
import DoubleEntry.Proofs.Service.Publication

/-!
# Operations on accounts, periods and balances vouch

Creating accounts, opening and closing periods, and creating a balance: what each
of them read may be out of date at the commit, but then the commit is refused.
-/

namespace DoubleEntry

/-- What an operation certifies when it commits: a voucher for some of the identifiers that it
drew, and locks for what it stages. -/
def Operation.Certified (surroundings : Surroundings) (settings : LedgerSettings)
    (operation : Operation) (tables : Tables) (work : UnitOfWork) (drawn : List Nat)
    (outcome : Outcome) : Prop :=
  ∃ (used : List Nat) (times : List Instant), Voucher settings tables operation work.bare outcome
      (used.map surroundings.uuid) times ∧
    used.Sublist drawn ∧ work.Guarded settings.refs tables

theorem UnitOfWork.guarded_of_unstaged {refs : SystemRefs} {tables : Tables} {work : UnitOfWork}
    (balances : work.balances = ∅) (reservations : work.reservations = ∅) :
    work.Guarded refs tables := by
  constructor <;> simp [balances, reservations]

namespace Bank

open DoubleEntry.Action

variable {α : Type} {surroundings : Surroundings} {settings : LedgerSettings} {refs : SystemRefs}
  {certified : Tables → UnitOfWork → List Nat → α → Prop} {tables : Tables} {work : UnitOfWork}
  {drawn : List Nat}

/-! ## Accounts -/

private theorem accounts_get?_untrimmed (sound : tables.Sound refs) {reference : String}
    (missing : tables.accounts.get? (Text.trim reference) = none) :
    tables.accounts.get? reference = none := by
  cases found : tables.accounts.get? reference with
  | none => rfl
  | some account =>
      have named := sound.accounts.name_of_get? found
      have trimmed := sound.trimmed account (sound.accounts.mem_of_get? found)
      rw [named] at trimmed
      rw [trimmed, found] at missing
      cases missing

private theorem vouches_systemAccount {reference name : String} {accountType : AccountType}
    {staged : List Account} {next : Account → Action α}
    (goesOn : ∀ later account staged' used times, tables.Leads refs [] later →
      staged ⊆ staged' →
      (∀ last, later.Leads refs [] last →
        (∀ other ∈ staged', last.accounts.get? other.reference = none) →
          last.Located staged reference name accountType account staged'
            (used.map surroundings.uuid) times) →
        (next account).Vouches surroundings refs certified later
          { UnitOfWork.empty with accounts := staged' } (drawn ++ used)) :
    (systemAccount reference name accountType >>= next).Vouches surroundings refs certified tables
      { UnitOfWork.empty with accounts := staged } drawn := by
  rw [systemAccount, bind_assoc]
  apply vouches_findAccount
  intro later leads
  cases found : ({ UnitOfWork.empty with accounts := staged }).findAccount later reference with
  | some account =>
      by_cases suits : isSystemAccount accountType account = true
      · simp only [suits, if_true]
        have nothing : drawn = drawn ++ [] := (List.append_nil drawn).symm
        rw [nothing]
        refine goesOn later account staged [] [] leads (List.Subset.refl _) ?_
        intro last leads' _
        refine .found ?_ suits
        simp only [UnitOfWork.findAccount] at found ⊢
        split at found
        · exact found
        · exact leads'.accounts _ _ found
      · simp only [suits]
        trivial
  | none =>
      simp only [bind_assoc]
      apply vouches_freshId
      intro t₁ position leads₁
      apply vouches_now
      intro t₂ time leads₂
      apply vouches_lift
      intro account created
      apply vouches_saveAccount
      intro t₃ leads₃
      apply vouches_record
      intro t₄ leads₄
      refine goesOn t₄ account (staged ++ [account]) [position] [time]
        ((((leads.trans leads₁).trans leads₂).trans leads₃).trans leads₄)
        (List.subset_append_left _ _) ?_
      intro last leads₅ missing
      refine .created ?_ created
      have free := missing account (by simp)
      rw [Account.create_eq_ok created] at free
      simp only [UnitOfWork.findAccount] at found ⊢
      split at found
      · cases found
      · exact accounts_get?_untrimmed leads₅.sound free

private theorem vouches_loadSystemAccounts :
    (loadSystemAccounts settings.refs).Vouches surroundings settings.refs
      (fun tables work drawn accounts => Operation.ensureSystemAccounts.Certified surroundings
        settings tables work drawn (.systemAccounts accounts)) tables work drawn := by
  rw [loadSystemAccounts]
  apply vouches_openWork
  intro t₁ leads₁
  apply vouches_systemAccount
  intro t₂ reserve staged used times leads₂ grows locates
  apply vouches_systemAccount
  intro t₃ pool staged' used' times' leads₃ grows' locates'
  apply vouches_systemAccount
  intro t₄ premiums staged'' used'' times'' leads₄ grows'' locates''
  apply vouches_commit
  intro t₅ leads₅ acceptable
  have free := acceptable.accounts_new
  refine ⟨⟨reserve, pool, premiums⟩,
    ⟨used ++ used' ++ used'', times ++ times' ++ times'', ?_, ?_, ?_⟩, rfl⟩
  · rw [List.map_append, List.map_append]
    refine .ensureSystemAccounts
      (locates t₅ ((leads₃.trans leads₄).trans leads₅) ?_)
      (locates' t₅ (leads₄.trans leads₅) ?_) (locates'' t₅ leads₅ free)
    · exact fun other member => free other (grows'' (grows' member))
    · exact fun other member => free other (grows'' member)
  · simp only [List.append_assoc]
    exact List.sublist_append_right drawn _
  · exact UnitOfWork.guarded_of_unstaged rfl rfl

theorem vouches_ensureSystemAccounts :
    (ensureSystemAccounts settings.refs).Vouches surroundings settings.refs
      (fun tables work drawn accounts => Operation.ensureSystemAccounts.Certified surroundings
        settings tables work drawn (.systemAccounts accounts)) tables work drawn := by
  rw [ensureSystemAccounts]
  apply vouches_loadSystemAccounts.handleError
  intro e tables work drawn
  split
  next reference =>
    apply vouches_record
    intro later _
    exact vouches_loadSystemAccounts
  next => trivial

theorem vouches_createAccount {reference name : String} {accountType : AccountType}
    {purpose : Purpose} :
    (createAccount settings.refs reference name accountType purpose).Vouches surroundings
      settings.refs (fun tables work drawn account =>
        (Operation.createAccount reference name accountType purpose).Certified surroundings settings
          tables work drawn (.account account)) tables work drawn := by
  rw [createAccount]
  apply vouches_freshId
  intro t₁ position leads₁
  apply vouches_now
  intro t₂ time leads₂
  apply vouches_lift
  intro account created
  by_cases reserved : purpose ≠ .system ∧ settings.refs.isSystemReference account.reference = true
  · simp only [reserved, ne_eq, not_false_eq_true, decide_true, Bool.and_self, if_true]
    apply vouches_record
    intro _ _
    trivial
  · have passes : (decide (purpose ≠ .system) &&
        settings.refs.isSystemReference account.reference) = false := by
      simpa using reserved
    simp only [passes]
    apply vouches_openWork
    intro t₃ leads₃
    apply vouches_findAccount
    intro t₄ leads₄
    split
    · trivial
    · apply vouches_saveAccount
      intro t₅ leads₅
      apply vouches_commit
      intro t₆ leads₆ acceptable
      have missing := acceptable.accounts_new account (by simp [UnitOfWork.saveAccount])
      exact ⟨account, ⟨[position], [time], .createAccount created reserved missing, by simp,
        UnitOfWork.guarded_of_unstaged rfl rfl⟩, rfl⟩

/-! ## Periods -/

private theorem countP_isOpen_pos {ledgers : List Ledger} (tiles : Tiles ledgers)
    (nonempty : ledgers ≠ []) : 0 < ledgers.countP Ledger.isOpen :=
  List.countP_pos_iff.mpr (tiles.exists_open nonempty)

private theorem values_eq_nil_of_acceptable {id : LedgerId} {start : Instant}
    (sound : tables.Sound refs)
    (staged : work.ledgers = (∅ : Table LedgerId Ledger).insert id (.ofYear id start))
    (acceptable : work.Acceptable tables) : tables.ledgers.values = [] := by
  have missing : tables.ledgers.get? id = none :=
    sound.ledger_missing (acceptable.ledgers_fit (.ofYear id start) (by simp [staged]))
  have one := acceptable.one_open
  have overlaid : (tables.ledgers.overlay work.ledgers).values =
      tables.ledgers.values ++ [.ofYear id start] := by
    rw [staged]
    exact Table.values_insert_of_absent _ missing
  rw [overlaid, List.countP_append] at one
  have isOpen : [Ledger.ofYear id start].countP Ledger.isOpen = 1 := rfl
  by_cases nonempty : tables.ledgers.values = []
  · exact nonempty
  · have := countP_isOpen_pos sound.tiles nonempty
    omega

theorem vouches_openFirstLedger {start : Instant} :
    (openFirstLedger start).Vouches surroundings settings.refs
      (fun tables work drawn ledger => (Operation.openFirstLedger start).Certified surroundings
        settings tables work drawn (.ledger ledger)) tables work drawn := by
  rw [openFirstLedger]
  apply vouches_openWork
  intro t₁ leads₁
  apply vouches_ledgers
  intro t₂ leads₂
  split
  · trivial
  · apply vouches_freshId
    intro t₃ position leads₃
    apply vouches_saveLedger
    intro t₄ leads₄
    apply vouches_commit
    intro t₅ leads₅ acceptable
    have none := values_eq_nil_of_acceptable leads₅.sound rfl acceptable
    exact ⟨_, ⟨[position], [], .openFirstLedger none, by simp,
      UnitOfWork.guarded_of_unstaged rfl rfl⟩, rfl⟩

private theorem rollover_of_acceptable {current : Ledger} {newStart : Instant} {id : LedgerId}
    (sound : tables.Sound refs) (known : tables.Remembers current)
    (version : current.version = if current.isOpen then 1 else 2)
    (staged : work.ledgers = ((∅ : Table LedgerId Ledger).insert current.id
      { current with closesAt := some newStart }).insert id (.ofYear id newStart))
    (acceptable : work.Acceptable tables) :
    current ∈ tables.ledgers.values ∧ current.id ≠ id ∧
      ∀ t ∈ tables.transactions, t.ledgerId = current.id → t.accountingTime < newStart := by
  have apart : current.id ≠ id := by
    rintro rfl
    have missing : tables.ledgers.get? current.id = none :=
      sound.ledger_missing (acceptable.ledgers_fit (.ofYear current.id newStart)
        (by rw [staged]; simp [Table.insert, Table.place, Table.values]))
    obtain ⟨stored, member, sameId, _⟩ := known
    rw [← sameId, sound.ledgers.get?_name member] at missing
    cases missing
  have values : work.ledgers.values =
      [{ current with closesAt := some newStart }, .ofYear id newStart] := by
    rw [staged, Table.values_insert_of_absent, Table.values_insert_empty]
    · rfl
    · rw [Table.get?_insert, if_neg apart, Table.get?_emptyCollection]
  have fits := acceptable.ledgers_fit { current with closesAt := some newStart } (by simp [values])
  refine ⟨known.mem_of_version sound.tiles sound.ledgers version ?_, apart, ?_⟩
  · cases found : tables.ledgers.get? current.id with
    | none =>
        obtain ⟨stored, member, sameId, _⟩ := known
        rw [← sameId, sound.ledgers.get?_name member] at found
        cases found
    | some stored =>
        rw [found] at fits
        exact congrArg some fits
  · exact acceptable.postings_inside { current with closesAt := some newStart } (by simp [values])
      newStart rfl

private theorem vouches_rollOver {current : Ledger} {newStart : Instant} {guards : List AccountId}
    {reads : Table LedgerId Version} (known : tables.Remembers current)
    (isOpen : current.isOpen = true) (version : current.version = if current.isOpen then 1 else 2) :
    (rollOver current newStart).Vouches surroundings settings.refs
      (fun tables work drawn ledger => (Operation.closePeriodAndOpenNext newStart).Certified
        surroundings settings tables work drawn (.ledger ledger)) tables (.reading guards reads)
      drawn := by
  rw [rollOver]
  apply vouches_lift
  intro closed closes
  apply vouches_freshId
  intro t₁ position leads₁
  apply vouches_saveLedger
  intro t₂ leads₂
  apply vouches_saveLedger
  intro t₃ leads₃
  apply vouches_commit
  intro t₄ leads₄ acceptable
  have leads := ((leads₁.trans leads₂).trans leads₃).trans leads₄
  have shape := (Ledger.close_eq_ok_iff.mp closes).2.2
  subst shape
  obtain ⟨stored, fresh, early⟩ := rollover_of_acceptable leads.sound
    (known.continues leads.continues) version rfl acceptable
  exact ⟨_, ⟨[position], [], .closePeriodAndOpenNext stored isOpen early closes fresh, by simp,
    UnitOfWork.guarded_of_unstaged rfl rfl⟩, rfl⟩

theorem vouches_closePeriodAndOpenNext {newStart : Instant} :
    (closePeriodAndOpenNext newStart).Vouches surroundings settings.refs
      (fun tables work drawn ledger => (Operation.closePeriodAndOpenNext newStart).Certified
        surroundings settings tables work drawn (.ledger ledger)) tables work drawn := by
  rw [closePeriodAndOpenNext]
  apply vouches_openWork
  intro t₁ leads₁
  simp only [requireOpenLedger, bind_assoc]
  apply vouches_openLedger
  intro t₂ leads₂
  cases found : UnitOfWork.empty.openLedger t₂ with
  | none => trivial
  | some current =>
      obtain ⟨stored, isOpen⟩ := (UnitOfWork.openLedger_eq_some_iff rfl leads₂.sound.tiles).mp found
      apply vouches_latestPosting
      intro t₃ latest leads₃
      have goesOn : (rollOver current newStart).Vouches surroundings settings.refs
          (fun tables work drawn ledger => (Operation.closePeriodAndOpenNext newStart).Certified
            surroundings settings tables work drawn (.ledger ledger)) t₃
          (UnitOfWork.empty.track (some current)) drawn :=
        vouches_rollOver ((Tables.remembers_of_mem stored).continues leads₃.continues) isOpen
          (leads₂.sound.tiles.version_eq stored)
      cases latest with
      | none => exact goesOn
      | some latest =>
          by_cases early : newStart ≤ latest
          · simp only [if_pos early]
            apply vouches_record
            intro _ _
            trivial
          · simp only [if_neg early]
            exact goesOn

/-! ## Balances -/

theorem vouches_getOrCreateBalance {account : Account} {time : Instant} :
    (getOrCreateBalance account time).Vouches surroundings settings.refs
      (fun tables work drawn balance => (Operation.getOrCreateBalance account time).Certified
        surroundings settings tables work drawn (.balance balance)) tables .empty drawn := by
  rw [getOrCreateBalance]
  apply vouches_openWork
  intro t₁ leads₁
  apply vouches_lockAccounts leads₁.sound
  intro t₂ guards leads₂ held _
  have guarded : account.id ∈ guards := held account.id List.mem_cons_self
  apply vouches_requireLedgerAt
  intro t₃ ledger leads₃ stored covers
  have remembered := Tables.remembers_of_mem stored
  have version := leads₃.sound.tiles.version_eq stored
  apply vouches_findBalance
  intro t₄ leads₄
  rw [UnitOfWork.reading_findBalance]
  cases found : t₄.balances.get? ⟨ledger.id, account.id⟩ with
  | some balance => trivial
  | none =>
      refine vouches_newBalance leads₄.sound guarded (remembered.continues leads₄.continues)
        (by simp) found ?_
      intro t₅ reads leads₅ tracked
      apply vouches_saveBalance
      intro t₆ leads₆
      apply vouches_commit
      intro t₇ leads₇ acceptable
      have since₄ := (leads₅.trans leads₆).trans leads₇
      have since₃ := leads₄.trans since₄
      have current := mem_of_readsCurrent since₃.sound (remembered.continues since₃.continues)
        version (acceptable.readsCurrent rfl) tracked
      have missing : t₇.balances.get? ⟨ledger.id, account.id⟩ = none := by
        rw [since₄.balances account.id guarded, found]
      have same := since₄.balanceIn guarded (remembered.continues leads₄.continues)
      rw [← same]
      refine ⟨_, ⟨[], [], .getOrCreateBalance current covers missing, by simp, ?_⟩, rfl⟩
      constructor
      · intro balance member
        have isBalance : balance = t₇.balanceIn account ledger := List.mem_singleton.mp member
        rw [isBalance, since₃.sound.balanceIn_key]
        exact guarded
      · simp [UnitOfWork.saveBalance, UnitOfWork.reading, UnitOfWork.empty]

end Bank

end DoubleEntry
