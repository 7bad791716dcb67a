import DoubleEntry.Proofs.Program.Fares
import DoubleEntry.Proofs.Service.Fitting
import DoubleEntry.Proofs.Service.Replay

/-!
# Operations that run alone come to no fault

Run alone on sound tables, each operation fares: every error that it can end with is
one that its caller, its settings or the state of the books bring about.  The only
thing that is asked of the supply is that it does not give a new ledger the
identifier of a stored one.
-/

namespace DoubleEntry

namespace Action

variable {α : Type} {surroundings : Surroundings} {busy : List AccountId} {limit : Nat}
  {point : Point}

theorem yields_ledgerAt_missing {time : Instant}
    (missing : point.staged.ledgerAt point.tables time = none) :
    (ledgerAt time).Yields surroundings busy point none point := by
  refine yields_query fun world work stands => ?_
  have answer : work.ledgerAt world.store.tables time = none := by
    rw [UnitOfWork.ledgerAt, ledgerView_congr stands]
    exact missing
  rw [Request.perform, Request.tracked, answer]
  rfl

private theorem yields_openLedger_missing (missing : point.staged.openLedger point.tables = none) :
    openLedger.Yields surroundings busy point none point := by
  refine yields_query fun world work stands => ?_
  have answer : work.openLedger world.store.tables = none := by
    rw [UnitOfWork.openLedger, ledgerView_congr stands]
    exact missing
  rw [Request.perform, Request.tracked, answer]
  rfl

end Action

namespace Bank

open DoubleEntry.Action

variable {α : Type} {surroundings : Surroundings} {settings : LedgerSettings} {refs : SystemRefs}
  {busy : List AccountId} {limit : Nat} {tables : Tables} {issued ticks : Nat} {point : Point}
  {staged : UnitOfWork}

/-! ## Searches -/

theorem fares_requireAccount {reference : String} {next : Account → Action α}
    (goesOn : ∀ account, tables.account? reference = some account →
      (next account).Fares surroundings busy limit ⟨tables, issued, ticks, .empty⟩) :
    (requireAccount reference >>= next).Fares surroundings busy limit
      ⟨tables, issued, ticks, .empty⟩ := by
  rw [requireAccount, bind_assoc]
  exact (yields_findAccount (Text.trim reference)).bind_fares (fares_orThrow rfl goesOn)

theorem fares_requireReservation {businessReference : String} {next : Reservation → Action α}
    (goesOn : ∀ reservation,
      tables.reservations.get? (Text.trim businessReference) = some reservation →
        (next reservation).Fares surroundings busy limit ⟨tables, issued, ticks, .empty⟩) :
    (requireReservation businessReference >>= next).Fares surroundings busy limit
      ⟨tables, issued, ticks, .empty⟩ := by
  rw [requireReservation, bind_assoc]
  exact (yields_findReservation (Text.trim businessReference)).bind_fares
    (fares_orThrow rfl goesOn)

theorem fares_requireLedgerAt (sound : tables.Sound refs) {time : Instant}
    {next : Ledger → Action α}
    (goesOn : ∀ ledger ∈ tables.ledgers.values, ledger.covers time = true →
      (next ledger).Fares surroundings busy limit ⟨tables, issued, ticks, .empty⟩) :
    (requireLedgerAt time >>= next).Fares surroundings busy limit
      ⟨tables, issued, ticks, .empty⟩ := by
  cases found : UnitOfWork.empty.ledgerAt tables time with
  | none =>
      rw [requireLedgerAt, bind_assoc]
      exact (yields_ledgerAt_missing found).bind_fares (fares_failed rfl)
  | some ledger =>
      obtain ⟨stored, covers⟩ := (UnitOfWork.ledgerAt_eq_some_iff rfl sound.tiles).mp found
      exact (yields_requireLedgerAt sound stored covers).bind_fares (goesOn ledger stored covers)

theorem fares_requireOpenLedger (sound : tables.Sound refs) {next : Ledger → Action α}
    (goesOn : ∀ ledger ∈ tables.ledgers.values, ledger.isOpen = true →
      (next ledger).Fares surroundings busy limit ⟨tables, issued, ticks, .empty⟩) :
    (requireOpenLedger >>= next).Fares surroundings busy limit
      ⟨tables, issued, ticks, .empty⟩ := by
  cases found : UnitOfWork.empty.openLedger tables with
  | none =>
      rw [requireOpenLedger, bind_assoc]
      exact (yields_openLedger_missing found).bind_fares (fares_failed rfl)
  | some ledger =>
      obtain ⟨stored, isOpen⟩ := (UnitOfWork.openLedger_eq_some_iff rfl sound.tiles).mp found
      exact (yields_requireOpenLedger sound stored isOpen).bind_fares (goesOn ledger stored isOpen)

/-! ## Postings -/

theorem fares_ensurePositive {amount : Money} {next : Unit → Action α}
    (goesOn : (next ()).Fares surroundings busy limit point) :
    (ensurePositive amount >>= next).Fares surroundings busy limit point := by
  rw [ensurePositive]
  split
  · exact goesOn
  · exact fares_failed rfl

private theorem fares_requirePostable (sound : tables.Sound refs) {time : Instant}
    {next : Ledger → Action α}
    (goesOn : ∀ ledger ∈ tables.ledgers.values, ledger.covers time = true →
      (ledger.isOpen = true ∨ settings.allowClosedPeriodPosting = true) →
        (next ledger).Fares surroundings busy limit ⟨tables, issued, ticks, .empty⟩) :
    (requirePostable settings time >>= next).Fares surroundings busy limit
      ⟨tables, issued, ticks, .empty⟩ := by
  rw [requirePostable, bind_assoc]
  refine fares_requireLedgerAt sound fun ledger stored covers => ?_
  by_cases postable : ledger.isOpen = true ∨ settings.allowClosedPeriodPosting = true
  · have passes : (!ledger.isOpen && !settings.allowClosedPeriodPosting) = false := by
      rcases postable with isOpen | allowed <;> simp [*]
    simp only [passes]
    exact goesOn ledger stored covers postable
  · have refused : (!ledger.isOpen && !settings.allowClosedPeriodPosting) = true := by
      simpa using postable
    simp only [refused]
    exact (yields_record _).bind_fares (fares_failed rfl)

private theorem fares_checkOverdraft {ledger : Ledger} {prepared : Prepared} {amount : Money}
    {balance : Balance} {next : Unit → Action α}
    (goesOn : prepared.Permits balance →
      (next ()).Fares surroundings busy limit ⟨tables, issued, ticks, staged⟩) :
    (checkOverdraft ledger prepared amount balance >>= next).Fares surroundings busy limit
      ⟨tables, issued, ticks, staged⟩ := by
  rw [checkOverdraft]
  split
  next isProtected =>
    rw [bind_assoc]
    refine fares_lift (fun _ fails => lift_eq_error fails) fun projected isProjected => ?_
    cases negative : projected.isNegative with
    | true => exact (yields_record _).bind_fares (fares_failed rfl)
    | false => exact goesOn fun _ => ⟨projected, isProjected, negative⟩
  next unprotected => exact goesOn fun isProtected => absurd isProtected unprotected

theorem fares_post (sound : tables.Sound settings.refs) {payer payee : Account} {posting : Posting}
    {next : Transaction → Action α} (apart : payer.id ≠ payee.id)
    (goesOn : ∀ ids time transaction balances,
      tables.Posts settings payer payee posting ids time transaction balances →
        (next transaction).Fares surroundings busy limit
          ⟨tables, issued + 3, ticks + 1, .ofPosting transaction balances ∅⟩) :
    (post settings payer payee posting >>= next).Fares surroundings busy limit
      ⟨tables, issued, ticks, .empty⟩ := by
  simp only [post, bind_assoc]
  refine fares_requirePostable sound fun ledger stored covers postable => ?_
  refine (yields_loadBalance sound payer ledger).bind_fares ?_
  refine (yields_loadBalance sound payee ledger).bind_fares ?_
  have debited_key := sound.balanceIn_key payer ledger
  have credited_key := sound.balanceIn_key payee ledger
  have keysApart :
      (tables.balanceIn payer ledger).key ≠ (tables.balanceIn payee ledger).key := by
    rw [debited_key, credited_key]
    exact fun same => apart (congrArg BalanceKey.accountId same)
  refine (yields_now rfl).bind_fares ?_
  refine fares_lift (fun _ fails => transferDraft_eq_error covers (by rw [debited_key])
    (by rw [credited_key]) fails) fun draft drafted => ?_
  refine (yields_freshPostingIds ⟨rfl, rfl, rfl, trivial⟩).bind_fares ?_
  refine fares_lift (fun _ fails => prepare_eq_error drafted fails) fun prepared isPrepared => ?_
  refine fares_checkOverdraft fun permits_debited => ?_
  refine fares_checkOverdraft fun permits_credited => ?_
  refine fares_lift (fun _ fails => apply_eq_error keysApart drafted isPrepared fails)
    fun applied isApplied => ?_
  obtain ⟨transaction, balances⟩ := applied
  refine (yields_saveBalances balances _).bind_fares ?_
  refine (yields_saveTransaction transaction).bind_fares ?_
  exact goesOn _ _ _ _ (.intro stored covers postable
    ⟨drafted, isPrepared, permits_debited, permits_credited, isApplied⟩)

private theorem fares_transfer (sound : tables.Sound settings.refs) (payer payee : String)
    (posting : Posting) :
    (transfer settings payer payee posting).Fares surroundings [] limit
      ⟨tables, issued, ticks, staged⟩ := by
  rw [transfer]
  refine fares_ensurePositive (yields_openWork.bind_fares ?_)
  refine fares_requireAccount fun payer _ => fares_requireAccount fun payee _ => ?_
  by_cases same : payer.id = payee.id
  · simp only [if_pos same]
    exact fares_failed rfl
  · simp only [if_neg same]
    refine (yields_lockInOrder _).bind_fares ?_
    refine fares_post sound same fun ids time transaction balances posts => ?_
    exact fares_commit (posts.current sound same (by simp)) rfl

/-! ## Reservations -/

private theorem fares_reserve (sound : tables.Sound settings.refs)
    (reference businessReference : String) (posting : Posting) :
    (reserve settings reference businessReference posting).Fares surroundings [] limit
      ⟨tables, issued, ticks, staged⟩ := by
  rw [reserve]
  refine fares_ensurePositive (yields_openWork.bind_fares ?_)
  refine fares_requireAccount fun payer _ => fares_requireAccount fun pool _ => ?_
  by_cases same : payer.id = pool.id
  · simp only [if_pos same]
    exact fares_failed rfl
  · simp only [if_neg same]
    refine (yields_freshId rfl).bind_fares ((yields_now rfl).bind_fares ?_)
    refine fares_lift (fun _ fails => Reservation.create_eq_error fails)
      fun reservation creates => ?_
    refine (yields_lockInOrder _).bind_fares ((yields_findReservation _).bind_fares ?_)
    cases found : tables.reservations.get? reservation.businessReference with
    | some other =>
        have answer : UnitOfWork.empty.findReservation tables reservation.businessReference =
            some other := found
        simp only [answer]
        exact fares_failed rfl
    | none =>
        have answer : UnitOfWork.empty.findReservation tables reservation.businessReference =
            none := found
        simp only [answer]
        refine fares_post sound same fun ids time transaction balances posts => ?_
        refine (yields_saveReservation reservation).bind_fares ?_
        refine fares_commit (posts.current sound same fun staged member => ?_) rfl
        obtain ⟨-, rfl⟩ := Reservation.create_eq creates
        rw [List.mem_singleton.mp member, found]
        rfl

private theorem fares_chargeReservation {reservation : Reservation} {amount : Money}
    {next : Reservation → Action α}
    (goesOn : ∀ charged, reservation.charge amount = .ok charged →
      (next charged).Fares surroundings busy limit ⟨tables, issued, ticks, staged⟩) :
    (chargeReservation reservation amount >>= next).Fares surroundings busy limit
      ⟨tables, issued, ticks, staged⟩ := by
  rw [chargeReservation]
  cases charges : reservation.charge amount with
  | ok charged => exact goesOn charged charges
  | error e =>
      have refused := Reservation.charge_eq_error charges
      exact (yields_record _).bind_fares (fares_failed refused)

private theorem fares_charge (sound : tables.Sound settings.refs)
    (reference businessReference : String) (posting : Posting) :
    (charge settings reference businessReference posting).Fares surroundings [] limit
      ⟨tables, issued, ticks, staged⟩ := by
  rw [charge]
  refine fares_ensurePositive (yields_openWork.bind_fares ?_)
  refine fares_requireAccount fun beneficiary _ => fares_requireAccount fun pool _ => ?_
  by_cases same : beneficiary.id = pool.id
  · simp only [if_pos same]
    exact fares_failed rfl
  · simp only [if_neg same]
    refine (yields_lockInOrder _).bind_fares ?_
    refine fares_requireReservation fun reservation found => ?_
    refine fares_chargeReservation fun charged charges => ?_
    have apart : pool.id ≠ beneficiary.id := Ne.symm same
    refine fares_post sound apart fun ids time transaction balances posts => ?_
    refine (yields_saveReservation charged).bind_fares ?_
    refine fares_commit (posts.current sound apart fun staged member => ?_) rfl
    obtain ⟨-, -, _, -, rfl⟩ := Reservation.charge_eq charges
    rw [List.mem_singleton.mp member]
    exact sound.reservation_fits found rfl rfl

private theorem fares_release (sound : tables.Sound settings.refs)
    (businessReference description : String) (time : Instant) :
    (release settings businessReference description time).Fares surroundings [] limit
      ⟨tables, issued, ticks, staged⟩ := by
  rw [release]
  refine yields_openWork.bind_fares (fares_requireReservation fun known isKnown => ?_)
  refine fares_requireAccount fun payer isPayer => fares_requireAccount fun pool isPool => ?_
  refine (yields_lockInOrder _).bind_fares ?_
  refine fares_requireReservation fun reservation found => ?_
  cases isKnown.symm.trans found
  obtain ⟨_, _, isPayer', isPool', apart⟩ :=
    sound.payers_apart known (sound.reservations.mem_of_get? found)
  cases isPayer.symm.trans isPayer'
  cases isPool.symm.trans isPool'
  have apart : pool.id ≠ payer.id := Ne.symm apart
  cases nothing : known.release.1.isZero with
  | true =>
      simp only [nothing]
      exact (yields_record _).bind_fares (fares_pure _)
  | false =>
      simp only [nothing]
      refine fares_post sound apart fun ids time transaction balances posts => ?_
      refine (yields_saveReservation known.release.2).bind_fares ?_
      refine fares_commit (posts.current sound apart fun staged member => ?_) rfl
      rw [List.mem_singleton.mp member]
      exact sound.reservation_fits found rfl rfl

/-! ## Accounts -/

private theorem fares_systemAccount {reference name : String} {accountType : AccountType}
    {accounts : List Account} {next : Account → Action α}
    (goesOn : ∀ account accounts issued ticks, (next account).Fares surroundings busy limit
      ⟨tables, issued, ticks, { UnitOfWork.empty with accounts }⟩) :
    (systemAccount reference name accountType >>= next).Fares surroundings busy limit
      ⟨tables, issued, ticks, { UnitOfWork.empty with accounts }⟩ := by
  rw [systemAccount, bind_assoc]
  refine (yields_findAccount reference).bind_fares ?_
  split
  next account _ =>
    split
    · exact goesOn account accounts issued ticks
    · exact fares_failed rfl
  next =>
    simp only [bind_assoc]
    refine (yields_freshId rfl).bind_fares ((yields_now rfl).bind_fares ?_)
    refine fares_lift (fun _ fails => Account.create_eq_error fails) fun account _ => ?_
    refine (yields_saveAccount account).bind_fares ((yields_record _).bind_fares ?_)
    exact goesOn account (accounts ++ [account]) (issued + 1) (ticks + 1)

private theorem fares_loadSystemAccounts (sound : tables.Sound refs) :
    (loadSystemAccounts refs).Fares surroundings busy limit ⟨tables, issued, ticks, staged⟩ := by
  rw [loadSystemAccounts]
  refine yields_openWork.bind_fares ?_
  refine fares_systemAccount fun bankingReserve accounts issued ticks => ?_
  refine fares_systemAccount fun reservations accounts issued ticks => ?_
  refine fares_systemAccount fun premiums accounts issued ticks => ?_
  exact fares_commit (sound.current_of_accounts accounts) rfl

private theorem fares_ensureSystemAccounts (sound : tables.Sound refs) :
    (ensureSystemAccounts refs).Fares surroundings busy limit
      ⟨tables, issued, ticks, staged⟩ := by
  refine (fares_loadSystemAccounts sound).handleError fun e after innocent same => ?_
  obtain ⟨_, issued', ticks', staged'⟩ := after
  cases same
  split
  · exact (yields_record _).bind_fares (fares_loadSystemAccounts sound)
  · exact fares_failed innocent

private theorem fares_createAccount (sound : tables.Sound refs) (reference name : String)
    (accountType : AccountType) (purpose : Purpose) :
    (createAccount refs reference name accountType purpose).Fares surroundings busy limit
      ⟨tables, issued, ticks, staged⟩ := by
  rw [createAccount]
  refine (yields_freshId rfl).bind_fares ((yields_now rfl).bind_fares ?_)
  refine fares_lift (fun _ fails => Account.create_eq_error fails) fun account _ => ?_
  split
  · exact (yields_record _).bind_fares (fares_failed rfl)
  · refine yields_openWork.bind_fares ((yields_findAccount account.reference).bind_fares ?_)
    split
    · exact fares_failed rfl
    · refine (yields_saveAccount account).bind_fares ?_
      exact fares_commit (sound.current_of_accounts [account]) rfl

private theorem fares_lookupAccount (reference : String) :
    (lookupAccount reference).Fares surroundings busy limit ⟨tables, issued, ticks, staged⟩ := by
  rw [lookupAccount, ← bind_pure (requireAccount reference)]
  exact yields_openWork.bind_fares (fares_requireAccount fun account _ => fares_pure account)

/-! ## Periods -/

private theorem fares_openFirstLedger (sound : tables.Sound refs) (start : Instant) :
    (openFirstLedger start).Fares surroundings busy limit ⟨tables, issued, ticks, staged⟩ := by
  rw [openFirstLedger]
  refine yields_openWork.bind_fares (yields_ledgers.bind_fares ?_)
  have view : UnitOfWork.empty.ledgerView tables = tables.ledgers.values :=
    UnitOfWork.ledgerView_eq rfl sound.tiles
  simp only [view]
  split
  next => exact fares_failed rfl
  next nonempty =>
    have none : tables.ledgers.values = [] := by
      cases values : tables.ledgers.values with
      | nil => rfl
      | cons first rest => exact absurd values (nonempty first rest)
    refine (yields_freshId rfl).bind_fares ((yields_saveLedger _).bind_fares ?_)
    exact fares_commit (sound.current_of_first none) rfl

private theorem fares_currentLedger (sound : tables.Sound refs) :
    currentLedger.Fares surroundings busy limit ⟨tables, issued, ticks, staged⟩ := by
  rw [currentLedger, ← bind_pure requireOpenLedger]
  exact yields_openWork.bind_fares
    (fares_requireOpenLedger sound fun ledger _ _ => fares_pure ledger)

private theorem le_latest (a b : Instant) :
    a.rank ≤ (a.latest b).rank ∧ b.rank ≤ (a.latest b).rank := by
  rw [Instant.latest]
  split
  next early => exact ⟨early, Nat.le_refl _⟩
  next late => exact ⟨Nat.le_refl _, Nat.le_of_lt (Nat.not_le.mp late)⟩

private theorem le_foldl_latest {first : Instant} (times : List Instant) (start : Option Instant)
    (among : first ∈ times ∨ start = some first) :
    ∃ latest, times.foldl (fun latest time => some (latest.elim time time.latest)) start =
      some latest ∧ first.rank ≤ latest.rank := by
  induction times generalizing first start with
  | nil => exact ⟨first, among.resolve_left List.not_mem_nil, Nat.le_refl _⟩
  | cons time rest ih =>
      rw [List.foldl_cons]
      rcases among with member | isStart
      · rcases List.mem_cons.mp member with isTime | member
        · cases start with
          | none =>
              rw [Option.elim_none, isTime]
              exact ih (some time) (.inr rfl)
          | some other =>
              rw [Option.elim_some]
              obtain ⟨latest, isLatest, below⟩ := ih (some (time.latest other)) (.inr rfl)
              rw [isTime]
              exact ⟨latest, isLatest, Nat.le_trans (le_latest time other).1 below⟩
        · exact ih _ (.inl member)
      · rw [isStart, Option.elim_some]
        obtain ⟨latest, isLatest, below⟩ := ih (some (time.latest first)) (.inr rfl)
        exact ⟨latest, isLatest, Nat.le_trans (le_latest time first).2 below⟩

private theorem exists_latestTime {id : LedgerId} {transactions : List Transaction}
    {transaction : Transaction} (member : transaction ∈ transactions)
    (posted : transaction.ledgerId = id) :
    ∃ latest, UnitOfWork.latestTime id transactions = some latest ∧
      transaction.accountingTime.rank ≤ latest.rank := by
  refine le_foldl_latest _ none (.inl (List.mem_map_of_mem (List.mem_filter.mpr ?_)))
  exact ⟨member, decide_eq_true posted⟩

private theorem fares_rollOver (sound : tables.Sound refs) {current : Ledger} {newStart : Instant}
    (stored : current ∈ tables.ledgers.values) (isOpen : current.isOpen = true)
    (early : ∀ t ∈ tables.transactions, t.ledgerId = current.id → t.accountingTime < newStart)
    (fresh : issued < limit → tables.ledgers.get? ⟨surroundings.uuid issued⟩ = none) :
    (rollOver current newStart).Fares surroundings busy limit
      ⟨tables, issued, ticks, .empty⟩ := by
  rw [rollOver]
  refine fares_lift (fun _ fails => Ledger.close_eq_error fails) fun closed closes => ?_
  obtain ⟨-, -, rfl⟩ := Ledger.close_eq_ok_iff.mp closes
  refine (yields_freshId rfl).bind_fares (fares_of_issued fun drawn => ?_)
  refine (yields_saveLedger _).bind_fares ((yields_saveLedger _).bind_fares ?_)
  exact fares_commit (sound.current_of_rollover stored isOpen (fresh drawn) early) rfl

private theorem fares_closePeriodAndOpenNext (sound : tables.Sound refs) (newStart : Instant)
    (fresh : issued < limit → tables.ledgers.get? ⟨surroundings.uuid issued⟩ = none) :
    (closePeriodAndOpenNext newStart).Fares surroundings busy limit
      ⟨tables, issued, ticks, staged⟩ := by
  rw [closePeriodAndOpenNext]
  refine yields_openWork.bind_fares (fares_requireOpenLedger sound fun current stored isOpen => ?_)
  refine (yields_latestPosting current.id).bind_fares ?_
  have answer : UnitOfWork.empty.latestPosting tables current.id =
      UnitOfWork.latestTime current.id tables.transactions := by
    simp [UnitOfWork.latestPosting, UnitOfWork.empty]
  simp only [answer]
  cases found : UnitOfWork.latestTime current.id tables.transactions with
  | none =>
      refine fares_rollOver sound stored isOpen (fun t member posted => ?_) fresh
      obtain ⟨latest, isLatest, -⟩ := exists_latestTime member posted
      rw [found] at isLatest
      cases isLatest
  | some latest =>
      by_cases late : newStart ≤ latest
      · simp only [if_pos late]
        exact (yields_record _).bind_fares (fares_failed rfl)
      · simp only [if_neg late]
        refine fares_rollOver sound stored isOpen (fun t member posted => ?_) fresh
        obtain ⟨other, isLatest, below⟩ := exists_latestTime member posted
        cases found.symm.trans isLatest
        exact Nat.lt_of_le_of_lt below (Nat.not_le.mp late)

/-! ## Single balances -/

private theorem fares_getOrCreateBalance (sound : tables.Sound refs) (account : Account)
    (time : Instant) : (getOrCreateBalance account time).Fares surroundings [] limit
      ⟨tables, issued, ticks, staged⟩ := by
  rw [getOrCreateBalance]
  refine yields_openWork.bind_fares ((yields_lockAccounts (by simp)).bind_fares ?_)
  refine fares_requireLedgerAt sound fun ledger _ _ => ?_
  refine (yields_findBalance ⟨ledger.id, account.id⟩).bind_fares ?_
  cases found : tables.balances.get? ⟨ledger.id, account.id⟩ with
  | some balance =>
      have answer : UnitOfWork.empty.findBalance tables ⟨ledger.id, account.id⟩ = some balance :=
        found
      simp only [answer]
      exact fares_pure balance
  | none =>
      have answer : UnitOfWork.empty.findBalance tables ⟨ledger.id, account.id⟩ = none := found
      simp only [answer]
      refine (yields_newBalance sound found).bind_fares ((yields_saveBalance _).bind_fares ?_)
      exact fares_commit (sound.current_of_opening account ledger) rfl

private theorem fares_getBalance (sound : tables.Sound refs) (reference : String) (time : Instant) :
    (getBalance reference time).Fares surroundings busy limit
      ⟨tables, issued, ticks, staged⟩ := by
  rw [getBalance]
  refine yields_openWork.bind_fares (fares_requireAccount fun account _ => ?_)
  refine fares_requireLedgerAt sound fun ledger _ _ => ?_
  refine (yields_findBalance ⟨ledger.id, account.id⟩).bind_fares ?_
  split
  · exact fares_pure _
  · rw [← bind_pure (carriedAmount account.id ledger)]
    exact (yields_carriedAmount sound account.id ledger).bind_fares (fares_pure _)

end Bank

namespace Operation

theorem fares {surroundings : Surroundings} {settings : LedgerSettings} {tables : Tables}
    {issued ticks limit : Nat} (sound : tables.Sound settings.refs)
    (fresh : issued < limit → tables.ledgers.get? ⟨surroundings.uuid issued⟩ = none)
    (operation : Operation) :
    (operation.action settings).Fares surroundings [] limit ⟨tables, issued, ticks, .empty⟩ := by
  refine Action.Fares.map ?_ operation.outcome
  cases operation with
  | ensureSystemAccounts => exact Bank.fares_ensureSystemAccounts sound
  | createAccount reference name accountType purpose =>
      exact Bank.fares_createAccount sound reference name accountType purpose
  | lookupAccount reference => exact Bank.fares_lookupAccount reference
  | openFirstLedger start => exact Bank.fares_openFirstLedger sound start
  | currentLedger => exact Bank.fares_currentLedger sound
  | closePeriodAndOpenNext newStart =>
      exact Bank.fares_closePeriodAndOpenNext sound newStart fresh
  | getOrCreateBalance account time => exact Bank.fares_getOrCreateBalance sound account time
  | getBalance reference time => exact Bank.fares_getBalance sound reference time
  | transfer payer payee posting => exact Bank.fares_transfer sound payer payee posting
  | deposit reference posting => exact Bank.fares_transfer sound _ reference posting
  | withdraw reference posting => exact Bank.fares_transfer sound reference _ posting
  | reserve reference businessReference posting =>
      exact Bank.fares_reserve sound reference businessReference posting
  | charge reference businessReference posting =>
      exact Bank.fares_charge sound reference businessReference posting
  | release businessReference description time =>
      exact Bank.fares_release sound businessReference description time

end Operation

end DoubleEntry
