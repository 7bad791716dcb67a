import DoubleEntry.Proofs.Program.Alone
import DoubleEntry.Proofs.Service.Publication

/-!
# Operations that run alone

What a voucher says is what happens when the operation runs alone: it goes through,
its result is the outcome of the voucher, and it publishes the staged records.
-/

namespace DoubleEntry.Bank

open DoubleEntry.Action

variable {surroundings : Surroundings} {settings : LedgerSettings} {refs : SystemRefs}
  {busy : List AccountId} {tables : Tables} {issued ticks : Nat} {point : Point}

/-! ## Lookups and locks -/

theorem yields_requireAccount {reference : String} {account : Account}
    (found : tables.account? reference = some account) :
    (requireAccount reference).Yields surroundings busy ⟨tables, issued, ticks, .empty⟩ account
      ⟨tables, issued, ticks, .empty⟩ := by
  rw [requireAccount]
  exact (yields_findAccount (Text.trim reference)).bind (yields_orThrow found _ _)

theorem yields_requireReservation {businessReference : String} {reservation : Reservation}
    (found : tables.reservations.get? (Text.trim businessReference) = some reservation) :
    (requireReservation businessReference).Yields surroundings busy ⟨tables, issued, ticks, .empty⟩
      reservation ⟨tables, issued, ticks, .empty⟩ := by
  rw [requireReservation]
  exact (yields_findReservation (Text.trim businessReference)).bind (yields_orThrow found _ _)

theorem yields_lockInOrder (accounts : List Account) :
    (lockInOrder refs accounts).Yields surroundings [] point () point := by
  rw [lockInOrder]
  exact (yields_lockAccounts (by simp)).bind (yields_record _)

theorem yields_requireLedgerAt (sound : tables.Sound refs) {time : Instant} {ledger : Ledger}
    (stored : ledger ∈ tables.ledgers.values) (covers : ledger.covers time = true) :
    (requireLedgerAt time).Yields surroundings busy ⟨tables, issued, ticks, .empty⟩ ledger
      ⟨tables, issued, ticks, .empty⟩ := by
  rw [requireLedgerAt]
  exact (yields_ledgerAt sound rfl stored covers).bind (yields_orThrow rfl _ _)

theorem yields_requireOpenLedger (sound : tables.Sound refs) {ledger : Ledger}
    (stored : ledger ∈ tables.ledgers.values) (isOpen : ledger.isOpen = true) :
    requireOpenLedger.Yields surroundings busy ⟨tables, issued, ticks, .empty⟩ ledger
      ⟨tables, issued, ticks, .empty⟩ := by
  rw [requireOpenLedger]
  exact (yields_openLedger sound rfl stored isOpen).bind (yields_orThrow rfl _ _)

/-! ## Balances -/

private theorem yields_carriedFrom (sound : tables.Sound refs) (account : AccountId) {steps : Nat}
    {ledger : Ledger} (enough : ledger.opensAt.rank ≤ steps) :
    (carriedFrom account steps ledger).Yields surroundings busy ⟨tables, issued, ticks, .empty⟩
      (tables.carried account ledger.opensAt) ⟨tables, issued, ticks, .empty⟩ := by
  induction steps generalizing ledger with
  | zero =>
      have nothing : tables.earlier ledger.opensAt = [] := Tables.earlier_eq_nil (by omega)
      rw [Tables.carried_start (by rw [nothing]; rfl)]
      exact yields_pure _ _
  | succ steps ih =>
      rw [carriedFrom]
      refine (yields_previousLedger sound rfl ledger).bind ?_
      cases previous : (tables.earlier ledger.opensAt).getLast? with
      | none =>
          rw [Tables.carried_start previous]
          exact yields_pure _ _
      | some other =>
          refine (yields_findBalance ⟨other.id, account⟩).bind ?_
          have answer : UnitOfWork.empty.findBalance tables ⟨other.id, account⟩ =
              tables.balances.get? ⟨other.id, account⟩ := rfl
          rw [answer]
          cases found : tables.balances.get? ⟨other.id, account⟩ with
          | some balance =>
              rw [Tables.carried_found sound.tiles previous found]
              exact yields_pure _ _
          | none =>
              have before := (Tables.mem_earlier.mp (List.mem_of_getLast? previous)).2
              rw [Tables.carried_step sound.tiles previous found]
              exact ih (Nat.le_of_lt_succ (Nat.lt_of_lt_of_le before enough))

theorem yields_carriedAmount (sound : tables.Sound refs) (account : AccountId) (ledger : Ledger) :
    (carriedAmount account ledger).Yields surroundings busy ⟨tables, issued, ticks, .empty⟩
      (tables.carried account ledger.opensAt) ⟨tables, issued, ticks, .empty⟩ := by
  rw [carriedAmount]
  exact yields_carriedFrom sound account (Nat.le_refl _)

theorem yields_newBalance (sound : tables.Sound refs) {account : Account} {ledger : Ledger}
    (missing : tables.balances.get? ⟨ledger.id, account.id⟩ = none) :
    (newBalance account ledger).Yields surroundings busy ⟨tables, issued, ticks, .empty⟩
      (tables.balanceIn account ledger) ⟨tables, issued, ticks, .empty⟩ := by
  rw [newBalance, Tables.balanceIn, missing]
  refine (yields_carriedAmount sound account.id ledger).bind ?_
  exact (yields_record _).bind (yields_pure _ _)

theorem yields_loadBalance (sound : tables.Sound refs) (account : Account) (ledger : Ledger) :
    (loadBalance account ledger).Yields surroundings busy ⟨tables, issued, ticks, .empty⟩
      (tables.balanceIn account ledger) ⟨tables, issued, ticks, .empty⟩ := by
  rw [loadBalance]
  refine (yields_findBalance ⟨ledger.id, account.id⟩).bind ?_
  have answer : UnitOfWork.empty.findBalance tables ⟨ledger.id, account.id⟩ =
      tables.balances.get? ⟨ledger.id, account.id⟩ := rfl
  rw [answer]
  cases found : tables.balances.get? ⟨ledger.id, account.id⟩ with
  | some balance =>
      rw [Tables.balanceIn, found]
      exact yields_pure _ _
  | none => exact yields_newBalance sound found

/-! ## Postings -/

theorem yields_ensurePositive {amount : Money} (positive : amount.isPositive = true) :
    (ensurePositive amount).Yields surroundings busy point () point := by
  rw [ensurePositive, if_pos positive]
  exact yields_pure () point

theorem yields_requirePostable (sound : tables.Sound refs) {time : Instant} {ledger : Ledger}
    (stored : ledger ∈ tables.ledgers.values) (covers : ledger.covers time = true)
    (postable : ledger.isOpen = true ∨ settings.allowClosedPeriodPosting = true) :
    (requirePostable settings time).Yields surroundings busy ⟨tables, issued, ticks, .empty⟩ ledger
      ⟨tables, issued, ticks, .empty⟩ := by
  rw [requirePostable]
  refine (yields_requireLedgerAt sound stored covers).bind ?_
  have passes : (!ledger.isOpen && !settings.allowClosedPeriodPosting) = false := by
    rcases postable with isOpen | allowed <;> simp [*]
  simp only [passes]
  exact yields_pure _ _

theorem yields_freshPostingIds {id first second : Uuid} {staged : UnitOfWork}
    (supplies : Supplies surroundings.uuid issued [id, first, second]) :
    freshPostingIds.Yields surroundings busy ⟨tables, issued, ticks, staged⟩
      (.ofThree id first second) ⟨tables, issued + 3, ticks, staged⟩ := by
  obtain ⟨isId, isFirst, isSecond, _⟩ := supplies
  rw [freshPostingIds]
  refine (yields_freshId isId).bind ?_
  refine (yields_freshId isFirst).bind ?_
  exact (yields_freshId isSecond).bind (yields_pure _ _)

theorem yields_checkOverdraft {ledger : Ledger} {prepared : Prepared} {amount : Money}
    {balance : Balance} (permits : prepared.Permits balance) :
    (checkOverdraft ledger prepared amount balance).Yields surroundings busy point () point := by
  rw [checkOverdraft]
  split
  next isProtected =>
    obtain ⟨projected, isProjected, nonneg⟩ := permits isProtected
    refine (yields_lift isProjected point).bind ?_
    simp only [nonneg]
    exact yields_pure () point
  next => exact yields_pure () point

theorem yields_saveBalances (balances : List Balance) (staged : UnitOfWork) :
    (balances.forM saveBalance).Yields surroundings busy ⟨tables, issued, ticks, staged⟩ ()
      ⟨tables, issued, ticks, { staged with
        balances := balances.foldl (fun table balance => table.insert balance.key balance)
          staged.balances }⟩ := by
  induction balances generalizing staged with
  | nil => exact yields_pure () _
  | cons balance rest ih => exact (yields_saveBalance balance).bind (ih _)

theorem yields_post (sound : tables.Sound settings.refs) {payer payee : Account}
    {posting : Posting} {id first second : Uuid} {time : Instant} {transaction : Transaction}
    {balances : List Balance} (supplies : Supplies surroundings.uuid issued [id, first, second])
    (ticking : surroundings.clock ticks = time)
    (posts : tables.Posts settings payer payee posting (.ofThree id first second) time transaction
      balances) :
    (post settings payer payee posting).Yields surroundings busy ⟨tables, issued, ticks, .empty⟩
      transaction ⟨tables, issued + 3, ticks + 1, .ofPosting transaction balances ∅⟩ := by
  cases posts with
  | intro stored covers postable posted =>
      rw [post]
      refine (yields_requirePostable sound stored covers postable).bind ?_
      refine (yields_loadBalance sound payer _).bind ?_
      refine (yields_loadBalance sound payee _).bind ?_
      refine (yields_now ticking).bind ?_
      refine (yields_lift posted.drafted _).bind ?_
      refine (yields_freshPostingIds supplies).bind ?_
      refine (yields_lift posted.isPrepared _).bind ?_
      refine (yields_checkOverdraft posted.permits_debited).bind ?_
      refine (yields_checkOverdraft posted.permits_credited).bind ?_
      refine (yields_lift posted.applied _).bind ?_
      refine (yields_saveBalances balances _).bind ?_
      exact (yields_saveTransaction transaction).bind (yields_pure _ _)

theorem positive_of_posts {payer payee : Account} {posting : Posting} {ids : PostingIds}
    {time : Instant} {transaction : Transaction} {balances : List Balance}
    (posts : tables.Posts settings payer payee posting ids time transaction balances) :
    posting.amount.isPositive = true := by
  cases posts with
  | intro _ _ _ posted => exact (transferDraft_eq_ok_iff.mp posted.drafted).2.1

theorem yields_transfer (sound : tables.Sound settings.refs)
    {payerReference payeeReference : String} {posting : Posting} {payer payee : Account}
    {id first second : Uuid} {time : Instant} {transaction : Transaction} {balances : List Balance}
    (supplies : Supplies surroundings.uuid issued [id, first, second])
    (ticking : Supplies surroundings.clock ticks [time])
    (isPayer : tables.account? payerReference = some payer)
    (isPayee : tables.account? payeeReference = some payee) (apart : payer.id ≠ payee.id)
    (posts : tables.Posts settings payer payee posting (.ofThree id first second) time transaction
      balances)
    (acceptable : (UnitOfWork.ofPosting transaction balances ∅).Acceptable tables) :
    (transfer settings payerReference payeeReference posting).Yields surroundings []
      ⟨tables, issued, ticks, .empty⟩ transaction
      ⟨(UnitOfWork.ofPosting transaction balances ∅).publish tables, issued + 3, ticks + 1,
        .empty⟩ := by
  rw [transfer]
  refine (yields_ensurePositive (positive_of_posts posts)).bind ?_
  refine yields_openWork.bind ?_
  refine (yields_requireAccount isPayer).bind ?_
  refine (yields_requireAccount isPayee).bind ?_
  simp only [if_neg apart]
  refine (yields_lockInOrder _).bind ?_
  refine (yields_post sound supplies ticking.1 posts).bind ?_
  refine (yields_commit acceptable).bind ?_
  exact (yields_record _).bind (yields_pure _ _)

/-! ## Reservations -/

private theorem yields_reserve (sound : tables.Sound settings.refs)
    {reference businessReference : String}
    {posting : Posting} {payer pool : Account} {uuid id first second : Uuid}
    {created time : Instant} {reservation : Reservation} {transaction : Transaction}
    {balances : List Balance}
    (supplies : Supplies surroundings.uuid issued [uuid, id, first, second])
    (ticking : Supplies surroundings.clock ticks [created, time])
    (isPayer : tables.account? reference = some payer)
    (isPool : tables.account? settings.refs.reservations = some pool) (apart : payer.id ≠ pool.id)
    (creates : Reservation.create ⟨uuid⟩ created businessReference payer posting.amount =
      .ok reservation)
    (missing : tables.reservations.get? reservation.businessReference = none)
    (posts : tables.Posts settings payer pool posting (.ofThree id first second) time transaction
      balances)
    (acceptable : (UnitOfWork.ofPosting transaction balances
      ((∅ : Table String Reservation).insert reservation.businessReference reservation)).Acceptable
        tables) :
    (reserve settings reference businessReference posting).Yields surroundings []
      ⟨tables, issued, ticks, .empty⟩ reservation.committed
      ⟨(UnitOfWork.ofPosting transaction balances
          ((∅ : Table String Reservation).insert reservation.businessReference
            reservation)).publish tables, issued + 4, ticks + 2, .empty⟩ := by
  rw [reserve]
  refine (yields_ensurePositive (positive_of_posts posts)).bind ?_
  refine yields_openWork.bind ?_
  refine (yields_requireAccount isPayer).bind ?_
  refine (yields_requireAccount isPool).bind ?_
  simp only [if_neg apart]
  refine (yields_freshId supplies.1).bind ?_
  refine (yields_now ticking.1).bind ?_
  refine (yields_lift creates _).bind ?_
  refine (yields_lockInOrder _).bind ?_
  refine (yields_findReservation _).bind ?_
  have answer : UnitOfWork.empty.findReservation tables reservation.businessReference = none :=
    missing
  simp only [answer, Option.isSome_none]
  refine (yields_post sound supplies.2 ticking.2.1 posts).bind ?_
  refine (yields_saveReservation reservation).bind ?_
  refine (yields_commit acceptable).bind ?_
  exact (yields_record _).bind (yields_pure _ _)

private theorem yields_chargeReservation {reservation charged : Reservation} {amount : Money}
    (charges : reservation.charge amount = .ok charged) :
    (chargeReservation reservation amount).Yields surroundings busy point charged point := by
  rw [chargeReservation, charges]
  exact yields_pure charged point

private theorem yields_charge (sound : tables.Sound settings.refs)
    {reference businessReference : String}
    {posting : Posting} {beneficiary pool : Account} {id first second : Uuid} {time : Instant}
    {reservation charged : Reservation} {transaction : Transaction} {balances : List Balance}
    (supplies : Supplies surroundings.uuid issued [id, first, second])
    (ticking : Supplies surroundings.clock ticks [time])
    (isBeneficiary : tables.account? reference = some beneficiary)
    (isPool : tables.account? settings.refs.reservations = some pool)
    (apart : pool.id ≠ beneficiary.id)
    (found : tables.reservations.get? (Text.trim businessReference) = some reservation)
    (charges : reservation.charge posting.amount = .ok charged)
    (posts : tables.Posts settings pool beneficiary posting (.ofThree id first second) time
      transaction balances)
    (acceptable : (UnitOfWork.ofPosting transaction balances
      ((∅ : Table String Reservation).insert charged.businessReference charged)).Acceptable
        tables) :
    (charge settings reference businessReference posting).Yields surroundings []
      ⟨tables, issued, ticks, .empty⟩ transaction
      ⟨(UnitOfWork.ofPosting transaction balances
          ((∅ : Table String Reservation).insert charged.businessReference charged)).publish tables,
        issued + 3, ticks + 1, .empty⟩ := by
  rw [charge]
  refine (yields_ensurePositive (positive_of_posts posts)).bind ?_
  refine yields_openWork.bind ?_
  refine (yields_requireAccount isBeneficiary).bind ?_
  refine (yields_requireAccount isPool).bind ?_
  simp only [if_neg fun same : beneficiary.id = pool.id => apart same.symm]
  refine (yields_lockInOrder _).bind ?_
  refine (yields_requireReservation found).bind ?_
  refine (yields_chargeReservation charges).bind ?_
  refine (yields_post sound supplies ticking.1 posts).bind ?_
  refine (yields_saveReservation charged).bind ?_
  refine (yields_commit acceptable).bind ?_
  exact (yields_record _).bind (yields_pure _ _)

private theorem yields_release (sound : tables.Sound settings.refs)
    {businessReference description : String}
    {time : Instant} {payer pool : Account} {id first second : Uuid} {posted : Instant}
    {reservation released : Reservation} {remaining : Money} {transaction : Transaction}
    {balances : List Balance} (supplies : Supplies surroundings.uuid issued [id, first, second])
    (ticking : Supplies surroundings.clock ticks [posted])
    (found : tables.reservations.get? (Text.trim businessReference) = some reservation)
    (isPayer : tables.account? reservation.accountReference = some payer)
    (isPool : tables.account? settings.refs.reservations = some pool)
    (releases : reservation.release = (remaining, released)) (left : remaining.isZero = false)
    (posts : tables.Posts settings pool payer ⟨remaining, description, time⟩
      (.ofThree id first second) posted transaction balances)
    (acceptable : (UnitOfWork.ofPosting transaction balances
      ((∅ : Table String Reservation).insert released.businessReference released)).Acceptable
        tables) :
    (release settings businessReference description time).Yields surroundings []
      ⟨tables, issued, ticks, .empty⟩ (some transaction)
      ⟨(UnitOfWork.ofPosting transaction balances
          ((∅ : Table String Reservation).insert released.businessReference released)).publish
            tables, issued + 3, ticks + 1, .empty⟩ := by
  rw [release]
  refine yields_openWork.bind ?_
  refine (yields_requireReservation found).bind ?_
  refine (yields_requireAccount isPayer).bind ?_
  refine (yields_requireAccount isPool).bind ?_
  refine (yields_lockInOrder _).bind ?_
  refine (yields_requireReservation found).bind ?_
  simp only [releases, left]
  refine (yields_post sound supplies ticking.1 posts).bind ?_
  refine (yields_saveReservation released).bind ?_
  refine (yields_commit acceptable).bind ?_
  exact (yields_record _).bind (yields_pure _ _)

/-! ## Accounts -/

theorem yields_systemAccount {staged staged' : List Account} {reference name : String}
    {accountType : AccountType} {account : Account} {ids : List Uuid} {times : List Instant}
    (located : tables.Located staged reference name accountType account staged' ids times)
    (supplies : Supplies surroundings.uuid issued ids)
    (ticking : Supplies surroundings.clock ticks times) :
    (systemAccount reference name accountType).Yields surroundings busy
      ⟨tables, issued, ticks, { UnitOfWork.empty with accounts := staged }⟩ account
      ⟨tables, issued + ids.length, ticks + times.length,
        { UnitOfWork.empty with accounts := staged' }⟩ := by
  rw [systemAccount]
  refine (yields_findAccount reference).bind ?_
  cases located with
  | found found suits =>
      simp only [found, suits, if_true]
      exact yields_pure _ _
  | created missing created =>
      simp only [missing]
      refine (yields_freshId supplies.1).bind ?_
      refine (yields_now ticking.1).bind ?_
      refine (yields_lift created _).bind ?_
      refine (yields_saveAccount account).bind ?_
      exact (yields_record _).bind (yields_pure _ _)

private theorem yields_ensureSystemAccounts {reserve pool premiums : Account}
    {staged staged' staged'' : List Account} {ids ids' ids'' : List Uuid}
    {times times' times'' : List Instant}
    (reserve_located : tables.Located [] settings.refs.bankingReserve "Banking reserve" .asset
      reserve staged ids times)
    (pool_located : tables.Located staged settings.refs.reservations "Reservations" .liability
      pool staged' ids' times')
    (premiums_located : tables.Located staged' settings.refs.premiums "Premiums" .liability
      premiums staged'' ids'' times'')
    (supplies : Supplies surroundings.uuid issued (ids ++ ids' ++ ids''))
    (ticking : Supplies surroundings.clock ticks (times ++ times' ++ times''))
    (acceptable : ({ UnitOfWork.empty with accounts := staged'' }).Acceptable tables) :
    (ensureSystemAccounts settings.refs).Yields surroundings busy ⟨tables, issued, ticks, .empty⟩
      ⟨reserve, pool, premiums⟩
      ⟨({ UnitOfWork.empty with accounts := staged'' }).publish tables,
        issued + (ids ++ ids' ++ ids'').length, ticks + (times ++ times' ++ times'').length,
        .empty⟩ := by
  simp only [supplies_append, List.length_append, ← Nat.add_assoc] at supplies ticking ⊢
  obtain ⟨⟨first, second⟩, third⟩ := supplies
  obtain ⟨⟨first', second'⟩, third'⟩ := ticking
  rw [ensureSystemAccounts]
  apply Yields.handleError
  rw [loadSystemAccounts]
  refine yields_openWork.bind ?_
  refine (yields_systemAccount reserve_located first first').bind ?_
  refine (yields_systemAccount pool_located second second').bind ?_
  refine (yields_systemAccount premiums_located third third').bind ?_
  exact (yields_commit acceptable).bind (yields_pure _ _)

private theorem yields_createAccount {reference name : String} {accountType : AccountType}
    {purpose : Purpose} {uuid : Uuid} {time : Instant} {account : Account}
    (created : Account.create ⟨uuid⟩ time reference name accountType purpose = .ok account)
    (unreserved : ¬ (purpose ≠ .system ∧
      settings.refs.isSystemReference account.reference = true))
    (missing : tables.accounts.get? account.reference = none)
    (supplies : Supplies surroundings.uuid issued [uuid])
    (ticking : Supplies surroundings.clock ticks [time])
    (acceptable : ({ UnitOfWork.empty with accounts := [account] }).Acceptable tables) :
    (createAccount settings.refs reference name accountType purpose).Yields surroundings busy
      ⟨tables, issued, ticks, .empty⟩ account
      ⟨({ UnitOfWork.empty with accounts := [account] }).publish tables, issued + 1, ticks + 1,
        .empty⟩ := by
  rw [createAccount]
  refine (yields_freshId supplies.1).bind ?_
  refine (yields_now ticking.1).bind ?_
  refine (yields_lift created _).bind ?_
  have passes : (decide (purpose ≠ .system) && settings.refs.isSystemReference account.reference) =
      false := by
    simpa using unreserved
  simp only [passes]
  refine yields_openWork.bind ?_
  refine (yields_findAccount account.reference).bind ?_
  have answer : UnitOfWork.empty.findAccount tables account.reference = none := missing
  simp only [answer, Option.isSome_none]
  refine (yields_saveAccount account).bind ?_
  refine (yields_commit acceptable).bind ?_
  exact (yields_record _).bind (yields_pure _ _)

/-! ## Periods -/

private theorem yields_openFirstLedger (sound : tables.Sound refs) {start : Instant} {uuid : Uuid}
    (none : tables.ledgers.values = []) (supplies : Supplies surroundings.uuid issued [uuid])
    (acceptable : ({ UnitOfWork.empty with
      ledgers := (∅ : Table LedgerId Ledger).insert ⟨uuid⟩ (.ofYear ⟨uuid⟩ start) }).Acceptable
        tables) :
    (openFirstLedger start).Yields surroundings busy ⟨tables, issued, ticks, .empty⟩
      (Ledger.ofYear ⟨uuid⟩ start).committed
      ⟨({ UnitOfWork.empty with
        ledgers := (∅ : Table LedgerId Ledger).insert ⟨uuid⟩ (.ofYear ⟨uuid⟩ start) }).publish
          tables, issued + 1, ticks, .empty⟩ := by
  rw [openFirstLedger]
  refine yields_openWork.bind ?_
  refine yields_ledgers.bind ?_
  have answer : UnitOfWork.empty.ledgerView tables = [] := by
    rw [UnitOfWork.ledgerView_eq rfl sound.tiles, none]
  simp only [answer]
  refine (yields_freshId supplies.1).bind ?_
  refine (yields_saveLedger _).bind ?_
  refine (yields_commit acceptable).bind ?_
  exact (yields_record _).bind (yields_pure _ _)

private theorem latest_eq_or (a b : Instant) : a.latest b = a ∨ a.latest b = b := by
  rw [Instant.latest]
  split
  · exact .inr rfl
  · exact .inl rfl

private theorem mem_of_foldl_latest {latest : Instant} (times : List Instant)
    (start : Option Instant)
    (isLatest : times.foldl (fun latest time => some (latest.elim time time.latest)) start =
      some latest) : latest ∈ times ∨ start = some latest := by
  induction times generalizing start with
  | nil => exact .inr isLatest
  | cons time times ih =>
      rcases ih _ isLatest with member | isNow
      · exact .inl (List.mem_cons_of_mem _ member)
      · rw [Option.some.injEq] at isNow
        cases start with
        | none =>
            rw [Option.elim_none] at isNow
            exact .inl (isNow ▸ List.mem_cons_self)
        | some other =>
            rw [Option.elim_some] at isNow
            rcases latest_eq_or time other with isTime | isOther
            · exact .inl ((isTime.symm.trans isNow) ▸ List.mem_cons_self)
            · exact .inr (congrArg some (isOther.symm.trans isNow))

private theorem latestTime_mem {id : LedgerId} {transactions : List Transaction} {latest : Instant}
    (isLatest : UnitOfWork.latestTime id transactions = some latest) :
    ∃ t ∈ transactions, t.ledgerId = id ∧ t.accountingTime = latest := by
  rcases mem_of_foldl_latest _ none isLatest with member | isNow
  · obtain ⟨t, member, isTime⟩ := List.mem_map.mp member
    obtain ⟨member, same⟩ := List.mem_filter.mp member
    exact ⟨t, member, of_decide_eq_true same, isTime⟩
  · cases isNow

private theorem yields_closePeriodAndOpenNext (sound : tables.Sound refs) {newStart : Instant}
    {uuid : Uuid} {current closed : Ledger} (stored : current ∈ tables.ledgers.values)
    (isOpen : current.isOpen = true)
    (early : ∀ t ∈ tables.transactions, t.ledgerId = current.id → t.accountingTime < newStart)
    (closes : current.close newStart = .ok closed)
    (supplies : Supplies surroundings.uuid issued [uuid])
    (acceptable : ({ UnitOfWork.empty with
      ledgers := ((∅ : Table LedgerId Ledger).insert closed.id closed).insert ⟨uuid⟩
        (.ofYear ⟨uuid⟩ newStart) }).Acceptable tables) :
    (closePeriodAndOpenNext newStart).Yields surroundings busy ⟨tables, issued, ticks, .empty⟩
      (Ledger.ofYear ⟨uuid⟩ newStart).committed
      ⟨({ UnitOfWork.empty with
        ledgers := ((∅ : Table LedgerId Ledger).insert closed.id closed).insert ⟨uuid⟩
          (.ofYear ⟨uuid⟩ newStart) }).publish tables, issued + 1, ticks, .empty⟩ := by
  have goesOn : (rollOver current newStart).Yields surroundings busy ⟨tables, issued, ticks, .empty⟩
      (Ledger.ofYear ⟨uuid⟩ newStart).committed
      ⟨({ UnitOfWork.empty with
        ledgers := ((∅ : Table LedgerId Ledger).insert closed.id closed).insert ⟨uuid⟩
          (.ofYear ⟨uuid⟩ newStart) }).publish tables, issued + 1, ticks, .empty⟩ := by
    rw [rollOver]
    refine (yields_lift closes _).bind ?_
    refine (yields_freshId supplies.1).bind ?_
    refine (yields_saveLedger _).bind ?_
    refine (yields_saveLedger _).bind ?_
    refine (yields_commit acceptable).bind ?_
    exact (yields_record _).bind (yields_pure _ _)
  rw [closePeriodAndOpenNext]
  refine yields_openWork.bind ?_
  refine (yields_requireOpenLedger sound stored isOpen).bind ?_
  refine (yields_latestPosting current.id).bind ?_
  cases found : UnitOfWork.empty.latestPosting tables current.id with
  | none => exact goesOn
  | some latest =>
      obtain ⟨t, member, same, isTime⟩ := latestTime_mem found
      have member : t ∈ tables.transactions := by simpa [UnitOfWork.empty] using member
      have before := early t member same
      rw [isTime] at before
      have late : ¬ newStart ≤ latest := Nat.not_le_of_lt before
      simp only [if_neg late]
      exact goesOn

/-! ## Single balances -/

theorem yields_getOrCreateBalance (sound : tables.Sound refs) {account : Account} {time : Instant}
    {ledger : Ledger} (stored : ledger ∈ tables.ledgers.values) (covers : ledger.covers time = true)
    (missing : tables.balances.get? ⟨ledger.id, account.id⟩ = none)
    (acceptable : ({ UnitOfWork.empty with
      balances := stagedBalances [tables.balanceIn account ledger] }).Acceptable tables) :
    (getOrCreateBalance account time).Yields surroundings [] ⟨tables, issued, ticks, .empty⟩
      (tables.balanceIn account ledger).committed
      ⟨({ UnitOfWork.empty with
        balances := stagedBalances [tables.balanceIn account ledger] }).publish tables,
          issued, ticks, .empty⟩ := by
  rw [getOrCreateBalance]
  refine yields_openWork.bind ?_
  refine (yields_lockAccounts (by simp)).bind ?_
  refine (yields_requireLedgerAt sound stored covers).bind ?_
  refine (yields_findBalance ⟨ledger.id, account.id⟩).bind ?_
  have answer : UnitOfWork.empty.findBalance tables ⟨ledger.id, account.id⟩ = none := missing
  simp only [answer]
  refine (yields_newBalance sound missing).bind ?_
  refine (yields_saveBalance _).bind ?_
  exact (yields_commit acceptable).bind (yields_pure _ _)

theorem yields_getBalance (sound : tables.Sound refs) {reference : String} {account : Account}
    {time : Instant} {ledger : Ledger} {staged : UnitOfWork}
    (found : tables.account? reference = some account) (stored : ledger ∈ tables.ledgers.values)
    (covers : ledger.covers time = true) :
    (getBalance reference time).Yields surroundings busy ⟨tables, issued, ticks, staged⟩
      (tables.balanceIn account ledger).endAmount ⟨tables, issued, ticks, .empty⟩ := by
  rw [getBalance]
  refine yields_openWork.bind ?_
  refine (yields_requireAccount found).bind ?_
  refine (yields_requireLedgerAt sound stored covers).bind ?_
  refine (yields_findBalance ⟨ledger.id, account.id⟩).bind ?_
  have answer : UnitOfWork.empty.findBalance tables ⟨ledger.id, account.id⟩ =
      tables.balances.get? ⟨ledger.id, account.id⟩ := rfl
  rw [answer, Tables.balanceIn]
  cases tables.balances.get? ⟨ledger.id, account.id⟩ with
  | some balance => exact yields_pure _ _
  | none => exact yields_carriedAmount sound account.id ledger

end DoubleEntry.Bank

namespace DoubleEntry

open DoubleEntry.Action

/-- An operation that runs alone does what its voucher says. -/
theorem Voucher.yields {surroundings : Surroundings} {settings : LedgerSettings} {tables : Tables}
    {operation : Operation} {work : UnitOfWork} {outcome : Outcome} {ids : List Uuid}
    {times : List Instant} {issued ticks : Nat} (sound : tables.Sound settings.refs)
    (voucher : Voucher settings tables operation work outcome ids times)
    (acceptable : work.Acceptable tables) (supplies : Supplies surroundings.uuid issued ids)
    (ticking : Supplies surroundings.clock ticks times) :
    (operation.action settings).Yields surroundings [] ⟨tables, issued, ticks, .empty⟩ outcome
      ⟨work.publish tables, issued + ids.length, ticks + times.length, .empty⟩ := by
  induction voucher with
  | ensureSystemAccounts reserve pool premiums =>
      exact (Bank.yields_ensureSystemAccounts reserve pool premiums supplies ticking
        acceptable).map _
  | createAccount created unreserved missing =>
      exact (Bank.yields_createAccount created unreserved missing supplies ticking acceptable).map _
  | openFirstLedger none => exact (Bank.yields_openFirstLedger sound none supplies acceptable).map _
  | closePeriodAndOpenNext stored isOpen early closes _ =>
      exact (Bank.yields_closePeriodAndOpenNext sound stored isOpen early closes supplies
        acceptable).map _
  | getOrCreateBalance stored covers missing =>
      exact (Bank.yields_getOrCreateBalance sound stored covers missing acceptable).map _
  | transfer isPayer isPayee apart posts =>
      exact (Bank.yields_transfer sound supplies ticking isPayer isPayee apart posts
        acceptable).map _
  | deposit _ ih => exact ih acceptable supplies ticking
  | withdraw _ ih => exact ih acceptable supplies ticking
  | reserve isPayer isPool apart creates missing posts =>
      exact (Bank.yields_reserve sound supplies ticking isPayer isPool apart creates missing posts
        acceptable).map _
  | charge isBeneficiary isPool apart found charges posts =>
      exact (Bank.yields_charge sound supplies ticking isBeneficiary isPool apart found charges
        posts acceptable).map _
  | release found isPayer isPool _ releases left posts =>
      exact (Bank.yields_release sound supplies ticking found isPayer isPool releases left posts
        acceptable).map _

theorem Voucher.run {surroundings : Surroundings} {settings : LedgerSettings}
    {operation : Operation} {work : UnitOfWork} {outcome : Outcome} {ids : List Uuid}
    {times : List Instant} {world : World} (sound : world.store.tables.Sound settings.refs)
    (voucher : Voucher settings world.store.tables operation work outcome ids times)
    (acceptable : work.Acceptable world.store.tables)
    (supplies : Supplies surroundings.uuid world.issued ids)
    (ticking : Supplies surroundings.clock world.ticks times)
    (free : world.store.locks.held = []) :
    ∃ after : World, operation.run surroundings settings world = (.ok outcome, after) ∧
      after.store.tables = work.publish world.store.tables ∧
      after.issued = world.issued + ids.length ∧ after.ticks = world.ticks + times.length ∧
      after.store.locks.held = [] := by
  have stands := Point.At.start world
  rw [free] at stands
  obtain ⟨world', work', executed, stands'⟩ :=
    voucher.yields sound acceptable supplies ticking world .empty stands
  refine ⟨world'.drop work', ?_, stands'.tables, stands'.issued, stands'.ticks,
    List.eq_nil_iff_forall_not_mem.mpr fun account member =>
      List.not_mem_nil (mem_busy_of_release stands'.locks account member)⟩
  rw [Operation.run, Action.run, Action.runFrom_eq, executed]

theorem Bank.getBalance_run_of_found {surroundings : Surroundings} {refs : SystemRefs}
    {world : World} (sound : world.store.tables.Sound refs) {reference : String}
    {account : Account} {ledger : Ledger} {time : Instant}
    (found : world.store.tables.account? reference = some account)
    (stored : ledger ∈ world.store.tables.ledgers.values) (covers : ledger.covers time = true) :
    ((getBalance reference time).run surroundings world).1 =
      .ok (world.store.tables.balanceIn account ledger).endAmount :=
  (yields_getBalance sound found stored covers).run.1

theorem Bank.getBalance_run {surroundings : Surroundings} {refs : SystemRefs} {world : World}
    (sound : world.store.tables.Sound refs) {account : Account} {ledger : Ledger} {time : Instant}
    (known : account ∈ world.store.tables.accounts.values)
    (stored : ledger ∈ world.store.tables.ledgers.values) (covers : ledger.covers time = true) :
    ((getBalance account.reference time).run surroundings world).1 =
      .ok (world.store.tables.balanceIn account ledger).endAmount :=
  getBalance_run_of_found sound (sound.account?_of_mem known) stored covers

end DoubleEntry
