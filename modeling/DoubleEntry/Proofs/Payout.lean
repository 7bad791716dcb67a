import DoubleEntry.Proofs.Book.Holding
import DoubleEntry.Proofs.Service.Identity
import DoubleEntry.Proofs.Service.Served

/-!
# A reservation pays out what it holds, once

Any operations run one after another from nothing, each with its result.  For every
business reference at most one reserve succeeds; what has been charged is the sum of
the charges that succeeded; and a release gives the rest back to whoever paid, after
which nothing changes any more.  `Tallied` is the invariant that says so of the
tables and of the operations served so far.
-/

namespace DoubleEntry

/-- The transaction takes the units from one account and gives them to another one. -/
def Transaction.Moves (transaction : Transaction) (payer payee : Account) (units : Int) : Prop :=
  payer.id ≠ payee.id ∧ ∃ debited credited, transaction.entries = [debited, credited] ∧
    debited.entryType = .debit ∧ debited.accountId = payer.id ∧
    debited.amount.minorUnits = units ∧
    credited.entryType = .credit ∧ credited.accountId = payee.id ∧
    credited.amount.minorUnits = units

private theorem Voucher.holds?_of_staged {settings : LedgerSettings} {tables : Tables}
    {operation : Operation} {work : UnitOfWork} {outcome : Outcome} {ids : List Uuid}
    {times : List Instant} (sound : tables.Sound settings.refs)
    (voucher : Voucher settings tables operation work outcome ids times)
    {reservation : Reservation} (staged : reservation ∈ work.reservations.values) :
    operation.holds? = some reservation.businessReference := by
  have only {other : Reservation}
      (among : reservation ∈ ((∅ : Table String Reservation).insert other.businessReference
        other).values) : reservation = other := by
    rw [Table.values_insert_empty] at among
    exact List.mem_singleton.mp among
  induction voucher with
  | deposit _ ih => exact ih staged
  | withdraw _ ih => exact ih staged
  | reserve _ _ _ creates =>
      rw [only staged, (Reservation.create_eq_ok creates).1]
      rfl
  | charge _ _ _ found charges =>
      rw [only staged, (Reservation.charge_eq_ok charges).1, sound.reservations.name_of_get? found]
      rfl
  | release found _ _ _ releases =>
      cases releases
      rw [only staged]
      exact congrArg some (sound.reservations.name_of_get? found).symm
  | _ => cases staged

namespace Tables

variable {settings : LedgerSettings} {tables after : Tables}

theorem Posts.moves {payer payee : Account} {posting : Bank.Posting} {ids : PostingIds}
    {time : Instant} {transaction : Transaction} {balances : List Balance}
    (sound : tables.Sound settings.refs) (apart : payer.id ≠ payee.id)
    (posts : tables.Posts settings payer payee posting ids time transaction balances) :
    transaction.Moves payer payee posting.amount.minorUnits := by
  obtain ⟨ledger, _, _, _, _, _, settled⟩ := posts.settled sound apart
  have debited := congrArg BalanceKey.accountId (sound.balanceIn_key payer ledger)
  have credited := congrArg BalanceKey.accountId (sound.balanceIn_key payee ledger)
  exact ⟨apart, _, _, settled.entries, rfl, debited, rfl, rfl, credited, rfl⟩

/-! ## The invariant -/

inductive PaidOut (settings : LedgerSettings) (tables : Tables) (reservation : Reservation)
    (payer : Account) : List Transaction → Prop where
  | notYet (unreleased : reservation.status ≠ .released) :
      PaidOut settings tables reservation payer []
  | once {transaction : Transaction} {pool : Account}
      (released : reservation.status = .released)
      (isPool : tables.account? settings.refs.reservations = some pool)
      (moves : transaction.Moves pool payer
        (reservation.held.minorUnits - reservation.charged.minorUnits))
      (posted : transaction ∈ tables.transactions) :
      PaidOut settings tables reservation payer [transaction]

private theorem PaidOut.of_held {reservation : Reservation} {payer : Account}
    {paid : List Transaction} (paidOut : PaidOut settings tables reservation payer paid)
    (isHeld : reservation.status = .held) : paid = [] := by
  cases paidOut with
  | notYet => rfl
  | once released =>
      rw [isHeld] at released
      cases released

/-- The reservation under `name` tallies with the operations served so far. -/
inductive Tallied (settings : LedgerSettings) (tables : Tables) (name : String)
    (served : List Served) : Prop where
  | missing (absent : tables.reservations.get? name = none)
      (reserved : served.filterMap (Served.reserved? name) = [])
      (charged : served.filterMap (Served.charged? name) = [])
      (paid : served.filterMap (Served.payout? name) = [])
  | stored {reservation : Reservation} {reference : String} {payer : Account}
      (found : tables.reservations.get? name = some reservation)
      (consistent : reservation.Consistent)
      (isPayer : tables.account? reference = some payer)
      (isPayer' : tables.account? reservation.accountReference = some payer)
      (reserved : served.filterMap (Served.reserved? name) = [(reference, reservation.held)])
      (charged : reservation.charged.minorUnits =
        (served.filterMap (Served.charged? name)).sum)
      (paid : PaidOut settings tables reservation payer
        (served.filterMap (Served.payout? name)))

structure Spares (name : String) (tables after : Tables) : Prop where
  accounts : ∀ reference account, tables.account? reference = some account →
    after.account? reference = some account
  transactions : ∀ transaction ∈ tables.transactions, transaction ∈ after.transactions
  reservation : after.reservations.get? name = tables.reservations.get? name

private theorem Spares.refl (name : String) (tables : Tables) : tables.Spares name tables :=
  ⟨fun _ _ found => found, fun _ posted => posted, rfl⟩

private theorem PaidOut.spared {reservation : Reservation} {payer : Account} {name : String}
    {paid : List Transaction} (paidOut : PaidOut settings tables reservation payer paid)
    (spares : tables.Spares name after) : PaidOut settings after reservation payer paid := by
  cases paidOut with
  | notYet unreleased => exact .notYet unreleased
  | once released isPool moves posted =>
      exact .once released (spares.accounts _ _ isPool) moves (spares.transactions _ posted)

private theorem Tallied.spared {name : String} {past : List Served} {served : Served}
    (tallied : tables.Tallied settings name past) (spares : tables.Spares name after)
    (idle : served.Idle name) : after.Tallied settings name (past ++ [served]) := by
  have same {β : Type} (view : Served → Option β) (nothing : view served = none) :
      (past ++ [served]).filterMap view = past.filterMap view := by
    rw [Served.filterMap_concat, nothing, Option.toList_none, List.append_nil]
  cases tallied with
  | missing absent reserved charged paid =>
      refine .missing (spares.reservation.trans absent) ?_ ?_ ?_
      · rw [same _ idle.reserved, reserved]
      · rw [same _ idle.charged, charged]
      · rw [same _ idle.payout, paid]
  | stored found consistent isPayer isPayer' reserved charged paid =>
      refine .stored (spares.reservation.trans found) consistent (spares.accounts _ _ isPayer)
        (spares.accounts _ _ isPayer') ?_ ?_ ?_
      · rw [same _ idle.reserved, reserved]
      · rw [same _ idle.charged, charged]
      · rw [same _ idle.payout]
        exact paid.spared spares

/-! ## A commit -/

private theorem spares_commit {name : String} {operation : Operation} {work : UnitOfWork}
    {outcome : Outcome} {ids : List Uuid} {times : List Instant}
    (sound : tables.Sound settings.refs)
    (voucher : Voucher settings tables operation work outcome ids times)
    (acceptable : work.Acceptable tables) (other : operation.holds? ≠ some name) :
    tables.Spares name (work.publish tables) where
  accounts _ _ found := UnitOfWork.publish_accounts_get? acceptable found
  transactions _ posted := List.mem_append_left _ posted
  reservation := by
    apply Table.get?_foldl_insert
    rintro reservation staged rfl
    exact other (voucher.holds?_of_staged sound staged)

section Posting

variable {transaction : Transaction} {balances : List Balance} {reservation : Reservation}
  {past : List Served}

def postingWork (transaction : Transaction) (balances : List Balance)
    (reservation : Reservation) : UnitOfWork :=
  .ofPosting transaction balances
    ((∅ : Table String Reservation).insert reservation.businessReference reservation)

private theorem publish_reservation : ((postingWork transaction balances reservation).publish
    tables).reservations.get? reservation.businessReference = some reservation.committed := by
  simp [postingWork, UnitOfWork.ofPosting, UnitOfWork.publish]

private theorem publish_transaction :
    transaction ∈ ((postingWork transaction balances reservation).publish tables).transactions := by
  simp [postingWork, UnitOfWork.ofPosting, UnitOfWork.publish]

private theorem Tallied.reserve {reference businessReference : String} {posting : Bank.Posting}
    {payer : Account} {id : ReservationId} {created : Instant} {outcome : Outcome}
    (sound : tables.Sound settings.refs)
    (tallied : tables.Tallied settings (Text.trim businessReference) past)
    (acceptable : (postingWork transaction balances reservation).Acceptable tables)
    (isPayer : tables.account? reference = some payer)
    (creates : Reservation.create id created businessReference payer posting.amount =
      .ok reservation)
    (missing : tables.reservations.get? reservation.businessReference = none) :
    ((postingWork transaction balances reservation).publish tables).Tallied settings
      (Text.trim businessReference)
      (past ++ [(.reserve reference businessReference posting, .ok outcome)]) := by
  have consistent := Reservation.create_consistent creates
  obtain ⟨-, rfl⟩ := Reservation.create_eq creates
  cases tallied with
  | stored found =>
      rw [missing] at found
      cases found
  | missing _ reserved charged paid =>
      refine .stored publish_reservation consistent.committed
        (UnitOfWork.publish_accounts_get? acceptable isPayer)
        (UnitOfWork.publish_accounts_get? acceptable (sound.account?_reference isPayer)) ?_ ?_ ?_
      · rw [Served.filterMap_concat, reserved, Served.reserved?_reserve]
        rfl
      · rw [Served.filterMap_concat, charged]
        rfl
      · rw [Served.filterMap_concat, paid]
        exact .notYet nofun

private theorem Tallied.charge {reference businessReference : String} {posting : Bank.Posting}
    {before : Reservation} {outcome : Outcome}
    (sound : tables.Sound settings.refs)
    (tallied : tables.Tallied settings (Text.trim businessReference) past)
    (acceptable : (postingWork transaction balances reservation).Acceptable tables)
    (found : tables.reservations.get? (Text.trim businessReference) = some before)
    (charges : before.charge posting.amount = .ok reservation) :
    ((postingWork transaction balances reservation).publish tables).Tallied settings
      (Text.trim businessReference)
      (past ++ [(.charge reference businessReference posting, .ok outcome)]) := by
  have named := sound.reservations.name_of_get? found
  cases tallied with
  | missing absent =>
      rw [absent] at found
      cases found
  | stored stored consistent isPayer isPayer' reserved charged paid =>
      rw [stored] at found
      cases found
      obtain ⟨isHeld, consistent, total, status, rfl, unreleased, isTotal⟩ :=
        consistent.charge charges
      rw [← named]
      refine .stored publish_reservation consistent.committed
        (UnitOfWork.publish_accounts_get? acceptable isPayer)
        (UnitOfWork.publish_accounts_get? acceptable isPayer') ?_ ?_ ?_
      · rw [Served.filterMap_concat, named, reserved]
        rfl
      · rw [Served.filterMap_concat, named, Served.charged?_charge, List.sum_append, ← charged]
        simpa [Reservation.committed] using isTotal
      · rw [Served.filterMap_concat, named, paid.of_held isHeld]
        exact .notYet unreleased

private theorem Tallied.release {businessReference description : String} {time : Instant}
    {before : Reservation} {remaining : Money} {payer pool : Account} {ids : PostingIds}
    {posted : Instant} (sound : tables.Sound settings.refs)
    (tallied : tables.Tallied settings (Text.trim businessReference) past)
    (acceptable : (postingWork transaction balances reservation).Acceptable tables)
    (found : tables.reservations.get? (Text.trim businessReference) = some before)
    (isPayer : tables.account? before.accountReference = some payer)
    (isPool : tables.account? settings.refs.reservations = some pool)
    (apart : pool.id ≠ payer.id) (releases : before.release = (remaining, reservation))
    (left : remaining.isZero = false)
    (posts : tables.Posts settings pool payer ⟨remaining, description, time⟩ ids posted
      transaction balances) :
    ((postingWork transaction balances reservation).publish tables).Tallied settings
      (Text.trim businessReference)
      (past ++
        [(.release businessReference description time, .ok (.transaction transaction))]) := by
  have named := sound.reservations.name_of_get? found
  cases tallied with
  | missing absent =>
      rw [absent] at found
      cases found
  | stored stored consistent isOriginal isOriginal' reserved charged paid =>
      rw [stored] at found
      cases found
      rw [isOriginal'] at isPayer
      cases isPayer
      obtain ⟨isHeld, rfl, consistent, isRemaining⟩ := consistent.release releases left
      have moves := posts.moves sound apart
      rw [isRemaining] at moves
      rw [← named]
      refine .stored publish_reservation consistent.committed
        (UnitOfWork.publish_accounts_get? acceptable isOriginal)
        (UnitOfWork.publish_accounts_get? acceptable isOriginal') ?_ ?_ ?_
      · rw [Served.filterMap_concat, named, reserved]
        rfl
      · rw [Served.filterMap_concat, named, List.sum_append, ← charged]
        exact (Int.add_zero _).symm
      · rw [Served.filterMap_concat, named, paid.of_held isHeld, Served.payout?_release]
        exact .once rfl (UnitOfWork.publish_accounts_get? acceptable isPool) moves
          publish_transaction

end Posting

private theorem Tallied.commit {name : String} {past : List Served} {operation : Operation}
    {work : UnitOfWork} {outcome : Outcome} {ids : List Uuid} {times : List Instant}
    (sound : tables.Sound settings.refs) (tallied : tables.Tallied settings name past)
    (voucher : Voucher settings tables operation work outcome ids times)
    (acceptable : work.Acceptable tables) :
    (work.publish tables).Tallied settings name (past ++ [(operation, .ok outcome)]) := by
  by_cases isHold : operation.holds? = some name
  · cases voucher with
    | reserve isPayer _ _ creates missing _ =>
        cases isHold
        exact tallied.reserve sound acceptable isPayer creates missing
    | charge _ _ _ found charges _ =>
        cases isHold
        exact tallied.charge sound acceptable found charges
    | release found isPayer isPool apart releases left posts =>
        cases isHold
        exact tallied.release sound acceptable found isPayer isPool apart releases left posts
    | _ => cases isHold
  · exact tallied.spared (spares_commit sound voucher acceptable isHold)
      (Served.idle_of_holds_other isHold)

private theorem holds?_ne_of_final {name : String} {reservation : Reservation}
    {operation : Operation}
    {work : UnitOfWork} {outcome : Outcome} {ids : List Uuid} {times : List Instant}
    (consistent : reservation.Consistent) (isFinal : reservation.status ≠ .held)
    (stored : tables.reservations.get? name = some reservation)
    (voucher : Voucher settings tables operation work outcome ids times) :
    operation.holds? ≠ some name := by
  intro isHold
  cases voucher with
  | reserve _ _ _ creates missing _ =>
      cases isHold
      rw [(Reservation.create_eq_ok creates).1, stored] at missing
      cases missing
  | charge _ _ _ found charges _ =>
      cases isHold
      rw [stored] at found
      cases found
      exact isFinal (consistent.charge charges).1
  | release found _ _ _ releases left _ =>
      cases isHold
      rw [stored] at found
      cases found
      exact isFinal (consistent.release releases left).1
  | _ => cases isHold

end Tables

/-! ## Runs -/

namespace Operation

variable {settings : LedgerSettings} {tables : Tables} {operation : Operation} {world : World}
  {result : Except LedgerError Outcome × World} {name : String}

private theorem Ran.still_tallied {past : List Served} (ran : operation.Ran settings tables result)
    (sound : tables.Sound settings.refs) (tallied : tables.Tallied settings name past) :
    result.2.store.tables.Tallied settings name (past ++ [(operation, result.1)]) := by
  cases ran with
  | commits voucher acceptable published =>
      rw [published]
      exact tallied.commit sound voucher acceptable
  | rests quiet kept =>
      rw [kept]
      exact tallied.spared (.refl name _) (Served.idle_of_quiet quiet)

private theorem Ran.of_final {reservation : Reservation}
    (ran : operation.Ran settings tables result)
    (sound : tables.Sound settings.refs) (consistent : reservation.Consistent)
    (isFinal : reservation.status ≠ .held)
    (stored : tables.reservations.get? name = some reservation) :
    result.2.store.tables.reservations.get? name = some reservation ∧
      Served.Idle name (operation, result.1) := by
  cases ran with
  | commits voucher acceptable published =>
      have other := Tables.holds?_ne_of_final consistent isFinal stored voucher
      have spares := Tables.spares_commit sound voucher acceptable other
      rw [published]
      exact ⟨spares.reservation.trans stored, Served.idle_of_holds_other other⟩
  | rests quiet kept =>
      rw [kept]
      exact ⟨stored, Served.idle_of_quiet quiet⟩

private theorem Ran.journal_release {businessReference description : String} {time : Instant}
    (ran : (release businessReference description time).Ran settings tables result) :
    result.2.store.tables.transactions = tables.transactions ++
      (Served.payout? (Text.trim businessReference)
        (.release businessReference description time, result.1)).toList := by
  cases ran with
  | commits voucher _ published =>
      rw [published]
      cases voucher with
      | release =>
          rw [Served.payout?_release]
          rfl
  | rests quiet kept =>
      rw [kept, (Served.idle_of_quiet quiet).payout]
      exact (List.append_nil _).symm

private theorem runAll_tallied (surroundings : Surroundings) {past : List Served}
    (sound : world.store.tables.Sound settings.refs)
    (tallied : world.store.tables.Tallied settings name past) (operations : List Operation) :
    (runAll surroundings settings operations world).2.store.tables.Sound settings.refs ∧
      (runAll surroundings settings operations world).2.store.tables.Tallied settings name
        (past ++ transcript surroundings settings operations world) := by
  induction operations generalizing world past with
  | nil =>
      rw [show transcript surroundings settings [] world = [] from rfl, List.append_nil]
      exact ⟨sound, tallied⟩
  | cons operation rest ih =>
      have ran := operation.run_ran surroundings sound
      have further := ih (ran.sound sound) (ran.still_tallied sound tallied)
      rw [List.append_assoc] at further
      exact further

private theorem runAll_of_final (surroundings : Surroundings) {reservation : Reservation}
    (sound : world.store.tables.Sound settings.refs) (consistent : reservation.Consistent)
    (isFinal : reservation.status ≠ .held)
    (stored : world.store.tables.reservations.get? name = some reservation)
    (operations : List Operation) :
    (runAll surroundings settings operations world).2.store.tables.reservations.get? name =
        some reservation ∧
      ∀ served ∈ transcript surroundings settings operations world, served.Idle name := by
  induction operations generalizing world with
  | nil => exact ⟨stored, by simp [transcript]⟩
  | cons operation rest ih =>
      have ran := operation.run_ran surroundings sound
      obtain ⟨still, idle⟩ := ran.of_final sound consistent isFinal stored
      obtain ⟨atEnd, restIdle⟩ := ih (ran.sound sound) still
      refine ⟨atEnd, ?_⟩
      intro served among
      rcases List.mem_cons.mp among with rfl | among
      · exact idle
      · exact restIdle served among

end Operation

/-! ## What a reservation pays out -/

namespace Tables

variable {settings : LedgerSettings} {tables : Tables} {name : String} {served : List Served}

/-- The transaction is in the journal, and it gives the rest that was held to the account for
which the one successful reserve was made. -/
inductive GivenBack (settings : LedgerSettings) (tables : Tables) (name : String)
    (served : List Served) (transaction : Transaction) : Prop where
  | intro {reservation : Reservation} {reference : String} {payer pool : Account}
      (stored : tables.reservations.get? name = some reservation)
      (released : reservation.status = .released)
      (reserved : served.filterMap (Served.reserved? name) = [(reference, reservation.held)])
      (isPayer : tables.account? reference = some payer)
      (isPool : tables.account? settings.refs.reservations = some pool)
      (moves : transaction.Moves pool payer
        (reservation.held.minorUnits - reservation.charged.minorUnits))
      (posted : transaction ∈ tables.transactions) :
      GivenBack settings tables name served transaction

structure AddsUp (settings : LedgerSettings) (tables : Tables) (name : String)
    (served : List Served) : Prop where
  reserved_once : (served.filterMap (Served.reserved? name)).length ≤ 1
  held : (tables.reservations.get? name).toList.map Reservation.held =
    (served.filterMap (Served.reserved? name)).map Prod.snd
  consistent : ∀ reservation, tables.reservations.get? name = some reservation →
    reservation.Consistent
  charged : ((tables.reservations.get? name).elim 0 fun reservation =>
    reservation.charged.minorUnits) = (served.filterMap (Served.charged? name)).sum
  paid_once : (served.filterMap (Served.payout? name)).length ≤ 1
  given_back : ∀ transaction ∈ served.filterMap (Served.payout? name),
    tables.GivenBack settings name served transaction

private theorem Tallied.addsUp (tallied : tables.Tallied settings name served) :
    tables.AddsUp settings name served := by
  cases tallied with
  | missing absent reserved charged paid =>
      refine ⟨by simp [reserved], by simp [reserved, absent], ?_, by simp [absent, charged],
        by simp [paid], by simp [paid]⟩
      intro reservation stored
      rw [absent] at stored
      cases stored
  | stored stored consistent isPayer _ reserved charged paid =>
      refine ⟨by simp [reserved], by simp [reserved, stored], ?_, ?_, ?_, ?_⟩
      · intro reservation same
        rw [stored] at same
        cases same
        exact consistent
      · rw [stored]
        exact charged
      · generalize served.filterMap (Served.payout? name) = paidOut at paid
        cases paid <;> simp
      · intro transaction among
        generalize served.filterMap (Served.payout? name) = paidOut at paid among
        cases paid with
        | notYet => cases among
        | once released isPool moves posted =>
            rw [List.mem_singleton.mp among]
            exact .intro stored released reserved isPayer isPool moves posted

end Tables

namespace Operation

/-- The reservation under `name` pays out what it holds, once: so the operations in `past` have
left it in this world. -/
structure PaysOnce (surroundings : Surroundings) (settings : LedgerSettings) (name : String)
    (past : List Served) (world : World) : Prop where
  adds_up : world.store.tables.AddsUp settings name past
  journal : ∀ businessReference description time ran, Text.trim businessReference = name →
    (release businessReference description time).run surroundings settings world = ran →
    ran.2.store.tables.transactions = world.store.tables.transactions ++
      (Served.payout? name (.release businessReference description time, ran.1)).toList
  final : ∀ reservation, world.store.tables.reservations.get? name = some reservation →
    reservation.status ≠ .held → ∀ operations,
      (runAll surroundings settings operations world).2.store.tables.reservations.get? name =
          some reservation ∧
        ∀ served ∈ transcript surroundings settings operations world, served.Idle name

/-- Whatever operations run from nothing, one after another, each reservation pays out what it
holds, once. -/
theorem paysOnce (surroundings : Surroundings) (settings : LedgerSettings)
    (operations : List Operation) (businessReference : String) :
    PaysOnce surroundings settings (Text.trim businessReference)
      (transcript surroundings settings operations .empty)
      (runAll surroundings settings operations .empty).2 := by
  have start : World.empty.store.tables.Tallied settings (Text.trim businessReference) [] :=
    .missing rfl rfl rfl rfl
  obtain ⟨sound, tallied⟩ :=
    runAll_tallied surroundings (Tables.sound_empty settings.refs) start operations
  have addsUp := tallied.addsUp
  refine ⟨addsUp, ?_, ?_⟩
  · rintro other description time ran same isRan
    rw [← same, ← isRan]
    exact (run_ran surroundings sound _).journal_release
  · intro reservation stored isFinal more
    have consistent := addsUp.consistent reservation stored
    exact runAll_of_final surroundings sound consistent isFinal stored more

example :
    let posting (units : Fin 100) : Bank.Posting := ⟨⟨units, by omega, by omega⟩, "", .epoch⟩
    let served := transcript .counting .standard [.ensureSystemAccounts, .openFirstLedger .epoch,
      .createAccount "a" "a" .liability .current, .createAccount "b" "b" .liability .current,
      .deposit "a" (posting 99), .reserve "a" " r " (posting 30), .charge "b" "r" (posting 10),
      .release "r " "" .epoch, .release "r" "" .epoch, .charge "b" "r" (posting 1)] .empty
    served.filterMap (Served.charged? "r") = [10] ∧
      (served.filterMap (Served.payout? "r")).map (·.entries.map (·.amount.minorUnits)) =
        [[20, 20]] := by
  decide +kernel

end Operation

end DoubleEntry
