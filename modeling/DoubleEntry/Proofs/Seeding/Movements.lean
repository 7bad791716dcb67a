import DoubleEntry.Proofs.Seeding.Accounts

/-!
# The movements of a seeding

Seven amounts are moved, the last three of them through the pool.  With every movement the
tallies of the balances grow by it (`Stage`), so what the customers have in the end is a
sum over the movements.
-/

namespace DoubleEntry.Seeding

variable {surroundings : Surroundings} {settings : LedgerSettings} {tables : Tables}
  {issued ticks : Nat} {ids : List Uuid} {times : List Instant}

/-! ## Movements -/

section Movements

variable {ledger : Ledger} {movements : List Movement} {payer payee : Account}
  {id first second : Uuid} {time : Instant}

theorem exists_posting (operation : Operation) (posting : Bank.Posting)
    (reservations : Table String Reservation)
    (tallies : tables.Tallies settings.refs ledger movements)
    (affords : tables.Affords ledger movements payer payee posting)
    (voucher : ∀ transaction balances, tables.Posts settings payer payee posting
      (.ofThree id first second) time transaction balances → ∃ outcome, Voucher settings tables
        operation (.ofPosting transaction balances reservations) outcome ids times)
    (fits : ∀ reservation ∈ reservations.values,
      ¬ ((tables.reservations.get? reservation.businessReference).isSome ∧
        reservation.version = 0) ∧
      UnitOfWork.Fits ((tables.reservations.get? reservation.businessReference).map
        Reservation.version) reservation.version)
    (supplies : Supplies surroundings.uuid issued ids)
    (ticking : Supplies surroundings.clock ticks times) : ∃ after,
      (perform surroundings settings operation).Goes ⟨tables, issued, ticks, .empty⟩
        ⟨after, issued + ids.length, ticks + times.length, .empty⟩ ∧
      after.Tallies settings.refs ledger (movements ++ [⟨payer, payee, posting.amount⟩]) ∧
      after.accounts = tables.accounts ∧
      after.reservations = reservations.values.foldl (fun table reservation =>
        table.insert reservation.businessReference reservation.committed) tables.reservations := by
  obtain ⟨transaction, balances, posts, tallied⟩ :=
    tallies.exists_posts affords id first second time
  obtain ⟨outcome, voucher⟩ := voucher transaction balances posts
  have current : (UnitOfWork.ofPosting transaction balances reservations).Current tables :=
    posts.current tallies.sound affords.apart fun reservation member => (fits reservation member).2
  have acceptable := current.acceptable_of_new (by simp [UnitOfWork.ofPosting, UnitOfWork.empty])
    (by simp [UnitOfWork.ofPosting, UnitOfWork.empty])
    (fun reservation member => (fits reservation member).1) rfl
  exact ⟨_, goes_perform tallies.sound voucher acceptable supplies ticking,
    tallied reservations (UnitOfWork.publish_sound tallies.sound voucher acceptable), rfl, rfl⟩

end Movements

structure Cast where
  reserve : Account
  pool : Account
  premiums : Account
  user1 : Account
  user1P : Account
  user2 : Account

structure Cast.In (refs : SystemRefs) (tables : Tables) (cast : Cast) : Prop where
  reserve : tables.Ensured refs.bankingReserve .asset cast.reserve
  pool : tables.Ensured refs.reservations .liability cast.pool
  premiums : tables.Ensured refs.premiums .liability cast.premiums
  user1 : Enrolled tables "user1" .current cast.user1
  user1P : Enrolled tables "user1P" .premium cast.user1P
  user2 : Enrolled tables "user2" .current cast.user2

theorem Cast.In.stays {refs : SystemRefs} {after : Tables} {cast : Cast}
    (casts : cast.In refs tables) (same : after.accounts = tables.accounts) :
    cast.In refs after := by
  have kept : ∀ reference account, tables.accounts.get? reference = some account →
      after.accounts.get? reference = some account := by
    rw [same]
    exact fun _ _ found => found
  exact ⟨casts.reserve.stays kept, casts.pool.stays kept, casts.premiums.stays kept,
    casts.user1.stays kept, casts.user1P.stays kept, casts.user2.stays kept⟩

def ride (id : ReservationId) (time : Instant) (payer : Account) (held charged : Money)
    (status : ReservationStatus) (version : Version) : Reservation :=
  ⟨id, "ride-0001", payer.id, payer.reference, held, charged, status, time, version⟩

private theorem create_ride (id : ReservationId) (time : Instant) (payer : Account) :
    Reservation.create id time "ride-0001" payer (amount 2000) =
      .ok (ride id time payer (amount 2000) .zero .held 0) := by
  rw [Reservation.create]
  rfl

private theorem charge_ride (id : ReservationId) (time : Instant) (payer : Account)
    (version : Version) :
    (ride id time payer (amount 2000) .zero .held version).charge (amount 1500) =
      .ok (ride id time payer (amount 2000) (amount 1500) .held version) := rfl

private theorem release_ride (id : ReservationId) (time : Instant) (payer : Account)
    (version : Version) : (ride id time payer (amount 2000) (amount 1500) .held version).release =
      (amount 500, ride id time payer (amount 2000) (amount 1500) .released version) := rfl

theorem not_protected_of_ensured {reference : String} {accountType : AccountType}
    {account : Account} (ensured : tables.Ensured reference accountType account) :
    ¬ account.Protected := by
  intro isProtected
  simp [Account.Protected, ensured.role.2] at isProtected

structure Stage (settings : LedgerSettings) (ledger : Ledger) (cast : Cast)
    (stored : Option Reservation) (movements : List Movement) (tables : Tables) : Prop where
  tallies : tables.Tallies settings.refs ledger movements
  casts : cast.In settings.refs tables
  reservation : tables.reservations.get? "ride-0001" = stored

namespace Stage

variable {ledger : Ledger} {cast : Cast} {stored : Option Reservation} {movements : List Movement}
  {payer payee : Account} {posting : Bank.Posting}

private theorem exists_transfer (surroundings : Surroundings) (operation : Bank.Posting → Operation)
    (posting : Bank.Posting) (stage : Stage settings ledger cast stored movements tables)
    {payerReference payeeReference : String}
    (isPayer : tables.account? payerReference = some payer)
    (isPayee : tables.account? payeeReference = some payee) (apart : payer.id ≠ payee.id)
    (positive : posting.amount.isPositive = true) (covers : ledger.covers posting.time = true)
    (small : 2 * Movement.turnover movements + posting.amount.minorUnits < 0x8000000000000000)
    (enough : payer.Protected →
      posting.amount.minorUnits ≤ Movement.tally (·.id = payer.id) movements)
    (lifts : ∀ work outcome ids times,
      Voucher settings tables (.transfer payerReference payeeReference posting) work outcome ids
        times → Voucher settings tables (operation posting) work outcome ids times)
    (issued ticks : Nat) :
    ∃ after, (perform surroundings settings (operation posting)).Goes
        ⟨tables, issued, ticks, .empty⟩ ⟨after, issued + 3, ticks + 1, .empty⟩ ∧
      Stage settings ledger cast stored (movements ++ [⟨payer, payee, posting.amount⟩]) after := by
  have sound := stage.tallies.sound
  obtain ⟨after, goes, tallies, accounts, reservations⟩ :=
    exists_posting (operation posting) posting ∅ stage.tallies
      ⟨sound.mem_of_account? isPayer, sound.mem_of_account? isPayee, apart, positive, covers, small,
        enough⟩ (fun transaction balances posts =>
        ⟨_, lifts _ _ _ _ (.transfer isPayer isPayee apart posts)⟩) (by simp)
      (⟨rfl, rfl, rfl, trivial⟩ : Supplies surroundings.uuid issued [_, _, _])
      (⟨rfl, trivial⟩ : Supplies surroundings.clock ticks [_])
  exact ⟨after, goes, tallies, stage.casts.stays accounts,
    (congrArg (fun table => table.get? "ride-0001") reservations).trans stage.reservation⟩

theorem exists_holding (operation : Operation) (posting : Bank.Posting) (changed : Reservation)
    (stage : Stage settings ledger cast stored movements tables)
    (named : changed.businessReference = "ride-0001")
    (fits : UnitOfWork.Fits (stored.map Reservation.version) changed.version)
    (isNew : ¬ (stored.isSome ∧ changed.version = 0))
    (affords : tables.Affords ledger movements payer payee posting)
    {id first second : Uuid} {time : Instant}
    (voucher : ∀ transaction balances, tables.Posts settings payer payee posting
      (.ofThree id first second) time transaction balances → ∃ outcome, Voucher settings tables
        operation (.ofPosting transaction balances
          ((∅ : Table String Reservation).insert changed.businessReference changed)) outcome ids
            times)
    (supplies : Supplies surroundings.uuid issued ids)
    (ticking : Supplies surroundings.clock ticks times) : ∃ after,
      (perform surroundings settings operation).Goes ⟨tables, issued, ticks, .empty⟩
        ⟨after, issued + ids.length, ticks + times.length, .empty⟩ ∧
      Stage settings ledger cast (some changed.committed)
        (movements ++ [⟨payer, payee, posting.amount⟩]) after := by
  have fitting : ∀ reservation ∈ ((∅ : Table String Reservation).insert changed.businessReference
      changed).values,
      ¬ ((tables.reservations.get? reservation.businessReference).isSome ∧
        reservation.version = 0) ∧
      UnitOfWork.Fits ((tables.reservations.get? reservation.businessReference).map
        Reservation.version) reservation.version := by
    intro reservation member
    rw [Table.values_insert_empty, List.mem_singleton] at member
    rw [member, named, stage.reservation]
    exact ⟨isNew, fits⟩
  obtain ⟨after, goes, tallies, accounts, reservations⟩ :=
    exists_posting operation posting _ stage.tallies affords voucher fitting supplies ticking
  refine ⟨after, goes, tallies, stage.casts.stays accounts, ?_⟩
  rw [reservations, Table.values_insert_empty, List.foldl_cons, List.foldl_nil, named]
  exact (Table.get?_insert _ _ _ _).trans (if_pos rfl)

private theorem exists_reserve (surroundings : Surroundings)
    (stage : Stage settings ledger cast none movements tables)
    (apart : cast.user2.id ≠ cast.pool.id) {time : Instant} (covers : ledger.covers time = true)
    (small : 2 * Movement.turnover movements + (amount 2000).minorUnits < 0x8000000000000000)
    (enough : (amount 2000).minorUnits ≤ Movement.tally (·.id = cast.user2.id) movements)
    (description : String) (issued ticks : Nat) : ∃ after id created,
      (perform surroundings settings
        (.reserve "user2" "ride-0001" ⟨amount 2000, description, time⟩)).Goes
          ⟨tables, issued, ticks, .empty⟩ ⟨after, issued + 4, ticks + 2, .empty⟩ ∧
      Stage settings ledger cast (some (ride id created cast.user2 (amount 2000) .zero .held 1))
        (movements ++ [⟨cast.user2, cast.pool, amount 2000⟩]) after := by
  have sound := stage.tallies.sound
  have isPayer := stage.casts.user2.found
  have isPool := stage.casts.pool.found
  let reservation :=
    ride ⟨surroundings.uuid issued⟩ (surroundings.clock ticks) cast.user2 (amount 2000) .zero
      .held 0
  have creates : Reservation.create ⟨surroundings.uuid issued⟩ (surroundings.clock ticks)
    "ride-0001" cast.user2 (amount 2000) = .ok reservation := create_ride _ _ _
  obtain ⟨after, goes, stage'⟩ :=
    exists_holding (.reserve "user2" "ride-0001" ⟨amount 2000, description, time⟩)
      ⟨amount 2000, description, time⟩ reservation stage rfl rfl nofun
      ⟨sound.mem_of_account? isPayer, sound.mem_of_account? isPool, apart, rfl, covers, small,
        fun _ => enough⟩
      (fun transaction balances posts =>
        ⟨_, .reserve isPayer isPool apart creates stage.reservation posts⟩)
      (⟨rfl, rfl, rfl, rfl, trivial⟩ : Supplies surroundings.uuid issued [_, _, _, _])
      (⟨rfl, rfl, trivial⟩ : Supplies surroundings.clock ticks [_, _])
  exact ⟨after, _, _, goes, stage'⟩

private theorem exists_charge (surroundings : Surroundings) {id : ReservationId} {created : Instant}
    (stage : Stage settings ledger cast
      (some (ride id created cast.user2 (amount 2000) .zero .held 1)) movements tables)
    (apart : cast.pool.id ≠ cast.user1.id) {time : Instant} (covers : ledger.covers time = true)
    (small : 2 * Movement.turnover movements + (amount 1500).minorUnits < 0x8000000000000000)
    (description : String) (issued ticks : Nat) : ∃ after,
      (perform surroundings settings
        (.charge "user1" "ride-0001" ⟨amount 1500, description, time⟩)).Goes
          ⟨tables, issued, ticks, .empty⟩ ⟨after, issued + 3, ticks + 1, .empty⟩ ∧
      Stage settings ledger cast
        (some (ride id created cast.user2 (amount 2000) (amount 1500) .held 2))
        (movements ++ [⟨cast.pool, cast.user1, amount 1500⟩]) after := by
  have sound := stage.tallies.sound
  have isBeneficiary := stage.casts.user1.found
  have isPool := stage.casts.pool.found
  exact exists_holding (.charge "user1" "ride-0001" ⟨amount 1500, description, time⟩)
    ⟨amount 1500, description, time⟩
    (ride id created cast.user2 (amount 2000) (amount 1500) .held 1) stage rfl rfl
    (by simp [ride])
    ⟨sound.mem_of_account? isPool, sound.mem_of_account? isBeneficiary, apart, rfl, covers, small,
      fun isProtected => absurd isProtected (not_protected_of_ensured stage.casts.pool)⟩
    (fun transaction balances posts =>
      ⟨_, .charge isBeneficiary isPool apart stage.reservation (charge_ride _ _ _ _) posts⟩)
    (⟨rfl, rfl, rfl, trivial⟩ : Supplies surroundings.uuid issued [_, _, _])
    (⟨rfl, trivial⟩ : Supplies surroundings.clock ticks [_])

private theorem exists_release (surroundings : Surroundings) {id : ReservationId}
    {created : Instant} (stage : Stage settings ledger cast
      (some (ride id created cast.user2 (amount 2000) (amount 1500) .held 2)) movements tables)
    (apart : cast.pool.id ≠ cast.user2.id) {time : Instant} (covers : ledger.covers time = true)
    (small : 2 * Movement.turnover movements + (amount 500).minorUnits < 0x8000000000000000)
    (description : String) (issued ticks : Nat) : ∃ after,
      (perform surroundings settings (.release "ride-0001" description time)).Goes
        ⟨tables, issued, ticks, .empty⟩ ⟨after, issued + 3, ticks + 1, .empty⟩ ∧
      Stage settings ledger cast
        (some (ride id created cast.user2 (amount 2000) (amount 1500) .released 3))
        (movements ++ [⟨cast.pool, cast.user2, amount 500⟩]) after := by
  have sound := stage.tallies.sound
  have isPayer := sound.account?_reference stage.casts.user2.found
  have isPool := stage.casts.pool.found
  exact exists_holding (.release "ride-0001" description time)
    ⟨amount 500, description, time⟩
    (ride id created cast.user2 (amount 2000) (amount 1500) .released 2) stage rfl rfl
    (by simp [ride])
    ⟨sound.mem_of_account? isPool, sound.mem_of_account? isPayer, apart, rfl, covers, small,
      fun isProtected => absurd isProtected (not_protected_of_ensured stage.casts.pool)⟩
    (fun transaction balances posts =>
      ⟨_, .release stage.reservation isPayer isPool apart (release_ride _ _ _ _) rfl posts⟩)
    (⟨rfl, rfl, rfl, trivial⟩ : Supplies surroundings.uuid issued [_, _, _])
    (⟨rfl, trivial⟩ : Supplies surroundings.clock ticks [_])

end Stage

namespace Cast

variable {refs : SystemRefs} {cast : Cast} {ledger : Ledger}

structure Apart (cast : Cast) : Prop where
  bank : ∀ system ∈ [cast.reserve, cast.pool, cast.premiums],
    ∀ customer ∈ [cast.user1, cast.user1P, cast.user2], system.id ≠ customer.id
  customers : [cast.user1, cast.user1P, cast.user2].Pairwise (·.id ≠ ·.id)

private theorem In.apart (casts : cast.In refs tables) (sound : tables.Sound refs)
    (identified : tables.Identified) : cast.Apart := by
  have isSystem : ∀ system ∈ [cast.reserve, cast.pool, cast.premiums],
      system ∈ tables.accounts.values ∧ system.purpose = .system := by
    simp [sound.mem_of_account? casts.reserve.found, casts.reserve.role,
      sound.mem_of_account? casts.pool.found, casts.pool.role,
      sound.mem_of_account? casts.premiums.found, casts.premiums.role]
  have user1 := sound.mem_of_account? casts.user1.found
  have user1P := sound.mem_of_account? casts.user1P.found
  have user2 := sound.mem_of_account? casts.user2.found
  have isCustomer : ∀ customer ∈ [cast.user1, cast.user1P, cast.user2],
      customer ∈ tables.accounts.values ∧ customer.purpose ≠ .system := by
    simp [user1, user1P, user2, casts.user1.isPurpose, casts.user1P.isPurpose,
      casts.user2.isPurpose]
  have premium (other : Account) (known : other ∈ tables.accounts.values)
      (isCurrent : other.purpose = .current) : cast.user1P.id ≠ other.id := by
    intro same
    have isPremium := casts.user1P.isPurpose
    rw [identified _ user1P other known same, isCurrent] at isPremium
    cases isPremium
  have currents : cast.user1.id ≠ cast.user2.id := by
    intro same
    have named := sound.accounts.name_of_get? casts.user1.found
    rw [identified _ user1 _ user2 same, sound.accounts.name_of_get? casts.user2.found] at named
    exact absurd named (by decide)
  constructor
  case bank =>
    intro system member customer member' same
    obtain ⟨known, isSystem⟩ := isSystem system member
    obtain ⟨known', notSystem⟩ := isCustomer customer member'
    exact notSystem (identified system known customer known' same ▸ isSystem)
  case customers =>
    have first := (premium cast.user1 user1 casts.user1.isPurpose).symm
    have last := premium cast.user2 user2 casts.user2.isPurpose
    simp [first, currents, last]

/-- What the movements come to, and what the customers have before they pay. -/
structure Moves (cast : Cast) (movements : List Movement) : Prop where
  seven : movements.length = 7
  user1_pays : Movement.tally (·.id = cast.user1.id) (movements.take 2) = 10000
  user2_pays : Movement.tally (·.id = cast.user2.id) (movements.take 4) = 6250
  user1 : Movement.tally (·.id = cast.user1.id) movements = 10250
  user1P : Movement.tally (·.id = cast.user1P.id) movements = 500
  user2 : Movement.tally (·.id = cast.user2.id) movements = 4750
  assets : Movement.tally (·.accountType = .asset) movements = 15000
  liabilities : Movement.tally (·.accountType = .liability) movements = 15000

private theorem In.moves (casts : cast.In refs tables) (apart : cast.Apart) :
    cast.Moves
      [⟨cast.reserve, cast.user1, amount 10000⟩, ⟨cast.reserve, cast.user2, amount 5000⟩,
        ⟨cast.user1, cast.user2, amount 1250⟩, ⟨cast.premiums, cast.user1P, amount 500⟩,
        ⟨cast.user2, cast.pool, amount 2000⟩, ⟨cast.pool, cast.user1, amount 1500⟩,
        ⟨cast.pool, cast.user2, amount 500⟩] := by
  have bank := apart.bank
  have customers := apart.customers
  simp only [List.forall_mem_cons, List.pairwise_cons] at bank customers
  constructor <;>
    simp [Movement.tally, Movement.effect, EntryType.units, amount, bank, customers,
      customers.1.1.symm, customers.1.2.1.symm, customers.2.1.1.symm, casts.reserve.role.1,
      casts.pool.role.1, casts.premiums.role.1, casts.user1.isLiability, casts.user1P.isLiability,
      casts.user2.isLiability]

end Cast

/-- Each movement finds the balances as the movements before it have left them. -/
theorem exists_moved {cast : Cast} {ledger : Ledger}
    (stage : Stage settings ledger cast none [] tables)
    (covers : ledger.covers (surroundings.clock ticks) = true) (issued : Nat) :
    ∃ after issued' ticks' id created movements,
      (moveMoney surroundings settings).Goes ⟨tables, issued, ticks, .empty⟩
        ⟨after, issued', ticks', .empty⟩ ∧ cast.Moves movements ∧
      Stage settings ledger cast
        (some (ride id created cast.user2 (amount 2000) (amount 1500) .released 3)) movements
        after := by
  have apart := stage.casts.apart stage.tallies.sound stage.tallies.identified
  have moves := stage.casts.moves apart
  have bank := apart.bank
  have customers := apart.customers
  simp only [List.forall_mem_cons, List.pairwise_cons] at bank customers
  obtain ⟨⟨reserve_user1, -, reserve_user2, -⟩, ⟨pool_user1, -, pool_user2, -⟩,
    ⟨-, premiums_user1P, -⟩, -⟩ := bank
  obtain ⟨⟨-, user1_user2, -⟩, -⟩ := customers
  have unprotected {reference : String} {accountType : AccountType} {account : Account}
      (ensured : tables.Ensured reference accountType account) {P : Prop} :
      account.Protected → P :=
    fun isProtected => absurd isProtected (not_protected_of_ensured ensured)
  let time := surroundings.clock ticks
  obtain ⟨tables₁, goes₁, stage₁⟩ := stage.exists_transfer surroundings (.deposit "user1")
    ⟨amount 10000, "Initial deposit", time⟩ stage.casts.reserve.found stage.casts.user1.found
    reserve_user1 rfl covers (by simp [Movement.turnover, amount])
    (unprotected stage.casts.reserve) (fun _ _ _ _ => .deposit) issued (ticks + 1)
  obtain ⟨tables₂, goes₂, stage₂⟩ := stage₁.exists_transfer surroundings (.deposit "user2")
    ⟨amount 5000, "Initial deposit", time⟩ stage₁.casts.reserve.found stage₁.casts.user2.found
    reserve_user2 rfl covers (by simp [Movement.turnover, amount])
    (unprotected stage.casts.reserve) (fun _ _ _ _ => .deposit) (issued + 3) (ticks + 2)
  obtain ⟨tables₃, goes₃, stage₃⟩ := stage₂.exists_transfer surroundings (.transfer "user1" "user2")
    ⟨amount 1250, "Shared dinner", time⟩ stage₂.casts.user1.found stage₂.casts.user2.found
    user1_user2 rfl covers (by simp [Movement.turnover, amount])
    (fun _ => le_of_le_of_eq (by simp [amount]) moves.user1_pays.symm) (fun _ _ _ _ => id)
    (issued + 6) (ticks + 3)
  obtain ⟨tables₄, goes₄, stage₄⟩ := stage₃.exists_transfer surroundings
    (.transfer settings.refs.premiums "user1P") ⟨amount 500, "Welcome bonus", time⟩
    stage₃.casts.premiums.found stage₃.casts.user1P.found premiums_user1P rfl covers
    (by simp [Movement.turnover, amount]) (unprotected stage.casts.premiums) (fun _ _ _ _ => id)
    (issued + 9) (ticks + 4)
  obtain ⟨tables₅, id, created, goes₅, stage₅⟩ := stage₄.exists_reserve surroundings
    pool_user2.symm covers (by simp [Movement.turnover, amount])
    (le_of_le_of_eq (by simp [amount]) moves.user2_pays.symm) "Ride fare hold" (issued + 12)
    (ticks + 5)
  obtain ⟨tables₆, goes₆, stage₆⟩ := stage₅.exists_charge surroundings pool_user1 covers
    (by simp [Movement.turnover, amount]) "Ride fare" (issued + 16) (ticks + 7)
  obtain ⟨tables₇, goes₇, stage₇⟩ := stage₆.exists_release surroundings pool_user2 covers
    (by simp [Movement.turnover, amount]) "Unused fare hold" (issued + 19) (ticks + 8)
  refine ⟨tables₇, issued + 22, ticks + 9, id, created, _, ?_, moves, stage₇⟩
  rw [moveMoney]
  refine Session.goes_now ?_
  refine goes₁.bind fun _ => goes₂.bind fun _ => goes₃.bind fun _ => goes₄.bind fun _ => ?_
  exact goes₅.bind fun _ => goes₆.bind fun _ => goes₇.bind fun _ => Session.goes_record _ _

theorem goes_reportBalances (point : Point) : reportBalances.Goes point point := by
  rw [reportBalances]
  refine Session.goes_get fun state => ?_
  exact (Session.goes_forM fun _ _ => Session.goes_record _ _).bind fun _ =>
    Session.goes_record _ _

end DoubleEntry.Seeding
