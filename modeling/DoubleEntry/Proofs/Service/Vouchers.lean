import DoubleEntry.Proofs.Book.Holding
import DoubleEntry.Proofs.Journal.Settlement
import DoubleEntry.Proofs.Store.Sound
import DoubleEntry.Service.Operation

/-!
# Vouchers

A voucher says what a committing operation stages and what it results in, given the
committed tables and the identifiers and instants that it drew.  It does not speak
of the reads in between.  From the voucher of any operation follow the few ways in
which it changes each table: `Voucher.accounts`, `Voucher.periods`,
`Voucher.bookings` and `Voucher.holds`.
-/

namespace DoubleEntry

/-! ## Parts of vouchers -/

namespace Tables

/-- A posting between two accounts in the ledger that covers its time. -/
inductive Posts (settings : LedgerSettings) (tables : Tables) (payer payee : Account)
    (posting : Bank.Posting) (ids : PostingIds) (time : Instant) :
    Transaction → List Balance → Prop where
  | intro {ledger : Ledger} {draft : Draft} {prepared : Prepared} {transaction : Transaction}
      {balances : List Balance} (stored : ledger ∈ tables.ledgers.values)
      (covers : ledger.covers posting.time = true)
      (postable : ledger.isOpen = true ∨ settings.allowClosedPeriodPosting = true)
      (posted : Posted ledger (tables.balanceIn payer ledger) (tables.balanceIn payee ledger)
        posting ids time draft prepared transaction balances) :
      Posts settings tables payer payee posting ids time transaction balances

/-- A system account is found, or it is created and staged after those in `staged`. -/
inductive Located (tables : Tables) (staged : List Account) (reference name : String)
    (accountType : AccountType) : Account → List Account → List Uuid → List Instant → Prop where
  | found {account : Account}
      (found : ({ UnitOfWork.empty with accounts := staged }).findAccount tables reference =
        some account)
      (suits : Bank.isSystemAccount accountType account = true) :
      Located tables staged reference name accountType account staged [] []
  | created {account : Account} {uuid : Uuid} {time : Instant}
      (missing : ({ UnitOfWork.empty with accounts := staged }).findAccount tables reference = none)
      (created : Account.create ⟨uuid⟩ time reference name accountType .system = .ok account) :
      Located tables staged reference name accountType account (staged ++ [account]) [uuid] [time]

end Tables

def stagedBalances (balances : List Balance) : Table BalanceKey Balance :=
  balances.foldl (fun table balance => table.insert balance.key balance) ∅

def UnitOfWork.ofPosting (transaction : Transaction) (balances : List Balance)
    (reservations : Table String Reservation) : UnitOfWork :=
  { empty with balances := stagedBalances balances, transactions := [transaction], reservations }

/-! ## Vouchers -/

inductive Voucher (settings : LedgerSettings) (tables : Tables) :
    Operation → UnitOfWork → Outcome → List Uuid → List Instant → Prop where
  | ensureSystemAccounts {reserve pool premiums : Account} {staged staged' staged'' : List Account}
      {ids ids' ids'' : List Uuid} {times times' times'' : List Instant}
      (reserve_located : tables.Located [] settings.refs.bankingReserve "Banking reserve" .asset
        reserve staged ids times)
      (pool_located : tables.Located staged settings.refs.reservations "Reservations" .liability
        pool staged' ids' times')
      (premiums_located : tables.Located staged' settings.refs.premiums "Premiums" .liability
        premiums staged'' ids'' times'') :
      Voucher settings tables .ensureSystemAccounts
        { UnitOfWork.empty with accounts := staged'' }
        (.systemAccounts ⟨reserve, pool, premiums⟩) (ids ++ ids' ++ ids'')
        (times ++ times' ++ times'')
  | createAccount {reference name : String} {accountType : AccountType} {purpose : Purpose}
      {uuid : Uuid} {time : Instant} {account : Account}
      (created : Account.create ⟨uuid⟩ time reference name accountType purpose = .ok account)
      (unreserved : ¬ (purpose ≠ .system ∧
        settings.refs.isSystemReference account.reference = true))
      (missing : tables.accounts.get? account.reference = none) :
      Voucher settings tables (.createAccount reference name accountType purpose)
        { UnitOfWork.empty with accounts := [account] } (.account account) [uuid] [time]
  | openFirstLedger {start : Instant} {uuid : Uuid} (none : tables.ledgers.values = []) :
      Voucher settings tables (.openFirstLedger start)
        { UnitOfWork.empty with
          ledgers := (∅ : Table LedgerId Ledger).insert ⟨uuid⟩ (.ofYear ⟨uuid⟩ start) }
        (.ledger (Ledger.ofYear ⟨uuid⟩ start).committed) [uuid] []
  | closePeriodAndOpenNext {newStart : Instant} {uuid : Uuid} {current closed : Ledger}
      (stored : current ∈ tables.ledgers.values) (isOpen : current.isOpen = true)
      (early : ∀ t ∈ tables.transactions, t.ledgerId = current.id → t.accountingTime < newStart)
      (closes : current.close newStart = .ok closed) (fresh : closed.id ≠ ⟨uuid⟩) :
      Voucher settings tables (.closePeriodAndOpenNext newStart)
        { UnitOfWork.empty with
          ledgers := ((∅ : Table LedgerId Ledger).insert closed.id closed).insert ⟨uuid⟩
            (.ofYear ⟨uuid⟩ newStart) }
        (.ledger (Ledger.ofYear ⟨uuid⟩ newStart).committed) [uuid] []
  | getOrCreateBalance {account : Account} {time : Instant} {ledger : Ledger}
      (stored : ledger ∈ tables.ledgers.values) (covers : ledger.covers time = true)
      (missing : tables.balances.get? ⟨ledger.id, account.id⟩ = none) :
      Voucher settings tables (.getOrCreateBalance account time)
        { UnitOfWork.empty with balances := stagedBalances [tables.balanceIn account ledger] }
        (.balance (tables.balanceIn account ledger).committed) [] []
  | transfer {payerReference payeeReference : String} {posting : Bank.Posting}
      {payer payee : Account} {id first second : Uuid} {time : Instant} {transaction : Transaction}
      {balances : List Balance} (isPayer : tables.account? payerReference = some payer)
      (isPayee : tables.account? payeeReference = some payee) (apart : payer.id ≠ payee.id)
      (posts : tables.Posts settings payer payee posting (.ofThree id first second) time
        transaction balances) :
      Voucher settings tables (.transfer payerReference payeeReference posting)
        (.ofPosting transaction balances ∅) (.transaction transaction) [id, first, second] [time]
  | deposit {reference : String} {posting : Bank.Posting} {work : UnitOfWork} {outcome : Outcome}
      {ids : List Uuid} {times : List Instant}
      (transfers : Voucher settings tables
        (.transfer settings.refs.bankingReserve reference posting) work outcome ids times) :
      Voucher settings tables (.deposit reference posting) work outcome ids times
  | withdraw {reference : String} {posting : Bank.Posting} {work : UnitOfWork} {outcome : Outcome}
      {ids : List Uuid} {times : List Instant}
      (transfers : Voucher settings tables
        (.transfer reference settings.refs.bankingReserve posting) work outcome ids times) :
      Voucher settings tables (.withdraw reference posting) work outcome ids times
  | reserve {reference businessReference : String} {posting : Bank.Posting} {payer pool : Account}
      {uuid id first second : Uuid} {created time : Instant} {reservation : Reservation}
      {transaction : Transaction} {balances : List Balance}
      (isPayer : tables.account? reference = some payer)
      (isPool : tables.account? settings.refs.reservations = some pool)
      (apart : payer.id ≠ pool.id)
      (creates : Reservation.create ⟨uuid⟩ created businessReference payer posting.amount =
        .ok reservation)
      (missing : tables.reservations.get? reservation.businessReference = none)
      (posts : tables.Posts settings payer pool posting (.ofThree id first second) time
        transaction balances) :
      Voucher settings tables (.reserve reference businessReference posting)
        (.ofPosting transaction balances
          ((∅ : Table String Reservation).insert reservation.businessReference reservation))
        (.reservation reservation.committed) [uuid, id, first, second] [created, time]
  | charge {reference businessReference : String} {posting : Bank.Posting}
      {beneficiary pool : Account} {id first second : Uuid} {time : Instant}
      {reservation charged : Reservation} {transaction : Transaction} {balances : List Balance}
      (isBeneficiary : tables.account? reference = some beneficiary)
      (isPool : tables.account? settings.refs.reservations = some pool)
      (apart : pool.id ≠ beneficiary.id)
      (found : tables.reservations.get? (Text.trim businessReference) = some reservation)
      (charges : reservation.charge posting.amount = .ok charged)
      (posts : tables.Posts settings pool beneficiary posting (.ofThree id first second) time
        transaction balances) :
      Voucher settings tables (.charge reference businessReference posting)
        (.ofPosting transaction balances
          ((∅ : Table String Reservation).insert charged.businessReference charged))
        (.transaction transaction) [id, first, second] [time]
  | release {businessReference description : String} {time : Instant} {payer pool : Account}
      {id first second : Uuid} {posted : Instant} {reservation released : Reservation}
      {remaining : Money} {transaction : Transaction} {balances : List Balance}
      (found : tables.reservations.get? (Text.trim businessReference) = some reservation)
      (isPayer : tables.account? reservation.accountReference = some payer)
      (isPool : tables.account? settings.refs.reservations = some pool)
      (apart : pool.id ≠ payer.id) (releases : reservation.release = (remaining, released))
      (left : remaining.isZero = false)
      (posts : tables.Posts settings pool payer ⟨remaining, description, time⟩
        (.ofThree id first second) posted transaction balances) :
      Voucher settings tables (.release businessReference description time)
        (.ofPosting transaction balances
          ((∅ : Table String Reservation).insert released.businessReference released))
        (.transaction transaction) [id, first, second] [posted]

/-! ## Postings between two accounts -/

theorem stagedBalances_pair {first second : Balance} (apart : first.key ≠ second.key) :
    (stagedBalances [first, second]).values = [first, second] := by
  have absent : ((∅ : Table BalanceKey Balance).insert first.key first).get? second.key = none := by
    rw [Table.get?_insert, if_neg apart, Table.get?_emptyCollection]
  exact Table.values_insert_of_absent second absent

theorem Tables.Posts.settled {settings : LedgerSettings} {tables : Tables} {payer payee : Account}
    {posting : Bank.Posting} {ids : PostingIds} {time : Instant} {transaction : Transaction}
    {balances : List Balance} (sound : tables.Sound settings.refs) (apart : payer.id ≠ payee.id)
    (posts : tables.Posts settings payer payee posting ids time transaction balances) :
    ∃ ledger ∈ tables.ledgers.values,
      (ledger.isOpen = true ∨ settings.allowClosedPeriodPosting = true) ∧
      ∃ debitedEnd creditedEnd,
        (stagedBalances balances).values =
          [{ tables.balanceIn payer ledger with endAmount := debitedEnd },
            { tables.balanceIn payee ledger with endAmount := creditedEnd }] ∧
        Settled ledger (tables.balanceIn payer ledger) (tables.balanceIn payee ledger) posting ids
          transaction debitedEnd creditedEnd := by
  cases posts with
  | @intro ledger _ _ _ _ stored _ postable posted =>
      have keysApart :
          (tables.balanceIn payer ledger).key ≠ (tables.balanceIn payee ledger).key := by
        rw [sound.balanceIn_key, sound.balanceIn_key]
        exact fun same => apart (congrArg BalanceKey.accountId same)
      obtain ⟨debitedEnd, creditedEnd, rfl, settled⟩ := posted.settled keysApart
      exact ⟨ledger, stored, postable, debitedEnd, creditedEnd, stagedBalances_pair keysApart,
        settled⟩

theorem Tables.Posts.accountId_mem {settings : LedgerSettings} {tables : Tables}
    {payer payee : Account} {posting : Bank.Posting} {ids : PostingIds} {time : Instant}
    {transaction : Transaction} {balances : List Balance} {guards : List AccountId}
    (sound : tables.Sound settings.refs) (apart : payer.id ≠ payee.id)
    (posts : tables.Posts settings payer payee posting ids time transaction balances)
    (payer_guarded : payer.id ∈ guards) (payee_guarded : payee.id ∈ guards) :
    ∀ balance ∈ (stagedBalances balances).values, balance.key.accountId ∈ guards := by
  obtain ⟨ledger, _, _, _, _, values, _⟩ := posts.settled sound apart
  intro balance member
  rw [values] at member
  rcases List.mem_cons.mp member with rfl | member
  · rw [sound.balanceIn_key]
    exact payer_guarded
  · rw [List.mem_singleton.mp member, sound.balanceIn_key]
    exact payee_guarded

/-! ## Changes of the tables -/

def Operation.Asks : Operation → Account → Prop
  | getOrCreateBalance account _ => fun other => other = account
  | _ => fun _ => False

namespace Tables

/-- The ledgers stay, or the first one is opened, or the open one is closed and followed. -/
inductive Turns (tables : Tables) : Table LedgerId Ledger → Prop where
  | stays : Turns tables ∅
  | opens {id : LedgerId} {start : Instant} (none : tables.ledgers.values = []) :
      Turns tables ((∅ : Table LedgerId Ledger).insert id (.ofYear id start))
  | rollsOver {id : LedgerId} {newStart : Instant} {current closed : Ledger}
      (stored : current ∈ tables.ledgers.values) (isOpen : current.isOpen = true)
      (closes : current.close newStart = .ok closed) (fresh : closed.id ≠ id) :
      Turns tables (((∅ : Table LedgerId Ledger).insert closed.id closed).insert id
        (.ofYear id newStart))

/-- Nothing is booked, or a balance is opened that was asked for, or two different accounts are
posted to. -/
inductive Books (settings : LedgerSettings) (asked : Account → Prop) (tables : Tables) :
    Table BalanceKey Balance → List Transaction → Prop where
  | nothing : Books settings asked tables ∅ []
  | opening {account : Account} {ledger : Ledger} (isAsked : asked account)
      (stored : ledger ∈ tables.ledgers.values)
      (missing : tables.balances.get? ⟨ledger.id, account.id⟩ = none) :
      Books settings asked tables (stagedBalances [tables.balanceIn account ledger]) []
  | posting {payer payee : Account} {posting : Bank.Posting} {ids : PostingIds} {time : Instant}
      {transaction : Transaction} {balances : List Balance}
      (payer_known : payer ∈ tables.accounts.values) (payee_known : payee ∈ tables.accounts.values)
      (apart : payer.id ≠ payee.id)
      (posts : tables.Posts settings payer payee posting ids time transaction balances) :
      Books settings asked tables (stagedBalances balances) [transaction]

/-- At most one reservation changes; its payer stays the same and is not the pool. -/
inductive Holds (refs : SystemRefs) (tables : Tables) : Table String Reservation → Prop where
  | nothing : Holds refs tables ∅
  | one {reservation : Reservation}
      (apart : tables.Apart reservation.accountReference refs.reservations)
      (kept : ∀ stored, tables.reservations.get? reservation.businessReference = some stored →
        stored.accountReference = reservation.accountReference) :
      Holds refs tables
        ((∅ : Table String Reservation).insert reservation.businessReference reservation)

theorem Holds.of_mem {refs : SystemRefs} {tables : Tables} {staged : Table String Reservation}
    (holds : tables.Holds refs staged) {reservation : Reservation}
    (member : reservation ∈ staged.values) :
    tables.Apart reservation.accountReference refs.reservations ∧
      ∀ stored, tables.reservations.get? reservation.businessReference = some stored →
        stored.accountReference = reservation.accountReference := by
  cases holds with
  | nothing => simp at member
  | one apart kept =>
      rw [Table.values_insert_empty, List.mem_singleton] at member
      rw [member]
      exact ⟨apart, kept⟩

theorem Sound.mem_of_account? {refs : SystemRefs} {tables : Tables} (sound : tables.Sound refs)
    {reference : String} {account : Account} (found : tables.account? reference = some account) :
    account ∈ tables.accounts.values :=
  sound.accounts.mem_of_get? found

theorem Sound.account?_of_mem {refs : SystemRefs} {tables : Tables} (sound : tables.Sound refs)
    {account : Account} (known : account ∈ tables.accounts.values) :
    tables.account? account.reference = some account := by
  rw [account?, sound.trimmed account known]
  exact sound.accounts.get?_name known

theorem Sound.account?_reference {refs : SystemRefs} {tables : Tables} (sound : tables.Sound refs)
    {reference : String} {account : Account} (found : tables.account? reference = some account) :
    tables.account? account.reference = some account := by
  have named : account.reference = Text.trim reference := sound.accounts.name_of_get? found
  rw [account?, named, Text.trim_trim]
  exact found

end Tables

theorem Account.create_eq_ok {id : AccountId} {createdAt : Instant} {reference name : String}
    {accountType : AccountType} {purpose : Purpose} {account : Account}
    (created : create id createdAt reference name accountType purpose = .ok account) :
    account = ⟨id, Text.trim reference, name, accountType, purpose, createdAt⟩ := by
  simp only [create] at created
  split at created
  · cases created
  · exact (Except.ok.inj created).symm

theorem Reservation.create_eq_ok {id : ReservationId} {createdAt : Instant}
    {businessReference : String} {payer : Account} {amount : Money} {reservation : Reservation}
    (created : create id createdAt businessReference payer amount = .ok reservation) :
    reservation.businessReference = Text.trim businessReference ∧
      reservation.accountReference = payer.reference := by
  obtain ⟨-, rfl⟩ := create_eq created
  exact ⟨rfl, rfl⟩

theorem Reservation.charge_eq_ok {reservation charged : Reservation} {amount : Money}
    (charges : reservation.charge amount = .ok charged) :
    charged.businessReference = reservation.businessReference ∧
      charged.accountReference = reservation.accountReference := by
  obtain ⟨-, -, _, -, rfl⟩ := charge_eq charges
  exact ⟨rfl, rfl⟩

namespace Voucher

variable {settings : LedgerSettings} {tables : Tables} {operation : Operation} {work : UnitOfWork}
  {outcome : Outcome} {ids : List Uuid} {times : List Instant}

theorem turns (voucher : Voucher settings tables operation work outcome ids times) :
    tables.Turns work.ledgers := by
  induction voucher with
  | openFirstLedger none => exact .opens none
  | closePeriodAndOpenNext stored isOpen _ closes fresh =>
      exact .rollsOver stored isOpen closes fresh
  | deposit _ ih => exact ih
  | withdraw _ ih => exact ih
  | _ => exact .stays

theorem books (sound : tables.Sound settings.refs)
    (voucher : Voucher settings tables operation work outcome ids times) :
    tables.Books settings operation.Asks work.balances work.transactions := by
  induction voucher with
  | getOrCreateBalance stored _ missing => exact .opening rfl stored missing
  | transfer isPayer isPayee apart posts =>
      exact .posting (sound.mem_of_account? isPayer) (sound.mem_of_account? isPayee) apart posts
  | reserve isPayer isPool apart _ _ posts =>
      exact .posting (sound.mem_of_account? isPayer) (sound.mem_of_account? isPool) apart posts
  | charge isBeneficiary isPool apart _ _ posts =>
      exact .posting (sound.mem_of_account? isPool) (sound.mem_of_account? isBeneficiary) apart
        posts
  | release _ isPayer isPool apart _ _ posts =>
      exact .posting (sound.mem_of_account? isPool) (sound.mem_of_account? isPayer) apart posts
  | deposit _ ih => exact ih
  | withdraw _ ih => exact ih
  | _ => exact .nothing

theorem holds (sound : tables.Sound settings.refs)
    (voucher : Voucher settings tables operation work outcome ids times) :
    tables.Holds settings.refs work.reservations := by
  induction voucher with
  | @reserve _ _ _ payer pool _ _ _ _ _ _ reservation _ _ isPayer isPool apart creates missing _ =>
      have payerReference := (Reservation.create_eq_ok creates).2
      refine .one ⟨payer, pool, ?_, isPool, apart⟩ ?_
      · rw [payerReference]
        exact sound.account?_reference isPayer
      · intro stored found
        rw [missing] at found
        cases found
  | @charge _ _ _ _ _ _ _ _ _ reservation charged _ _ isBeneficiary isPool apart found charges _ =>
      obtain ⟨sameName, samePayer⟩ := Reservation.charge_eq_ok charges
      have name := sound.reservations.name_of_get? found
      refine .one ?_ ?_
      · rw [samePayer]
        exact sound.payers_apart _ (sound.reservations.mem_of_get? found)
      · intro stored found'
        rw [sameName, name, found] at found'
        cases found'
        exact samePayer.symm
  | @release _ _ _ _ _ _ _ _ _ reservation _ _ _ _ found isPayer isPool apart releases _ _ =>
      cases releases
      have name := sound.reservations.name_of_get? found
      have payerApart := sound.payers_apart _ (sound.reservations.mem_of_get? found)
      refine .one payerApart ?_
      intro stored found'
      rw [name, found] at found'
      cases found'
      rfl
  | deposit _ ih => exact ih
  | withdraw _ ih => exact ih
  | _ => exact .nothing

end Voucher

namespace Tables.Located

variable {tables : Tables} {staged staged' : List Account} {reference name : String}
  {accountType : AccountType} {account : Account} {ids : List Uuid} {times : List Instant}

theorem trimmed
    (located : tables.Located staged reference name accountType account staged' ids times)
    (before : ∀ other ∈ staged, Text.trim other.reference = other.reference) :
    ∀ other ∈ staged', Text.trim other.reference = other.reference := by
  cases located with
  | found => exact before
  | created _ created =>
      rw [Account.create_eq_ok created]
      intro other member
      rcases List.mem_append.mp member with member | member
      · exact before other member
      · rw [List.mem_singleton.mp member]
        exact Text.trim_trim reference

private theorem ids_eq
    (located : tables.Located staged reference name accountType account staged' ids times) :
    staged'.map (fun other => other.id.uuid) = staged.map (fun other => other.id.uuid) ++ ids := by
  cases located with
  | found => simp
  | created _ created => simp [Account.create_eq_ok created]

end Tables.Located

namespace Voucher

variable {settings : LedgerSettings} {tables : Tables} {operation : Operation} {work : UnitOfWork}
  {outcome : Outcome} {ids : List Uuid} {times : List Instant}

theorem accounts_trimmed (voucher : Voucher settings tables operation work outcome ids times) :
    ∀ account ∈ work.accounts, Text.trim account.reference = account.reference := by
  induction voucher with
  | ensureSystemAccounts reserve pool premiums =>
      exact premiums.trimmed (pool.trimmed (reserve.trimmed (by simp)))
  | createAccount created =>
      rw [Account.create_eq_ok created]
      simp
  | deposit _ ih => exact ih
  | withdraw _ ih => exact ih
  | _ => simp [UnitOfWork.empty, UnitOfWork.ofPosting]

theorem accounts_ids (voucher : Voucher settings tables operation work outcome ids times) :
    (work.accounts.map fun account => account.id.uuid).Sublist ids := by
  induction voucher with
  | ensureSystemAccounts reserve pool premiums =>
      simp [premiums.ids_eq, pool.ids_eq, reserve.ids_eq]
  | createAccount created => simp [Account.create_eq_ok created]
  | deposit _ ih => exact ih
  | withdraw _ ih => exact ih
  | _ => simp [UnitOfWork.empty, UnitOfWork.ofPosting]

end Voucher

end DoubleEntry
