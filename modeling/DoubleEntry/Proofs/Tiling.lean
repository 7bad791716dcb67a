import DoubleEntry.Proofs.Service.Identity

/-!
# Periods tile time and contain their postings

In every state that operations reach, in whatever order they make their steps, the
ledgers stand in a row in which each closes where the next one opens and only the
last is open.  A search for the ledger of an instant therefore succeeds from the
first opening on, and with the only ledger that covers it.  What was posted to a
ledger lies in its period: a posting is checked against the ledger that it read,
and the commit that closes a ledger is checked against the postings that it has.
-/

namespace DoubleEntry

private theorem Tiles.isChain {ledgers : List Ledger} (tiles : Tiles ledgers) :
    ledgers.IsChain fun a b => a.closesAt = some b.opensAt := by
  induction tiles with
  | none => exact .nil
  | last => exact .singleton _
  | before meets _ _ _ ih => exact .cons_cons meets ih

namespace Tables

def row (tables : Tables) : List Ledger :=
  sortBy (fun a b => a.opensAt ≤ b.opensAt) tables.ledgers.values

def Contained (tables : Tables) : Prop :=
  ∀ transaction ∈ tables.transactions, ∃ ledger ∈ tables.ledgers.values,
    ledger.id = transaction.ledgerId ∧ ledger.covers transaction.accountingTime

/-- The periods follow each other, are found by their instants, and contain their postings. -/
structure Tiled (tables : Tables) : Prop where
  ascends : tables.row.Pairwise fun a b => a.opensAt < b.opensAt
  meets : tables.row.IsChain fun a b => a.closesAt = some b.opensAt
  open_iff_last : ∀ ledger ∈ tables.row, ledger.isOpen ↔ tables.row.getLast? = some ledger
  found_iff_begun : ∀ (work : UnitOfWork) (time : Instant), work.ledgers = ∅ →
    ((work.ledgerAt tables time).isSome ↔
      ∃ first, tables.row.head? = some first ∧ first.opensAt ≤ time)
  found_alone : ∀ (work : UnitOfWork) (time : Instant) (ledger : Ledger), work.ledgers = ∅ →
    work.ledgerAt tables time = some ledger →
      ledger ∈ tables.row ∧ ledger.covers time ∧
        ∀ other ∈ tables.row, other.covers time → other = ledger
  postings_inside : ∀ transaction ∈ tables.transactions, ∃ ledger,
    tables.ledgers.get? transaction.ledgerId = some ledger ∧
      ledger.covers transaction.accountingTime

variable {settings : LedgerSettings} {tables : Tables}

private theorem row_eq (tiles : Tiles tables.ledgers.values) :
    tables.row = tables.ledgers.values := by
  apply sortBy_of_pairwise
  exact tiles.pairwise.imp fun opensBefore => decide_eq_true (Nat.le_of_lt opensBefore)

private theorem Books.covers {staged : Table BalanceKey Balance} {transactions : List Transaction}
    {asked : Account → Prop} (sound : tables.Sound settings.refs)
    (books : tables.Books settings asked staged transactions)
    {transaction : Transaction} (member : transaction ∈ transactions) :
    ∃ ledger ∈ tables.ledgers.values, ledger.id = transaction.ledgerId ∧
      ledger.covers transaction.accountingTime := by
  cases books with
  | nothing => cases member
  | opening => cases member
  | posting _ _ apart posts =>
      obtain ⟨ledger, stored, _, _, _, _, settled⟩ := posts.settled sound apart
      rw [List.mem_singleton.mp member, settled.ledgerId, settled.accountingTime]
      exact ⟨ledger, stored, rfl, settled.covers⟩

end Tables

/-! ## What a commit keeps -/

private theorem Voucher.unposted_or_unturned {settings : LedgerSettings} {tables : Tables}
    {operation : Operation} {work : UnitOfWork} {outcome : Outcome} {ids : List Uuid}
    {times : List Instant}
    (voucher : Voucher settings tables operation work outcome ids times) :
    work.transactions = [] ∨ work.ledgers = ∅ := by
  induction voucher with
  | openFirstLedger => exact .inl rfl
  | closePeriodAndOpenNext => exact .inl rfl
  | deposit _ ih => exact ih
  | withdraw _ ih => exact ih
  | _ => exact .inr rfl

namespace UnitOfWork

variable {settings : LedgerSettings} {tables : Tables} {work : UnitOfWork} {operation : Operation}
  {outcome : Outcome} {ids : List Uuid} {times : List Instant}

private theorem publish_covers (sound : tables.Sound settings.refs)
    (voucher : Voucher settings tables operation work outcome ids times)
    (acceptable : work.Acceptable tables) {transaction : Transaction}
    (posted : transaction ∈ tables.transactions) {ledger : Ledger}
    (stored : ledger ∈ tables.ledgers.values) (names : ledger.id = transaction.ledgerId)
    (covers : ledger.covers transaction.accountingTime) :
    ∃ later ∈ (work.publish tables).ledgers.values, later.id = transaction.ledgerId ∧
      later.covers transaction.accountingTime := by
  have continues := publish_continues sound voucher acceptable
  obtain ⟨later, member, sameId, opensAt, same | ⟨wasOpen, isClosed⟩⟩ :=
    continues.remembers ledger stored
  · exact ⟨later, member, sameId.trans names, by rw [same]; exact covers⟩
  · refine ⟨later, member, sameId.trans names, ?_⟩
    rcases Table.mem_of_mem_foldl_insert Ledger.id Ledger.committed member with
      known | ⟨staged, among, rfl⟩
    · have same := sound.ledgers.eq_of_name known stored sameId
      simp [same, wasOpen] at isClosed
    · have ends := acceptable.postings_inside staged among
      rw [Ledger.covers_iff, opensAt]
      exact ⟨(Ledger.covers_iff.mp covers).1, fun closesAt closes =>
        ends closesAt closes transaction posted (names.symm.trans sameId.symm)⟩

private theorem publish_contained (sound : tables.Sound settings.refs)
    (voucher : Voucher settings tables operation work outcome ids times)
    (acceptable : work.Acceptable tables) (contained : tables.Contained) :
    (work.publish tables).Contained := by
  intro transaction member
  have member : transaction ∈ tables.transactions ++ work.transactions := member
  rcases List.mem_append.mp member with posted | new
  · obtain ⟨ledger, stored, names, covers⟩ := contained transaction posted
    exact publish_covers sound voucher acceptable posted stored names covers
  · rcases voucher.unposted_or_unturned with unposted | unturned
    · simp [unposted] at new
    · have same : (work.publish tables).ledgers = tables.ledgers := by simp [publish, unturned]
      rw [same]
      exact (voucher.books sound).covers sound new

end UnitOfWork

/-! ## Along a run -/

private theorem Chronicle.contained {surroundings : Surroundings} {settings : LedgerSettings}
    {admission : Admission} {deeds : List Deed} {tables : Tables}
    (chronicle : Chronicle surroundings settings admission deeds tables) : tables.Contained := by
  induction chronicle with
  | nothing => simp [Tables.Contained, Tables.empty]
  | deed deed voucher acceptable _ chronicle ih =>
      exact UnitOfWork.publish_contained chronicle.sound voucher acceptable ih

/-- Periods tile time and contain their postings in every state that operations reach. -/
theorem System.Reachable.tiled {surroundings : Surroundings} {settings : LedgerSettings}
    {system : System}
    (reachable : System.Reachable surroundings (Admission.any.Allowed settings) system) :
    system.world.store.tables.Tiled := by
  obtain ⟨_, deeds, _, orderly⟩ := reachable.exists_orderly
  have chronicle := orderly.chronicle
  have sound := chronicle.sound
  have tiles := sound.tiles
  have row := Tables.row_eq tiles
  constructor
  case ascends =>
    rw [row]
    exact tiles.pairwise
  case meets =>
    rw [row]
    exact tiles.isChain
  case open_iff_last =>
    rw [row]
    exact fun ledger member => tiles.isOpen_iff_getLast? member
  case found_iff_begun =>
    intro work time unstaged
    rw [row, UnitOfWork.ledgerAt, UnitOfWork.ledgerView_eq unstaged tiles]
    exact tiles.find?_covers_isSome_iff
  case found_alone =>
    intro work time ledger unstaged found
    obtain ⟨stored, covers⟩ := (UnitOfWork.ledgerAt_eq_some_iff unstaged tiles).mp found
    rw [row]
    exact ⟨stored, covers, fun other among also => tiles.eq_of_covers among stored also covers⟩
  case postings_inside =>
    intro transaction posted
    obtain ⟨ledger, stored, names, covers⟩ := chronicle.contained transaction posted
    exact ⟨ledger, sound.ledgers.get?_eq_some_iff.mpr ⟨stored, names⟩, covers⟩

/-- Two first ledgers are opened side by side, and a posting at the very instant of a rollover has
read the ledger that the rollover closes: the second opening and that posting are refused.  A
balance is opened for an account that is not stored. -/
theorem System.Reachable.tiled_race : ∃ system,
    System.Reachable .counting (Admission.any.Allowed .standard) system ∧
    system.tasks.map (fun task => task.result?.map Except.isOk) = [some true, some true,
      some false, some true, some true, some true, some true, some false, some true] ∧
    system.world.store.tables.row.map (fun ledger => ledger.closesAt.isSome) = [true, false] ∧
    system.world.store.tables.transactions.map (fun posted => posted.accountingTime.seconds) =
      [0, 100] ∧
    system.world.store.tables.Tiled := by
  let boundary : Instant := ⟨100, 0, by decide, by decide, by decide⟩
  let stranger : Account := ⟨⟨⟨99⟩⟩, "c", "c", .asset, .current, .epoch⟩
  have start : System.Reachable .counting (Admission.any.Allowed .standard) .empty := .empty
  have started := start.startAll [.ensureSystemAccounts, .openFirstLedger .epoch,
    .openFirstLedger .epoch, .createAccount "a" "a" .liability .current,
    .getOrCreateBalance stranger .epoch, .deposit "a" ⟨⟨100, by decide, by decide⟩, "", .epoch⟩,
    .closePeriodAndOpenNext boundary, .deposit "a" ⟨⟨50, by decide, by decide⟩, "", boundary⟩,
    .deposit "a" ⟨⟨50, by decide, by decide⟩, "", boundary⟩]
  have reachable := started.stepAll (List.replicate 20 0 ++ [1, 2, 1, 2, 1, 2] ++
    List.replicate 10 1 ++ List.replicate 10 2 ++ List.replicate 10 3 ++ List.replicate 10 4 ++
    List.replicate 30 5 ++ List.replicate 9 7 ++ List.replicate 12 6 ++ List.replicate 30 7 ++
    List.replicate 30 8)
  refine ⟨_, reachable, ?_, ?_, ?_, System.Reachable.tiled reachable⟩
  · decide +kernel
  · decide +kernel
  · decide +kernel

end DoubleEntry
