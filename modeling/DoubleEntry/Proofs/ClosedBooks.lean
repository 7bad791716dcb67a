import DoubleEntry.Proofs.Service.Replay
import DoubleEntry.Proofs.Service.Seamless

/-!
# Closed books are frozen

Two states of one run are compared.  Whatever the settings, a run only adds to the
journal, and no balance ever starts with another amount (`Grows`).  While closed
periods stay closed to postings, it also leaves alone what is booked under a closed
ledger and everything that is carried over (`Freezes`).  A balance may still be
opened in a closed ledger; it is worth what the bank answered without it, as both
are what the next ledger takes over.
-/

namespace DoubleEntry

namespace Tables

def postedTo (tables : Tables) (id : LedgerId) : List Transaction :=
  tables.transactions.filter fun transaction => transaction.ledgerId = id

structure Grows (before after : Tables) : Prop where
  accounts : ∀ account ∈ before.accounts.values, account ∈ after.accounts.values
  continues : before.Continues after
  journal : before.transactions <+: after.transactions
  starts : ∀ key balance, before.balances.get? key = some balance →
    ∃ still, after.balances.get? key = some still ∧ still.startAmount = balance.startAmount

structure Freezes (before after : Tables) : Prop extends Grows before after where
  postings : ∀ ledger ∈ before.ledgers.values, ledger.isOpen = false →
    after.postedTo ledger.id = before.postedTo ledger.id
  balances : ∀ ledger ∈ before.ledgers.values, ledger.isOpen = false → ∀ account balance,
    before.balances.get? ⟨ledger.id, account⟩ = some balance →
      after.balances.get? ⟨ledger.id, account⟩ = some balance
  carries : ∀ ledger ∈ before.ledgers.values, ∀ account,
    after.carried account ledger.opensAt = before.carried account ledger.opensAt

variable {settings : LedgerSettings} {asked : Account → Prop} {refs : SystemRefs}
  {before after : Tables}

theorem Grows.refl (tables : Tables) : tables.Grows tables where
  accounts _ known := known
  continues := .refl tables
  journal := List.prefix_rfl
  starts _ balance found := ⟨balance, found, rfl⟩

theorem Grows.trans {first second third : Tables} (h : first.Grows second)
    (h' : second.Grows third) : first.Grows third where
  accounts account known := h'.accounts account (h.accounts account known)
  continues := h.continues.trans h'.continues
  journal := h.journal.trans h'.journal
  starts key balance found := by
    obtain ⟨middle, found', same⟩ := h.starts key balance found
    obtain ⟨still, found'', same'⟩ := h'.starts key middle found'
    exact ⟨still, found'', same'.trans same⟩

private theorem Grows.mem_of_closed (grows : before.Grows after) {ledger : Ledger}
    (stored : ledger ∈ before.ledgers.values) (isClosed : ledger.isOpen = false) :
    ledger ∈ after.ledgers.values :=
  (grows.continues.remembers ledger stored).mem_of_closed isClosed

private theorem Freezes.refl (tables : Tables) : tables.Freezes tables where
  toGrows := .refl tables
  postings _ _ _ := rfl
  balances _ _ _ _ _ found := found
  carries _ _ _ := rfl

private theorem Freezes.trans {first second third : Tables} (h : first.Freezes second)
    (h' : second.Freezes third) : first.Freezes third where
  toGrows := h.toGrows.trans h'.toGrows
  postings ledger stored isClosed := by
    rw [h'.postings ledger (h.mem_of_closed stored isClosed) isClosed,
      h.postings ledger stored isClosed]
  balances ledger stored isClosed account balance found :=
    h'.balances ledger (h.mem_of_closed stored isClosed) isClosed account balance
      (h.balances ledger stored isClosed account balance found)
  carries ledger stored account := by
    obtain ⟨known, stored', _, opensAt, _⟩ := h.continues.remembers ledger stored
    have carries := h'.carries known stored' account
    rw [opensAt] at carries
    rw [carries, h.carries ledger stored account]

/-! ## What a commit books under closed ledgers -/

private theorem id_ne_of_postable (closed : settings.allowClosedPeriodPosting = false)
    (sound : before.Sound refs) {current ledger : Ledger}
    (member : current ∈ before.ledgers.values)
    (postable : current.isOpen = true ∨ settings.allowClosedPeriodPosting = true)
    (stored : ledger ∈ before.ledgers.values) (isClosed : ledger.isOpen = false) :
    current.id ≠ ledger.id := by
  intro same
  have isOpen : current.isOpen = true := postable.resolve_right (by simp [closed])
  rw [sound.ledgers.eq_of_name member stored same, isClosed] at isOpen
  cases isOpen

namespace Booked

private theorem journal (booked : before.Booked settings asked after) :
    before.transactions <+: after.transactions := by
  cases booked with
  | nothing _ transactions => rw [transactions]
  | opening _ _ _ _ transactions => rw [transactions]
  | posting _ _ _ _ _ _ _ transactions =>
      rw [transactions]
      exact List.prefix_append _ _

private theorem postedTo_eq (closed : settings.allowClosedPeriodPosting = false)
    (sound : before.Sound refs) (booked : before.Booked settings asked after) {ledger : Ledger}
    (stored : ledger ∈ before.ledgers.values) (isClosed : ledger.isOpen = false) :
    after.postedTo ledger.id = before.postedTo ledger.id := by
  cases booked with
  | nothing _ transactions => rw [postedTo, transactions, postedTo]
  | opening _ _ _ _ transactions => rw [postedTo, transactions, postedTo]
  | @posting _ _ current _ _ transaction _ _ _ _ _ member postable settled _ transactions =>
      have elsewhere : transaction.ledgerId ≠ ledger.id := by
        rw [settled.ledgerId]
        exact id_ne_of_postable closed sound member postable stored isClosed
      simp [postedTo, transactions, elsewhere]

private theorem keeps_closed (closed : settings.allowClosedPeriodPosting = false)
    (sound : before.Sound refs) (booked : before.Booked settings asked after) {ledger : Ledger}
    (stored : ledger ∈ before.ledgers.values) (isClosed : ledger.isOpen = false)
    {account : AccountId} {balance : Balance}
    (found : before.balances.get? ⟨ledger.id, account⟩ = some balance) :
    after.balances.get? ⟨ledger.id, account⟩ = some balance := by
  obtain ⟨endAmount, version, found'⟩ := booked.keeps found
  rcases booked.arises found' with
    still | ⟨_, _, current, member, _, key, _, ⟨missing, _⟩ | ⟨postable, _⟩⟩
  · rw [found', ← still, found]
  · simp [missing] at found
  · have elsewhere := id_ne_of_postable closed sound member postable stored isClosed
    exact absurd (congrArg BalanceKey.ledgerId key).symm elsewhere

end Booked

private theorem Freezes.endAmount_eq (freezes : before.Freezes after)
    (tiles : Tiles before.ledgers.values) (tiles' : Tiles after.ledgers.values) {ledger : Ledger}
    (stored : ledger ∈ before.ledgers.values) (isClosed : ledger.isOpen = false)
    (account : Account) :
    (after.balanceIn account ledger).endAmount = (before.balanceIn account ledger).endAmount := by
  obtain ⟨next, member, closes, takesOver⟩ := exists_next_carried tiles stored isClosed
  obtain ⟨next', _, closes', takesOver'⟩ :=
    exists_next_carried tiles' (freezes.mem_of_closed stored isClosed) isClosed
  have opensAt : next'.opensAt = next.opensAt := Option.some.inj (closes'.symm.trans closes)
  calc (after.balanceIn account ledger).endAmount
      = after.carried account.id next'.opensAt := takesOver' account
    _ = after.carried account.id next.opensAt := by rw [opensAt]
    _ = before.carried account.id next.opensAt := freezes.carries next member account.id
    _ = (before.balanceIn account ledger).endAmount := (takesOver account).symm

end Tables

/-! ## Along a run -/

namespace UnitOfWork

variable {settings : LedgerSettings} {tables : Tables} {work : UnitOfWork} {operation : Operation}
  {outcome : Outcome} {ids : List Uuid} {times : List Instant}

private theorem publish_grows (sound : tables.Sound settings.refs)
    (voucher : Voucher settings tables operation work outcome ids times)
    (acceptable : work.Acceptable tables) : tables.Grows (work.publish tables) where
  accounts _ known := mem_publish_accounts sound voucher acceptable known
  continues := publish_continues sound voucher acceptable
  journal := (voucher.booked sound).journal
  starts _ _ found := by
    obtain ⟨_, _, found'⟩ := (voucher.booked sound).keeps found
    exact ⟨_, found', rfl⟩

private theorem publish_freezes (closed : settings.allowClosedPeriodPosting = false)
    (sound : tables.Sound settings.refs)
    (voucher : Voucher settings tables operation work outcome ids times)
    (acceptable : work.Acceptable tables) : tables.Freezes (work.publish tables) where
  toGrows := publish_grows sound voucher acceptable
  postings _ stored isClosed := (voucher.booked sound).postedTo_eq closed sound stored isClosed
  balances _ stored isClosed _ _ found :=
    (voucher.booked sound).keeps_closed closed sound stored isClosed found
  carries _ stored account := (voucher.booked sound).carried_eq closed sound
    (publish_grows sound voucher acceptable).continues account stored

end UnitOfWork

namespace Chronicle

variable {surroundings : Surroundings} {settings : LedgerSettings} {admission : Admission}
  {deeds deeds' : List Deed} {before after : Tables}

private theorem grows (chronicle : Chronicle surroundings settings admission deeds before)
    (chronicle' : Chronicle surroundings settings admission deeds' after)
    (extended : deeds <+: deeds') :
    before.Grows after := by
  refine chronicle.later chronicle' extended (.refl before) ?_
  intro _ _ deed known voucher acceptable sofar
  exact sofar.trans (UnitOfWork.publish_grows known.sound voucher acceptable)

private theorem freezes (closed : settings.allowClosedPeriodPosting = false)
    (chronicle : Chronicle surroundings settings admission deeds before)
    (chronicle' : Chronicle surroundings settings admission deeds' after)
    (extended : deeds <+: deeds') :
    before.Freezes after := by
  refine chronicle.later chronicle' extended (.refl before) ?_
  intro _ _ deed known voucher acceptable sofar
  exact sofar.trans (UnitOfWork.publish_freezes closed known.sound voucher acceptable)

end Chronicle

/-- What stays of a closed ledger: its record, its postings, its balances and every answer. -/
structure World.Frozen (surroundings : Surroundings) (ledger : Ledger) (world later : World) :
    Prop where
  record : later.store.tables.ledgers.get? ledger.id = some ledger
  postings : later.store.tables.postedTo ledger.id = world.store.tables.postedTo ledger.id
  balances : ∀ balance ∈ world.store.tables.balances.values, balance.key.ledgerId = ledger.id →
    later.store.tables.balances.get? balance.key = some balance
  answers : ∀ account ∈ world.store.tables.accounts.values, ∀ time, ledger.covers time →
    ∃ amount, ((Bank.getBalance account.reference time).run surroundings world).1 = .ok amount ∧
      ((Bank.getBalance account.reference time).run surroundings later).1 = .ok amount

structure World.Kept (surroundings : Surroundings) (settings : LedgerSettings)
    (world later : World) : Prop where
  journal : world.store.tables.transactions <+: later.store.tables.transactions
  starts : ∀ balance ∈ world.store.tables.balances.values, ∃ still,
    later.store.tables.balances.get? balance.key = some still ∧
      still.startAmount = balance.startAmount
  closed : settings.allowClosedPeriodPosting = false →
    ∀ ledger ∈ world.store.tables.ledgers.values, ledger.isOpen = false →
      world.Frozen surroundings ledger later

/-- A run only adds to the journal, and while closed periods stay closed, they are frozen. -/
theorem Operation.Later.kept {surroundings : Surroundings} {settings : LedgerSettings}
    {world later : World} (isLater : Operation.Later surroundings settings world later) :
    world.Kept surroundings settings later := by
  obtain ⟨deeds, deeds', extended, chronicle, chronicle'⟩ := isLater.exists_chronicles
  have sound := chronicle.sound
  have sound' := chronicle'.sound
  have grows := chronicle.grows chronicle' extended
  constructor
  case journal => exact grows.journal
  case starts =>
    intro balance member
    exact grows.starts balance.key balance (sound.balances.get?_name member)
  case closed =>
    intro closed ledger stored isClosed
    have freezes := chronicle.freezes closed chronicle' extended
    have stored' := freezes.mem_of_closed stored isClosed
    constructor
    case record => exact sound'.ledgers.get?_name stored'
    case postings => exact freezes.postings ledger stored isClosed
    case balances =>
      intro balance member inside
      have found := sound.balances.get?_name member
      obtain ⟨⟨id, account⟩, _⟩ := balance
      cases inside
      exact freezes.balances ledger stored isClosed account _ found
    case answers =>
      intro account known time covers
      refine ⟨_, Bank.getBalance_run sound known stored covers, ?_⟩
      rw [Bank.getBalance_run sound' (freezes.accounts account known) stored' covers,
        freezes.endAmount_eq sound.tiles sound'.tiles stored isClosed account]

/-- A balance is opened in the closed ledger, where a deposit is refused, and another ledger is
closed. -/
theorem Operation.Later.kept_opening : ∃ (world later : World) (ledger : Ledger),
    Operation.Reaches .counting .standard .empty world ∧
    Operation.Reaches .counting .standard world later ∧
    ledger ∈ world.store.tables.ledgers.values ∧ ledger.isOpen = false ∧
    (later.store.tables.balances.values.filter fun balance =>
      balance.key.ledgerId = ledger.id).length =
      (world.store.tables.balances.values.filter fun balance =>
        balance.key.ledgerId = ledger.id).length + 1 ∧
    (later.store.tables.postedTo ledger.id).length = 1 ∧
    later.store.tables.transactions.length = 2 ∧
    world.Frozen .counting ledger later ∧ world.Kept .counting .standard later := by
  let second : Instant := ⟨100, 0, by decide, by decide, by decide⟩
  let third : Instant := ⟨200, 0, by decide, by decide, by decide⟩
  let first : Ledger := ⟨⟨⟨3⟩⟩, "1970", .epoch, some second, 2⟩
  let account : Account := ⟨⟨⟨5⟩⟩, "b", "b", .liability, .current, .epoch⟩
  let before : List Operation := [.ensureSystemAccounts, .openFirstLedger .epoch,
    .createAccount "a" "a" .liability .current, .createAccount "b" "b" .liability .current,
    .deposit "a" ⟨⟨100, by decide, by decide⟩, "", .epoch⟩, .closePeriodAndOpenNext second]
  let after : List Operation := [.getOrCreateBalance account .epoch,
    .deposit "b" ⟨⟨40, by decide, by decide⟩, "", .epoch⟩,
    .deposit "b" ⟨⟨40, by decide, by decide⟩, "", second⟩, .closePeriodAndOpenNext third]
  let world : World := (Operation.runAll .counting .standard before .empty).2
  have start : Operation.Reaches .counting .standard .empty .empty := .refl
  have reachable : Operation.Reaches .counting .standard .empty world := start.runAll before
  have still : Operation.Reaches .counting .standard world world := .refl
  have reaches := still.runAll after
  have kept := Operation.Later.kept (.inTurn reachable reaches)
  have stored : first ∈ world.store.tables.ledgers.values := by decide +kernel
  refine ⟨_, _, first, reachable, reaches, stored, rfl, ?opens, ?once, ?twice,
    kept.closed rfl first stored rfl, kept⟩
  case opens => decide +kernel
  case once => decide +kernel
  case twice => decide +kernel

end DoubleEntry
