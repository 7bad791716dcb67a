import DoubleEntry.Proofs.Service.Chronicle
import DoubleEntry.Proofs.Store.Sums

/-!
# What a commit books

A commit leaves balances and journal alone, or it stores one balance as it would
be opened, or it moves two balances and adds the transaction that names them.
`Tables.Booked` says this of the committed tables before and after; what holds of
journal and balances is proved from these three cases.
-/

namespace DoubleEntry

namespace Tables

def settledIn (tables : Tables) (account : Account) (ledger : Ledger) (endAmount : Money) :
    Balance :=
  { tables.balanceIn account ledger with endAmount }.committed

def settle (tables : Tables) (account : Account) (ledger : Ledger) (endAmount : Money)
    (balances : Table BalanceKey Balance) : Table BalanceKey Balance :=
  balances.insert ⟨ledger.id, account.id⟩ (tables.settledIn account ledger endAmount)

inductive Booked (settings : LedgerSettings) (asked : Account → Prop) (before after : Tables) :
    Prop where
  | nothing (balances : after.balances = before.balances)
      (transactions : after.transactions = before.transactions)
  | opening {account : Account} {ledger : Ledger} (isAsked : asked account)
      (stored : ledger ∈ before.ledgers.values)
      (missing : before.balances.get? ⟨ledger.id, account.id⟩ = none)
      (balances : after.balances = before.settle account ledger
        (before.balanceIn account ledger).endAmount before.balances)
      (transactions : after.transactions = before.transactions)
  | posting {payer payee : Account} {ledger : Ledger} {posting : Bank.Posting} {ids : PostingIds}
      {transaction : Transaction} {debitedEnd creditedEnd : Money}
      (payer_known : payer ∈ before.accounts.values) (payee_known : payee ∈ before.accounts.values)
      (apart : payer.id ≠ payee.id) (stored : ledger ∈ before.ledgers.values)
      (postable : ledger.isOpen = true ∨ settings.allowClosedPeriodPosting = true)
      (settled : Settled ledger (before.balanceIn payer ledger) (before.balanceIn payee ledger)
        posting ids transaction debitedEnd creditedEnd)
      (balances : after.balances = before.settle payee ledger creditedEnd
        (before.settle payer ledger debitedEnd before.balances))
      (transactions : after.transactions = before.transactions ++ [transaction])

variable {settings : LedgerSettings} {refs : SystemRefs} {tables : Tables} {account : Account}
  {ledger : Ledger}

/-! ## Balances that are stored or about to be opened -/

theorem balanceIn_of_stored {balance : Balance}
    (found : tables.balances.get? ⟨ledger.id, account.id⟩ = some balance) :
    tables.balanceIn account ledger = balance := by
  rw [balanceIn, found]

theorem balanceIn_of_missing (missing : tables.balances.get? ⟨ledger.id, account.id⟩ = none) :
    tables.balanceIn account ledger =
      .opening ledger account (tables.carried account.id ledger.opensAt) := by
  rw [balanceIn, missing]

theorem share_eq_balanceIn {measure : Balance → Int}
    (opened : ∀ ledger account amount, measure (.opening ledger account amount) = 0) :
    Table.share measure (tables.balances.get? ⟨ledger.id, account.id⟩) =
      measure (tables.balanceIn account ledger) := by
  cases found : tables.balances.get? ⟨ledger.id, account.id⟩ with
  | some balance => rw [balanceIn_of_stored found, Table.share]
  | none => rw [balanceIn_of_missing found, opened, Table.share]

theorem sum_settle {measure : Balance → Int} {balances : Table BalanceKey Balance}
    (opened : ∀ ledger account amount, measure (.opening ledger account amount) = 0)
    (same : balances.get? ⟨ledger.id, account.id⟩ = tables.balances.get? ⟨ledger.id, account.id⟩)
    (endAmount : Money) :
    ((tables.settle account ledger endAmount balances).values.map measure).sum =
      (balances.values.map measure).sum - measure (tables.balanceIn account ledger) +
        measure (tables.settledIn account ledger endAmount) := by
  rw [settle, Table.sum_insert, same, share_eq_balanceIn opened]

@[simp] theorem get?_settle (endAmount : Money) (balances : Table BalanceKey Balance)
    (key : BalanceKey) : (tables.settle account ledger endAmount balances).get? key =
      if (⟨ledger.id, account.id⟩ : BalanceKey) = key then
        some (tables.settledIn account ledger endAmount) else balances.get? key := by
  rw [settle, Table.get?_insert]

end Tables

/-! ## What a posting publishes -/

namespace UnitOfWork

private theorem publish_pair {first second : Balance} (apart : first.key ≠ second.key)
    (reservations : Table String Reservation) (tables : Tables) (transaction : Transaction) :
    (ofPosting transaction [first, second] reservations).publish tables =
      { tables with
        balances := (tables.balances.insert first.key first.committed).insert second.key
          second.committed
        transactions := tables.transactions ++ [transaction]
        reservations := reservations.values.foldl (fun table reservation =>
          table.insert reservation.businessReference reservation.committed)
            tables.reservations } := by
  have balances : (ofPosting transaction [first, second] reservations).balances.values =
    [first, second] := stagedBalances_pair apart
  rw [publish, balances]
  rfl

theorem publish_ofPosting {refs : SystemRefs} {tables : Tables} (sound : tables.Sound refs)
    {payer payee : Account} (ledger : Ledger) (apart : payer.id ≠ payee.id)
    (reservations : Table String Reservation) (transaction : Transaction)
    (payerEnd payeeEnd : Money) :
    (ofPosting transaction [{ tables.balanceIn payer ledger with endAmount := payerEnd },
        { tables.balanceIn payee ledger with endAmount := payeeEnd }] reservations).publish tables =
      { tables with
        balances := tables.settle payee ledger payeeEnd
          (tables.settle payer ledger payerEnd tables.balances)
        transactions := tables.transactions ++ [transaction]
        reservations := reservations.values.foldl (fun table reservation =>
          table.insert reservation.businessReference reservation.committed)
            tables.reservations } := by
  have payerKey : ({ tables.balanceIn payer ledger with endAmount := payerEnd } : Balance).key =
      ⟨ledger.id, payer.id⟩ := sound.balanceIn_key payer ledger
  have payeeKey : ({ tables.balanceIn payee ledger with endAmount := payeeEnd } : Balance).key =
      ⟨ledger.id, payee.id⟩ := sound.balanceIn_key payee ledger
  have keysApart : ({ tables.balanceIn payer ledger with endAmount := payerEnd } : Balance).key ≠
      ({ tables.balanceIn payee ledger with endAmount := payeeEnd } : Balance).key := by
    rw [payerKey, payeeKey]
    exact fun same => apart (congrArg BalanceKey.accountId same)
  rw [publish_pair keysApart, payerKey, payeeKey]
  rfl

end UnitOfWork

/-! ## One balance before and after -/

namespace Tables.Booked

variable {settings : LedgerSettings} {asked : Account → Prop} {before after : Tables}
  {key : BalanceKey} {balance : Balance}

theorem settledIn_of_stored {tables : Tables} {account : Account} {ledger : Ledger}
    (found : tables.balances.get? ⟨ledger.id, account.id⟩ = some balance) (endAmount : Money) :
    ∃ version, tables.settledIn account ledger endAmount = { balance with endAmount, version } := by
  rw [settledIn, balanceIn_of_stored found]
  exact ⟨_, rfl⟩

theorem keeps (booked : before.Booked settings asked after)
    (found : before.balances.get? key = some balance) : ∃ endAmount version,
    after.balances.get? key = some { balance with endAmount, version } := by
  have settles {account : Account} {ledger : Ledger} (endAmount : Money)
      {balances : Table BalanceKey Balance} (kept : ∃ endAmount version,
        balances.get? key = some { balance with endAmount, version }) :
      ∃ endAmount' version, (before.settle account ledger endAmount balances).get? key =
        some { balance with endAmount := endAmount', version } := by
    rw [get?_settle]
    split
    next same =>
      subst same
      obtain ⟨version, settled⟩ := settledIn_of_stored found endAmount
      exact ⟨endAmount, version, congrArg some settled⟩
    next => exact kept
  have kept : ∃ endAmount version,
      before.balances.get? key = some { balance with endAmount, version } := ⟨_, _, found⟩
  cases booked with
  | nothing balances =>
      rw [balances]
      exact kept
  | opening _ _ _ balances =>
      rw [balances]
      exact settles _ kept
  | posting _ _ _ _ _ _ balances =>
      rw [balances]
      exact settles _ (settles _ kept)

/-- A balance was there before, or it was asked for and opened, or it was posted to. -/
theorem arises (booked : before.Booked settings asked after)
    (found : after.balances.get? key = some balance) :
    before.balances.get? key = some balance ∨
      ∃ account, (asked account ∨ account ∈ before.accounts.values) ∧
        ∃ ledger ∈ before.ledgers.values, ∃ endAmount, key = ⟨ledger.id, account.id⟩ ∧
        balance = before.settledIn account ledger endAmount ∧
        (before.balances.get? key = none ∧ endAmount = (before.balanceIn account ledger).endAmount ∨
          (ledger.isOpen = true ∨ settings.allowClosedPeriodPosting = true) ∧
          ((before.balanceIn account ledger).isOverdraftProtected = true →
            0 ≤ endAmount.minorUnits)) := by
  cases booked with
  | nothing balances => exact .inl (by rw [← balances, found])
  | @opening account ledger isAsked stored missing balances =>
      rw [balances, get?_settle] at found
      split at found
      next same =>
        cases same
        exact .inr ⟨account, .inl isAsked, ledger, stored, _, rfl, (Option.some.inj found).symm,
          .inl ⟨missing, rfl⟩⟩
      next => exact .inl found
  | @posting payer payee ledger _ _ _ _ _ payer_known payee_known _ stored postable settled
      balances =>
      rw [balances, get?_settle] at found
      split at found
      next same =>
        cases same
        exact .inr ⟨payee, .inr payee_known, ledger, stored, _, rfl, (Option.some.inj found).symm,
          .inr ⟨postable, settled.credited_covered⟩⟩
      next =>
        rw [get?_settle] at found
        split at found
        next same =>
          cases same
          exact .inr ⟨payer, .inr payer_known, ledger, stored, _, rfl, (Option.some.inj found).symm,
            .inr ⟨postable, settled.debited_covered⟩⟩
        next => exact .inl found

end Tables.Booked

/-! ## From vouchers -/

private theorem Tables.Books.booked {settings : LedgerSettings} {asked : Account → Prop}
    {tables after : Tables} {staged : Table BalanceKey Balance} {transactions : List Transaction}
    (sound : tables.Sound settings.refs) (books : tables.Books settings asked staged transactions)
    (balances : after.balances = staged.values.foldl
      (fun t balance => t.insert balance.key balance.committed) tables.balances)
    (posted : after.transactions = tables.transactions ++ transactions) :
    tables.Booked settings asked after := by
  cases books with
  | nothing => exact .nothing balances (by simpa using posted)
  | @opening account ledger isAsked stored missing =>
      have values : (stagedBalances [tables.balanceIn account ledger]).values =
          [tables.balanceIn account ledger] := rfl
      rw [values, List.foldl_cons, List.foldl_nil, sound.balanceIn_key] at balances
      exact .opening isAsked stored missing balances (by simpa using posted)
  | @posting payer payee _ _ _ _ _ payer_known payee_known apart posts =>
      obtain ⟨ledger, stored, postable, debitedEnd, creditedEnd, values, settled⟩ :=
        posts.settled sound apart
      have debitedKey : ({ tables.balanceIn payer ledger with
          endAmount := debitedEnd } : Balance).key = ⟨ledger.id, payer.id⟩ :=
        sound.balanceIn_key payer ledger
      have creditedKey : ({ tables.balanceIn payee ledger with
          endAmount := creditedEnd } : Balance).key = ⟨ledger.id, payee.id⟩ :=
        sound.balanceIn_key payee ledger
      rw [values, List.foldl_cons, List.foldl_cons, List.foldl_nil, debitedKey,
        creditedKey] at balances
      exact .posting payer_known payee_known apart stored postable settled balances posted

theorem Voucher.booked {settings : LedgerSettings} {tables : Tables} {operation : Operation}
    {work : UnitOfWork} {outcome : Outcome} {ids : List Uuid} {times : List Instant}
    (sound : tables.Sound settings.refs)
    (voucher : Voucher settings tables operation work outcome ids times) :
    tables.Booked settings operation.Asks (work.publish tables) :=
  (voucher.books sound).booked sound rfl rfl

end DoubleEntry
