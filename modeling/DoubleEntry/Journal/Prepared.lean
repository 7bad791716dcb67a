import DoubleEntry.Journal.Draft

/-!
# Prepared transactions

Preparing a draft checks it and works out the net change of every balance that it
touches, in the order of the balance keys.  Applying a prepared transaction
changes all of these balances or none: `apply` gives the new balances,
`applyInPlace` works on balances that their owner sees whatever comes of it.
-/

namespace DoubleEntry

structure Delta where
  balance : BalanceKey
  amount : Money
  deriving DecidableEq, Repr

namespace Delta

/-- Adds `effect` to the change of `key` in a list that ascends by key. -/
def accumulate (key : BalanceKey) (effect : Money) : List Delta → Except Overflow (List Delta)
  | [] => .ok [⟨key, effect⟩]
  | delta :: deltas =>
    match compare key delta.balance with
    | .lt => .ok (⟨key, effect⟩ :: delta :: deltas)
    | .eq => do return { delta with amount := ← delta.amount.add effect } :: deltas
    | .gt => do return delta :: (← accumulate key effect deltas)

def count (deltas : List Delta) (line : Line) : Except Overflow (List Delta) := do
  let effect ← line.entryType.effect line.accountType line.amount
  accumulate line.balance effect deltas

def ofLines (lines : List Line) : Except Overflow (List Delta) := lines.foldlM count []

end Delta

structure Prepared where
  transaction : Transaction
  deltas : List Delta
  deriving DecidableEq, Repr

/-! ## Preparing -/

structure PostingIds where
  transaction : TransactionId
  entry : Nat → EntryId

def Line.toEntry (line : Line) (id : EntryId) : Entry :=
  ⟨id, line.balance, line.balance.accountId, line.accountType, line.entryType, line.amount⟩

def Draft.prepare (draft : Draft) (ids : PostingIds) : Except LedgerError Prepared := do
  if let some line := draft.lines.find? fun line => line.balance.ledgerId ≠ draft.ledgerId then
    throw (.balanceLedgerMismatch draft.ledgerId line.balance.ledgerId)
  let totals ← Totals.ofLines draft.lines
  let deltas ← Overflow.lift (Delta.ofLines draft.lines)
  let transaction : Transaction := {
    id := ids.transaction
    ledgerId := draft.ledgerId
    description := draft.description
    accountingTime := draft.accountingTime
    transactionTime := draft.transactionTime
    entries := draft.lines.mapIdx fun position line => line.toEntry (ids.entry position)
    total := totals.debit }
  return ⟨transaction, deltas⟩

/-! ## Applying -/

namespace Balance

/-- Gives the first balance with this key a new end amount. -/
def settle (key : BalanceKey) (endAmount : Money) : List Balance → List Balance
  | [] => []
  | balance :: balances =>
    if balance.key = key then { balance with endAmount } :: balances
    else balance :: settle key endAmount balances

end Balance

namespace Prepared

def deltaFor (prepared : Prepared) (key : BalanceKey) : Money :=
  match prepared.deltas.find? fun delta => delta.balance = key with
  | some delta => delta.amount
  | none => .zero

def outcome (balances : List Balance) (delta : Delta) : Except LedgerError Money :=
  match balances.find? fun balance => balance.key = delta.balance with
  | some balance => balance.projected delta.amount
  | none => .error (.balanceNotLoaded delta.balance)

def apply (prepared : Prepared) (balances : List Balance) :
    Except LedgerError (Transaction × List Balance) := do
  let endAmounts ← prepared.deltas.mapM (outcome balances)
  let settled := (prepared.deltas.zip endAmounts).foldl
    (fun balances (delta, endAmount) => Balance.settle delta.balance endAmount balances) balances
  return (prepared.transaction, settled)

end Prepared

/-! ## Applying in place -/

/-- Work on balances that belong to somebody else.  What it has changed stays changed, also where
it fails. -/
abbrev InPlace := ExceptT LedgerError (StateM (List Balance))

def InPlace.on {α : Type} (work : InPlace α) (balances : List Balance) :
    Except LedgerError α × List Balance :=
  (ExceptT.run work).run balances

namespace Prepared

def locate (delta : Delta) : InPlace (Nat × Money) := do
  match (← get).zipIdx.find? fun (balance, _) => balance.key = delta.balance with
  | some (balance, index) => return (index, ← balance.projected delta.amount)
  | none => throw (.balanceNotLoaded delta.balance)

/-- Every new end amount is known before the first balance changes. -/
def applyInPlace (prepared : Prepared) : InPlace Transaction := do
  let updates ← prepared.deltas.mapM locate
  updates.forM fun (index, endAmount) =>
    modify fun balances => balances.modify index ({ · with endAmount })
  return prepared.transaction

end Prepared

def Draft.carryOut (draft : Draft) (ids : PostingIds) : InPlace Transaction := do
  let prepared ← draft.prepare ids
  prepared.applyInPlace

end DoubleEntry
