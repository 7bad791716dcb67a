import DoubleEntry.Program.Request

/-!
# Actions

An action is what an operation is going to do: it is done, it failed, or it makes
a request and goes on with the reply.  Actions are data, so the same operation can
be run alone or step by step among others.
-/

namespace DoubleEntry

inductive Action (α : Type) where
  | done (value : α)
  | failed (e : LedgerError)
  | request (request : Request) (next : request.Reply → Action α)

namespace Action

variable {α β : Type}

def bind : Action α → (α → Action β) → Action β
  | done value, rest => rest value
  | failed e, _ => failed e
  | request q next, rest => request q fun reply => (next reply).bind rest

instance : Monad Action where
  pure := done
  bind := bind

def handleError : Action α → (LedgerError → Action α) → Action α
  | done value, _ => done value
  | failed e, handle => handle e
  | request q next, handle => request q fun reply => (next reply).handleError handle

instance : MonadExceptOf LedgerError Action where
  throw := failed
  tryCatch := handleError

def ofExcept : Except LedgerError α → Action α
  | .ok value => done value
  | .error e => failed e

instance : MonadLift (Except LedgerError) Action := ⟨ofExcept⟩

def orThrow (found : Option α) (e : LedgerError) : Action α :=
  match found with
  | some value => done value
  | none => failed e

/-! ## Single requests -/

def openWork : Action Unit := request .openWork done

def acquire (account : AccountId) : Action Unit := request (.acquire account) ofExcept

def findAccount (reference : String) : Action (Option Account) :=
  request (.findAccount reference) done

def saveAccount (account : Account) : Action Unit := request (.saveAccount account) done

def ledgerAt (time : Instant) : Action (Option Ledger) := request (.ledgerAt time) done

def openLedger : Action (Option Ledger) := request .openLedger done

def previousLedger (ledger : Ledger) : Action (Option Ledger) :=
  request (.previousLedger ledger) done

def ledgers : Action (List Ledger) := request .ledgers done

def saveLedger (ledger : Ledger) : Action Unit := request (.saveLedger ledger) done

def findBalance (key : BalanceKey) : Action (Option Balance) := request (.findBalance key) done

def saveBalance (balance : Balance) : Action Unit := request (.saveBalance balance) done

def saveTransaction (transaction : Transaction) : Action Unit :=
  request (.saveTransaction transaction) done

def latestPosting (ledgerId : LedgerId) : Action (Option Instant) :=
  request (.latestPosting ledgerId) done

def findReservation (businessReference : String) : Action (Option Reservation) :=
  request (.findReservation businessReference) done

def saveReservation (reservation : Reservation) : Action Unit :=
  request (.saveReservation reservation) done

def commit : Action Unit := request .commit ofExcept

def record (event : Event) : Action Unit := request (.record event) done

def freshId {kind : RecordKind} : Action (Id kind) := request .freshId fun uuid => done ⟨uuid⟩

def now : Action Instant := request .now done

def lockAccounts (accounts : List AccountId) : Action Unit := accounts.forM acquire

end Action

end DoubleEntry
