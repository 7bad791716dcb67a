import DoubleEntry.Identity.Uuid

/-!
# Typed identifiers

Every record has an identifier of its own kind, so that the identifier of a
ledger is never taken for that of an account.  A balance has none: it is named by
its ledger and its account, and keys are ordered by the ledger first.
-/

namespace DoubleEntry

inductive RecordKind where
  | account
  | ledger
  | transaction
  | entry
  | reservation
  deriving DecidableEq, Repr

structure Id (kind : RecordKind) where
  uuid : Uuid
  deriving DecidableEq, Repr

abbrev AccountId := Id .account
abbrev LedgerId := Id .ledger
abbrev TransactionId := Id .transaction
abbrev EntryId := Id .entry
abbrev ReservationId := Id .reservation

namespace Id

variable {kind : RecordKind}

instance : Inhabited (Id kind) := ⟨⟨default⟩⟩

instance : LawfulBEq (Id kind) := inferInstance

instance : LT (Id kind) := ⟨fun a b => a.uuid < b.uuid⟩

instance (a b : Id kind) : Decidable (a < b) := inferInstanceAs (Decidable (a.uuid < b.uuid))

instance : Ord (Id kind) := ⟨fun a b => compare a.uuid b.uuid⟩

instance : ToString (Id kind) := ⟨fun a => a.uuid.toString⟩

def ofString? (s : String) : Option (Id kind) := mk <$> Uuid.ofString? s

end Id

structure BalanceKey where
  ledgerId : LedgerId
  accountId : AccountId
  deriving DecidableEq, Repr

instance : Ord BalanceKey :=
  ⟨fun a b => (compare a.ledgerId b.ledgerId).then (compare a.accountId b.accountId)⟩

end DoubleEntry
