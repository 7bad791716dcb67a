import DoubleEntry.Error
import DoubleEntry.Text.Blank

/-!
# Accounts

An account is created once; its reference and its type never change afterwards.
-/

namespace DoubleEntry

structure Account where
  id : AccountId
  reference : String
  name : String
  accountType : AccountType
  purpose : Purpose
  createdAt : Instant
  deriving DecidableEq, Repr

namespace Account

/-- A new account.  Its reference is trimmed and must not be blank. -/
def create (id : AccountId) (createdAt : Instant) (reference name : String)
    (accountType : AccountType) (purpose : Purpose) : Except LedgerError Account :=
  let reference := Text.trim reference
  if reference.isEmpty then .error .blankReference
  else .ok ⟨id, reference, name, accountType, purpose, createdAt⟩

attribute [irreducible] create

def isOverdraftProtected (accountType : AccountType) (purpose : Purpose) : Bool :=
  accountType = .liability && !purpose.allowsOverdraft

end Account

end DoubleEntry
