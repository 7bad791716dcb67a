import DoubleEntry.Chart.Account
import DoubleEntry.Sorting

/-!
# The locking order

Whoever needs the locks of several accounts takes them in one order that all
share: by purpose, among system accounts by role, then by reference and id.  Two
operations over common accounts therefore never wait for each other in a circle.
-/

namespace DoubleEntry

structure SystemRefs where
  bankingReserve : String
  reservations : String
  premiums : String
  deriving DecidableEq, Repr

namespace SystemRefs

/-- The first role that `reference` has; 3 if it has none. -/
def rank (refs : SystemRefs) (reference : String) : Nat :=
  if reference = refs.bankingReserve then 0
  else if reference = refs.reservations then 1
  else if reference = refs.premiums then 2
  else 3

def isSystemReference (refs : SystemRefs) (reference : String) : Bool :=
  refs.rank reference < 3

end SystemRefs

structure LockKey where
  purposeRank : Nat
  systemRank : Nat
  reference : String
  id : AccountId
  deriving DecidableEq, Repr

instance : Ord LockKey where
  compare a b :=
    (compare a.purposeRank b.purposeRank).then <|
      (compare a.systemRank b.systemRank).then <|
        (compare a.reference b.reference).then (compare a.id b.id)

namespace Account

def lockKey (refs : SystemRefs) (account : Account) : LockKey :=
  let systemRank := match account.purpose with
    | .system => refs.rank account.reference
    | .current | .premium => 0
  ⟨account.purpose.lockRank, systemRank, account.reference, account.id⟩

def locksBefore (refs : SystemRefs) (a b : Account) : Bool :=
  (compare (a.lockKey refs) (b.lockKey refs)).isLE

/-- Accounts with equal keys keep their order. -/
def sortForLocking (refs : SystemRefs) (accounts : List Account) : List Account :=
  sortBy (locksBefore refs) accounts

def sortForLockingVia {α : Type} (account : α → Account) (refs : SystemRefs) (values : List α) :
    List α :=
  sortBy (fun a b => locksBefore refs (account a) (account b)) values

end Account

end DoubleEntry
