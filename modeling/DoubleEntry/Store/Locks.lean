import DoubleEntry.Identity.Basic

/-!
# Account locks

A lock belongs to one account and has at most one holder.  The table remembers
every account that was ever locked.
-/

namespace DoubleEntry

structure Locks where
  known : List AccountId
  held : List AccountId
  deriving DecidableEq, Repr

namespace Locks

def empty : Locks := ⟨[], []⟩

instance : Inhabited Locks := ⟨empty⟩

def acquire? (locks : Locks) (account : AccountId) : Option Locks :=
  if account ∈ locks.held then none
  else
    let known := if account ∈ locks.known then locks.known else locks.known ++ [account]
    some ⟨known, account :: locks.held⟩

def release (locks : Locks) (accounts : List AccountId) : Locks :=
  { locks with held := locks.held.filter fun account => account ∉ accounts }

end Locks

end DoubleEntry
