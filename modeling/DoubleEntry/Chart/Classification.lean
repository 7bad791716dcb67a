import DoubleEntry.Chart.Code

/-!
# Account types and purposes

The type of an account fixes the sign of debits and credits, its purpose fixes
its place in the locking order and whether it may be overdrawn.
-/

namespace DoubleEntry

/-- A debit increases an asset and decreases a liability, a credit the reverse. -/
inductive AccountType where
  | asset
  | liability
  deriving DecidableEq, Repr

instance : Coded AccountType where
  subject := .accountType
  values := [.asset, .liability]
  code
    | .asset => "A"
    | .liability => "L"
  name
    | .asset => "ASSET"
    | .liability => "LIABILITY"

inductive Purpose where
  | system
  | current
  | premium
  deriving DecidableEq, Repr

instance : Coded Purpose where
  subject := .purpose
  values := [.system, .current, .premium]
  code
    | .system => "SYS"
    | .current => "CUR"
    | .premium => "PRE"
  name
    | .system => "SYSTEM"
    | .current => "CURRENT"
    | .premium => "PREMIUM"

def Purpose.lockRank : Purpose → Nat
  | .system => 0
  | .current => 1
  | .premium => 2

def Purpose.allowsOverdraft (purpose : Purpose) : Bool := purpose = .system

end DoubleEntry
