import DoubleEntry.Chart.LockOrder

/-!
# Settings

What can be configured, section by section, and the values that hold unless they
are.
-/

namespace DoubleEntry

structure LedgerSettings where
  refs : SystemRefs
  allowClosedPeriodPosting : Bool
  deriving DecidableEq, Repr

structure StoreSettings where
  lockTimeoutMs : Nat
  deriving DecidableEq, Repr

structure LoggingSettings where
  filter : String
  json : Bool
  deriving DecidableEq, Repr

structure Settings where
  ledger : LedgerSettings
  store : StoreSettings
  logging : LoggingSettings
  deriving DecidableEq, Repr

def LedgerSettings.standard : LedgerSettings := ⟨⟨"bank", "reservations", "premiums"⟩, false⟩

def StoreSettings.standard : StoreSettings := ⟨5000⟩

def LoggingSettings.standard : LoggingSettings := ⟨"banker=info,seeder=info", false⟩

def Settings.standard : Settings := ⟨.standard, .standard, .standard⟩

end DoubleEntry
