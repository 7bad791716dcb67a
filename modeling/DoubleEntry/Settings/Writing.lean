import DoubleEntry.Json.Value
import DoubleEntry.Settings
import DoubleEntry.Text.Quoted

/-!
# Writing settings

The settings as one JSON object, the lock timeout also split into seconds and
milliseconds, and a one-line description of the part that the bank works with.
-/

namespace DoubleEntry

def LedgerSettings.toJson (settings : LedgerSettings) : Json :=
  .object [("banking_reserve_reference", .text settings.refs.bankingReserve),
    ("reservations_reference", .text settings.refs.reservations),
    ("premiums_reference", .text settings.refs.premiums),
    ("allow_closed_period_posting", .bool settings.allowClosedPeriodPosting)]

def StoreSettings.toJson (settings : StoreSettings) : Json :=
  .object [("lock_timeout_ms", .ofNat settings.lockTimeoutMs),
    ("lock_timeout_secs", .ofNat (settings.lockTimeoutMs / 1000)),
    ("lock_timeout_subsec_ms", .ofNat (settings.lockTimeoutMs % 1000))]

def LoggingSettings.toJson (settings : LoggingSettings) : Json :=
  .object [("filter", .text settings.filter), ("json", .bool settings.json)]

def Settings.toJson (settings : Settings) : Json :=
  .object [("ledger", settings.ledger.toJson), ("store", settings.store.toJson),
    ("logging", settings.logging.toJson)]

def SystemRefs.describe (refs : SystemRefs) : String :=
  "SystemAccountRefs \x7b banking_reserve: " ++ Text.quoted refs.bankingReserve
    ++ ", reservations: " ++ Text.quoted refs.reservations
    ++ ", premiums: " ++ Text.quoted refs.premiums ++ " \x7d"

def LedgerSettings.describe (settings : LedgerSettings) : String :=
  "LedgerService \x7b refs: " ++ settings.refs.describe ++ ", allow_closed_period_posting: "
    ++ toString settings.allowClosedPeriodPosting ++ ", .. \x7d"

end DoubleEntry
