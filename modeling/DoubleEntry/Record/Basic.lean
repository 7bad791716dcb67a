import DoubleEntry.Book.Balance
import DoubleEntry.Book.Reservation
import DoubleEntry.Journal.Entry
import DoubleEntry.Record.Field

/-!
# Records as JSON

The object form of every kind of record.  All members are required but the end of
a ledger, which an open ledger lacks.
-/

namespace DoubleEntry.Recorded

instance : Recorded Account where
  toJson account := .object [("id", toJson account.id), ("reference", toJson account.reference),
    ("name", toJson account.name), ("account_type", toJson account.accountType),
    ("purpose", toJson account.purpose), ("created_at", toJson account.createdAt)]
  ofJson? json := do
    let names := ["id", "reference", "name", "account_type", "purpose", "created_at"]
    let [id, reference, name, accountType, purpose, createdAt] ←
      json.fields? (Json.required names) | none
    return ⟨← ofJson? id, ← ofJson? reference, ← ofJson? name, ← ofJson? accountType,
      ← ofJson? purpose, ← ofJson? createdAt⟩

instance : Recorded Ledger where
  toJson ledger := .object [("id", toJson ledger.id), ("name", toJson ledger.name),
    ("start_period", toJson ledger.opensAt), ("end_period", toJson ledger.closesAt),
    ("version", toJson ledger.version)]
  ofJson? json := do
    let names : List FieldName := [⟨"id", true⟩, ⟨"name", true⟩, ⟨"start_period", true⟩,
      ⟨"end_period", false⟩, ⟨"version", true⟩]
    let [id, name, opensAt, closesAt, version] ← json.fields? names | none
    return ⟨← ofJson? id, ← ofJson? name, ← ofJson? opensAt, ← ofJson? closesAt,
      ← ofJson? version⟩

instance : Recorded BalanceKey where
  toJson key := .object [("ledger_id", toJson key.ledgerId), ("account_id", toJson key.accountId)]
  ofJson? json := do
    let [ledgerId, accountId] ← json.fields? (Json.required ["ledger_id", "account_id"]) | none
    return ⟨← ofJson? ledgerId, ← ofJson? accountId⟩

instance : Recorded Balance where
  toJson balance := .object [("key", toJson balance.key),
    ("account_reference", toJson balance.reference),
    ("account_type", toJson balance.accountType), ("purpose", toJson balance.purpose),
    ("start_amount", toJson balance.startAmount), ("end_amount", toJson balance.endAmount),
    ("version", toJson balance.version)]
  ofJson? json := do
    let names := ["key", "account_reference", "account_type", "purpose", "start_amount",
      "end_amount", "version"]
    let [key, reference, accountType, purpose, startAmount, endAmount, version] ←
      json.fields? (Json.required names) | none
    return ⟨← ofJson? key, ← ofJson? reference, ← ofJson? accountType, ← ofJson? purpose,
      ← ofJson? startAmount, ← ofJson? endAmount, ← ofJson? version⟩

instance : Recorded Entry where
  toJson entry := .object [("id", toJson entry.id), ("balance", toJson entry.balance),
    ("account_id", toJson entry.accountId), ("account_type", toJson entry.accountType),
    ("entry_type", toJson entry.entryType), ("amount", toJson entry.amount)]
  ofJson? json := do
    let names := ["id", "balance", "account_id", "account_type", "entry_type", "amount"]
    let [id, balance, accountId, accountType, entryType, amount] ←
      json.fields? (Json.required names) | none
    return ⟨← ofJson? id, ← ofJson? balance, ← ofJson? accountId, ← ofJson? accountType,
      ← ofJson? entryType, ← ofJson? amount⟩

instance : Recorded Transaction where
  toJson transaction := .object [("id", toJson transaction.id),
    ("ledger_id", toJson transaction.ledgerId), ("description", toJson transaction.description),
    ("accounting_time", toJson transaction.accountingTime),
    ("transaction_time", toJson transaction.transactionTime),
    ("entries", toJson transaction.entries), ("total", toJson transaction.total)]
  ofJson? json := do
    let names := ["id", "ledger_id", "description", "accounting_time", "transaction_time",
      "entries", "total"]
    let [id, ledgerId, description, accountingTime, transactionTime, entries, total] ←
      json.fields? (Json.required names) | none
    return ⟨← ofJson? id, ← ofJson? ledgerId, ← ofJson? description, ← ofJson? accountingTime,
      ← ofJson? transactionTime, ← ofJson? entries, ← ofJson? total⟩

instance : Recorded Reservation where
  toJson reservation := .object [("id", toJson reservation.id),
    ("business_reference", toJson reservation.businessReference),
    ("account_id", toJson reservation.accountId),
    ("account_reference", toJson reservation.accountReference),
    ("held", toJson reservation.held), ("charged", toJson reservation.charged),
    ("status", toJson reservation.status), ("created_at", toJson reservation.createdAt),
    ("version", toJson reservation.version)]
  ofJson? json := do
    let names := ["id", "business_reference", "account_id", "account_reference", "held",
      "charged", "status", "created_at", "version"]
    let [id, businessReference, accountId, accountReference, held, charged, status, createdAt,
      version] ← json.fields? (Json.required names) | none
    return ⟨← ofJson? id, ← ofJson? businessReference, ← ofJson? accountId,
      ← ofJson? accountReference, ← ofJson? held, ← ofJson? charged, ← ofJson? status,
      ← ofJson? createdAt, ← ofJson? version⟩

end DoubleEntry.Recorded
