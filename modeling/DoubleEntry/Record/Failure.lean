import DoubleEntry.Error
import DoubleEntry.Json.Value

/-!
# Failures as JSON

What another program is told about a failed operation: the code of the error, its
kind and its message.
-/

namespace DoubleEntry

def ErrorKind.name : ErrorKind → String
  | .validation => "Validation"
  | .notFound => "NotFound"
  | .business => "Business"
  | .conflict => "Conflict"
  | .system => "System"

def LedgerError.toJson (e : LedgerError) : Json :=
  .object [("error", .text e.code), ("kind", .text e.kind.name), ("message", .text e.message)]

def CallerErrorKind.name : CallerErrorKind → String
  | .notFound => "NotFound"
  | .validation => "Validation"
  | .businessRule => "BusinessRule"
  | .conflict => "Conflict"
  | .database => "Database"
  | .internal => "Internal"

def CallerErrorKind.all : List CallerErrorKind :=
  [.notFound, .validation, .businessRule, .conflict, .database, .internal]

def CallerErrorKind.ofName? (name : String) : Option CallerErrorKind :=
  all.find? fun kind => kind.name == name

def CallerError.toJson (e : CallerError) : Json :=
  .object [("variant", .text e.kind.name), ("message", .text e.message),
    ("retryable", .bool e.isRetryable)]

end DoubleEntry
