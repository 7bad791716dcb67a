/-!
# Coded classifications

A small closed classification is stored under one code per value and shown to
other programs under one name per value.
-/

namespace DoubleEntry

inductive CodeSubject where
  | accountType
  | purpose
  | entryType
  | reservationStatus
  deriving DecidableEq, Repr

def CodeSubject.description : CodeSubject → String
  | .accountType => "account type"
  | .purpose => "account purpose"
  | .entryType => "entry type"
  | .reservationStatus => "reservation status"

class Coded (α : Type) where
  subject : CodeSubject
  values : List α
  code : α → String
  name : α → String

namespace Coded

variable {α : Type} [Coded α]

def ofCode? (text : String) : Option α := values.find? fun value => code value == text

def ofName? (text : String) : Option α := values.find? fun value => name value == text

end Coded

end DoubleEntry
