import DoubleEntry.Log.Event

/-!
# Spans

Events that an operation logs stand in the span of the operation, which shows its
name and arguments.  Filters can choose events by their span.
-/

namespace DoubleEntry

structure Span where
  name : String
  fields : List (String × String)
  deriving DecidableEq, Repr

def Span.source : Source := .service

structure LogEntry where
  event : Event
  span : Option Span
  deriving DecidableEq, Repr

end DoubleEntry
