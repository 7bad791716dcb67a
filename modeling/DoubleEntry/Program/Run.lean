import DoubleEntry.Log.Span
import DoubleEntry.Program.Action

/-!
# Running one action

An action that runs alone performs its requests one after another and drops
whatever unit of work is open at its end.  A session runs several actions in a row
and stops at the first that fails.
-/

namespace DoubleEntry

namespace Action

variable {α : Type}

def runFrom (surroundings : Surroundings) :
    Action α → World → UnitOfWork → Except LedgerError α × World
  | done value, world, work => (.ok value, world.drop work)
  | failed e, world, work => (.error e, world.drop work)
  | request q next, world, work =>
    let (reply, world, work) := q.perform surroundings world work
    (next reply).runFrom surroundings world work

def run (surroundings : Surroundings) (action : Action α) (world : World) :
    Except LedgerError α × World :=
  action.runFrom surroundings world .empty

end Action

structure SessionState where
  world : World
  entries : List LogEntry
  deriving DecidableEq, Repr

abbrev Session := ExceptT LedgerError (StateM SessionState)

namespace Session

/-- Runs an action alone.  The events that it logs stand in `span`. -/
def during {α : Type} (surroundings : Surroundings) (span : Span) (action : Action α) :
    Session α := ExceptT.mk do
  let ⟨world, entries⟩ ← get
  let (result, after) := action.run surroundings world
  let events := after.log.drop world.log.length
  set (SessionState.mk after (entries ++ events.map fun event => ⟨event, some span⟩))
  return result

def record (event : Event) : Session Unit :=
  modify fun ⟨world, entries⟩ => ⟨world.record event, entries ++ [⟨event, none⟩]⟩

def now (surroundings : Surroundings) : Session Instant := do
  let ⟨world, entries⟩ ← get
  set (SessionState.mk { world with ticks := world.ticks + 1 } entries)
  return surroundings.clock world.ticks

end Session

end DoubleEntry
