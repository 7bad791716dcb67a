import DoubleEntry.Proofs.Program.History
import DoubleEntry.Proofs.Service.Endings

/-!
# Operations with their results

What operations that run one after another have done to the reservation under one
business reference is read off the operations and their results: what was reserved,
charged and paid out.  An operation that fails, or that is about another business
reference, has done nothing to it (`Served.Idle`).
-/

namespace DoubleEntry

def Operation.holds? : Operation → Option String
  | reserve _ businessReference _ | charge _ businessReference _ | release businessReference _ _ =>
    some (Text.trim businessReference)
  | _ => none

abbrev Served := Operation × Except LedgerError Outcome

namespace Served

/-- The reference of the account and the amount, if this reserve under `name` succeeded. -/
def reserved? (name : String) : Served → Option (String × Money)
  | (.reserve reference businessReference posting, .ok _) =>
    if Text.trim businessReference = name then some (reference, posting.amount) else none
  | _ => none

def charged? (name : String) : Served → Option Int
  | (.charge _ businessReference posting, .ok _) =>
    if Text.trim businessReference = name then some posting.amount.minorUnits else none
  | _ => none

def released? (name : String) : Served → Option Outcome
  | (.release businessReference _ _, .ok outcome) =>
    if Text.trim businessReference = name then some outcome else none
  | _ => none

def payout? (name : String) (served : Served) : Option Transaction :=
  match served.released? name with
  | some (.transaction transaction) => some transaction
  | _ => none

theorem filterMap_concat {β : Type} (view : Served → Option β) (past : List Served)
    (served : Served) :
    (past ++ [served]).filterMap view = past.filterMap view ++ (view served).toList := by
  rw [List.filterMap_append]
  cases seen : view served <;> simp [seen]

section Same

variable {reference businessReference description : String} {posting : Bank.Posting}
  {time : Instant} {outcome : Outcome} {transaction : Transaction}

theorem reserved?_reserve : reserved? (Text.trim businessReference)
    (.reserve reference businessReference posting, .ok outcome) =
      some (reference, posting.amount) := if_pos rfl

theorem charged?_charge : charged? (Text.trim businessReference)
    (.charge reference businessReference posting, .ok outcome) =
      some posting.amount.minorUnits := if_pos rfl

theorem payout?_release : payout? (Text.trim businessReference)
    (.release businessReference description time, .ok (.transaction transaction)) =
      some transaction := by
  rw [payout?, released?, if_pos rfl]

end Same

structure Idle (name : String) (served : Served) : Prop where
  reserved : served.reserved? name = none
  charged : served.charged? name = none
  released : ∀ outcome ∈ served.released? name, outcome = .nothingReleased

theorem Idle.payout {name : String} {served : Served} (idle : served.Idle name) :
    served.payout? name = none := by
  rw [payout?]
  cases released : served.released? name with
  | none => rfl
  | some outcome => rw [idle.released outcome released]

theorem idle_of_error (name : String) (operation : Operation) (e : LedgerError) :
    Idle name (operation, .error e) := by
  constructor <;> cases operation <;> simp [reserved?, charged?, released?]

variable {name : String} {operation : Operation} {result : Except LedgerError Outcome}

theorem idle_of_quiet (quiet : ∀ outcome, result = .ok outcome → operation.Quiet outcome) :
    Idle name (operation, result) := by
  cases result with
  | error e => exact idle_of_error name operation e
  | ok outcome =>
      have quiet := quiet outcome rfl
      cases operation with
      | reserve => exact quiet.elim
      | charge => exact quiet.elim
      | release businessReference description time =>
          refine ⟨rfl, rfl, fun other among => ?_⟩
          rw [released?, Option.mem_def] at among
          split at among
          · cases among
            exact quiet
          · cases among
      | _ => exact ⟨rfl, rfl, by simp [released?]⟩

theorem idle_of_holds_other (other : operation.holds? ≠ some name) :
    Idle name (operation, result) := by
  cases result with
  | error e => exact idle_of_error name operation e
  | ok outcome =>
      cases operation with
      | reserve => exact ⟨if_neg fun same => other (congrArg some same), rfl,
          by simp [released?]⟩
      | charge => exact ⟨rfl, if_neg fun same => other (congrArg some same),
          by simp [released?]⟩
      | release =>
          refine ⟨rfl, rfl, ?_⟩
          rw [released?, if_neg fun same => other (congrArg some same)]
          simp
      | _ => exact ⟨rfl, rfl, by simp [released?]⟩

end Served

namespace Operation

def transcript (surroundings : Surroundings) (settings : LedgerSettings)
    (operations : List Operation) (world : World) : List Served :=
  operations.zip (runAll surroundings settings operations world).1

end Operation

end DoubleEntry
