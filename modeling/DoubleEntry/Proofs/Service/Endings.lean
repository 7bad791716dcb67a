import DoubleEntry.Proofs.Program.Endings
import DoubleEntry.Proofs.Service.PostingVouching

/-!
# How operations end

Ensuring the system accounts, reserving and charging succeed only with a commit, and
a release that succeeds without one has released nothing.  Run alone on sound tables,
an operation either commits what a voucher describes or leaves the tables as they
were.
-/

namespace DoubleEntry

namespace Bank

open DoubleEntry.Action

variable {settings : LedgerSettings}

private theorem endsIn_loadSystemAccounts (refs : SystemRefs) :
    (loadSystemAccounts refs).EndsIn fun _ => False := by
  rw [loadSystemAccounts]
  refine endsIn_bind fun _ => endsIn_bind fun reserve => endsIn_bind fun pool => ?_
  exact endsIn_bind fun premiums => endsIn_commit

theorem endsIn_ensureSystemAccounts (refs : SystemRefs) :
    (ensureSystemAccounts refs).EndsIn fun _ => False := by
  rw [ensureSystemAccounts]
  refine (endsIn_loadSystemAccounts refs).handleError fun e => ?_
  split
  · exact endsIn_bind fun _ => endsIn_loadSystemAccounts refs
  · trivial

private theorem endsIn_reserve (reference businessReference : String) (posting : Posting) :
    (reserve settings reference businessReference posting).EndsIn fun _ => False := by
  rw [reserve]
  refine endsIn_bind fun _ => endsIn_bind fun _ => endsIn_bind fun payer => ?_
  refine endsIn_bind fun pool => ?_
  split
  · trivial
  · refine endsIn_bind fun id => endsIn_bind fun time => endsIn_bind fun reservation => ?_
    refine endsIn_bind fun _ => endsIn_bind fun found => ?_
    split
    · trivial
    · exact endsIn_bind fun transaction => endsIn_bind fun _ => endsIn_commit

private theorem endsIn_charge (reference businessReference : String) (posting : Posting) :
    (charge settings reference businessReference posting).EndsIn fun _ => False := by
  rw [charge]
  refine endsIn_bind fun _ => endsIn_bind fun _ => endsIn_bind fun beneficiary => ?_
  refine endsIn_bind fun pool => ?_
  split
  · trivial
  · refine endsIn_bind fun _ => endsIn_bind fun reservation => endsIn_bind fun charged => ?_
    exact endsIn_bind fun transaction => endsIn_bind fun _ => endsIn_commit

private theorem endsIn_release {values : Option Transaction → Prop} (nothing : values none)
    (businessReference description : String) (time : Instant) :
    (release settings businessReference description time).EndsIn values := by
  rw [release]
  refine endsIn_bind fun _ => endsIn_bind fun reservation => endsIn_bind fun payer => ?_
  refine endsIn_bind fun pool => endsIn_bind fun _ => endsIn_bind fun reservation => ?_
  split
  split
  · exact endsIn_bind fun _ => nothing
  · exact endsIn_bind fun transaction => endsIn_bind fun _ => endsIn_commit

end Bank

namespace Operation

/-- What the operation can result in without a commit, as far as system accounts and reservations
are concerned. -/
def Quiet : Operation → Outcome → Prop
  | ensureSystemAccounts | reserve .. | charge .. => fun _ => False
  | release .. => (· = .nothingReleased)
  | _ => fun _ => True

private theorem endsIn (settings : LedgerSettings) (operation : Operation) :
    (operation.action settings).EndsIn operation.Quiet := by
  apply Action.EndsIn.map
  cases operation with
  | ensureSystemAccounts => exact Bank.endsIn_ensureSystemAccounts settings.refs
  | reserve reference businessReference posting =>
      exact Bank.endsIn_reserve reference businessReference posting
  | charge reference businessReference posting =>
      exact Bank.endsIn_charge reference businessReference posting
  | release businessReference description time =>
      refine Bank.endsIn_release ?_ businessReference description time
      rfl
  | _ => exact Action.endsIn_any _

/-- What running an operation alone comes to: it commits what a voucher describes, or it rests and
leaves the tables as they were. -/
inductive Ran (settings : LedgerSettings) (before : Tables) (operation : Operation) :
    Except LedgerError Outcome × World → Prop where
  | commits {work : UnitOfWork} {outcome : Outcome} {ids : List Uuid} {times : List Instant}
      {world : World} (voucher : Voucher settings before operation work outcome ids times)
      (acceptable : work.Acceptable before) (published : world.store.tables = work.publish before) :
      Ran settings before operation (.ok outcome, world)
  | rests {result : Except LedgerError Outcome} {world : World}
      (quiet : ∀ outcome, result = .ok outcome → operation.Quiet outcome)
      (kept : world.store.tables = before) : Ran settings before operation (result, world)

variable {settings : LedgerSettings} {tables : Tables} {operation : Operation} {world : World}
  {result : Except LedgerError Outcome × World}

theorem run_ran (surroundings : Surroundings) (sound : world.store.tables.Sound settings.refs)
    (operation : Operation) :
    operation.Ran settings world.store.tables (operation.run surroundings settings world) := by
  have runs : Action.Runs (operation.Certified surroundings settings) operation.Quiet
      world.store.tables (operation.run surroundings settings world) :=
    vouches.runFrom sound (operation.endsIn settings)
  generalize operation.run surroundings settings world = result at runs ⊢
  cases runs with
  | commits holds acceptable published =>
      obtain ⟨_, _, voucher, -⟩ := holds
      exact .commits voucher acceptable.bare published
  | ends quiet kept =>
      refine .rests (fun outcome same => ?_) kept
      cases same
      exact quiet
  | fails kept =>
      refine .rests (fun outcome same => ?_) kept
      cases same

theorem Ran.sound (ran : operation.Ran settings tables result)
    (sound : tables.Sound settings.refs) : result.2.store.tables.Sound settings.refs := by
  cases ran with
  | commits voucher acceptable published =>
      rw [published]
      exact UnitOfWork.publish_sound sound voucher acceptable
  | rests _ kept =>
      rw [kept]
      exact sound

theorem Ran.known (ran : operation.Ran settings tables result)
    (sound : tables.Sound settings.refs) {account : Account}
    (known : account ∈ tables.accounts.values) :
    account ∈ result.2.store.tables.accounts.values := by
  cases ran with
  | commits voucher acceptable published =>
      rw [published]
      exact UnitOfWork.mem_publish_accounts sound voucher acceptable known
  | rests _ kept => rwa [kept]

end Operation

end DoubleEntry
