import DoubleEntry.Proofs.Service.Staffing
import DoubleEntry.Proofs.Visibility

/-!
# System accounts that several callers ensure at once

Any number of callers ensure the system accounts side by side, in a system without
system accounts.  Whoever commits first publishes all accounts in one commit.
Everybody else who has staged one of them is refused, looks the accounts up once more,
and finds those of the first: all callers are given the same accounts
(`System.Bootstrap.agrees`).
-/

namespace DoubleEntry

namespace System

def result? (system : System) (position : Nat) : Option (Except LedgerError Outcome) :=
  system.tasks[position]?.bind Task.result?

def calling (surroundings : Surroundings) (settings : LedgerSettings) (count : Nat)
    (system : System) : System :=
  system.run surroundings
    (List.replicate count (.start (Operation.ensureSystemAccounts.action settings)))

def IsCaller (system : System) (count position : Nat) : Prop :=
  system.tasks.length ≤ position ∧ position < system.tasks.length + count

instance (system : System) (count position : Nat) : Decidable (system.IsCaller count position) :=
  inferInstanceAs (Decidable (_ ∧ _))

/-- Callers have come to a system without system accounts, and nobody else creates any. -/
structure Bootstrap (surroundings : Surroundings) (settings : LedgerSettings) (system : System)
    (count : Nat) (moves : List Move) : Prop where
  plain : settings.refs.Plain
  reached : ∃ before, empty.run surroundings before = system
  vacant : system.world.store.tables.Vacant settings.refs
  foreign : ∀ call ∈ (system.calling surroundings settings count).calls surroundings moves,
    ¬ system.IsCaller count call.position → call.Commits →
      ∀ account ∈ call.work.accounts, account.reference ∉ settings.refs.all
  undropped : ∀ position, system.IsCaller count position → .drop position ∉ moves

/-- Every caller has ended after 35 steps of its own; all callers that have ended were given the
same accounts, and these are stored, one under each system reference. -/
structure Agrees (settings : LedgerSettings) (system : System) (count : Nat) (moves : List Move)
    (later : System) : Prop where
  ends : ∀ position, system.IsCaller count position →
    35 ≤ moves.countP (Move.steps position) → (later.result? position).isSome
  succeeds : ∀ position result, system.IsCaller count position →
    later.result? position = some result → ∃ accounts, result = .ok (.systemAccounts accounts) ∧
      later.world.store.tables.Ensures settings.refs accounts ∧
      ∀ reference ∈ settings.refs.all, ∃ account, later.world.store.tables.accounts.values.filter
        (fun account => account.reference = reference) = [account]
  same : ∀ position other result result', system.IsCaller count position →
    system.IsCaller count other → later.result? position = some result →
    later.result? other = some result' → result = result'

variable {surroundings : Surroundings} {settings : LedgerSettings} {system : System}
  {count : Nat} {moves : List Move}

private theorem oneOpen_run (surroundings : Surroundings) (moves : List Move) :
    (empty.run surroundings moves).world.store.tables.OneOpen := by
  have start : empty.world.store.tables.OneOpen := Nat.zero_le 1
  refine (tables_run Tables.OneOpen start fun call member one => ?_).2
  refine Call.kept_after one fun commits => ?_
  rw [Tables.OneOpen, Tables.countP_isOpen_publish ((named_run surroundings moves).1 call member)]
  exact commits.acceptable.one_open

private theorem calling_eq (surroundings : Surroundings) (settings : LedgerSettings) (count : Nat)
    (system : System) : system.calling surroundings settings count =
      ⟨system.world, system.tasks ++ List.replicate count
        (.start (Operation.ensureSystemAccounts.action settings))⟩ := by
  induction count generalizing system with
  | zero => simp [calling, run]
  | succ count ih =>
      have first : system.calling surroundings settings (count + 1) =
          (system.start (Operation.ensureSystemAccounts.action settings)).calling surroundings
            settings count := rfl
      rw [first, ih, start, List.replicate_succ, List.append_assoc]
      rfl

private theorem calling_task (surroundings : Surroundings) {position : Nat}
    (caller : system.IsCaller count position) :
    (system.calling surroundings settings count).tasks[position]? =
      some (.start (Operation.ensureSystemAccounts.action settings)) := by
  obtain ⟨late, bounded⟩ := caller
  rw [calling_eq, List.getElem?_append_right late, List.getElem?_replicate, if_pos (by omega)]

namespace Bootstrap

private theorem ready (bootstrap : Bootstrap surroundings settings system count moves) :
    system.world.store.tables.Ready settings.refs := by
  obtain ⟨before, rfl⟩ := bootstrap.reached
  exact ⟨keyed_run surroundings before, oneOpen_run surroundings before, .inl bootstrap.vacant⟩

private theorem named (bootstrap : Bootstrap surroundings settings system count moves) :
    ∀ call ∈ (system.calling surroundings settings count).calls surroundings moves,
      call.work.Named := by
  obtain ⟨before, rfl⟩ := bootstrap.reached
  intro call member
  apply (named_run surroundings _).1 call
  rw [calls_append, List.mem_append]
  refine .inr ?_
  rw [run_append]
  exact member

private theorem upheld (bootstrap : Bootstrap surroundings settings system count moves) :
    ((system.calling surroundings settings count).run surroundings moves).Upheld surroundings
      (.staffing settings.refs) (fun tables result => ∃ accounts,
        result = .ok (.systemAccounts accounts) ∧ tables.Ensures settings.refs accounts)
      (system.IsCaller count) := by
  refine Upheld.run ?_ ?_ bootstrap.undropped ?_
  · refine ⟨⟨fun _ _ found => found, ?_⟩, ?_, ?_⟩
    · rw [calling_eq]
      exact bootstrap.ready
    · intro position caller
      exact (List.getElem?_eq_some_iff.mp (calling_task surroundings caller)).1
    · intro position task caller found
      rw [calling_task surroundings caller] at found
      cases found
      refine ((Bank.upholds_ensureSystemAccounts bootstrap.plain).imp ?_).map _
      rintro tables _ ⟨accounts, rfl, ensures⟩
      exact ⟨accounts, rfl, ensures⟩
  · rintro before after result leads ⟨accounts, rfl, ensures⟩
    exact ⟨accounts, rfl, ensures.stays leads.1⟩
  · intro call member foreigner leads
    refine Call.kept_after leads fun commits => ?_
    exact ⟨fun _ _ => UnitOfWork.publish_accounts_get? commits.acceptable,
      leads.2.publish_foreign (bootstrap.named call member) commits.acceptable
        (bootstrap.foreign call member foreigner commits)⟩

/-- However many callers ensure the system accounts side by side, they all succeed and agree. -/
theorem agrees (bootstrap : Bootstrap surroundings settings system count moves) :
    Agrees settings system count moves
      ((system.calling surroundings settings count).run surroundings moves) := by
  have upheld := bootstrap.upheld
  have ended {position : Nat} {result : Except LedgerError Outcome}
      (caller : system.IsCaller count position)
      (returns : ((system.calling surroundings settings count).run surroundings moves).result?
        position = some result) : ∃ accounts, result = .ok (.systemAccounts accounts) ∧
      ((system.calling surroundings settings count).run surroundings
        moves).world.store.tables.Ensures settings.refs accounts := by
    obtain ⟨task, found, returned⟩ := Option.bind_eq_some_iff.mp returns
    exact upheld.ended caller found returned
  constructor
  case ends =>
    intro position caller steps
    have within : (Operation.ensureSystemAccounts.action settings).Within 35 :=
      (Bank.within_ensureSystemAccounts settings.refs).map _
    obtain ⟨task, result, found, returned⟩ := exists_result_of_within
      (calling_task surroundings caller) within (bootstrap.undropped position caller) steps
    rw [result?, found, Option.bind_some, returned]
    rfl
  case succeeds =>
    intro position result caller returns
    obtain ⟨accounts, isResult, ensures⟩ := ended caller returns
    have staffed := ensures.staffed bootstrap.plain
    exact ⟨accounts, isResult, ensures, fun _ => staffed.unique upheld.rests.2.keyed⟩
  case same =>
    intro position other result result' caller caller' returns returns'
    obtain ⟨accounts, rfl, ensures⟩ := ended caller returns
    obtain ⟨accounts', rfl, ensures'⟩ := ended caller' returns'
    rw [ensures.unique ensures']

end Bootstrap

end System

def LedgerSettings.shared : LedgerSettings := ⟨⟨"bank", "funds", "funds"⟩, false⟩

/-- Three callers step by turns, and a customer comes meanwhile: all three create the banking
reserve, one of them commits, and the other two look the accounts up once more. -/
theorem System.Bootstrap.agrees_race : ∃ (system : System) (moves : List Move),
    Bootstrap .counting .shared system 3 moves ∧
    ((system.calling .counting .shared 3).run .counting moves).world.log.count
      (.systemAccountCreated "bank") = 3 ∧
    ((system.calling .counting .shared 3).run .counting moves).world.log.count
      (.systemAccountsReloaded "bank") = 2 ∧
    (∀ position, system.IsCaller 3 position → 35 ≤ moves.countP (Move.steps position)) ∧
    Agrees .shared system 3 moves
      ((system.calling .counting .shared 3).run .counting moves) := by
  let create (reference : String) : Move :=
    .start ((Operation.createAccount reference "" .liability .current).action .shared)
  let before : List Move := create "a" :: List.replicate 8 (.step 0)
  let moves : List Move := create "b" :: (List.replicate 35 [1, 2, 3, 4]).flatten.map .step
  have vacant : ∀ reference ∈ LedgerSettings.shared.refs.all,
      (empty.run .counting before).world.store.tables.accounts.get? reference = none := by
    decide +kernel
  have foreign : ∀ call ∈ ((empty.run .counting before).calling .counting .shared 3).calls
      .counting moves, ¬ (empty.run .counting before).IsCaller 3 call.position →
        ∀ account ∈ call.work.accounts,
          account.reference ∉ LedgerSettings.shared.refs.all := by
    decide +kernel
  have bootstrap : Bootstrap .counting .shared (empty.run .counting before) 3 moves := by
    constructor
    case plain => constructor <;> decide +kernel
    case reached => exact ⟨before, rfl⟩
    case vacant => exact vacant
    case foreign => exact fun call member foreigner _ => foreign call member foreigner
    case undropped => simp [moves, create]
  have steps : ∀ position, (empty.run .counting before).IsCaller 3 position →
      35 ≤ moves.countP (Move.steps position) := by
    have length : (empty.run .counting before).tasks.length = 1 := by decide +kernel
    have enough : ∀ position ∈ [1, 2, 3], 35 ≤ moves.countP (Move.steps position) := by
      decide +kernel
    rintro position ⟨late, bounded⟩
    apply enough
    simp only [List.mem_cons, List.not_mem_nil, or_false]
    omega
  refine ⟨_, moves, bootstrap, ?_, ?_, steps, bootstrap.agrees⟩
  · decide +kernel
  · decide +kernel

end DoubleEntry
