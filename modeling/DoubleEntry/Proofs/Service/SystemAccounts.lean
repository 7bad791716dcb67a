import DoubleEntry.Proofs.Service.Chronicle
import DoubleEntry.Proofs.Service.Founding
import DoubleEntry.Proofs.Service.Identity

/-!
# What has been ensured

The result of a task tells what is in the tables: whoever has been given the system
accounts, they were committed, so from then on they stand under their references
(`System.Equipped.ensures`).
-/

namespace DoubleEntry

/-! ## Results without a commit -/

def Outcome.Ordinary (outcome : Outcome) : Prop :=
  ∀ accounts, outcome ≠ .systemAccounts accounts

private theorem Operation.endsIn_ordinary (settings : LedgerSettings) (operation : Operation) :
    (operation.action settings).EndsIn Outcome.Ordinary := by
  apply Action.EndsIn.map
  cases operation with
  | ensureSystemAccounts =>
      exact (Bank.endsIn_ensureSystemAccounts settings.refs).mono fun _ never => never.elim
  | release =>
      refine Action.endsIn_of_forall (fun value accounts same => ?_) _
      cases value <;> cases same
  | _ => exact Action.endsIn_of_forall (fun value accounts same => by cases same) _

private theorem Voucher.isEnsure {settings : LedgerSettings} {tables : Tables}
    {operation : Operation}
    {work : UnitOfWork} {accounts : Bank.SystemAccounts} {ids : List Uuid} {times : List Instant}
    (voucher : Voucher settings tables operation work (.systemAccounts accounts) ids times) :
    operation = .ensureSystemAccounts := by
  generalize isOutcome : Outcome.systemAccounts accounts = outcome at voucher
  induction voucher with
  | ensureSystemAccounts => rfl
  | deposit _ ih => cases ih isOutcome
  | withdraw _ ih => cases ih isOutcome
  | _ => cases isOutcome

/-- Who has not committed will not result in system accounts. -/
def System.Withholds (history : History) (system : System) : Prop :=
  ∀ (position : Nat) (task : Task), system.tasks[position]? = some task →
    position ∉ history.commits → task.action.EndsIn Outcome.Ordinary

namespace System

variable {surroundings : Surroundings} {settings : LedgerSettings} {admission : Admission}
  {history : History} {system : System}

private theorem Withholds.start (withholds : system.Withholds history) (operation : Operation) :
    (system.start (operation.action settings)).Withholds (history.start operation) := by
  intro position task found uncommitted
  rcases getElem?_concat found with found | ⟨-, rfl⟩
  · exact withholds position task found uncommitted
  · exact operation.endsIn_ordinary settings

private theorem Withholds.step (withholds : system.Withholds history) (position : Nat) :
    (system.step surroundings position).Withholds (history.step system position) := by
  intro other task found uncommitted
  have before : other ∉ history.commits := by
    intro member
    rw [History.step] at uncommitted
    split at uncommitted
    · exact uncommitted (List.mem_append_left _ member)
    · exact uncommitted member
  cases known : system.tasks[position]? with
  | none =>
      rw [System.step, known] at found
      exact withholds other task found before
  | some mover =>
      rw [step_eq known, List.getElem?_set] at found
      split at found
      next same =>
        subst same
        rw [if_pos (List.getElem?_eq_some_iff.mp known).1] at found
        obtain rfl := Option.some.inj found
        have ends := withholds position mover known before
        obtain ⟨work, action⟩ := mover
        cases action with
        | done outcome => exact ends
        | failed e => exact ends
        | request q next =>
            have noCommit : ¬ q.Commits system.world.store.tables work := by
              intro commits
              rw [History.step, if_pos ((Orderly.commitsAt_iff known).mpr commits)] at uncommitted
              exact uncommitted (by simp)
            rw [Task.step_request, Task.settle_action]
            exact ends _ (Request.withholds_of_not_commits noCommit)
      next => exact withholds other task found before

private theorem Reachable.exists_withheld
    (reachable : Reachable surroundings (admission.Allowed settings) system) :
    ∃ history deeds owner, Orderly surroundings settings admission history system deeds owner ∧
      system.Withholds history := by
  induction reachable with
  | empty => exact ⟨.empty, [], id, orderly_empty id, by simp [Withholds, System.empty]⟩
  | start action isAllowed _ ih =>
      obtain ⟨history, deeds, owner, orderly, withholds⟩ := ih
      obtain ⟨operation, isAdmitted, rfl⟩ := isAllowed
      exact ⟨_, deeds, owner, orderly.start isAdmitted, withholds.start operation⟩
  | step position _ ih =>
      obtain ⟨history, deeds, owner, orderly, withholds⟩ := ih
      obtain ⟨deeds', owner', _, orderly'⟩ := orderly.step position
      exact ⟨_, deeds', owner', orderly', withholds.step position⟩

end System

/-! ## What the commits have left -/

private theorem Chronicle.ensures {surroundings : Surroundings} {settings : LedgerSettings}
    {admission : Admission} {deeds : List Deed} {tables : Tables} {deed : Deed}
    {accounts : Bank.SystemAccounts}
    (chronicle : Chronicle surroundings settings admission deeds tables) (member : deed ∈ deeds)
    (returns : deed.outcome = .systemAccounts accounts) :
    tables.Ensures settings.refs accounts := by
  induction chronicle with
  | nothing => cases member
  | deed last voucher acceptable _ before ih =>
      rcases List.mem_append.mp member with earlier | isLast
      · exact (ih earlier).stays fun _ _ => UnitOfWork.publish_accounts_get? acceptable
      · cases List.mem_singleton.mp isLast
        rw [returns] at voucher
        have isEnsure := voucher.isEnsure
        rw [isEnsure] at voucher
        obtain ⟨_, same, ensures⟩ := voucher.ensures before.sound acceptable
        cases same
        exact ensures

private theorem Chronicle.stillEnsures {surroundings : Surroundings} {settings : LedgerSettings}
    {admission : Admission} {deeds deeds' : List Deed} {before after : Tables}
    {accounts : Bank.SystemAccounts}
    (chronicle : Chronicle surroundings settings admission deeds before)
    (chronicle' : Chronicle surroundings settings admission deeds' after) (grows : deeds <+: deeds')
    (ensures : before.Ensures settings.refs accounts) :
    after.Ensures settings.refs accounts := by
  let holds (tables : Tables) : Prop := tables.Ensures settings.refs accounts
  have now : holds before := ensures
  refine (chronicle.later chronicle' grows now ?_ : holds after)
  intro _ tables _ _ _ acceptable ensures
  exact ensures.stays fun _ _ => UnitOfWork.publish_accounts_get? acceptable

/-- A task was given the system accounts, and the run has gone on to `later`. -/
structure System.Equipped (surroundings : Surroundings) (settings : LedgerSettings)
    (accounts : Bank.SystemAccounts) (system later : System) : Prop where
  reachable : Reachable surroundings (Admission.any.Allowed settings) system
  returned : ∃ task ∈ system.tasks, task.result? = some (.ok (.systemAccounts accounts))
  reaches : system.Reaches surroundings (Admission.any.Allowed settings) later

namespace System

variable {surroundings : Surroundings} {settings : LedgerSettings} {system later : System}
  {accounts : Bank.SystemAccounts}

private theorem Reachable.ensures
    (reachable : Reachable surroundings (Admission.any.Allowed settings) system) {task : Task}
    (member : task ∈ system.tasks)
    (returned : task.result? = some (.ok (.systemAccounts accounts))) :
    system.world.store.tables.Ensures settings.refs accounts := by
  obtain ⟨history, deeds, owner, orderly, withholds⟩ := reachable.exists_withheld
  obtain ⟨position, found⟩ := List.mem_iff_getElem?.mp member
  obtain ⟨work, action⟩ := task
  cases action with
  | request q next => cases returned
  | failed e => cases returned
  | done outcome =>
      cases returned
      by_cases committed : position ∈ history.commits
      · rw [orderly.commits] at committed
        obtain ⟨deed, among, rfl⟩ := List.mem_map.mp committed
        obtain ⟨-, task, isTask, delivers, -⟩ := orderly.delivers deed among
        rw [found] at isTask
        cases isTask
        exact orderly.chronicle.ensures among delivers.symm
      · exact absurd rfl (withholds position _ found committed accounts)

theorem Equipped.sound (equipped : Equipped surroundings settings accounts system later) :
    later.world.store.tables.Sound settings.refs := by
  obtain ⟨_, _, _, orderly⟩ := (equipped.reaches.reachable equipped.reachable).exists_orderly
  exact orderly.chronicle.sound

theorem Equipped.ensures (equipped : Equipped surroundings settings accounts system later) :
    later.world.store.tables.Ensures settings.refs accounts := by
  obtain ⟨_, _, owner, orderly⟩ := equipped.reachable.exists_orderly
  obtain ⟨task, member, returned⟩ := equipped.returned
  obtain ⟨_, _, _, grows, orderly'⟩ := orderly.reaches equipped.reaches
  exact orderly.chronicle.stillEnsures orderly'.chronicle grows
    (equipped.reachable.ensures member returned)

def founding (settings : LedgerSettings) : System :=
  (List.replicate 20 0).foldl (fun system position => system.step .counting position)
    (empty.start (Operation.action settings .ensureSystemAccounts))

theorem reachable_founding (settings : LedgerSettings) :
    Reachable .counting (Admission.any.Allowed settings) (founding settings) :=
  (Reachable.empty.start _ ⟨_, trivial, rfl⟩).stepAll _

end System

def Bank.SystemAccounts.standard : Bank.SystemAccounts where
  bankingReserve := ⟨⟨⟨0⟩⟩, "bank", "Banking reserve", .asset, .system, .epoch⟩
  reservations := ⟨⟨⟨1⟩⟩, "reservations", "Reservations", .liability, .system, .epoch⟩
  premiums := ⟨⟨⟨2⟩⟩, "premiums", "Premiums", .liability, .system, .epoch⟩

def LedgerSettings.padded : LedgerSettings := ⟨⟨" bank", "reservations", "premiums"⟩, false⟩

theorem LedgerSettings.returned_padded : ∃ task ∈ (System.founding padded).tasks,
    task.result? = some (.ok (.systemAccounts .standard)) := by
  have results : (System.founding padded).tasks.map Task.result? =
      [some (.ok (.systemAccounts .standard))] := by
    decide +kernel
  exact List.mem_map.mp (by rw [results]; exact List.mem_cons_self)

end DoubleEntry
