import DoubleEntry.Proofs.Program.Steps

/-!
# Calm actions

Most requests have nothing to do with locks, new accounts and the committed tables.
An action is calm if it makes no others, and it reads if it opens a unit of work and
is calm after that.  It is silent if besides it stages balances and transactions only
and informs of no change.
-/

namespace DoubleEntry

/-- The event says that something was changed.  The service informs of nothing else. -/
def Event.ReportsChange (event : Event) : Prop := event.source = .service ∧ event.level = .info

instance (event : Event) : Decidable event.ReportsChange := inferInstanceAs (Decidable (_ ∧ _))

namespace Request

def Calm : Request → Prop
  | acquire _ | openWork | saveAccount _ | commit => False
  | _ => True

theorem Calm.ne_commit {q : Request} (calm : q.Calm) : q ≠ .commit := by
  rintro rfl
  exact calm

def KeepsAccounts : Request → Prop
  | saveAccount _ => False
  | _ => True

private theorem Calm.keepsAccounts {q : Request} (calm : q.Calm) : q.KeepsAccounts := by
  cases q with
  | saveAccount account => exact calm.elim
  | _ => trivial

def Silent : Request → Prop
  | acquire _ | openWork | commit | saveAccount _ | saveLedger _ | saveReservation _ => False
  | record event => ¬ event.ReportsChange
  | _ => True

theorem Silent.calm {q : Request} (silent : q.Silent) : q.Calm := by
  cases q with
  | acquire | openWork | commit | saveAccount => exact silent.elim
  | _ => trivial

variable {surroundings : Surroundings} {q : Request} {world : World} {work : UnitOfWork}

theorem perform_unstaged (keeps : q.KeepsAccounts) (unstaged : work.accounts = []) :
    (q.perform surroundings world work).2.2.accounts = [] := by
  cases q with
  | openWork => rfl
  | saveAccount account => exact keeps.elim
  | commit =>
      simp only [perform, performCommit_work]
      rfl
  | acquire account =>
      obtain ⟨guards, same⟩ := performAcquire_work world work account
      simp only [perform, same]
      exact unstaged
  | ledgerAt time =>
      simp only [perform, tracked]
      cases work.ledgerAt world.store.tables time <;> exact unstaged
  | openLedger =>
      simp only [perform, tracked]
      cases work.openLedger world.store.tables <;> exact unstaged
  | previousLedger ledger =>
      simp only [perform, tracked]
      cases work.previousLedger world.store.tables ledger <;> exact unstaged
  | _ => exact unstaged

theorem perform_accounts (unstaged : work.accounts = []) :
    (q.perform surroundings world work).2.1.store.tables.accounts =
      world.store.tables.accounts := by
  by_cases commits : q.Commits world.store.tables work
  · rw [(perform_of_commits surroundings commits).1, UnitOfWork.publish, unstaged]
    rfl
  · rw [perform_tables_of_not_commits surroundings commits]

end Request

namespace Action

variable {α β : Type}

def Calm : Action α → Prop
  | done _ => True
  | failed _ => True
  | request q next => q.Calm ∧ ∀ reply, (next reply).Calm

theorem Calm.bind {action : Action α} {rest : α → Action β} (first : action.Calm)
    (second : ∀ value, (rest value).Calm) : (action >>= rest).Calm := by
  induction action with
  | done value => exact second value
  | failed e => trivial
  | request q next ih => exact ⟨first.1, fun reply => ih reply (first.2 reply)⟩

theorem Calm.map {action : Action α} (calm : action.Calm) (f : α → β) : (f <$> action).Calm := by
  rw [← bind_pure_comp]
  exact calm.bind fun _ => trivial

theorem Calm.neverCommits {action : Action α} (calm : action.Calm) : action.NeverCommits := by
  induction action with
  | done value => trivial
  | failed e => trivial
  | request q next ih => exact ⟨calm.1.ne_commit, fun reply => ih reply (calm.2 reply)⟩

theorem calm_request {q : Request} {next : q.Reply → Action α} (calm : q.Calm)
    (goesOn : ∀ reply, (next reply).Calm) : (request q next).Calm :=
  ⟨calm, goesOn⟩

theorem calm_lift (result : Except LedgerError α) : (liftM result : Action α).Calm := by
  cases result <;> trivial

theorem calm_record (event : Event) : (record event).Calm := ⟨trivial, fun _ => trivial⟩

theorem calm_now : now.Calm := ⟨trivial, fun _ => trivial⟩

theorem calm_freshId {kind : RecordKind} : (freshId : Action (Id kind)).Calm :=
  ⟨trivial, fun _ => trivial⟩

/-! ## Actions that stage no account -/

def KeepsAccounts : Action α → Prop
  | done _ => True
  | failed _ => True
  | request q next => q.KeepsAccounts ∧ ∀ reply, (next reply).KeepsAccounts

theorem Calm.keepsAccounts {action : Action α} (calm : action.Calm) : action.KeepsAccounts := by
  induction action with
  | done value => trivial
  | failed e => trivial
  | request q next ih => exact ⟨calm.1.keepsAccounts, fun reply => ih reply (calm.2 reply)⟩

theorem KeepsAccounts.bind {action : Action α} {rest : α → Action β}
    (first : action.KeepsAccounts) (second : ∀ value, (rest value).KeepsAccounts) :
    (action >>= rest).KeepsAccounts := by
  induction action with
  | done value => exact second value
  | failed e => trivial
  | request q next ih => exact ⟨first.1, fun reply => ih reply (first.2 reply)⟩

theorem KeepsAccounts.map {action : Action α} (keeps : action.KeepsAccounts) (f : α → β) :
    (f <$> action).KeepsAccounts := by
  rw [← bind_pure_comp]
  exact keeps.bind fun _ => trivial

/-! ## Silent actions -/

def Silent : Action α → Prop
  | done _ => True
  | failed _ => True
  | request q next => q.Silent ∧ ∀ reply, (next reply).Silent

theorem Silent.calm {action : Action α} (silent : action.Silent) : action.Calm := by
  induction action with
  | done value => trivial
  | failed e => trivial
  | request q next ih => exact ⟨silent.1.calm, fun reply => ih reply (silent.2 reply)⟩

theorem Silent.bind {action : Action α} {rest : α → Action β} (first : action.Silent)
    (second : ∀ value, (rest value).Silent) : (action >>= rest).Silent := by
  induction action with
  | done value => exact second value
  | failed e => trivial
  | request q next ih => exact ⟨first.1, fun reply => ih reply (first.2 reply)⟩

theorem silent_request {q : Request} {next : q.Reply → Action α} (silent : q.Silent)
    (goesOn : ∀ reply, (next reply).Silent) : (request q next).Silent :=
  ⟨silent, goesOn⟩

theorem silent_lift (result : Except LedgerError α) : (liftM result : Action α).Silent := by
  cases result <;> trivial

theorem silent_orThrow (found : Option α) (e : LedgerError) : (orThrow found e).Silent := by
  cases found <;> trivial

theorem silent_record {event : Event} (quiet : event.level ≠ .info) : (record event).Silent :=
  ⟨fun reports => quiet reports.2, fun _ => trivial⟩

theorem silent_now : now.Silent := ⟨trivial, fun _ => trivial⟩

theorem silent_freshId {kind : RecordKind} : (freshId : Action (Id kind)).Silent :=
  ⟨trivial, fun _ => trivial⟩

/-! ## Actions that read -/

inductive Reads : Action α → Prop where
  | intro {next : Unit → Action α} (calm : (next ()).Calm) : Reads (openWork >>= next)

theorem Reads.neverCommits {action : Action α} (reads : action.Reads) : action.NeverCommits := by
  cases reads with
  | intro calm => exact ⟨nofun, fun _ => calm.neverCommits⟩

end Action

end DoubleEntry
