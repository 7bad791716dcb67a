import DoubleEntry.Proofs.Service.Identity
import DoubleEntry.Proofs.Store.Versions

/-!
# Stale reads of ledgers

A unit of work remembers one version of every ledger that a search gave it: that of
the last search.  A commit therefore finds out when the ledger has changed since
then (`StaleRead.commit_refused`).  An earlier search is forgotten, and what was built on it
is committed although the ledger has changed (`StaleRead.not_always_refused`).
-/

namespace DoubleEntry

namespace Call

def found? (call : Call) : Option Ledger :=
  match call.request with
  | .ledgerAt time => call.work.ledgerAt call.world.store.tables time
  | .openLedger => call.work.openLedger call.world.store.tables
  | .previousLedger ledger => call.work.previousLedger call.world.store.tables ledger
  | _ => none

private theorem after_ledgerReads {surroundings : Surroundings} {call : Call}
    (opens : call.request ≠ .openWork) (commits : call.request ≠ .commit) :
    (call.after surroundings).2.ledgerReads =
      (call.work.track call.found?).ledgerReads := by
  obtain ⟨position, q, world, work⟩ := call
  cases q with
  | openWork => exact absurd rfl opens
  | commit => exact absurd rfl commits
  | acquire account =>
      obtain ⟨guards, same⟩ := Request.performAcquire_work world work account
      simp only [after, Request.perform, same]
      rfl
  | _ => rfl

private theorem request_of_found {call : Call} {ledger : Ledger}
    (found : call.found? = some ledger) : call.request ≠ .openWork ∧ call.request ≠ .commit := by
  constructor <;> intro same <;> simp [found?, same] at found

end Call

private theorem UnitOfWork.ledgerReads_track (work : UnitOfWork) (found : Option Ledger)
    (id : LedgerId) (version : Version) (known : work.ledgerReads.get? id = some version)
    (agrees : ∀ ledger, found = some ledger → ledger.id = id → ledger.version = version) :
    (work.track found).ledgerReads.get? id = some version := by
  cases found with
  | none => exact known
  | some ledger =>
      rw [track, Table.get?_insert]
      split
      next same => rw [agrees ledger rfl same]
      next => exact known

/-- After the moves `before`, a search of the task at `position` finds a committed ledger, and when
the task attempts to commit that unit of work, after the moves `between`, the ledger has another
version. -/
structure StaleRead (surroundings : Surroundings) (before : List Move) (position : Nat)
    (between : List Move) (ledger : Ledger) (read attempt : Call) : Prop where
  reads : (System.empty.run surroundings before).next? position = some read
  finds : read.found? = some ledger
  stored : read.world.store.tables.ledgers.get? ledger.id = some ledger
  same_work : ∀ call ∈ (System.empty.run surroundings (before ++ [.step position])).calls
    surroundings between, call.position = position →
      call.request ≠ .openWork ∧ call.request ≠ .commit
  attempts : ((System.empty.run surroundings (before ++ [.step position])).run surroundings
    between).next? position = some attempt
  commits : attempt.request = .commit
  changed : ∃ current ∈ attempt.world.store.tables.ledgers.get? ledger.id,
    current.version ≠ ledger.version

namespace StaleRead

variable {surroundings : Surroundings} {before between : List Move} {position : Nat}
  {ledger : Ledger} {read attempt : Call}

private theorem remembers
    (stale : StaleRead surroundings before position between ledger read attempt)
    (last : ∀ call ∈ (System.empty.run surroundings (before ++ [.step position])).calls
      surroundings between, call.position = position → ∀ later ∈ call.found?,
        later.id = ledger.id → later.version = ledger.version) :
    attempt.work.ledgerReads.get? ledger.id = some ledger.version := by
  obtain ⟨mine, -, _, task⟩ := System.next?_eq_some_iff.mp stale.reads
  have known : (read.after surroundings).2.ledgerReads.get? ledger.id = some ledger.version := by
    obtain ⟨opens, commits⟩ := Call.request_of_found stale.finds
    rw [Call.after_ledgerReads opens commits, stale.finds]
    exact Table.get?_insert_self _ _ _
  have moved := System.moved surroundings (System.empty.run surroundings before) (.step position)
  rw [System.call?, stale.reads] at moved
  have stepped : System.empty.run surroundings (before ++ [.step position]) =
      (System.empty.run surroundings before).move surroundings (.step position) :=
    System.run_append ..
  let Remembers (owner : Nat) (work : UnitOfWork) : Prop :=
    owner = position → work.ledgerReads.get? ledger.id = some ledger.version
  refine (System.works_run Remembers ?_ ?_ ?_).2 position attempt stale.attempts rfl
  · rintro _ call next rfl
    rw [stepped] at next
    rcases moved.work next with ⟨-, other⟩ | ⟨late, -⟩ | ⟨made, called, -, same⟩
    · exact absurd mine (other read rfl)
    · rw [List.getElem?_eq_none late] at task
      cases task
    · cases called
      rw [same]
      exact known
  · rintro _ late rfl
    rw [stepped] at late
    rw [List.getElem?_eq_none (Nat.le_trans moved.length late)] at task
    cases task
  · intro call member known mine
    obtain ⟨opens, commits⟩ := stale.same_work call member mine
    rw [Call.after_ledgerReads opens commits]
    exact UnitOfWork.ledgerReads_track _ _ _ _ (known mine) (last call member mine)

private theorem named (stale : StaleRead surroundings before position between ledger read attempt) :
    attempt.work.Named := by
  have attempts := stale.attempts
  rw [← System.run_append] at attempts
  exact (System.named_run surroundings _).2 position attempt attempts

/-- The commit is refused, unless a later search found the ledger at another version or the unit of
work staged it at another one. -/
theorem commit_refused (stale : StaleRead surroundings before position between ledger read attempt)
    (last : ∀ call ∈ (System.empty.run surroundings (before ++ [.step position])).calls
      surroundings between, call.position = position → ∀ later ∈ call.found?,
        later.id = ledger.id → later.version = ledger.version)
    (staged : ∀ own ∈ attempt.work.ledgers.get? ledger.id, own.version = ledger.version) :
    attempt.Refused surroundings := by
  have remembered := stale.remembers last
  have named := stale.named
  apply Call.refused_of_not_commits stale.commits
  intro commits
  have acceptable := (Call.commits_iff.mp commits).2
  obtain ⟨current, stored, differs⟩ := stale.changed
  cases own : attempt.work.ledgers.get? ledger.id with
  | none =>
      have entry := Table.mem_of_find?_eq_some remembered
      rcases acceptable.reads_current _ entry with contained | same
      · rw [Table.contains, own] at contained
        cases contained
      · rw [Option.mem_def.mp stored] at same
        exact differs (Option.some.inj same)
  | some own' =>
      obtain ⟨member, sameId⟩ := named.ledgers.get?_eq_some_iff.mp own
      have fits : UnitOfWork.Fits _ own'.version := acceptable.ledgers_fit own' member
      rw [sameId, Option.mem_def.mp stored, staged own' own] at fits
      exact differs fits

end StaleRead

/-! ## A posting during a rollover -/

def Action.postAnd (payer payee : Account) (posting : Bank.Posting) (last : Request) :
    Action Outcome := do
  openWork
  let transaction ← Bank.post .standard payer payee posting
  request last fun _ => done ()
  commit
  return .transaction transaction

namespace StaleRead

def beforeRollover (last : Request) : List Move :=
  let bank : Account := ⟨⟨⟨1⟩⟩, "bank", "bank", .asset, .system, .epoch⟩
  let premiums : Account := ⟨⟨⟨2⟩⟩, "premiums", "premiums", .liability, .system, .epoch⟩
  let time := (Instant.of? 200 0).getD .epoch
  let posting : Bank.Posting := ⟨⟨100, by decide, by decide⟩, "", time⟩
  .start (Operation.action .standard (.openFirstLedger .epoch)) :: List.replicate 6 (.step 0) ++
    [.start (.postAnd bank premiums posting last), .step 1]

def rollover : List Move :=
  let boundary := (Instant.of? 100 0).getD .epoch
  List.replicate 13 (.step 1) ++
    .start (Operation.action .standard (.closePeriodAndOpenNext boundary)) ::
      (List.replicate 8 (.step 2) ++ [.step 1])

/-- The posting is refused if its last request reads the clock. -/
theorem commit_refused_rollover : ∃ ledger read attempt,
    StaleRead .counting (beforeRollover .now) 1 rollover ledger read attempt ∧
    (∀ call ∈ (System.empty.run .counting (beforeRollover .now ++ [.step 1])).calls .counting
      rollover, call.position = 1 → ∀ later ∈ call.found?,
        later.id = ledger.id → later.version = ledger.version) ∧
    (∀ own ∈ attempt.work.ledgers.get? ledger.id, own.version = ledger.version) ∧
    attempt.Refused .counting := by
  let system := System.empty.run .counting (beforeRollover .now)
  let later := System.empty.run .counting (beforeRollover .now ++ [.step 1])
  let read := (system.next? 1).get (by decide +kernel)
  let ledger := read.found?.get (by decide +kernel)
  let attempt := ((later.run .counting rollover).next? 1).get (by decide +kernel)
  have stale : StaleRead .counting (beforeRollover .now) 1 rollover ledger read attempt := {
    reads := (Option.some_get _).symm
    finds := (Option.some_get _).symm
    stored := by decide +kernel
    same_work := by decide +kernel
    attempts := (Option.some_get _).symm
    commits := by decide +kernel
    changed := by decide +kernel }
  have last : ∀ call ∈ later.calls .counting rollover, call.position = 1 →
      ∀ later ∈ call.found?, later.id = ledger.id → later.version = ledger.version := by
    decide +kernel
  have staged : ∀ own ∈ attempt.work.ledgers.get? ledger.id, own.version = ledger.version := by
    decide +kernel
  exact ⟨ledger, read, attempt, stale, last, staged, stale.commit_refused last staged⟩

/-- The posting is committed, although its ledger has closed before its instant, if its last request
looks for the ledger of an earlier instant and finds the closed one. -/
theorem not_always_refused : ¬ ∀ (before : List Move) (position : Nat) (between : List Move)
    (ledger : Ledger) (read attempt : Call),
    StaleRead .counting before position between ledger read attempt →
      attempt.Refused .counting := by
  intro refused
  let last := Request.ledgerAt .epoch
  let system := System.empty.run .counting (beforeRollover last)
  let later := System.empty.run .counting (beforeRollover last ++ [.step 1])
  let read := (system.next? 1).get (by decide +kernel)
  let ledger := read.found?.get (by decide +kernel)
  let attempt := ((later.run .counting rollover).next? 1).get (by decide +kernel)
  have stale : StaleRead .counting (beforeRollover last) 1 rollover ledger read attempt := {
    reads := (Option.some_get _).symm
    finds := (Option.some_get _).symm
    stored := by decide +kernel
    same_work := by decide +kernel
    attempts := (Option.some_get _).symm
    commits := by decide +kernel
    changed := by decide +kernel }
  obtain ⟨e, fails⟩ := (refused _ _ _ _ _ _ stale).fails
  have succeeds : (Request.performCommit attempt.world attempt.work).1.isOk = true := by
    decide +kernel
  rw [fails] at succeeds
  cases succeeds

end StaleRead

end DoubleEntry
