import DoubleEntry.Proofs.Service.Identity
import DoubleEntry.Proofs.Store.Versions

/-!
# No update is lost

Whatever is staged and whether locks are taken or not, a commit replaces exactly the
version of a record that it was staged with.  The version in a slot counts the
commits that staged it, so of all units of work that staged a record at one version
at most one commits.
-/

namespace DoubleEntry

def Tables.versionAt (tables : Tables) (slot : Slot) : Nat :=
  ((tables.at? slot).map fun record => record.version.toNat).getD 0

def Tables.Counted (tables : Tables) : Prop :=
  ∀ slot record, tables.at? slot = some record → record.version ≠ 0

def UnitOfWork.Bounded (work : UnitOfWork) : Prop :=
  ∀ slot record, work.staged? slot = some record → record.version.toNat + 1 < UInt64.size

namespace Call

/-- Two attempts to commit the same record at the same version. -/
def Contends (a b : Call) : Prop :=
  a.request = .commit ∧ b.request = .commit ∧ ∃ slot first second,
    a.work.staged? slot = some first ∧ b.work.staged? slot = some second ∧
      first.version = second.version

structure Replaces (surroundings : Surroundings) (call : Call) (slot : Slot) (staged : Versioned) :
    Prop where
  finds : (call.world.store.tables.at? slot).map Versioned.version =
    if staged.version = 0 then none else some staged.version
  leaves : (call.after surroundings).1.store.tables.at? slot = some staged.committed
  raises : staged.committed.version.toNat = staged.version.toNat + 1

/-- Staged records stand under their names at versions that can be raised, and no stored record
has the version of a new one. -/
structure Regular (call : Call) : Prop where
  named : call.work.Named
  bounded : call.work.Bounded
  counted : call.world.store.tables.Counted

variable {surroundings : Surroundings} {call : Call} {slot : Slot} {staged : Versioned}

private theorem at?_of_unstaged (named : call.work.Named)
    (unstaged : call.Commits → call.work.staged? slot = none) :
    (call.after surroundings).1.store.tables.at? slot = call.world.store.tables.at? slot := by
  by_cases commits : call.Commits
  · rw [tables_of_commits commits, UnitOfWork.publish_at? named, unstaged commits]
    rfl
  · rw [tables_of_not_commits commits]

private theorem Regular.replaces (regular : call.Regular) (commits : call.Commits)
    (found : call.work.staged? slot = some staged) : call.Replaces surroundings slot staged where
  finds := by
    have fits := (commits_iff.mp commits).2.fits regular.named found
    cases stored : call.world.store.tables.at? slot with
    | none =>
        rw [stored] at fits
        have new : staged.version = 0 := fits
        rw [if_pos new]
        rfl
    | some record =>
        rw [stored] at fits
        have same : record.version = staged.version := fits
        have known : staged.version ≠ 0 := same ▸ regular.counted slot record stored
        rw [if_neg known, ← same]
        rfl
  leaves := by
    rw [tables_of_commits commits, UnitOfWork.publish_at? regular.named, found]
    rfl
  raises := by
    rw [Versioned.committed_version]
    exact Version.toNat_succ (regular.bounded slot staged found)

private theorem Replaces.versionAt (replaces : call.Replaces surroundings slot staged) :
    call.world.store.tables.versionAt slot = staged.version.toNat ∧
      (call.after surroundings).1.store.tables.versionAt slot = staged.version.toNat + 1 := by
  constructor
  · have finds := congrArg (fun version => (version.map UInt64.toNat).getD 0) replaces.finds
    simp only [Option.map_map] at finds
    refine Eq.trans finds ?_
    split
    next new =>
      rw [new]
      rfl
    next => rfl
  · rw [Tables.versionAt, replaces.leaves]
    exact replaces.raises

theorem Regular.counted_after (regular : call.Regular) :
    (call.after surroundings).1.store.tables.Counted := by
  intro slot record found
  by_cases unstaged : call.Commits → call.work.staged? slot = none
  · rw [at?_of_unstaged regular.named unstaged] at found
    exact regular.counted slot record found
  · obtain ⟨commits, isStaged⟩ := Classical.not_imp.mp unstaged
    obtain ⟨staged, isStaged⟩ := Option.ne_none_iff_exists'.mp isStaged
    have replaces : call.Replaces surroundings slot staged := regular.replaces commits isStaged
    rw [replaces.leaves, Option.some.injEq] at found
    intro new
    have raised := replaces.raises
    rw [found, new] at raised
    exact absurd raised (Nat.ne_of_lt (Nat.succ_pos _))

private theorem Regular.versionAt_le_after (regular : call.Regular) (slot : Slot) :
    call.world.store.tables.versionAt slot ≤
      (call.after surroundings).1.store.tables.versionAt slot := by
  by_cases unstaged : call.Commits → call.work.staged? slot = none
  · rw [Tables.versionAt, Tables.versionAt, at?_of_unstaged regular.named unstaged]
  · obtain ⟨commits, isStaged⟩ := Classical.not_imp.mp unstaged
    obtain ⟨staged, isStaged⟩ := Option.ne_none_iff_exists'.mp isStaged
    have replaces : call.Replaces surroundings slot staged := regular.replaces commits isStaged
    rw [replaces.versionAt.1, replaces.versionAt.2]
    exact Nat.le_succ _

end Call

namespace System

structure KeepsUpdates (surroundings : Surroundings) (moves : List Move) : Prop where
  replaces : ∀ call ∈ empty.calls surroundings moves, call.Commits →
    ∀ slot staged, call.work.staged? slot = some staged → call.Replaces surroundings slot staged
  keeps : ∀ before between after, moves = before ++ between ++ after → ∀ slot,
    (∀ call ∈ (empty.run surroundings before).calls surroundings between,
      call.Commits → call.work.staged? slot = none) →
    (empty.run surroundings (before ++ between)).world.store.tables.at? slot =
      (empty.run surroundings before).world.store.tables.at? slot
  once : (empty.calls surroundings moves).Pairwise fun a b => a.Contends b →
    (a.Commits → b.Refused surroundings) ∧ (b.Commits → a.Refused surroundings)
  refused : ∀ call ∈ empty.calls surroundings moves, call.request = .commit →
    ¬ call.Commits → call.Refused surroundings

variable {surroundings : Surroundings} {system : System} {moves : List Move}

theorem regular_of_bounded
    (bounded : ∀ call ∈ empty.calls surroundings moves, ∀ record ∈ call.request.staged?,
      record.version.toNat + 1 < UInt64.size) :
    ∀ call ∈ empty.calls surroundings moves, call.Regular := by
  have named := (named_run surroundings moves).1
  have fine : ∀ call ∈ empty.calls surroundings moves, call.work.Bounded := by
    refine (works_run (fun _ work => work.Bounded) ?_ ?_ ?_).1
    · intro position call next
      simp [next?, empty] at next
    · intro _ _ slot record found
      simp at found
    · intro call member bound slot record found
      rcases Request.perform_staged? found with before | saved
      · exact bound slot record before
      · exact bounded call member record saved
  have tables : ∀ call ∈ empty.calls surroundings moves, call.world.store.tables.Counted := by
    refine (tables_run Tables.Counted ?_ ?_).1
    · intro slot record found
      cases slot <;> cases found
    · intro call member counted
      exact Call.Regular.counted_after ⟨named call member, fine call member, counted⟩
  exact fun call member => ⟨named call member, fine call member, tables call member⟩

private theorem commits_apart (regular : ∀ call ∈ system.calls surroundings moves, call.Regular) :
    (system.calls surroundings moves).Pairwise fun a b => a.Contends b →
      ¬ (a.Commits ∧ b.Commits) := by
  induction moves generalizing system with
  | nil => exact .nil
  | cons move rest ih =>
      have others : ∀ call ∈ (system.move surroundings move).calls surroundings rest,
          call.Regular := fun call member => regular call (mem_calls_cons.mpr (.inr member))
      rw [calls]
      refine List.pairwise_append.mpr ⟨by cases system.call? move <;> simp, ih others, ?_⟩
      rintro a first b later ⟨-, -, slot, staged, staged', isStaged, isStaged', same⟩
        ⟨commits, commits'⟩
      have called := Option.mem_toList.mp first
      have replaces : a.Replaces surroundings slot staged :=
        (regular a (mem_calls_cons.mpr (.inl called))).replaces commits isStaged
      have replaces' : b.Replaces surroundings slot staged' :=
        (others b later).replaces commits' isStaged'
      let Beyond (tables : Tables) : Prop := staged.version.toNat < tables.versionAt slot
      have now : Beyond (system.move surroundings move).world.store.tables := by
        rw [(moved surroundings system move).tables, called]
        exact Nat.lt_of_lt_of_eq (Nat.lt_succ_self _) replaces.versionAt.2.symm
      have beyond : Beyond b.world.store.tables :=
        (tables_run Beyond now fun call member before =>
          Nat.lt_of_lt_of_le before ((others call member).versionAt_le_after slot)).1 b later
      exact Nat.ne_of_lt beyond (same ▸ replaces'.versionAt.1.symm)

/-- Whatever tasks do side by side, no update is lost, as long as no staged version is the
greatest. -/
theorem keepsUpdates (surroundings : Surroundings) (moves : List Move)
    (bounded : ∀ call ∈ empty.calls surroundings moves, ∀ record ∈ call.request.staged?,
      record.version.toNat + 1 < UInt64.size) :
    KeepsUpdates surroundings moves := by
  have regular := regular_of_bounded bounded
  constructor
  case replaces =>
    exact fun call member commits slot staged found => (regular call member).replaces commits found
  case keeps =>
    rintro before between after rfl slot unstaged
    rw [run_append]
    refine (tables_run (fun tables => tables.at? slot = _) rfl ?_).2
    intro call member kept
    have among : call ∈ empty.calls surroundings (before ++ between ++ after) := by
      rw [calls_append, calls_append]
      exact List.mem_append_left _ (List.mem_append_right _ member)
    rw [Call.at?_of_unstaged (regular call among).named (unstaged call member), kept]
  case once =>
    refine (commits_apart regular).imp fun apart contends => ⟨fun commits => ?_, fun commits => ?_⟩
    · exact Call.refused_of_not_commits contends.2.1 fun also => apart contends ⟨commits, also⟩
    · exact Call.refused_of_not_commits contends.1 fun also => apart contends ⟨also, commits⟩
  case refused =>
    exact fun call _ attempts kept => Call.refused_of_not_commits attempts kept

end System

def Action.overwrite (balance : Balance) : Action Outcome := do
  openWork
  saveBalance balance
  commit
  return .balance balance.committed

/-- Two tasks stage the same new balance side by side, and a third stages the balance that the
first leaves. -/
theorem System.keepsUpdates_race : ∃ moves : List Move,
    (∀ call ∈ empty.calls .counting moves, ∀ record ∈ call.request.staged?,
      record.version.toNat + 1 < UInt64.size) ∧
    ((empty.calls .counting moves).filter fun call => call.request = .commit).map
      (fun call => (Request.performCommit call.world call.work).1.isOk) = [true, false, true] ∧
    KeepsUpdates .counting moves := by
  let balance : Balance :=
    ⟨⟨⟨⟨1⟩⟩, ⟨⟨2⟩⟩⟩, "a", .liability, .current, .zero, .zero, 0⟩
  let moves : List Move := [.start (.overwrite balance), .start (.overwrite balance),
    .start (.overwrite balance.committed), .step 0, .step 0, .step 1, .step 1, .step 0, .step 1,
    .step 2, .step 2, .step 2]
  have bounded : ∀ call ∈ empty.calls .counting moves, ∀ record ∈ call.request.staged?,
      record.version.toNat + 1 < UInt64.size := by
    decide +kernel
  refine ⟨moves, bounded, ?_, keepsUpdates .counting moves bounded⟩
  decide +kernel

end DoubleEntry
