import DoubleEntry.Proofs.BalanceLookup

/-!
# Operations that post nothing

Accounts, periods and opened balances come and go unseen by whoever asks what an
account has at an instant.  After a rollover the answer may be found in another ledger,
and a balance that was opened answers for the ledgers after it; the amount is the same.
-/

namespace DoubleEntry

def Operation.PostsNothing : Operation → Prop
  | transfer .. | deposit .. | withdraw .. | reserve .. | charge .. | release .. => False
  | _ => True

namespace Tables

variable {refs : SystemRefs} {before after : Tables}

/-- Every instant that was covered still is, and every account has there what it had. -/
def Undisturbed (before after : Tables) : Prop :=
  ∀ ledger ∈ before.ledgers.values, ∀ time, ledger.covers time = true →
    ∃ now ∈ after.ledgers.values, now.covers time = true ∧ ∀ account : Account,
      (after.balanceIn account now).endAmount = (before.balanceIn account ledger).endAmount

private theorem Undisturbed.of_eq (ledgers : after.ledgers = before.ledgers)
    (balances : after.balances = before.balances) : before.Undisturbed after := by
  intro ledger stored time covers
  refine ⟨ledger, by rwa [ledgers], covers, fun account => ?_⟩
  rw [balanceIn_congr]
  · rw [earlier, earlier, ledgers]
  · simp [balances]

/-! ## Opened balances -/

private theorem Undisturbed.of_opened (sound : before.Sound refs)
    (ledgers : after.ledgers = before.ledgers)
    {account : Account} {ledger : Ledger} (stored : ledger ∈ before.ledgers.values)
    (missing : before.balances.get? ⟨ledger.id, account.id⟩ = none)
    (opened : after.balances = before.settle account ledger
      (before.balanceIn account ledger).endAmount before.balances) :
    before.Undisturbed after := by
  intro other among time covers
  refine ⟨other, by rwa [ledgers], covers, fun owner => ?_⟩
  have same : after.earlier other.opensAt = before.earlier other.opensAt := by
    rw [earlier, earlier, ledgers]
  rw [balanceIn_endAmount, balanceIn_endAmount, same]
  exact heldAfter_of_opened sound stored missing opened owner.id
    (earlier_prefix_concat sound.tiles among)

/-! ## Rollovers -/

private theorem heldAfter_congr_id {account : AccountId} {ledgers ledgers' : List Ledger}
    (balances : after.balances = before.balances)
    (ids : ledgers'.map Ledger.id = ledgers.map Ledger.id) :
    after.heldAfter account ledgers' = before.heldAfter account ledgers := by
  have read (tables : Tables) (row : List Ledger) :
      row.reverse.findSome? (fun ledger => tables.balances.get? ⟨ledger.id, account⟩) =
        (row.map Ledger.id).reverse.findSome? fun id => tables.balances.get? ⟨id, account⟩ := by
    rw [← List.map_reverse, List.findSome?_map]
    rfl
  rw [heldAfter, heldAfter, read, read, ids, balances]

private theorem Undisturbed.of_rollover (sound : before.Sound refs) (sound' : after.Sound refs)
    (housed : before.Housed) (balances : after.balances = before.balances)
    {earlier : List Ledger} {current closed next : Ledger}
    (values : before.ledgers.values = earlier ++ [current])
    (rolled : after.ledgers.values = earlier ++ [closed, next]) (sameId : closed.id = current.id)
    (sameStart : closed.opensAt = current.opensAt)
    (closes : closed.closesAt = some next.opensAt) (nextOpen : next.closesAt = none)
    (missing : before.ledgers.get? next.id = none) : before.Undisturbed after := by
  have row : after.earlier closed.opensAt = before.earlier current.opensAt := by
    rw [earlier_of_split sound.tiles values, earlier_of_split sound'.tiles rolled]
  have rolled' : after.ledgers.values = (earlier ++ [closed]) ++ [next] := by simp [rolled]
  intro ledger stored time covers
  have among := stored
  rw [values] at among
  rcases List.mem_append.mp among with isEarlier | isCurrent
  · have stays : ledger ∈ after.ledgers.values := by simp [rolled, isEarlier]
    obtain ⟨others, later, split⟩ := List.append_of_mem isEarlier
    refine ⟨ledger, stays, covers, fun account => ?_⟩
    have same : after.earlier ledger.opensAt = before.earlier ledger.opensAt := by
      rw [earlier_of_split sound.tiles (by rw [values, split, List.append_assoc]; rfl),
        earlier_of_split sound'.tiles (by rw [rolled, split, List.append_assoc]; rfl)]
    rw [balanceIn_congr same (by simp [balances])]
  · rw [List.mem_singleton.mp isCurrent] at covers ⊢
    have begun : current.opensAt ≤ time := (Ledger.covers_iff.mp covers).1
    by_cases early : time < next.opensAt
    · refine ⟨closed, by simp [rolled], Ledger.covers_iff.mpr ⟨sameStart ▸ begun, ?_⟩,
        fun account => ?_⟩
      · intro closesAt closes'
        cases closes.symm.trans closes'
        exact early
      · rw [balanceIn_endAmount, balanceIn_endAmount, row]
        exact heldAfter_congr_id balances (by simp [sameId])
    · refine ⟨next, by simp [rolled], Ledger.covers_iff.mpr ⟨Nat.not_lt.mp early, ?_⟩,
        fun account => ?_⟩
      · simp [nextOpen]
      · have unopened : after.balances.get? ⟨next.id, account.id⟩ = none := by
          rw [balances, Option.eq_none_iff_forall_ne_some]
          intro balance found
          obtain ⟨house, stored, sameId⟩ := housed _ _ found
          have found' := sound.ledgers.get?_name stored
          rw [sameId, missing] at found'
          cases found'
        rw [balanceIn_endAmount, balanceIn_endAmount, heldAfter_concat, unopened,
          earlier_of_split sound.tiles values, earlier_of_split sound'.tiles rolled']
        exact heldAfter_congr_id balances (by simp [sameId])

end Tables

/-! ## Operations -/

private theorem Voucher.undisturbed {settings : LedgerSettings} {tables : Tables}
    {operation : Operation}
    {work : UnitOfWork} {outcome : Outcome} {ids : List Uuid} {times : List Instant}
    (sound : tables.Sound settings.refs) (housed : tables.Housed)
    (voucher : Voucher settings tables operation work outcome ids times)
    (acceptable : work.Acceptable tables) (postsNothing : operation.PostsNothing) :
    tables.Undisturbed (work.publish tables) := by
  have sound' := UnitOfWork.publish_sound sound voucher acceptable
  have published : (work.publish tables).ledgers = work.ledgers.values.foldl
      (fun t ledger => t.insert ledger.id ledger.committed) tables.ledgers := rfl
  cases voucher with
  | ensureSystemAccounts => exact .of_eq rfl rfl
  | createAccount => exact .of_eq rfl rfl
  | openFirstLedger none => simp [Tables.Undisturbed, none]
  | closePeriodAndOpenNext stored isOpen _ closes fresh =>
      obtain ⟨missing, earlier, values, rolled⟩ :=
        sound.rollover_published stored isOpen closes fresh acceptable.ledgers_fit published
      obtain ⟨-, -, rfl⟩ := Ledger.close_eq_ok_iff.mp closes
      exact .of_rollover sound sound' housed rfl values rolled rfl rfl rfl rfl missing
  | @getOrCreateBalance account _ ledger stored _ missing =>
      refine .of_opened sound rfl stored missing ?_
      show tables.balances.insert _ _ = tables.balances.insert _ _
      rw [sound.balanceIn_key]
      rfl
  | _ => exact postsNothing.elim

private theorem Operation.run_undisturbed (surroundings : Surroundings) {settings : LedgerSettings}
    {world : World} {operation : Operation} (sound : world.store.tables.Sound settings.refs)
    (housed : world.store.tables.Housed) (postsNothing : operation.PostsNothing) :
    world.store.tables.Undisturbed (operation.run surroundings settings world).2.store.tables := by
  have ran := run_ran surroundings sound operation
  generalize operation.run surroundings settings world = result at ran ⊢
  cases ran with
  | commits voucher acceptable published =>
      rw [published]
      exact voucher.undisturbed sound housed acceptable postsNothing
  | rests _ kept => exact .of_eq (by rw [kept]) (by rw [kept])

/-- What an account has at an instant is the same before and after an operation that posts nothing,
whatever that operation comes to. -/
theorem System.Reachable.unmoved {surroundings : Surroundings} {settings : LedgerSettings}
    {world : World} {tasks : List Task}
    (reachable : System.Reachable surroundings (Admission.any.Allowed settings) ⟨world, tasks⟩)
    {operation : Operation} (postsNothing : operation.PostsNothing) {account : Account}
    (known : account ∈ world.store.tables.accounts.values) {ledger : Ledger}
    (stored : ledger ∈ world.store.tables.ledgers.values) {time : Instant}
    (covers : ledger.covers time = true) : ∃ amount,
      ((Operation.getBalance account.reference time).run surroundings settings world).1 =
        .ok (.amount amount) ∧
      ((Operation.getBalance account.reference time).run surroundings settings
        (operation.run surroundings settings world).2).1 = .ok (.amount amount) := by
  obtain ⟨_, _, _, orderly⟩ := reachable.exists_orderly
  have sound := reachable.sound
  have ran := Operation.run_ran surroundings sound operation
  obtain ⟨now, stored', covers', same⟩ :=
    Operation.run_undisturbed surroundings sound orderly.chronicle.housed postsNothing ledger stored
      time covers
  refine ⟨_, (Operation.run_getBalance surroundings sound known stored covers).1, ?_⟩
  rw [← same]
  have known' := ran.known sound known
  exact (Operation.run_getBalance surroundings (ran.sound sound) known' stored' covers').1

/-- The last of three periods is opened, and the instant moves to it from the second one, in neither
of which the account has a balance. -/
theorem System.Reachable.unmoved_rollover : ∃ (world : World) (operation : Operation)
    (account : Account) (ledger : Ledger) (time : Instant),
    (∃ tasks, System.Reachable .counting (Admission.any.Allowed .standard) ⟨world, tasks⟩) ∧
    operation.PostsNothing ∧ account ∈ world.store.tables.accounts.values ∧
    ledger ∈ world.store.tables.ledgers.values ∧ ledger.covers time = true ∧
    (operation.run .counting .standard world).2.store.tables.ledgers.values.map
      (fun ledger => ledger.covers time) = [false, false, true] ∧
    ∃ amount,
      ((Operation.getBalance account.reference time).run .counting .standard world).1 =
        .ok (.amount amount) ∧
      ((Operation.getBalance account.reference time).run .counting .standard
        (operation.run .counting .standard world).2).1 = .ok (.amount amount) := by
  let second : Instant := ⟨100, 0, by decide, by decide, by decide⟩
  let third : Instant := ⟨200, 0, by decide, by decide, by decide⟩
  let account : Account := ⟨⟨⟨4⟩⟩, "a", "a", .liability, .current, .epoch⟩
  let ledger : Ledger := ⟨⟨⟨8⟩⟩, "1970", second, none, 1⟩
  have start : System.Reachable .counting (Admission.any.Allowed .standard) ⟨.empty, []⟩ := .empty
  obtain ⟨tasks, reachable⟩ := Operation.exists_reachable_runAll start [.ensureSystemAccounts,
    .openFirstLedger .epoch, .createAccount "a" "a" .liability .current,
    .deposit "a" ⟨⟨100, by decide, by decide⟩, "", .epoch⟩, .closePeriodAndOpenNext second]
    fun _ _ _ => trivial
  refine ⟨_, .closePeriodAndOpenNext third, account, ledger, third, ⟨tasks, reachable⟩, ?idle,
    ?known, ?stored, ?covers, ?moves,
    System.Reachable.unmoved reachable ?idle ?known ?stored ?covers⟩
  case idle => trivial
  case known => decide +kernel
  case stored => decide +kernel
  case covers => decide +kernel
  case moves => decide +kernel

end DoubleEntry
