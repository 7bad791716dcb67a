import DoubleEntry.Proofs.Service.Lookups
import DoubleEntry.Proofs.Service.Vouchers

/-!
# Postings among others

A posting between two locked accounts stages what it would stage if it ran alone
at the commit: the balances are guarded, and the ledger was read with its version.
-/

namespace DoubleEntry

theorem UnitOfWork.Acceptable.readsCurrent {work : UnitOfWork} {tables : Tables}
    (acceptable : work.Acceptable tables) (unstaged : work.ledgers = ∅) :
    work.ReadsCurrent tables := by
  intro entry member
  rcases acceptable.reads_current entry member with staged | current
  · simp [unstaged, Table.contains] at staged
  · exact current

namespace Bank

open DoubleEntry.Action

variable {α : Type} {surroundings : Surroundings} {refs : SystemRefs}
  {certified : Tables → UnitOfWork → List Nat → α → Prop} {tables : Tables} {work : UnitOfWork}
  {guards : List AccountId} {reads : Table LedgerId Version} {drawn : List Nat}

theorem vouches_ensurePositive {amount : Money} {next : Unit → Action α}
    (goesOn : (next ()).Vouches surroundings refs certified tables work drawn) :
    (ensurePositive amount >>= next).Vouches surroundings refs certified tables work drawn := by
  rw [ensurePositive]
  split
  · exact goesOn
  · trivial

private theorem vouches_checkOverdraft {ledger : Ledger} {prepared : Prepared} {amount : Money}
    {balance : Balance} {next : Unit → Action α}
    (goesOn : prepared.Permits balance →
      (next ()).Vouches surroundings refs certified tables work drawn) :
    (checkOverdraft ledger prepared amount balance >>= next).Vouches surroundings refs certified
      tables work drawn := by
  rw [checkOverdraft]
  split
  next isProtected =>
    rw [bind_assoc]
    apply vouches_lift
    intro projected isProjected
    cases negative : projected.isNegative with
    | true =>
        simp only [if_true, bind_assoc]
        apply vouches_record
        intro _ _
        trivial
    | false => exact goesOn fun _ => ⟨projected, isProjected, negative⟩
  next unprotected => exact goesOn fun isProtected => absurd isProtected unprotected

private theorem vouches_freshPostingIds {next : PostingIds → Action α}
    (goesOn : ∀ later first second third, tables.Leads refs work.guards later →
      (next (.ofThree (surroundings.uuid first) (surroundings.uuid second)
        (surroundings.uuid third))).Vouches surroundings refs certified later work
          (drawn ++ [first, second, third])) :
    (freshPostingIds >>= next).Vouches surroundings refs certified tables work drawn := by
  simp only [freshPostingIds, bind_assoc]
  apply vouches_freshId
  intro one first leads
  apply vouches_freshId
  intro two second leads'
  apply vouches_freshId
  intro three third leads''
  have appended : drawn ++ [first] ++ [second] ++ [third] = drawn ++ [first, second, third] := by
    simp
  rw [appended]
  exact goesOn three first second third ((leads.trans leads').trans leads'')

private theorem vouches_saveBalances {balances : List Balance} {next : Unit → Action α}
    (sound : tables.Sound refs)
    (goesOn : ∀ later, tables.Leads refs work.guards later →
      (next ()).Vouches surroundings refs certified later
        { work with
          balances := balances.foldl (fun table balance => table.insert balance.key balance)
            work.balances } drawn) :
    (balances.forM saveBalance >>= next).Vouches surroundings refs certified tables work drawn := by
  induction balances generalizing tables work with
  | nil => exact goesOn tables (.refl sound)
  | cons balance rest ih =>
      have first : (balance :: rest).forM saveBalance =
          saveBalance balance >>= fun _ => rest.forM saveBalance := rfl
      rw [first, bind_assoc]
      apply vouches_saveBalance
      intro middle leads
      apply ih leads.sound
      intro later leads'
      exact goesOn later (leads.trans leads')

theorem mem_of_readsCurrent {ledger : Ledger} (sound : tables.Sound refs)
    (known : tables.Remembers ledger) (version : ledger.version = if ledger.isOpen then 1 else 2)
    (current : work.ReadsCurrent tables)
    (tracked : work.ledgerReads.get? ledger.id = some ledger.version) :
    ledger ∈ tables.ledgers.values :=
  known.mem_of_version sound.tiles sound.ledgers version
    (current (ledger.id, ledger.version) (Table.mem_of_find?_eq_some tracked))

def posted (guards : List AccountId) (reads : Table LedgerId Version) (transaction : Transaction)
    (balances : List Balance) : UnitOfWork :=
  { UnitOfWork.ofPosting transaction balances ∅ with guards, ledgerReads := reads }

theorem vouches_post {settings : LedgerSettings} {payer payee : Account} {posting : Posting}
    {next : Transaction → Action α} (payer_guarded : payer.id ∈ guards)
    (payee_guarded : payee.id ∈ guards)
    (goesOn : ∀ later more transaction balances time first second third,
      tables.Leads refs guards later →
      (∀ last, later.Leads refs guards last → (UnitOfWork.reading guards more).ReadsCurrent last →
        last.Posts settings payer payee posting
          (.ofThree (surroundings.uuid first) (surroundings.uuid second) (surroundings.uuid third))
          time transaction balances) →
        (next transaction).Vouches surroundings refs certified later
          (posted guards more transaction balances) (drawn ++ [first, second, third])) :
    (post settings payer payee posting >>= next).Vouches surroundings refs certified tables
      (.reading guards reads) drawn := by
  simp only [post, bind_assoc]
  apply vouches_requirePostable
  intro t₁ ledger leads₁ stored covers postable
  have known := Tables.remembers_of_mem stored
  have version := leads₁.sound.tiles.version_eq stored
  refine vouches_loadBalance payer_guarded known (by simp) ?_
  intro t₂ reads₂ leads₂ tracked₂
  refine vouches_loadBalance payee_guarded (known.continues leads₂.continues) tracked₂ ?_
  intro t₃ reads₃ leads₃ tracked₃
  rw [leads₂.balanceIn payee_guarded known]
  apply vouches_now
  intro t₄ time leads₄
  apply vouches_lift
  intro draft drafted
  apply vouches_freshPostingIds
  intro t₅ first second third leads₅
  apply vouches_lift
  intro prepared isPrepared
  apply vouches_checkOverdraft
  intro permits_debited
  apply vouches_checkOverdraft
  intro permits_credited
  apply vouches_lift
  rintro ⟨transaction, balances⟩ applied
  apply vouches_saveBalances leads₅.sound
  intro t₆ leads₆
  apply vouches_saveTransaction
  intro t₇ leads₇
  have onwards : t₁.Leads refs guards t₇ :=
    ((((leads₂.trans leads₃).trans leads₄).trans leads₅).trans leads₆).trans leads₇
  refine goesOn t₇ reads₃ transaction balances time first second third (leads₁.trans onwards) ?_
  intro last leads current
  have onwards := onwards.trans leads
  have remembered := known.continues onwards.continues
  have isPosted : Posted ledger (last.balanceIn payer ledger) (last.balanceIn payee ledger) posting
      (.ofThree (surroundings.uuid first) (surroundings.uuid second) (surroundings.uuid third)) time
      draft prepared transaction balances := by
    rw [onwards.balanceIn payer_guarded known, onwards.balanceIn payee_guarded known]
    exact ⟨drafted, isPrepared, permits_debited, permits_credited, applied⟩
  exact .intro (mem_of_readsCurrent leads.sound remembered version current tracked₃) covers postable
    isPosted

end Bank

end DoubleEntry
