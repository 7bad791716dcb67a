import DoubleEntry.Program.Interleaving
import DoubleEntry.Proofs.Service.AccountVouching
import DoubleEntry.Proofs.Service.Calm

/-!
# Operations that post vouch

Transfers and the operations on reservations lock both accounts before they load
the balances, and the lock of the reservations account guards the reservation.
-/

namespace DoubleEntry.Bank

open DoubleEntry.Action

variable {surroundings : Surroundings} {settings : LedgerSettings} {tables : Tables}
  {work : UnitOfWork} {drawn : List Nat}

/-! ## Transfers -/

private theorem vouches_transfer {payerReference payeeReference : String} {posting : Posting} :
    (transfer settings payerReference payeeReference posting).Vouches surroundings settings.refs
      (fun tables work drawn transaction =>
        (Operation.transfer payerReference payeeReference posting).Certified surroundings settings
          tables work drawn (.transaction transaction)) tables work drawn := by
  rw [transfer]
  apply vouches_ensurePositive
  apply vouches_openWork
  intro t₁ leads₁
  apply vouches_requireAccount
  intro t₂ payer leads₂ isPayer
  apply vouches_requireAccount
  intro t₃ payee leads₃ isPayee
  by_cases same : payer.id = payee.id
  · simp only [if_pos same]
    trivial
  · simp only [if_neg same]
    apply vouches_lockInOrder leads₃.sound
    intro t₄ guards leads₄ _ held
    have payer_guarded := held payer (by simp)
    have payee_guarded := held payee (by simp)
    apply vouches_post payer_guarded payee_guarded
    intro t₅ reads transaction balances time first second third leads₅ ready
    apply vouches_commit
    intro t₆ leads₆ acceptable
    have posts := ready t₆ leads₆ (acceptable.readsCurrent rfl)
    have onwards := (leads₄.trans (leads₅.mono (by simp))).trans (leads₆.mono (by simp))
    refine ⟨transaction, ⟨[first, second, third], [time], ?_, by simp, ?_⟩, rfl⟩
    · exact .transfer (onwards.account? (leads₃.account? isPayer)) (onwards.account? isPayee) same
        posts
    · constructor
      · exact posts.accountId_mem leads₆.sound same payer_guarded payee_guarded
      · simp [posted, UnitOfWork.ofPosting]

/-! ## Reservations -/

theorem guarded_of_posts {payer payee pool : Account} {posting : Posting} {ids : PostingIds}
    {time : Instant} {transaction : Transaction} {balances : List Balance}
    {guards : List AccountId} {reads : Table LedgerId Version} {reservation : Reservation}
    (sound : tables.Sound settings.refs) (apart : payer.id ≠ payee.id)
    (posts : tables.Posts settings payer payee posting ids time transaction balances)
    (payer_guarded : payer.id ∈ guards) (payee_guarded : payee.id ∈ guards)
    (isPool : tables.account? settings.refs.reservations = some pool)
    (pool_guarded : pool.id ∈ guards) :
    ((posted guards reads transaction balances).saveReservation reservation).Guarded settings.refs
      tables where
  balances := posts.accountId_mem sound apart payer_guarded payee_guarded
  reservations := by
    intro _ _ other isOther
    rw [isPool] at isOther
    cases isOther
    exact pool_guarded

private theorem vouches_reserve {reference businessReference : String} {posting : Posting} :
    (reserve settings reference businessReference posting).Vouches surroundings settings.refs
      (fun tables work drawn reservation =>
        (Operation.reserve reference businessReference posting).Certified surroundings settings
          tables work drawn (.reservation reservation)) tables work drawn := by
  rw [reserve]
  apply vouches_ensurePositive
  apply vouches_openWork
  intro t₁ leads₁
  apply vouches_requireAccount
  intro t₂ payer leads₂ isPayer
  apply vouches_requireAccount
  intro t₃ pool leads₃ isPool
  by_cases same : payer.id = pool.id
  · simp only [if_pos same]
    trivial
  · simp only [if_neg same]
    apply vouches_freshId
    intro t₄ position leads₄
    apply vouches_now
    intro t₅ created leads₅
    apply vouches_lift
    intro reservation creates
    apply vouches_lockInOrder leads₅.sound
    intro t₆ guards leads₆ _ held
    have payer_guarded := held payer (by simp)
    have pool_guarded := held pool (by simp)
    apply vouches_findReservation
    intro t₇ leads₇
    rw [UnitOfWork.reading_findReservation]
    cases found : t₇.reservations.get? reservation.businessReference with
    | some stored => trivial
    | none =>
        apply vouches_post payer_guarded pool_guarded
        intro t₈ reads transaction balances time first second third leads₈ ready
        apply vouches_saveReservation
        intro t₉ leads₉
        apply vouches_commit
        intro t leads acceptable
        have posts := ready t (leads₉.trans leads) (acceptable.readsCurrent rfl)
        have guarded₇ := (leads₈.trans leads₉).trans leads
        have before := ((leads₄.trans leads₅).trans leads₆).trans
          ((leads₇.trans guarded₇).mono (List.nil_subset guards))
        have isPool₇ := leads₇.account? (((leads₄.trans leads₅).trans leads₆).account? isPool)
        have missing : t.reservations.get? reservation.businessReference = none := by
          rw [guarded₇.reservations pool isPool₇ pool_guarded, found]
        have isPool := before.account? isPool
        refine ⟨_, ⟨[position, first, second, third], [created, time], ?_, by simp,
          guarded_of_posts leads.sound same posts payer_guarded pool_guarded isPool pool_guarded⟩,
          rfl⟩
        exact .reserve (before.account? (leads₃.account? isPayer)) isPool same creates missing posts

private theorem vouches_chargeReservation {α : Type} {refs : SystemRefs}
    {certified : Tables → UnitOfWork → List Nat → α → Prop} {reservation : Reservation}
    {amount : Money} {next : Reservation → Action α}
    (goesOn : ∀ charged, reservation.charge amount = .ok charged →
      (next charged).Vouches surroundings refs certified tables work drawn) :
    (chargeReservation reservation amount >>= next).Vouches surroundings refs certified tables work
      drawn := by
  rw [chargeReservation]
  split
  next charged charges => exact goesOn charged charges
  next e refused =>
    rw [bind_assoc]
    apply vouches_record
    intro _ _
    trivial

private theorem vouches_charge {reference businessReference : String} {posting : Posting} :
    (charge settings reference businessReference posting).Vouches surroundings settings.refs
      (fun tables work drawn transaction =>
        (Operation.charge reference businessReference posting).Certified surroundings settings
          tables work drawn (.transaction transaction)) tables work drawn := by
  rw [charge]
  apply vouches_ensurePositive
  apply vouches_openWork
  intro t₁ leads₁
  apply vouches_requireAccount
  intro t₂ beneficiary leads₂ isBeneficiary
  apply vouches_requireAccount
  intro t₃ pool leads₃ isPool
  by_cases same : beneficiary.id = pool.id
  · simp only [if_pos same]
    trivial
  · simp only [if_neg same]
    apply vouches_lockInOrder leads₃.sound
    intro t₄ guards leads₄ _ held
    have pool_guarded := held pool (by simp)
    have beneficiary_guarded := held beneficiary (by simp)
    apply vouches_requireReservation
    intro t₅ reservation leads₅ found
    apply vouches_chargeReservation
    intro charged charges
    apply vouches_post pool_guarded beneficiary_guarded
    intro t₆ reads transaction balances time first second third leads₆ ready
    apply vouches_saveReservation
    intro t₇ leads₇
    apply vouches_commit
    intro t leads acceptable
    have posts := ready t (leads₇.trans leads) (acceptable.readsCurrent rfl)
    have guarded₅ := (leads₆.trans leads₇).trans leads
    have before := leads₄.trans ((leads₅.trans guarded₅).mono (List.nil_subset guards))
    have found : t.reservations.get? (Text.trim businessReference) = some reservation := by
      rw [guarded₅.reservations pool (leads₅.account? (leads₄.account? isPool)) pool_guarded, found]
    have isPool := before.account? isPool
    have apart : pool.id ≠ beneficiary.id := fun h => same h.symm
    refine ⟨_, ⟨[first, second, third], [time], ?_, by simp,
      guarded_of_posts leads.sound apart posts pool_guarded beneficiary_guarded isPool
        pool_guarded⟩, rfl⟩
    exact .charge (before.account? (leads₃.account? isBeneficiary)) isPool apart found charges posts

private theorem vouches_release {businessReference description : String} {time : Instant} :
    (release settings businessReference description time).Vouches surroundings settings.refs
      (fun tables work drawn released =>
        (Operation.release businessReference description time).Certified surroundings settings
          tables work drawn
          ((Operation.release businessReference description time).outcome released))
      tables work drawn := by
  rw [release]
  apply vouches_openWork
  intro t₁ leads₁
  apply vouches_requireReservation
  intro t₂ early leads₂ foundEarly
  apply vouches_requireAccount
  intro t₃ payer leads₃ isPayer
  apply vouches_requireAccount
  intro t₄ pool leads₄ isPool
  apply vouches_lockInOrder leads₄.sound
  intro t₅ guards leads₅ _ held
  have pool_guarded := held pool (by simp)
  have payer_guarded := held payer (by simp)
  apply vouches_requireReservation
  intro t₆ reservation leads₆ found
  cases left : reservation.release.1.isZero with
  | true =>
      simp only [left, if_true]
      apply vouches_record
      intro _ _
      trivial
  | false =>
      simp only [left]
      apply vouches_post pool_guarded payer_guarded
      intro t₇ reads transaction balances posted first second third leads₇ ready
      apply vouches_saveReservation
      intro t₈ leads₈
      apply vouches_commit
      intro t leads acceptable
      have posts := ready t (leads₈.trans leads) (acceptable.readsCurrent rfl)
      have guarded₆ := (leads₇.trans leads₈).trans leads
      have unguarded₆ := leads₅.trans (leads₆.mono (List.nil_subset guards))
      have samePayer : reservation.accountReference = early.accountReference := by
        obtain ⟨later, foundLater, same⟩ :=
          ((leads₃.trans leads₄).trans unguarded₆).payers _ _ foundEarly
        rw [found] at foundLater
        cases foundLater
        exact same
      have found : t.reservations.get? (Text.trim businessReference) = some reservation := by
        rw [guarded₆.reservations pool (unguarded₆.account? isPool) pool_guarded, found]
      have before := unguarded₆.trans (guarded₆.mono (List.nil_subset guards))
      have isPool := before.account? isPool
      have isPayer : t.account? reservation.accountReference = some payer := by
        rw [samePayer]
        exact before.account? (leads₄.account? isPayer)
      have apart : pool.id ≠ payer.id := by
        obtain ⟨other, other', isOther, isOther', differ⟩ := leads.sound.payers_apart reservation
          (leads.sound.reservations.mem_of_get? found)
        rw [isPayer] at isOther
        rw [isPool] at isOther'
        cases isOther
        cases isOther'
        exact fun h => differ h.symm
      refine ⟨some transaction, ⟨[first, second, third], [posted], ?_, by simp,
        guarded_of_posts leads.sound apart posts pool_guarded payer_guarded isPool pool_guarded⟩,
        rfl⟩
      exact .release found isPayer isPool apart rfl left posts

end DoubleEntry.Bank

namespace DoubleEntry.Operation

open DoubleEntry.Action

/-- Every operation vouches for its commit, among whatever other operations it runs. -/
theorem vouches {surroundings : Surroundings} {settings : LedgerSettings} {tables : Tables}
    {operation : Operation} :
    (operation.action settings).Vouches surroundings settings.refs
      (operation.Certified surroundings settings) tables .empty [] := by
  apply Vouches.map
  cases operation with
  | ensureSystemAccounts => exact Bank.vouches_ensureSystemAccounts
  | createAccount => exact Bank.vouches_createAccount
  | lookupAccount reference => exact (Bank.reads_lookupAccount reference).neverCommits.vouches
  | openFirstLedger => exact Bank.vouches_openFirstLedger
  | currentLedger => exact Bank.reads_currentLedger.neverCommits.vouches
  | closePeriodAndOpenNext => exact Bank.vouches_closePeriodAndOpenNext
  | getOrCreateBalance => exact Bank.vouches_getOrCreateBalance
  | getBalance reference time => exact (Bank.reads_getBalance reference time).neverCommits.vouches
  | transfer => exact Bank.vouches_transfer
  | deposit =>
      refine Bank.vouches_transfer.imp ?_
      rintro _ _ _ _ ⟨used, times, voucher, drawn, guarded⟩
      exact ⟨used, times, .deposit voucher, drawn, guarded⟩
  | withdraw =>
      refine Bank.vouches_transfer.imp ?_
      rintro _ _ _ _ ⟨used, times, voucher, drawn, guarded⟩
      exact ⟨used, times, .withdraw voucher, drawn, guarded⟩
  | reserve => exact Bank.vouches_reserve
  | charge => exact Bank.vouches_charge
  | release => exact Bank.vouches_release

end DoubleEntry.Operation
