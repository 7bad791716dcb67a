import DoubleEntry.Proofs.Program.Consulting
import DoubleEntry.Proofs.Service.Calm

/-!
# What operations look up

Postings stage no account.  A transfer looks up its payer and its payee, and whatever
has to do with reservations looks up the account that the reserved amounts are in.
-/

namespace DoubleEntry

namespace Bank

open DoubleEntry.Action

theorem keepsAccounts_openWork : openWork.KeepsAccounts := ⟨trivial, fun _ => trivial⟩

private theorem keepsAccounts_commit : commit.KeepsAccounts := by
  refine ⟨trivial, fun reply => ?_⟩
  cases reply <;> trivial

private theorem keepsAccounts_lockAccounts (accounts : List AccountId) :
    (lockAccounts accounts).KeepsAccounts := by
  induction accounts with
  | nil => trivial
  | cons account rest ih =>
      refine ⟨trivial, fun reply => ?_⟩
      cases reply with
      | ok => exact ih
      | error e => trivial

theorem keepsAccounts_lockInOrder (refs : SystemRefs) (accounts : List Account) :
    (lockInOrder refs accounts).KeepsAccounts :=
  (keepsAccounts_lockAccounts _).bind fun _ => (calm_record _).keepsAccounts

theorem keepsAccounts_ending {α : Type} (event : Event) (value : α) :
    (do commit; record event; return value : Action α).KeepsAccounts :=
  keepsAccounts_commit.bind fun _ => (calm_record event).keepsAccounts.bind fun _ => trivial

/-! ## Operations that stage no account -/

variable (settings : LedgerSettings)

theorem keepsAccounts_transfer (payer payee : String) (posting : Posting) :
    (transfer settings payer payee posting).KeepsAccounts := by
  refine (silent_ensurePositive posting.amount).calm.keepsAccounts.bind fun _ => ?_
  refine keepsAccounts_openWork.bind fun _ => ?_
  refine (silent_requireAccount payer).calm.keepsAccounts.bind fun payer => ?_
  refine (silent_requireAccount payee).calm.keepsAccounts.bind fun payee => ?_
  split
  · trivial
  · refine (keepsAccounts_lockInOrder _ _).bind fun _ => ?_
    refine (silent_post settings payer payee posting).calm.keepsAccounts.bind fun transaction => ?_
    exact keepsAccounts_ending _ _

theorem keepsAccounts_reserve (reference businessReference : String) (posting : Posting) :
    (reserve settings reference businessReference posting).KeepsAccounts := by
  refine (silent_ensurePositive posting.amount).calm.keepsAccounts.bind fun _ => ?_
  refine keepsAccounts_openWork.bind fun _ => ?_
  refine (silent_requireAccount reference).calm.keepsAccounts.bind fun payer => ?_
  refine (silent_requireAccount _).calm.keepsAccounts.bind fun pool => ?_
  split
  · trivial
  · refine calm_freshId.keepsAccounts.bind fun id => ?_
    refine calm_now.keepsAccounts.bind fun createdAt => ?_
    refine (calm_lift _).keepsAccounts.bind fun reservation => ?_
    refine (keepsAccounts_lockInOrder _ _).bind fun _ => ?_
    refine ⟨trivial, fun found => ?_⟩
    cases found with
    | some known => trivial
    | none =>
        have posts := (silent_post settings payer pool posting).calm.keepsAccounts
        exact posts.bind fun transaction => ⟨trivial, fun _ => keepsAccounts_ending _ _⟩

theorem keepsAccounts_charge (reference businessReference : String) (posting : Posting) :
    (charge settings reference businessReference posting).KeepsAccounts := by
  refine (silent_ensurePositive posting.amount).calm.keepsAccounts.bind fun _ => ?_
  refine keepsAccounts_openWork.bind fun _ => ?_
  refine (silent_requireAccount reference).calm.keepsAccounts.bind fun beneficiary => ?_
  refine (silent_requireAccount _).calm.keepsAccounts.bind fun pool => ?_
  split
  · trivial
  · refine (keepsAccounts_lockInOrder _ _).bind fun _ => ?_
    refine (silent_requireReservation _).calm.keepsAccounts.bind fun reservation => ?_
    refine (silent_chargeReservation reservation _).calm.keepsAccounts.bind fun charged => ?_
    have posts := (silent_post settings pool beneficiary posting).calm.keepsAccounts
    exact posts.bind fun transaction => ⟨trivial, fun _ => keepsAccounts_ending _ _⟩

theorem keepsAccounts_release (businessReference description : String) (time : Instant) :
    (release settings businessReference description time).KeepsAccounts := by
  refine keepsAccounts_openWork.bind fun _ => ?_
  refine (silent_requireReservation _).calm.keepsAccounts.bind fun known => ?_
  refine (silent_requireAccount _).calm.keepsAccounts.bind fun payer => ?_
  refine (silent_requireAccount _).calm.keepsAccounts.bind fun pool => ?_
  refine (keepsAccounts_lockInOrder _ _).bind fun _ => ?_
  refine (silent_requireReservation _).calm.keepsAccounts.bind fun reservation => ?_
  dsimp only
  split
  · exact (calm_record _).keepsAccounts.bind fun _ => trivial
  · refine (silent_post settings pool payer _).calm.keepsAccounts.bind fun transaction => ?_
    exact ⟨trivial, fun _ => keepsAccounts_ending _ _⟩

/-! ## Lookups -/

theorem consults_requireAccount (reference : String) :
    (requireAccount reference).Consults (Text.trim reference) := .inl rfl

theorem consults_transfer_payer (payer payee : String) (posting : Posting) :
    (transfer settings payer payee posting).Consults (Text.trim payer) := by
  refine consults_bind fun _ => consults_bind fun _ => ?_
  exact (consults_requireAccount payer).bind _

theorem consults_transfer_payee (payer payee : String) (posting : Posting) :
    (transfer settings payer payee posting).Consults (Text.trim payee) := by
  refine consults_bind fun _ => consults_bind fun _ => consults_bind fun payer => ?_
  exact (consults_requireAccount payee).bind _

theorem consults_reserve (reference businessReference : String) (posting : Posting) :
    (reserve settings reference businessReference posting).Consults
      (Text.trim settings.refs.reservations) := by
  refine consults_bind fun _ => consults_bind fun _ => consults_bind fun payer => ?_
  exact (consults_requireAccount _).bind _

theorem consults_charge (reference businessReference : String) (posting : Posting) :
    (charge settings reference businessReference posting).Consults
      (Text.trim settings.refs.reservations) := by
  refine consults_bind fun _ => consults_bind fun _ => consults_bind fun beneficiary => ?_
  exact (consults_requireAccount _).bind _

theorem consults_release (businessReference description : String) (time : Instant) :
    (release settings businessReference description time).Consults
      (Text.trim settings.refs.reservations) := by
  refine consults_bind fun _ => consults_bind fun known => consults_bind fun payer => ?_
  exact (consults_requireAccount _).bind _

end Bank

end DoubleEntry
