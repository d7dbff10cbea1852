import Mathlib.Data.Finset.Card
import PeerBadge.Runs

/-! # A registry of credentials

What issuing, revoking and presenting credentials are for, if there were one place that
everybody trusts: a registry that counts what has been issued, remembers which credentials
have been revoked, authorized and accepted, and looks up before anything is accepted or
refused whether it may be.

Issuance is blind, so the registry does not know which credential a request was for. For
each info an issuer of good faith has as many different credentials accepted as it has
issued at the most, and which ones these are shows only when they are accepted.
-/

namespace PeerBadge

/-- What a credential says. -/
structure Entry (ι ν μ : Type) where
  issuer : ι
  info : ν
  message : μ
deriving DecidableEq

/-- What has been issued, accepted, revoked and authorized. -/
structure Registry (ι ν μ η υ : Type) where
  issued : List (ι × ν)
  accepted : Finset (Entry ι ν μ)
  revoked : Finset (Entry ι ν μ)
  authorized : Finset (η × υ × Entry ι ν μ)

namespace Registry

/-- Something that is done with a credential. -/
inductive Action (ι ν μ η υ : Type) where
  | issue (issuer : ι) (info : ν)
  | revoke (issuer : ι) (entry : Entry ι ν μ)
  | authorize (holder : η) (use : υ) (entry : Entry ι ν μ)
  | accept (entry : Entry ι ν μ)
  | refuse (entry : Entry ι ν μ)
  | present (holder : η) (use : υ) (entry : Entry ι ν μ)
  | nothing
deriving DecidableEq

variable {ι ν μ η υ : Type}

/-- The credential that is accepted. -/
def Action.accepts : Action ι ν μ η υ → Option (Entry ι ν μ)
  | .accept entry => some entry
  | .present _ _ entry => some entry
  | _ => none

/-- Who acts in good faith, and to whom a message belongs. -/
structure Parties (ι μ η : Type) where
  HonestIssuer : ι → Prop
  HonestHolder : η → Prop
  owner : μ → Option η

def empty : Registry ι ν μ η υ := ⟨[], ∅, ∅, ∅⟩

variable [DecidableEq ι] [DecidableEq ν]

/-- The credentials of an issuer that have been accepted for an info. -/
def acceptedFor (registry : Registry ι ν μ η υ) (issuer : ι) (info : ν) : Finset (Entry ι ν μ) :=
  registry.accepted.filter fun entry => entry.issuer = issuer ∧ entry.info = info

theorem mem_acceptedFor {registry : Registry ι ν μ η υ} {issuer : ι} {info : ν}
    {entry : Entry ι ν μ} :
    entry ∈ registry.acceptedFor issuer info
      ↔ entry ∈ registry.accepted ∧ entry.issuer = issuer ∧ entry.info = info :=
  Finset.mem_filter

/-- The credential is known, or there is one left that has been issued. -/
def Covers (registry : Registry ι ν μ η υ) (entry : Entry ι ν μ) : Prop :=
  entry ∈ registry.accepted ∨
    (registry.acceptedFor entry.issuer entry.info).card
      < registry.issued.count (entry.issuer, entry.info)

/-- What may be done. -/
def Permits (parties : Parties ι μ η) (registry : Registry ι ν μ η υ) :
    Action ι ν μ η υ → Prop
  | .revoke issuer entry => entry.issuer = issuer
  | .authorize holder _ entry => parties.owner entry.message = some holder
  | .accept entry => parties.HonestIssuer entry.issuer → registry.Covers entry
  | .refuse entry => parties.HonestIssuer entry.issuer → entry ∈ registry.revoked
  | .present holder use entry =>
      (parties.HonestIssuer entry.issuer → registry.Covers entry) ∧
        parties.owner entry.message = some holder ∧
        (parties.HonestHolder holder → (holder, use, entry) ∈ registry.authorized)
  | _ => True

theorem Permits.covers {parties : Parties ι μ η} {registry : Registry ι ν μ η υ}
    {action : Action ι ν μ η υ} (h : registry.Permits parties action) {entry : Entry ι ν μ}
    (haccepts : action.accepts = some entry) (hhonest : parties.HonestIssuer entry.issuer) :
    registry.Covers entry := by
  cases action with
  | accept other =>
      cases haccepts
      exact h hhonest
  | present holder use other =>
      cases haccepts
      exact h.1 hhonest
  | _ => cases haccepts

/-- No more credentials are accepted than were issued. -/
def Conserves (parties : Parties ι μ η) (registry : Registry ι ν μ η υ) : Prop :=
  ∀ issuer info, parties.HonestIssuer issuer →
    (registry.acceptedFor issuer info).card ≤ registry.issued.count (issuer, info)

variable [DecidableEq μ] [DecidableEq η] [DecidableEq υ]

def step (registry : Registry ι ν μ η υ) : Action ι ν μ η υ → Registry ι ν μ η υ
  | .issue issuer info => { registry with issued := (issuer, info) :: registry.issued }
  | .revoke _ entry => { registry with revoked := insert entry registry.revoked }
  | .authorize holder use entry =>
      { registry with authorized := insert (holder, use, entry) registry.authorized }
  | .accept entry => { registry with accepted := insert entry registry.accepted }
  | .present _ _ entry => { registry with accepted := insert entry registry.accepted }
  | .refuse _ => registry
  | .nothing => registry

/-- The registry after a list of actions. -/
def run (actions : List (Action ι ν μ η υ)) : Registry ι ν μ η υ := Runs.run step empty actions

/-- Everything that was done was permitted when it was done. -/
def Allows (parties : Parties ι μ η) (actions : List (Action ι ν μ η υ)) : Prop :=
  Runs.Permitted (Permits parties) step empty actions

/-! ## What the registry knows -/

theorem mem_accepted_step {registry : Registry ι ν μ η υ} {action : Action ι ν μ η υ}
    {entry : Entry ι ν μ} :
    entry ∈ (registry.step action).accepted
      ↔ entry ∈ registry.accepted ∨ action.accepts = some entry := by
  cases action <;> simp [step, Action.accepts, eq_comm, or_comm]

theorem mem_accepted_run {actions : List (Action ι ν μ η υ)} {entry : Entry ι ν μ} :
    entry ∈ (run actions).accepted ↔ ∃ action ∈ actions, action.accepts = some entry := by
  refine Runs.history (P := fun actions (registry : Registry ι ν μ η υ) =>
    entry ∈ registry.accepted ↔ ∃ action ∈ actions, action.accepts = some entry)
    (s := empty) (by simp [empty]) ?_ actions
  intro actions registry action ih
  simp only [mem_accepted_step, ih, List.mem_append, List.mem_singleton, or_and_right, exists_or,
    exists_eq_left]

theorem mem_revoked_run {actions : List (Action ι ν μ η υ)} {entry : Entry ι ν μ} :
    entry ∈ (run actions).revoked ↔ ∃ issuer, .revoke issuer entry ∈ actions := by
  refine Runs.history (P := fun actions (registry : Registry ι ν μ η υ) =>
    entry ∈ registry.revoked ↔ ∃ issuer, .revoke issuer entry ∈ actions)
    (s := empty) (by simp [empty]) ?_ actions
  intro actions registry action ih
  have hstep : entry ∈ (registry.step action).revoked
      ↔ entry ∈ registry.revoked ∨ ∃ issuer, .revoke issuer entry = action := by
    cases action <;> simp [step, or_comm]
  simp only [hstep, ih, List.mem_append, List.mem_singleton, exists_or]

theorem mem_authorized_run {actions : List (Action ι ν μ η υ)} {holder : η} {use : υ}
    {entry : Entry ι ν μ} :
    (holder, use, entry) ∈ (run actions).authorized ↔ .authorize holder use entry ∈ actions := by
  refine Runs.history (P := fun actions (registry : Registry ι ν μ η υ) =>
    (holder, use, entry) ∈ registry.authorized ↔ .authorize holder use entry ∈ actions)
    (s := empty) (by simp [empty]) ?_ actions
  intro actions registry action ih
  have hstep : (holder, use, entry) ∈ (registry.step action).authorized
      ↔ (holder, use, entry) ∈ registry.authorized ∨ .authorize holder use entry = action := by
    cases action <;> simp [step, or_comm]
  simp only [hstep, ih, List.mem_append, List.mem_singleton]

/-- Credentials are issued one at a time. -/
theorem count_issued_step (registry : Registry ι ν μ η υ) (action : Action ι ν μ η υ) (issuer : ι)
    (info : ν) :
    (registry.step action).issued.count (issuer, info)
      = registry.issued.count (issuer, info) + [action].count (.issue issuer info) := by
  cases action <;> simp [step, List.count_cons]

theorem count_issued_run (actions : List (Action ι ν μ η υ)) (issuer : ι) (info : ν) :
    (run actions).issued.count (issuer, info) = actions.count (.issue issuer info) := by
  refine Runs.history (P := fun actions (registry : Registry ι ν μ η υ) =>
    registry.issued.count (issuer, info) = actions.count (.issue issuer info))
    (s := empty) rfl ?_ actions
  intro actions registry action ih
  rw [List.count_append, ← ih, count_issued_step]

/-! ## What the registry promises -/

/-- What is permitted accepts no more than was issued. -/
theorem Conserves.step {parties : Parties ι μ η} {registry : Registry ι ν μ η υ}
    (h : registry.Conserves parties) {action : Action ι ν μ η υ}
    (hpermits : registry.Permits parties action) : (registry.step action).Conserves parties := by
  intro issuer info hhonest
  have hbefore := h issuer info hhonest
  rw [count_issued_step]
  by_cases hnew : ∃ entry, action.accepts = some entry ∧ entry.issuer = issuer ∧ entry.info = info
  · rcases hnew with ⟨entry, haccepts, rfl, rfl⟩
    have hsubset : (registry.step action).acceptedFor entry.issuer entry.info
        ⊆ insert entry (registry.acceptedFor entry.issuer entry.info) := by
      intro other hother
      rcases mem_acceptedFor.mp hother with ⟨hmem, hsame⟩
      rcases mem_accepted_step.mp hmem with hmem | haccepts'
      · exact Finset.mem_insert_of_mem (mem_acceptedFor.mpr ⟨hmem, hsame⟩)
      · rw [Option.some.inj (haccepts'.symm.trans haccepts)]
        exact Finset.mem_insert_self _ _
    refine le_trans (Finset.card_le_card hsubset) ?_
    rcases hpermits.covers haccepts hhonest with hknown | hleft
    · -- it has been accepted before
      rw [Finset.insert_eq_of_mem (mem_acceptedFor.mpr ⟨hknown, rfl, rfl⟩)]
      exact Nat.le_add_right_of_le hbefore
    · exact (Finset.card_insert_le _ _).trans (Nat.le_add_right_of_le hleft)
  · have hsame : (registry.step action).acceptedFor issuer info
        = registry.acceptedFor issuer info := by
      ext other
      simp only [mem_acceptedFor, mem_accepted_step]
      constructor
      · intro hother
        rcases hother with ⟨hmem | haccepts, hsame⟩
        · exact ⟨hmem, hsame⟩
        · exact absurd ⟨other, haccepts, hsame⟩ hnew
      · intro hother
        exact ⟨Or.inl hother.1, hother.2⟩
    rw [hsame]
    exact Nat.le_add_right_of_le hbefore

theorem Allows.conserves {parties : Parties ι μ η} {actions : List (Action ι ν μ η υ)}
    (h : Allows parties actions) : (run actions).Conserves parties := by
  refine Runs.Permitted.invariant (fun _ _ h hpermits => h.step hpermits) ?_ h
  intro issuer info _
  simp [acceptedFor, empty]

/-- A credential is presented for its owner only: no more holders present credentials than
were issued. -/
theorem Allows.presenters_card_le {parties : Parties ι μ η} {actions : List (Action ι ν μ η υ)}
    (h : Allows parties actions) {issuer : ι} (hhonest : parties.HonestIssuer issuer) {info : ν}
    {holders : Finset η}
    (hholders : ∀ holder ∈ holders, ∃ use entry, .present holder use entry ∈ actions ∧
      entry.issuer = issuer ∧ entry.info = info) :
    holders.card ≤ actions.count (.issue issuer info) := by
  have hsubset : holders.image some
      ⊆ ((run actions).acceptedFor issuer info).image fun entry => parties.owner entry.message := by
    intro owner howner
    rcases Finset.mem_image.mp howner with ⟨holder, hholder, rfl⟩
    rcases hholders holder hholder with ⟨use, entry, hmem, hsame⟩
    refine Finset.mem_image.mpr ⟨entry, mem_acceptedFor.mpr ⟨?_, hsame⟩, ?_⟩
    · exact mem_accepted_run.mpr ⟨_, hmem, rfl⟩
    · rcases List.append_of_mem hmem with ⟨pre, post, hsplit⟩
      exact (h pre _ post hsplit).2.1
  calc holders.card
      = (holders.image some).card :=
        (Finset.card_image_of_injective _ (Option.some_injective _)).symm
    _ ≤ ((run actions).acceptedFor issuer info).card :=
        (Finset.card_le_card hsubset).trans Finset.card_image_le
    _ ≤ actions.count (.issue issuer info) := by
        rw [← count_issued_run]
        exact h.conserves issuer info hhonest

end Registry

end PeerBadge
