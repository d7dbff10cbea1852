import PeerBadge.Store

/-! # Issuers do not interfere

A verifier keeps what it knows about all issuers in two maps. `AgreeOn` says that two
verifiers know the same about one issuer. Calls that concern the issuer keep it and
return the same, calls that concern others keep it as well, so two runs with the same
calls of one issuer judge its credentials alike, whatever else happens in between.
-/

namespace PeerBadge

variable {S : Suite}

/-- The issuer a call is about: the one an authority names, or the signer of a
revocation. -/
def Call.issuerId : Call S → IssuerId
  | .addIssuerAuthority authority => authority.issuer.issuerIdPubkey
  | .addRevocation signedRevocation => signedRevocation.proof.issuerIdPubkey

/-- Whether a call concerns an issuer. -/
def Call.concerns (issuerId : IssuerId) (call : Call S) : Bool := call.issuerId == issuerId

theorem Call.concerns_iff {issuerId : IssuerId} {call : Call S} :
    call.concerns issuerId ↔ call.issuerId = issuerId := by
  simp only [concerns, beq_iff_eq]

theorem Call.Authorizes.issuerId_eq {issuerId : IssuerId} {key : S.PbrsaPublicKey} {call : Call S}
    (h : call.Authorizes issuerId key) : call.issuerId = issuerId := by
  cases call with
  | addIssuerAuthority authority => exact h.2.1
  | addRevocation signedRevocation => exact absurd h id

theorem Call.Revokes.issuerId_eq {issuerId : IssuerId} {digest : CredentialDigest} {call : Call S}
    (h : call.Revokes issuerId digest) : call.issuerId = issuerId := by
  cases call with
  | addIssuerAuthority authority => exact absurd h id
  | addRevocation signedRevocation => exact h.2.1

namespace VerificationContext

/-- What a call returns. -/
def result (context : VerificationContext S) : Call S → Except (Failure (CredentialsError S)) Unit
  | .addIssuerAuthority authority => (context.addIssuerAuthority authority).1
  | .addRevocation signedRevocation =>
      (context.addRevocation signedRevocation).1.mapError .error

/-- The calls of a run that concern an issuer, with what they returned. -/
def observed (issuerId : IssuerId) (calls : List (Call S)) :
    List (Call S × Except (Failure (CredentialsError S)) Unit) :=
  Runs.observed step result (Call.concerns issuerId) new calls

/-- The same key and the same revocations of one issuer. -/
structure AgreeOn (issuerId : IssuerId) (s t : VerificationContext S) : Prop where
  key : s.issuers.lookup issuerId = t.issuers.lookup issuerId
  revocations : ∀ digest, (issuerId, (⟨digest⟩ : Revocation)) ∈ s.revocations ↔
    (issuerId, (⟨digest⟩ : Revocation)) ∈ t.revocations

theorem AgreeOn.refl (issuerId : IssuerId) (s : VerificationContext S) : AgreeOn issuerId s s where
  key := rfl
  revocations _ := Iff.rfl

theorem AgreeOn.mem_issuers {issuerId : IssuerId} {s t : VerificationContext S}
    (h : AgreeOn issuerId s t) : issuerId ∈ s.issuers ↔ issuerId ∈ t.issuers := by
  rw [← AList.lookup_isSome, ← AList.lookup_isSome, h.key]

/-! ## One call -/

/-- A call that concerns the issuer returns the same. -/
theorem AgreeOn.result_eq {issuerId : IssuerId} {s t : VerificationContext S} (call : Call S)
    (hcall : call.concerns issuerId) (h : AgreeOn issuerId s t) : s.result call = t.result call := by
  have hid := Call.concerns_iff.mp hcall
  cases call with
  | addIssuerAuthority authority =>
      -- the state is not looked at
      simp only [result, addIssuerAuthority]
      cases authority.verify <;> rfl
  | addRevocation signedRevocation =>
      have hmem : signedRevocation.proof.issuerIdPubkey ∈ s.issuers ↔
          signedRevocation.proof.issuerIdPubkey ∈ t.issuers := by
        rw [show signedRevocation.proof.issuerIdPubkey = issuerId from hid]
        exact h.mem_issuers
      simp only [result, addRevocation]
      cases signedRevocation.verify S with
      | error e => rfl
      | ok revocation =>
          by_cases hknown : signedRevocation.proof.issuerIdPubkey ∈ t.issuers
          · simp only [if_pos hknown, if_pos (hmem.mpr hknown)]
          · simp only [if_neg hknown, if_neg (mt hmem.mp hknown)]

/-- Every call keeps the agreement, when both states take it. -/
theorem AgreeOn.step {issuerId : IssuerId} {s t : VerificationContext S} (call : Call S)
    (h : AgreeOn issuerId s t) : AgreeOn issuerId (s.step call) (t.step call) where
  key := by
    apply Option.ext
    intro key
    rw [lookup_step, lookup_step, h.key]
  revocations digest := by
    rw [mem_revocations_step, mem_revocations_step, h.revocations digest, h.mem_issuers]

/-- A call that concerns another issuer keeps it, when only one state takes it. -/
theorem AgreeOn.step_other {issuerId : IssuerId} {s t : VerificationContext S} (call : Call S)
    (hcall : ¬call.concerns issuerId) (h : AgreeOn issuerId s t) :
    AgreeOn issuerId (s.step call) t where
  key := by
    have hnot : ∀ key, ¬call.Authorizes issuerId key :=
      fun key hauthorizes => hcall (Call.concerns_iff.mpr hauthorizes.issuerId_eq)
    apply Option.ext
    intro key
    rw [lookup_step, ← h.key]
    simp only [Call.AuthorizesSome, hnot, exists_false, not_false_iff, true_and, false_or]
  revocations digest := by
    have hnot : ¬call.Revokes issuerId digest :=
      fun hrevokes => hcall (Call.concerns_iff.mpr hrevokes.issuerId_eq)
    rw [mem_revocations_step, ← h.revocations digest]
    simp only [hnot, false_and, or_false]

/-- Verifiers that agree on an issuer judge its credentials alike. -/
theorem AgreeOn.verifyCredential_eq {issuerId : IssuerId} {s t : VerificationContext S}
    (h : AgreeOn issuerId s t) {credential : SignedCredential}
    (hid : credential.credential.issuerIdPubkey = issuerId) :
    s.verifyCredential credential = t.verifyCredential credential := by
  subst hid
  exact verifyCredential_congr h.key fun digest _ => h.revocations ⟨digest⟩

/-! ## Every run -/

theorem agreeOn_run {issuerId : IssuerId} {calls calls' : List (Call S)}
    (h : calls.filter (Call.concerns issuerId) = calls'.filter (Call.concerns issuerId)) :
    observed issuerId calls = observed issuerId calls' ∧
      ∃ t, AgreeOn issuerId (run calls) t ∧ AgreeOn issuerId (run calls') t :=
  Runs.noninterference (R := AgreeOn issuerId)
    (fun _ _ call hcall hagree => hagree.result_eq call hcall)
    (fun _ _ call _ hagree => hagree.step call)
    (fun _ _ call hcall hagree => hagree.step_other call hcall)
    (AgreeOn.refl issuerId new) h

theorem verifyCredential_eq_of_filter_eq {issuerId : IssuerId} {calls calls' : List (Call S)}
    (h : calls.filter (Call.concerns issuerId) = calls'.filter (Call.concerns issuerId))
    {credential : SignedCredential} (hid : credential.credential.issuerIdPubkey = issuerId) :
    (run calls).verifyCredential credential = (run calls').verifyCredential credential := by
  rcases agreeOn_run h with ⟨-, t, hleft, hright⟩
  exact (hleft.verifyCredential_eq hid).trans (hright.verifyCredential_eq hid).symm

/-- Two runs with the same calls that concern an issuer, in the same order, and
arbitrary calls about others: its calls return the same, and its credentials and the
authorizations for them get the same verdicts. So a revocation that somebody else
signed could as well have been left out. -/
theorem issuers_isolated (issuerId : IssuerId) :
    (∀ calls calls' : List (Call S),
      calls.filter (Call.concerns issuerId) = calls'.filter (Call.concerns issuerId) →
      observed issuerId calls = observed issuerId calls' ∧
      ∀ credential : SignedCredential, credential.credential.issuerIdPubkey = issuerId →
        (run calls).verifyCredential credential = (run calls').verifyCredential credential ∧
        ∀ authorization now,
          (run calls).verifyCredentialAuthorizationAtTime credential authorization now
            = (run calls').verifyCredentialAuthorizationAtTime credential authorization now) ∧
    ∀ (calls later : List (Call S)) (signedRevocation : SignedRevocation),
      signedRevocation.proof.issuerIdPubkey ≠ issuerId →
      ∀ credential : SignedCredential, credential.credential.issuerIdPubkey = issuerId →
        (run (calls ++ .addRevocation signedRevocation :: later)).verifyCredential credential
          = (run (calls ++ later)).verifyCredential credential := by
  constructor
  · intro calls calls' h
    refine ⟨(agreeOn_run h).1, ?_⟩
    intro credential hid
    have hverdict := verifyCredential_eq_of_filter_eq h hid
    exact ⟨hverdict, verifyCredentialAuthorizationAtTime_congr hverdict⟩
  · intro calls later signedRevocation hother credential hid
    refine verifyCredential_eq_of_filter_eq ?_ hid
    -- the foreign call drops out
    have hnot : ¬(Call.addRevocation (S := S) signedRevocation).concerns issuerId :=
      fun hconcerns => hother (Call.concerns_iff.mp hconcerns)
    rw [List.filter_append, List.filter_append, List.filter_cons_of_neg hnot]

/-- The reference issuer's credential is accepted although another issuer, known as
well, has signed a revocation of its digest. -/
theorem issuers_isolated_reference :
    ∃ (authority otherAuthority : IssuerAuthority Reference.suite)
        (signedRevocation : SignedRevocation),
      otherAuthority.Accepted ∧ signedRevocation.Signed Reference.suite ∧
      signedRevocation.proof.issuerIdPubkey = otherAuthority.issuer.issuerIdPubkey ∧
      (Reference.credential (.number (.posInt 7)) (.string "holder")).credential.digest
        Reference.suite = .ok signedRevocation.revocation.credentialDigest.output ∧
      (run [.addIssuerAuthority authority, .addIssuerAuthority otherAuthority,
          .addRevocation signedRevocation]).verifyCredential
        (Reference.credential (.number (.posInt 7)) (.string "holder")) = .ok () := by
  rcases Reference.exists_authorizes with ⟨authority, -, hauthorizes⟩
  rcases Reference.exists_otherAuthority with ⟨otherAuthority, hother⟩
  rcases Call.authorizes_issuerAuthority (Reference.signVerifies _) (by simp) hother with
    ⟨haccepted, hotherId, -⟩
  rcases (Reference.credential (.number (.posInt 7)) (.string "holder")).credential.exists_digest
    Reference.canonicalizes with ⟨digest, hdigest⟩
  rcases Reference.exists_signedRevocation ⟨digest⟩ with ⟨signedRevocation, hsigned, hsigner, hrevoked⟩
  refine ⟨authority, otherAuthority, signedRevocation, haccepted, hsigned,
    hsigner.trans hotherId.symm, by rw [hrevoked]; exact hdigest, ?_⟩
  have hne : Reference.otherIssuer.issuerId ≠ Reference.issuer.issuerId := by decide
  have hforeign : ¬(Call.addIssuerAuthority otherAuthority).concerns Reference.issuer.issuerId := by
    intro hconcerns
    exact hne (hotherId.symm.trans (Call.concerns_iff.mp hconcerns))
  have hisolated := issuers_isolated (S := Reference.suite) Reference.issuer.issuerId
  -- first the revocation is left out, then the authority of its signer
  have hrevocation := hisolated.2 [.addIssuerAuthority authority, .addIssuerAuthority otherAuthority]
    [] signedRevocation (by rw [hsigner]; exact hne)
    (Reference.credential (.number (.posInt 7)) (.string "holder")) rfl
  have hauthority := (hisolated.1 [.addIssuerAuthority authority, .addIssuerAuthority otherAuthority]
    [.addIssuerAuthority authority] (by
      rw [List.filter_cons, List.filter_cons_of_neg hforeign, List.filter_cons])).2
    (Reference.credential (.number (.posInt 7)) (.string "holder")) rfl
  exact hrevocation.trans (hauthority.1.trans (verifyCredential_of_authorizes hauthorizes _ _))

end VerificationContext

end PeerBadge
