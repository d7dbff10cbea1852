import PeerBadge.Isolation

/-! # Delivery order

Authorities and revocations reach a verifier over transports that reorder, repeat and
lose. A revocation that comes before the first authority of its issuer is refused and
forgotten, so the order does matter; it stops to matter when everything is delivered
once more. What is then left of the order is which authority of an issuer came last.

An authority carries no time and no number. Delivered again it brings its key back,
but no revocation is undone by it.
-/

namespace PeerBadge

variable {S : Suite}

/-- Every signed revocation of an issuer that had an authority is in force. -/
def Settled (calls : List (Call S)) : Prop :=
  ∀ issuerId digest, (∃ call ∈ calls, call.AuthorizesSome issuerId) →
    (∃ call ∈ calls, call.Revokes issuerId digest) → Revoked issuerId digest calls

/-- Twice is enough, in any order. -/
theorem settled_append {calls later : List (Call S)} (hlater : ∀ call, call ∈ later ↔ call ∈ calls) :
    Settled (calls ++ later) := by
  intro issuerId digest hissuer hrevoked
  simp only [List.mem_append, hlater, or_self] at hissuer hrevoked
  exact (Runs.after_append_iff hlater).mpr ⟨hissuer, hrevoked⟩

/-- In a settled history a digest is revoked when it was at all. -/
theorem Settled.revoked_iff {calls : List (Call S)} (h : Settled calls) {issuerId : IssuerId}
    {digest : CredentialDigest} :
    Revoked issuerId digest calls ↔
      (∃ call ∈ calls, call.AuthorizesSome issuerId) ∧
        ∃ call ∈ calls, call.Revokes issuerId digest := by
  constructor
  · intro hrevoked
    exact Runs.After.exists_mem hrevoked
  · intro hboth
    exact h issuerId digest hboth.1 hboth.2

theorem lastKey_append {calls later : List (Call S)} (hlater : ∀ call, call ∈ later ↔ call ∈ calls)
    {issuerId : IssuerId} {key : S.PbrsaPublicKey} :
    LastKey issuerId (calls ++ later) key ↔ LastKey issuerId later key := by
  by_cases hissuer : ∃ call ∈ later, call.AuthorizesSome issuerId
  · simp only [LastKey, Runs.last_append_of_mem hissuer]
  · -- no authority, no key
    have hnone : ∀ calls' : List (Call S), (∀ call ∈ calls', call ∈ later) →
        ¬LastKey issuerId calls' key := by
      intro calls' hsub hkey
      rcases exists_lastKey_iff.mp ⟨key, hkey⟩ with ⟨call, hmem, hsome⟩
      exact hissuer ⟨call, hsub call hmem, hsome⟩
    have hall : ¬LastKey issuerId (calls ++ later) key := by
      apply hnone
      intro call hmem
      simpa only [List.mem_append, ← hlater, or_self] using hmem
    have hlate : ¬LastKey issuerId later key := hnone later fun _ hmem => hmem
    simp only [hall, hlate]

namespace VerificationContext

/-- Settled verifiers with the same calls and the same last keys judge alike. -/
theorem verifyCredential_eq_of_settled {calls calls' : List (Call S)} (h : Settled calls)
    (h' : Settled calls') (hsame : ∀ call, call ∈ calls ↔ call ∈ calls')
    (hkeys : ∀ issuerId key, LastKey issuerId calls key ↔ LastKey issuerId calls' key)
    (credential : SignedCredential) :
    (run calls).verifyCredential credential = (run calls').verifyCredential credential := by
  have htracks := tracks_run calls
  have htracks' := tracks_run calls'
  apply verifyCredential_congr
  · apply Option.ext
    intro key
    rw [htracks.key, htracks'.key, hkeys]
  · intro digest _
    rw [htracks.revoked, htracks'.revoked, h.revoked_iff, h'.revoked_iff]
    simp only [hsame]

/-- Two verifiers get the same calls, each in an order of its own and with repetitions,
and once all of them again. When the last authorities agree they judge every credential
and every authorization alike, and every revocation that was ever delivered counts. -/
theorem redelivery_converges {calls later calls' later' : List (Call S)}
    (hlater : ∀ call, call ∈ later ↔ call ∈ calls)
    (hlater' : ∀ call, call ∈ later' ↔ call ∈ calls')
    (hsame : ∀ call, call ∈ calls ↔ call ∈ calls')
    (hkeys : ∀ issuerId key, LastKey issuerId later key ↔ LastKey issuerId later' key) :
    (∀ credential : SignedCredential,
      (run (calls ++ later)).verifyCredential credential
        = (run (calls' ++ later')).verifyCredential credential ∧
      ∀ authorization now,
        (run (calls ++ later)).verifyCredentialAuthorizationAtTime credential authorization now
          = (run (calls' ++ later')).verifyCredentialAuthorizationAtTime credential authorization
            now) ∧
    ∀ (credential : SignedCredential) (key : S.PbrsaPublicKey) (digest : Sha256Output),
      LastKey credential.credential.issuerIdPubkey later key →
      verifyCredentialWithKey key credential = .ok () →
      credential.credential.digest S = .ok digest →
      ((run (calls ++ later)).verifyCredential credential = .ok () ↔
        ∀ call ∈ calls, ¬call.Revokes credential.credential.issuerIdPubkey ⟨digest⟩) := by
  have hsettled := settled_append hlater
  constructor
  · intro credential
    have hverdict : (run (calls ++ later)).verifyCredential credential
        = (run (calls' ++ later')).verifyCredential credential := by
      apply verifyCredential_eq_of_settled hsettled (settled_append hlater')
      · intro call
        simp only [List.mem_append, hlater, hlater', hsame]
      · intro issuerId key
        rw [lastKey_append hlater, lastKey_append hlater', hkeys]
    exact ⟨hverdict, verifyCredentialAuthorizationAtTime_congr hverdict⟩
  · intro credential key digest hkey hproof hdigest
    have hissuer : ∃ call ∈ calls, call.AuthorizesSome credential.credential.issuerIdPubkey := by
      rcases exists_lastKey_iff.mp ⟨key, hkey⟩ with ⟨call, hmem, hsome⟩
      exact ⟨call, (hlater call).mp hmem, hsome⟩
    rw [verifyCredential_of_lastKey ((lastKey_append hlater).mpr hkey) hproof]
    simp only [hdigest, Except.ok.injEq, exists_eq_left', hsettled.revoked_iff, List.mem_append,
      hlater, or_self, hissuer, true_and, not_exists, not_and]

/-- The reference issuer revokes a credential before a verifier has its authority: in
this order the revocation is lost, and delivered again it counts. -/
theorem redelivery_converges_reference :
    ∃ authority revocation, Reference.issuer.issuerAuthority [] () = .ok authority ∧
      Reference.issuer.revokeCredential
        (Reference.credential (.number (.posInt 7)) (.string "holder")) () = .ok revocation ∧
      (run [.addRevocation revocation, .addIssuerAuthority authority]).verifyCredential
        (Reference.credential (.number (.posInt 7)) (.string "holder")) = .ok () ∧
      (run ([.addRevocation revocation, .addIssuerAuthority authority] ++
          [.addRevocation revocation, .addIssuerAuthority authority])).verifyCredential
        (Reference.credential (.number (.posInt 7)) (.string "holder")) ≠ .ok () := by
  rcases Reference.exists_authorizes with ⟨authority, hauthority, hauthorizes⟩
  rcases Reference.exists_revocation (.number (.posInt 7)) (.string "holder") with
    ⟨revocation, hrevocation⟩
  rcases Reference.issuer.revokeCredential_signed (Reference.signVerifies _) hrevocation with
    ⟨hsigned, hsigner, -, hdigest⟩
  have hproof := Reference.verifyCredentialWithKey_credential (.number (.posInt 7))
    (.string "holder")
  have hsplit : [Call.addRevocation revocation, .addIssuerAuthority authority]
      = ([] ++ [Call.addRevocation revocation]) ++ [.addIssuerAuthority authority] := rfl
  have hkey : LastKey Reference.issuer.issuerId
      [.addRevocation revocation, .addIssuerAuthority authority] Reference.issuer.keyPair.pk := by
    rw [hsplit]
    exact lastKey_concat.mpr (Or.inl hauthorizes)
  refine ⟨authority, revocation, hauthority, hrevocation, ?_, ?_⟩
  · apply (verifyCredential_of_lastKey hkey hproof).mpr
    refine ⟨_, hdigest, ?_⟩
    -- nothing comes before the revocation
    rw [hsplit]
    unfold Revoked
    rw [Runs.after_concat, Runs.after_concat]
    rintro ((hnone | ⟨-, other, hother, -⟩) | ⟨hcall, -⟩)
    · exact Runs.not_after_nil _ _ hnone
    · cases hother
    · exact hcall
  · intro hok
    have hspec := (redelivery_converges (fun _ => Iff.rfl) (fun _ => Iff.rfl) (fun _ => Iff.rfl)
      (fun _ _ => Iff.rfl)).2 _ _ _ hkey hproof hdigest
    exact hspec.mp hok _ List.mem_cons_self ⟨hsigned, hsigner, rfl⟩

/-- After an acceptable authority its key decides, and the revocations of the history. -/
theorem verifyCredential_concat_authority {authority : IssuerAuthority S}
    (haccepted : authority.Accepted) (calls : List (Call S)) {credential : SignedCredential}
    (hid : credential.credential.issuerIdPubkey = authority.issuer.issuerIdPubkey) :
    (run (calls ++ [.addIssuerAuthority authority])).verifyCredential credential = .ok () ↔
      verifyCredentialWithKey authority.issuer.issuanceKey credential = .ok () ∧
        ∃ digest, credential.credential.digest S = .ok digest ∧
          ¬Revoked credential.credential.issuerIdPubkey ⟨digest⟩ calls := by
  have htracks := tracks_run (calls ++ [.addIssuerAuthority authority])
  have hkey : LastKey credential.credential.issuerIdPubkey
      (calls ++ [.addIssuerAuthority authority]) authority.issuer.issuanceKey :=
    lastKey_concat.mpr (Or.inl ⟨haccepted, hid.symm, rfl⟩)
  have hlookup := (htracks.key _ _).mpr hkey
  -- an authority revokes nothing
  have hrevoked : ∀ digest, Revoked credential.credential.issuerIdPubkey digest
      (calls ++ [.addIssuerAuthority authority]) ↔
        Revoked credential.credential.issuerIdPubkey digest calls := by
    intro digest
    simp only [Revoked, Runs.after_concat, Call.Revokes, false_and, or_false]
  rw [verifyCredential_eq_ok]
  simp only [hlookup, htracks.revoked, hrevoked, Option.some.injEq]
  constructor
  · intro h
    rcases h with ⟨_, digest, rfl, hproof, hdigest, hfree⟩
    exact ⟨hproof, digest, hdigest, hfree⟩
  · intro h
    rcases h with ⟨hproof, digest, hdigest, hfree⟩
    exact ⟨_, digest, rfl, hproof, hdigest, hfree⟩

/-- An old authority that is delivered again rolls its issuer back to the key it
announces: what was accepted after its first delivery is accepted again, except for
what has been revoked since. Other issuers notice nothing. -/
theorem replayed_authority {authority : IssuerAuthority S} (haccepted : authority.Accepted)
    (pre mid : List (Call S)) (credential : SignedCredential) :
    (credential.credential.issuerIdPubkey = authority.issuer.issuerIdPubkey →
      ((run (pre ++ [.addIssuerAuthority authority] ++ mid
          ++ [.addIssuerAuthority authority])).verifyCredential credential = .ok () ↔
        (run (pre ++ [.addIssuerAuthority authority])).verifyCredential credential = .ok () ∧
          ∀ digest, credential.credential.digest S = .ok digest →
            ¬Revoked credential.credential.issuerIdPubkey ⟨digest⟩
              (pre ++ [.addIssuerAuthority authority] ++ mid))) ∧
    (credential.credential.issuerIdPubkey ≠ authority.issuer.issuerIdPubkey →
      (run (pre ++ [.addIssuerAuthority authority] ++ mid
          ++ [.addIssuerAuthority authority])).verifyCredential credential
        = (run (pre ++ [.addIssuerAuthority authority] ++ mid)).verifyCredential credential) := by
  constructor
  · intro hid
    rw [verifyCredential_concat_authority haccepted _ hid,
      verifyCredential_concat_authority haccepted _ hid]
    constructor
    · intro h
      rcases h with ⟨hproof, digest, hdigest, hfree⟩
      refine ⟨⟨hproof, digest, hdigest, ?_⟩, ?_⟩
      · -- what was revoked before is still revoked
        intro hbefore
        apply hfree
        rw [List.append_assoc]
        exact Runs.After.append hbefore _
      · intro digest' hdigest'
        cases hdigest.symm.trans hdigest'
        exact hfree
    · intro h
      rcases h with ⟨⟨hproof, digest, hdigest, -⟩, hfree⟩
      exact ⟨hproof, digest, hdigest, hfree digest hdigest⟩
  · intro hid
    have hother : ¬(Call.addIssuerAuthority authority).concerns
        credential.credential.issuerIdPubkey := by
      intro hconcerns
      exact hid (Call.concerns_iff.mp hconcerns).symm
    refine verifyCredential_eq_of_filter_eq ?_ rfl
    rw [List.filter_append _ [_], List.filter_cons_of_neg hother, List.filter_nil,
      List.append_nil]

/-- The reference issuer changes its issuance key. Its old credential is refused from
then on, until the old authority is delivered once more. -/
theorem replayed_authority_reference :
    ∃ authority rotated, Reference.issuer.issuerAuthority [] () = .ok authority ∧
      Reference.rotatedIssuer.issuerAuthority [] () = .ok rotated ∧
      (run ([.addIssuerAuthority authority] ++ [.addIssuerAuthority rotated])).verifyCredential
        (Reference.credential (.number (.posInt 7)) (.string "holder")) ≠ .ok () ∧
      (run ([.addIssuerAuthority authority] ++ [.addIssuerAuthority rotated]
          ++ [.addIssuerAuthority authority])).verifyCredential
        (Reference.credential (.number (.posInt 7)) (.string "holder")) = .ok () := by
  rcases Reference.exists_authorizes with ⟨authority, hauthority, hauthorizes⟩
  have hrotated : ∃ rotated, Reference.rotatedIssuer.issuerAuthority [] () = .ok rotated :=
    ⟨_, rfl⟩
  rcases hrotated with ⟨rotated, hrotated⟩
  rcases Call.authorizes_issuerAuthority (Reference.signVerifies _) (by simp) hrotated with
    ⟨haccepted, hid, hkey⟩
  refine ⟨authority, rotated, hauthority, hrotated, ?_, ?_⟩
  · intro hok
    rw [verifyCredential_concat_authority haccepted _ hid.symm, hkey] at hok
    exact Reference.verifyCredentialWithKey_rotated _ _ hok.1
  · apply ((replayed_authority hauthorizes.1 [] [.addIssuerAuthority rotated] _).1
      hauthorizes.2.1.symm).mpr
    refine ⟨verifyCredential_of_authorizes hauthorizes _ _, ?_⟩
    intro digest _ hrevoked
    -- there is no revocation at all
    rcases (Runs.After.exists_mem hrevoked).2 with ⟨call, hmem, hrevokes⟩
    simp only [List.nil_append, List.cons_append, List.mem_cons, List.not_mem_nil,
      or_false] at hmem
    rcases hmem with rfl | rfl <;> exact hrevokes

end VerificationContext

end PeerBadge
