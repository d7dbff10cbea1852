import PeerBadge.Reference
import PeerBadge.Store

/-! # Issuance

Holder, issuer and verifier each build the metadata and the message of the blind
signature from their own copies of issuer id, info and blind message. When the holder
asks the issuer it means, and the issuer signs the info that was asked for, the three
agree, and the credential is good at every verifier that knows the issuance key.

The holder compares the info of a response with its own as JSON values, which is finer
than the canonical form that is signed: `Value.Confused` is the difference.
-/

namespace PeerBadge

variable {S : Suite}

namespace PendingIssuance

/-! ## Completeness -/

/-- The signature the holder unblinds verifies without a message randomizer. -/
theorem finalize_of_issueCredential (hcomplete : S.PbrsaComplete) (hplain : S.PbrsaDeterministic)
    {issuer : IssuerContext S} {info blindMsg : Value} {rng rng' : S.PbrsaRng}
    {request : IssuanceRequest} {pending : PendingIssuance} {response : IssuanceResponse}
    (hrequest : createRequest issuer.keyPair.pk issuer.issuerId info blindMsg rng
      = .ok (request, pending))
    (hissue : issuer.issueCredential info request rng' = .ok response) :
    ∃ credential, pending.finalize issuer.keyPair.pk response = .ok credential ∧
      credential.credential = ⟨issuer.issuerId, info, blindMsg⟩ ∧
      verifyCredentialWithKey issuer.keyPair.pk credential = .ok () := by
  rcases createRequest_eq_ok.mp hrequest with
    ⟨metadata, message, publicKey, result, hmetadata, hmessage, hpublic, hblind, rfl, rfl⟩
  rcases IssuerContext.issueCredential_eq_ok.mp hissue with
    ⟨metadata', secretKey, blindSignature, hmetadata', hsecret, hsign, rfl⟩
  -- the issuer rebuilds the metadata the holder blinded under
  cases hmetadata.symm.trans hmetadata'
  rcases hcomplete issuer.keyPair metadata publicKey secretKey message rng rng' result
    blindSignature hpublic hsecret hblind hsign with ⟨signature, hfinal, hverify⟩
  rw [hplain publicKey rng message (some metadata) result hblind] at hverify
  have hproof : verifyCredentialWithKey issuer.keyPair.pk
      ((ofBlinding issuer.issuerId info blindMsg result).toCredential signature) = .ok () :=
    verifyCredentialWithKey_eq_ok.mpr
      ⟨metadata, message, publicKey, hmetadata, hmessage, hpublic, hverify⟩
  refine ⟨_, ?_, rfl, hproof⟩
  apply finalize_eq_ok.mpr
  exact ⟨rfl, Value.eq_self info, metadata, message, publicKey, result, signature, hmetadata,
    hmessage, hpublic, blindingResult_ofBlinding _ _ _ result, hfinal, rfl, hproof⟩

/-- A request to an issuer, its answer and the holder's unblinding give a credential
with the payload asked for, and every verifier that last accepted the issuance key
accepts it until it is revoked. -/
theorem issuance_complete (hcomplete : S.PbrsaComplete) (hplain : S.PbrsaDeterministic)
    (issuer : IssuerContext S) {locations : List RevocationLocation} {rng : S.NostrRng}
    {authority : IssuerAuthority S} (hauthority : issuer.issuerAuthority locations rng = .ok authority)
    {info blindMsg : Value} {requestRng responseRng : S.PbrsaRng} {request : IssuanceRequest}
    {pending : PendingIssuance} {response : IssuanceResponse}
    (hrequest : createRequest authority.issuer.issuanceKey authority.issuer.issuerIdPubkey info
      blindMsg requestRng = .ok (request, pending))
    (hissue : issuer.issueCredential info request responseRng = .ok response) :
    ∃ credential, pending.finalize authority.issuer.issuanceKey response = .ok credential ∧
      credential.credential = ⟨issuer.issuerId, info, blindMsg⟩ ∧
      ∀ calls : List (Call S), LastKey issuer.issuerId calls issuer.keyPair.pk →
        ((VerificationContext.run calls).verifyCredential credential = .ok () ↔
          ∃ digest, credential.credential.digest S = .ok digest ∧
            ¬Revoked issuer.issuerId ⟨digest⟩ calls) := by
  -- the authority carries the id and the issuance key of its issuer
  rcases IssuerContext.issuerAuthority_eq_ok.mp hauthority with ⟨digest, -, rfl⟩
  rcases finalize_of_issueCredential hcomplete hplain hrequest hissue with
    ⟨credential, hfinal, hpayload, hproof⟩
  refine ⟨credential, hfinal, hpayload, ?_⟩
  intro calls hkey
  have hid : credential.credential.issuerIdPubkey = issuer.issuerId := by rw [hpayload]
  rw [← hid] at hkey ⊢
  exact VerificationContext.verifyCredential_of_lastKey hkey hproof

/-- A holder gets a credential from the reference issuer, and a verifier that knows
the issuer accepts it. -/
theorem issuance_complete_reference :
    ∃ authority request pending response credential,
      Reference.issuer.issuerAuthority [] () = .ok authority ∧
      createRequest authority.issuer.issuanceKey authority.issuer.issuerIdPubkey
        (.number (.posInt 7)) (.string "holder") Reference.blindingRng = .ok (request, pending) ∧
      Reference.issuer.issueCredential (.number (.posInt 7)) request Reference.blindingRng
        = .ok response ∧
      pending.finalize authority.issuer.issuanceKey response = .ok credential ∧
      (VerificationContext.run [.addIssuerAuthority authority]).verifyCredential credential
        = .ok () := by
  rcases Reference.exists_authorizes with ⟨authority, hauthority, hauthorizes⟩
  rcases Reference.exists_response (.number (.posInt 7)) (.number (.posInt 7)) (.string "holder")
    Reference.blindingRng Reference.blindingRng with
    ⟨request, pending, response, hrequest, hresponse⟩
  rcases lastKey_singleton hauthorizes with ⟨hkey, hfree⟩
  rw [← hauthorizes.2.1, ← hauthorizes.2.2] at hrequest
  rcases issuance_complete Reference.pbrsaComplete Reference.pbrsaDeterministic Reference.issuer
    hauthority hrequest hresponse with ⟨credential, hfinal, hpayload, hverify⟩
  rcases credential.credential.exists_digest Reference.canonicalizes with ⟨digest, hdigest⟩
  exact ⟨authority, request, pending, response, credential, hauthority, hrequest, hresponse, hfinal,
    (hverify _ hkey).mpr ⟨digest, hdigest, hfree _⟩⟩

/-! ## The info check -/

/-- The holder refuses the info of a response exactly when other metadata would be
signed for it, unless the two infos are the same to RFC 8785 and hold some number
differently. -/
theorem finalize_infoMismatch_iff (hS : S.Rfc8785) (pending : PendingIssuance)
    (issuerPublicKey : S.PbrsaPublicKey) (response : IssuanceResponse)
    (hid : response.issuerId = pending.issuerId) :
    (pending.finalize issuerPublicKey response = .error .infoMismatch ↔
      canonicalizePbrsaInfo S .v1 pending.issuerId response.info
        ≠ canonicalizePbrsaInfo S .v1 pending.issuerId pending.info) ↔
    ¬response.info.Confused pending.info := by
  rw [finalize_eq_infoMismatch, Ne, canonicalizePbrsaInfo_eq_iff hS]
  simp only [hid, true_and]
  by_cases hsame : response.info.rfc8785 = pending.info.rfc8785
  · -- the same metadata: right as long as the infos are equal
    rw [Value.eq_iff_not_confused hsame]
    simp only [hsame, not_true, iff_false, not_not]
  · -- other metadata: equal infos would have the same
    have hne : ¬response.info.eq pending.info := by
      intro heq
      exact hsame (Value.rfc8785_eq_of_eq heq)
    have hnot : ¬response.info.Confused pending.info := by
      intro hconfused
      exact hsame hconfused.1
    simp only [hsame, hne, hnot, not_false_iff, Bool.false_eq_true]

/-- With the info `7` on both sides the holder reports no mismatch. -/
theorem finalize_infoMismatch_iff_seven :
    ∃ request pending response,
      createRequest Reference.issuer.keyPair.pk Reference.issuer.issuerId (.number (.posInt 7))
        (.string "holder") Reference.blindingRng = .ok (request, pending) ∧
      Reference.issuer.issueCredential (.number (.posInt 7)) request Reference.blindingRng
        = .ok response ∧
      pending.finalize Reference.issuer.keyPair.pk response ≠ .error .infoMismatch := by
  rcases Reference.exists_response (.number (.posInt 7)) (.number (.posInt 7)) (.string "holder")
    Reference.blindingRng Reference.blindingRng with
    ⟨request, pending, response, hrequest, hresponse⟩
  rcases createRequest_payload hrequest with ⟨hid, hinfo, -⟩
  rcases IssuerContext.issueCredential_payload hresponse with ⟨hid', hinfo'⟩
  have hagree := (finalize_infoMismatch_iff Reference.rfc8785 pending Reference.issuer.keyPair.pk
    response (hid'.trans hid.symm)).mpr (by rw [hinfo, hinfo']; exact Value.not_confused_self _)
  refine ⟨request, pending, response, hrequest, hresponse, ?_⟩
  intro hmismatch
  exact hagree.mp hmismatch (by rw [hinfo, hinfo'])

/-- A holder asks for the info `7.0` and the issuer answers `7`: the metadata is the
same, and the holder reports a mismatch. -/
theorem finalize_infoMismatch_counterexample :
    ∃ request pending response,
      createRequest Reference.issuer.keyPair.pk Reference.issuer.issuerId
        (.number (.float Reference.seven)) (.string "holder") Reference.blindingRng
          = .ok (request, pending) ∧
      Reference.issuer.issueCredential (.number (.posInt 7)) request Reference.blindingRng
        = .ok response ∧
      response.issuerId = pending.issuerId ∧
      ¬(pending.finalize Reference.issuer.keyPair.pk response = .error .infoMismatch ↔
        canonicalizePbrsaInfo Reference.suite .v1 pending.issuerId response.info
          ≠ canonicalizePbrsaInfo Reference.suite .v1 pending.issuerId pending.info) := by
  rcases Reference.exists_response (.number (.float Reference.seven)) (.number (.posInt 7))
    (.string "holder") Reference.blindingRng Reference.blindingRng with
    ⟨request, pending, response, hrequest, hresponse⟩
  rcases createRequest_payload hrequest with ⟨hid, hinfo, -⟩
  rcases IssuerContext.issueCredential_payload hresponse with ⟨hid', hinfo'⟩
  refine ⟨request, pending, response, hrequest, hresponse, hid'.trans hid.symm, ?_⟩
  intro hagree
  have hmismatch : pending.finalize Reference.issuer.keyPair.pk response = .error .infoMismatch := by
    apply finalize_eq_infoMismatch.mpr
    refine ⟨hid'.trans hid.symm, ?_⟩
    rw [hinfo, hinfo']
    decide
  apply hagree.mp hmismatch
  rw [hinfo, hinfo']
  exact (canonicalizePbrsaInfo_eq_iff Reference.rfc8785 _ _ _ _ _).mpr ⟨rfl, Reference.rfc8785_seven⟩

end PendingIssuance

end PeerBadge
