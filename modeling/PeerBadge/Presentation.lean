import PeerBadge.Issuance

/-! # Presenting a credential

A holder authorizes another key to present a credential; a verifier takes the two
together. Signer and verifier read the holder off the credential in the same way and
digest the same statement, so what is signed is accepted from the time it was signed
for, as long as the credential is.

The signature pins the whole statement down, and the statement the credential: an
authorization for one key and one credential is worthless for any other.
-/

namespace PeerBadge

variable {S : Suite}

namespace HolderContext

/-- A holder authorizes the use of the credentials bound to it. -/
theorem exists_authorizeCredentialUseAtTime_iff (hcanon : S.Canonicalizes)
    (context : HolderContext S) (request : HolderAuthorizationRequest)
    (credential : SignedCredential) (issuedAt : Timestamp) (rng : S.NostrRng) :
    (∃ authorization, context.authorizeCredentialUseAtTime request credential issuedAt rng
      = .ok authorization) ↔
      ∃ text, credential.credential.blindMsg.asStr = some text ∧
        S.parsePublicKey text = .ok context.holderId.key := by
  rw [← credentialHolderId_eq_ok]
  constructor
  · intro h
    rcases h with ⟨authorization, h⟩
    exact (authorizeCredentialUseAtTime_eq_ok.mp h).1
  · intro hholder
    rcases credential.credential.exists_digest hcanon with ⟨credentialDigest, hcredential⟩
    rcases HolderAuthorizationStatement.exists_digest hcanon
      ⟨context.holderId, request.subjectPubkey, ⟨credentialDigest⟩, issuedAt⟩ with
      ⟨digest, hdigest⟩
    exact ⟨_, authorizeCredentialUseAtTime_eq_ok.mpr
      ⟨hholder, credentialDigest, digest, hcredential, hdigest, rfl⟩⟩

/-- What a holder signed is accepted with a good credential from its time on. -/
theorem verify_authorizeCredentialUseAtTime {context : HolderContext S}
    (hsign : S.SignVerifies context.identityKeys) {request : HolderAuthorizationRequest}
    {credential : SignedCredential} {issuedAt : Timestamp} {rng : S.NostrRng}
    {authorization : HolderAuthorization}
    (h : context.authorizeCredentialUseAtTime request credential issuedAt rng = .ok authorization)
    (verifier : VerificationContext S) (now : Timestamp) :
    verifier.verifyCredentialAuthorizationAtTime credential authorization now = .ok () ↔
      verifier.verifyCredential credential = .ok () ∧ issuedAt.secs ≤ now.secs := by
  rcases authorizeCredentialUseAtTime_eq_ok.mp h with
    ⟨hholder, credentialDigest, digest, hcredential, hdigest, rfl⟩
  rw [VerificationContext.verifyCredentialAuthorizationAtTime_eq_ok]
  constructor
  · intro h
    rcases h with ⟨hverify, -, -, htime, -⟩
    exact ⟨hverify, htime⟩
  · intro h
    rcases h with ⟨hverify, htime⟩
    exact ⟨hverify, ⟨digest, hdigest, hsign digest rng⟩, hholder, htime, hcredential⟩

end HolderContext

namespace VerificationContext

/-- After a revocation of its digest a credential is refused in every later state. -/
theorem verifyCredential_ne_ok_of_revoked {calls : List (Call S)} {credential : SignedCredential}
    {digest : Sha256Output} (hdigest : credential.credential.digest S = .ok digest)
    (hrevoked : Revoked credential.credential.issuerIdPubkey ⟨digest⟩ calls)
    (later : List (Call S)) : (run (calls ++ later)).verifyCredential credential ≠ .ok () := by
  have hentry := ((tracks_run calls).revoked _ _).mpr hrevoked
  have hsplit : run (calls ++ later) = Runs.run step (run calls) later :=
    Runs.run_append new calls later
  rw [hsplit]
  exact verifyCredential_ne_ok_of_mem hdigest (mem_revocations_run hentry later)

/-- Acceptance of an authorized credential, and what it means for the authorizations a
holder makes: they can be made for the credentials bound to the holder, and are
accepted from their time on, until the credential is revoked. -/
theorem authorization_accepted_iff (hcanon : S.Canonicalizes) :
    (∀ (verifier : VerificationContext S) (credential : SignedCredential)
        (authorization : HolderAuthorization) (now : Timestamp),
      verifier.verifyCredentialAuthorizationAtTime credential authorization now = .ok () ↔
        verifier.verifyCredential credential = .ok () ∧
        (∃ digest, authorization.authorization.digest S = .ok digest ∧
          S.ValidSchnorr authorization.authorization.holderIdPubkey.key
            authorization.proof.signature digest) ∧
        (∃ text, credential.credential.blindMsg.asStr = some text ∧
          S.parsePublicKey text = .ok authorization.authorization.holderIdPubkey.key) ∧
        authorization.authorization.issuedAt.secs ≤ now.secs ∧
        credential.credential.digest S
          = .ok authorization.authorization.credentialDigest.output) ∧
    ∀ holder : HolderContext S, S.SignVerifies holder.identityKeys →
      ∀ (request : HolderAuthorizationRequest) (credential : SignedCredential)
        (issuedAt : Timestamp) (rng : S.NostrRng),
      ((∃ authorization, holder.authorizeCredentialUseAtTime request credential issuedAt rng
          = .ok authorization) ↔
        ∃ text, credential.credential.blindMsg.asStr = some text ∧
          S.parsePublicKey text = .ok holder.holderId.key) ∧
      ∀ authorization, holder.authorizeCredentialUseAtTime request credential issuedAt rng
          = .ok authorization →
        (∀ (verifier : VerificationContext S) (now : Timestamp),
          verifier.verifyCredentialAuthorizationAtTime credential authorization now = .ok () ↔
            verifier.verifyCredential credential = .ok () ∧ issuedAt.secs ≤ now.secs) ∧
        (∀ (verifier : VerificationContext S) (now later : Timestamp), now.secs ≤ later.secs →
          verifier.verifyCredentialAuthorizationAtTime credential authorization now = .ok () →
          verifier.verifyCredentialAuthorizationAtTime credential authorization later = .ok ()) ∧
        (∀ (calls later : List (Call S)) (digest : Sha256Output) (now : Timestamp),
          credential.credential.digest S = .ok digest →
          Revoked credential.credential.issuerIdPubkey ⟨digest⟩ calls →
          (run (calls ++ later)).verifyCredentialAuthorizationAtTime credential authorization now
            ≠ .ok ()) := by
  constructor
  · intro verifier credential authorization now
    rw [verifyCredentialAuthorizationAtTime_eq_ok, credentialHolderId_eq_ok]
    rfl
  · intro holder hsign request credential issuedAt rng
    refine ⟨holder.exists_authorizeCredentialUseAtTime_iff hcanon request credential issuedAt rng, ?_⟩
    intro authorization h
    have hiff := HolderContext.verify_authorizeCredentialUseAtTime hsign h
    refine ⟨hiff, ?_, ?_⟩
    · intro verifier now later hle hok
      rcases (hiff verifier now).mp hok with ⟨hverify, htime⟩
      exact (hiff verifier later).mpr ⟨hverify, UInt64.le_trans htime hle⟩
    · intro calls later digest now hdigest hrevoked hok
      exact verifyCredential_ne_ok_of_revoked hdigest hrevoked later ((hiff _ _).mp hok).1

/-- The reference holder authorizes a key for its credential, and the verifier accepts
the two together. -/
theorem authorization_accepted_iff_reference :
    ∃ (verifier : VerificationContext Reference.suite) (authorization : HolderAuthorization),
      Reference.holder.authorizeCredentialUseAtTime Reference.authorizationRequest
        (Reference.credential (.number (.posInt 7)) Reference.holderMsg) ⟨5⟩ ()
          = .ok authorization ∧
      verifier.verifyCredentialAuthorizationAtTime
        (Reference.credential (.number (.posInt 7)) Reference.holderMsg) authorization ⟨7⟩
          = .ok () := by
  rcases exists_accepted (.number (.posInt 7)) Reference.holderMsg with ⟨verifier, hverify⟩
  have hspec := (authorization_accepted_iff Reference.canonicalizes).2 Reference.holder
    (Reference.signVerifies Reference.identityKeys) Reference.authorizationRequest
    (Reference.credential (.number (.posInt 7)) Reference.holderMsg) ⟨5⟩ ()
  rcases hspec.1.mpr Reference.parse_holderMsg with ⟨authorization, hauthorize⟩
  refine ⟨verifier, authorization, hauthorize, ?_⟩
  exact ((hspec.2 authorization hauthorize).1 verifier ⟨7⟩).mpr ⟨hverify, by decide⟩

/-- Two accepted authorizations with one signature and one holder are the same
authorization for the same credential. -/
theorem authorization_bound (hS : S.Rfc8785) {verifier₁ verifier₂ : VerificationContext S}
    {credential₁ credential₂ : SignedCredential} {authorization₁ authorization₂ : HolderAuthorization}
    {now₁ now₂ : Timestamp} (hnow₁ : now₁.Exact) (hnow₂ : now₂.Exact)
    (hok₁ : verifier₁.verifyCredentialAuthorizationAtTime credential₁ authorization₁ now₁ = .ok ())
    (hok₂ : verifier₂.verifyCredentialAuthorizationAtTime credential₂ authorization₂ now₂ = .ok ())
    (hsignature : authorization₁.proof.signature = authorization₂.proof.signature)
    (hholder : authorization₁.authorization.holderIdPubkey
      = authorization₂.authorization.holderIdPubkey)
    (hbinds : S.BindsDigest authorization₁.authorization.holderIdPubkey.key
      authorization₁.proof.signature)
    (hstatements : ∀ bytes bytes',
      canonicalizeHolderAuthorization S authorization₁.authorization = .ok bytes →
      canonicalizeHolderAuthorization S authorization₂.authorization = .ok bytes' →
      S.CollisionFree (holderAuthorizationSignatureDomainSeparator ++ bytes)
        (holderAuthorizationSignatureDomainSeparator ++ bytes'))
    (hcredentials : ∀ bytes bytes',
      canonicalizeCredential S credential₁.credential = .ok bytes →
      canonicalizeCredential S credential₂.credential = .ok bytes' →
      S.CollisionFree (credentialDigestDomainSeparator ++ bytes)
        (credentialDigestDomainSeparator ++ bytes')) :
    authorization₁.authorization = authorization₂.authorization ∧
    canonicalizeCredential S credential₁.credential
      = canonicalizeCredential S credential₂.credential ∧
    credential₁.credential.issuerIdPubkey = credential₂.credential.issuerIdPubkey ∧
    credential₁.credential.info.rfc8785 = credential₂.credential.info.rfc8785 ∧
    credential₁.credential.blindMsg.rfc8785 = credential₂.credential.blindMsg.rfc8785 := by
  rcases verifyCredentialAuthorizationAtTime_eq_ok.mp hok₁ with
    ⟨-, ⟨digest₁, hdigest₁, hvalid₁⟩, -, htime₁, hcredential₁⟩
  rcases verifyCredentialAuthorizationAtTime_eq_ok.mp hok₂ with
    ⟨-, ⟨digest₂, hdigest₂, hvalid₂⟩, -, htime₂, hcredential₂⟩
  -- one signature, one digest
  rw [← hsignature, ← hholder] at hvalid₂
  have hdigest : digest₁ = digest₂ := hbinds digest₁ digest₂ hvalid₁ hvalid₂
  rw [← hdigest] at hdigest₂
  -- one digest, one statement
  have hcanonical := HolderAuthorizationStatement.canonical_eq_of_digest_eq hdigest₁ hdigest₂
    hstatements
  rcases Payload.authorization_inj hS hcanonical with ⟨hid, hsubject, hreference, htimes⟩
  have htime := htimes (hnow₁.of_le htime₁) (hnow₂.of_le htime₂)
  have hstatement : authorization₁.authorization = authorization₂.authorization :=
    HolderAuthorizationStatement.ext hid hsubject hreference htime
  -- one statement, one credential
  rw [← hstatement] at hcredential₂
  have hsame := Credential.canonical_eq_of_digest_eq hcredential₁ hcredential₂ hcredentials
  exact ⟨hstatement, hsame, Payload.credential_inj hS hsame⟩

/-- Credentials with the infos `7` and `7.0` share an authorization, and they have one
canonical form. -/
theorem authorization_bound_reference :
    ∃ (verifier₁ verifier₂ : VerificationContext Reference.suite)
        (authorization : HolderAuthorization),
      verifier₁.verifyCredentialAuthorizationAtTime
        (Reference.credential (.number (.posInt 7)) Reference.holderMsg) authorization ⟨7⟩
          = .ok () ∧
      verifier₂.verifyCredentialAuthorizationAtTime
        (Reference.credential (.number (.float Reference.seven)) Reference.holderMsg)
        authorization ⟨8⟩ = .ok () ∧
      canonicalizeCredential Reference.suite
          (Reference.credential (.number (.posInt 7)) Reference.holderMsg).credential
        = canonicalizeCredential Reference.suite
          (Reference.credential (.number (.float Reference.seven)) Reference.holderMsg).credential := by
  rcases exists_accepted (.number (.posInt 7)) Reference.holderMsg with ⟨verifier₁, hverify₁⟩
  rcases exists_accepted (.number (.float Reference.seven)) Reference.holderMsg with
    ⟨verifier₂, hverify₂⟩
  have hsame : canonicalizeCredential Reference.suite
      (Reference.credential (.number (.posInt 7)) Reference.holderMsg).credential
        = canonicalizeCredential Reference.suite
          (Reference.credential (.number (.float Reference.seven)) Reference.holderMsg).credential :=
    (canonicalizeJsonValue_eq_iff Reference.rfc8785 _ _).mpr
      ((Credential.toValue_inj _ _).mpr ⟨rfl, Reference.rfc8785_seven, rfl⟩)
  rcases (Reference.holder.exists_authorizeCredentialUseAtTime_iff Reference.canonicalizes
    Reference.authorizationRequest
    (Reference.credential (.number (.posInt 7)) Reference.holderMsg) ⟨5⟩ ()).mpr
    Reference.parse_holderMsg with ⟨authorization, hauthorize⟩
  have hok₁ := (HolderContext.verify_authorizeCredentialUseAtTime
    (Reference.signVerifies Reference.identityKeys) hauthorize verifier₁ ⟨7⟩).mpr
    ⟨hverify₁, by decide⟩
  -- the second credential has the digest the statement is about
  have hok₂ : verifier₂.verifyCredentialAuthorizationAtTime
      (Reference.credential (.number (.float Reference.seven)) Reference.holderMsg)
      authorization ⟨8⟩ = .ok () := by
    rcases verifyCredentialAuthorizationAtTime_eq_ok.mp hok₁ with
      ⟨-, hsigned, hbound, htime, hdigest⟩
    apply verifyCredentialAuthorizationAtTime_eq_ok.mpr
    refine ⟨hverify₂, hsigned, hbound, UInt64.le_trans htime (by decide), ?_⟩
    rw [← hdigest, Credential.digest, Credential.digest, hsame]
  have hspec := authorization_bound Reference.rfc8785 (by unfold Timestamp.Exact; decide)
    (by unfold Timestamp.Exact; decide) hok₁ hok₂ rfl rfl (Reference.bindsDigest _ _)
    (fun bytes bytes' hbytes hbytes' _ => by rw [Except.ok.inj (hbytes.symm.trans hbytes')])
    (fun bytes bytes' hbytes hbytes' _ => by
      rw [Except.ok.inj (hbytes.symm.trans (hsame.trans hbytes'))])
  exact ⟨verifier₁, verifier₂, authorization, hok₁, hok₂, hspec.2.1⟩

end VerificationContext

end PeerBadge
