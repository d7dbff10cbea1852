import Mathlib.Data.Finset.Insert
import Mathlib.Data.List.AList
import PeerBadge.Signatures

/-! # The verifier

A verifier keeps the issuance key of every issuer it trusts and the revocations it
has taken in. Adding to it checks signatures; verifying a credential or an
authorization only reads it.

Operations that change the state return the result and the state after the call.
-/

namespace PeerBadge

variable {S : Suite}

/-- Stateful verifier for trusted issuers, revocations and credentials. -/
structure VerificationContext (S : Suite) where
  issuers : AList fun _ : IssuerId => S.PbrsaPublicKey
  revocations : Finset (IssuerId × Revocation)

/-- Check the blind signature of a credential under an issuance key. -/
def verifyCredentialWithKey (issuerPublicKey : S.PbrsaPublicKey) (credential : SignedCredential) :
    Except (CredentialsError S) Unit := do
  let metadata ← (canonicalizePbrsaInfo S .v1 credential.credential.issuerIdPubkey
    credential.credential.info).mapError .canonicalize
  let message ← (canonicalizePbrsaBlindMsg S .v1 credential.credential.blindMsg).mapError
    .canonicalize
  let publicKey ← (S.derivePublicKeyForMetadata issuerPublicKey metadata).mapError .blindRsa
  (S.verify publicKey credential.proof.signature none message (some metadata)).mapError .blindRsa

/-- The holder a credential is bound to: its blind message, read as a key. -/
def credentialHolderId (S : Suite) (credential : SignedCredential) :
    Except (CredentialsError S) HolderId :=
  match credential.credential.blindMsg.asStr with
  | none => .error .verificationFailed
  | some holderId =>
      match S.parsePublicKey holderId with
      | .error _ => .error .verificationFailed
      | .ok key => .ok ⟨key⟩

namespace VerificationContext

def new : VerificationContext S := ⟨∅, ∅⟩

/-- Verify and trust an issuer authority. -/
def addIssuerAuthority (context : VerificationContext S) (authority : IssuerAuthority S) :
    Except (Failure (CredentialsError S)) Unit × VerificationContext S :=
  match authority.verify with
  | .error e => (.error e, context)
  | .ok issuer =>
      (.ok (),
        -- a later authority replaces the key and leaves the revocations
        { context with issuers := context.issuers.insert issuer.issuerIdPubkey issuer.issuanceKey })

/-- Verify and store a revocation of a trusted issuer. -/
def addRevocation (context : VerificationContext S) (signedRevocation : SignedRevocation) :
    Except (CredentialsError S) Unit × VerificationContext S :=
  match signedRevocation.verify S with
  | .error e => (.error e, context)
  | .ok revocation =>
      if signedRevocation.proof.issuerIdPubkey ∈ context.issuers then
        (.ok (),
          { context with
            revocations :=
              insert (signedRevocation.proof.issuerIdPubkey, revocation) context.revocations })
      else (.error .unknownIssuer, context)

/-- Verify a finalized credential against trusted issuers and revocations. -/
def verifyCredential (context : VerificationContext S) (credential : SignedCredential) :
    Except (CredentialsError S) Unit :=
  match context.issuers.lookup credential.credential.issuerIdPubkey with
  | none => .error .unknownIssuer
  | some issuerPublicKey => do
      -- the proof is checked before the revocations are looked at
      verifyCredentialWithKey issuerPublicKey credential
      let digest ← credential.credential.digest S
      if (credential.credential.issuerIdPubkey, (⟨⟨digest⟩⟩ : Revocation)) ∈ context.revocations then
        .error .credentialRevoked
      else .ok ()

/-- Verify a credential and a holder authorization at a given time. -/
def verifyCredentialAuthorizationAtTime (context : VerificationContext S)
    (credential : SignedCredential) (authorization : HolderAuthorization) (now : Timestamp) :
    Except (CredentialsError S) Unit := do
  context.verifyCredential credential
  let authorization ← authorization.verify S
  let holderId ← credentialHolderId S credential
  if holderId ≠ authorization.holderIdPubkey then .error .holderIdMismatch
  -- the second of issuance itself is not too early
  else if now.secs < authorization.issuedAt.secs then .error .authorizationNotYetValid
  else do
    let digest ← credential.credential.digest S
    if authorization.credentialDigest ≠ ⟨digest⟩ then
      .error .authorizationCredentialDigestMismatch
    else .ok ()

end VerificationContext

/-! ## What verification accepts -/

theorem verifyCredentialWithKey_eq_ok {key : S.PbrsaPublicKey} {credential : SignedCredential}
    {u : Unit} :
    verifyCredentialWithKey key credential = .ok u ↔
      ∃ metadata message publicKey,
        canonicalizePbrsaInfo S .v1 credential.credential.issuerIdPubkey credential.credential.info
          = .ok metadata ∧
        canonicalizePbrsaBlindMsg S .v1 credential.credential.blindMsg = .ok message ∧
        S.derivePublicKeyForMetadata key metadata = .ok publicKey ∧
        S.verify publicKey credential.proof.signature none message (some metadata) = .ok () := by
  simp only [verifyCredentialWithKey, Outcome.bind_eq_ok, Outcome.mapError_eq_ok]
  constructor
  · intro h
    rcases h with ⟨metadata, hmetadata, message, hmessage, publicKey, hpublic, hverify⟩
    exact ⟨metadata, message, publicKey, hmetadata, hmessage, hpublic, hverify⟩
  · intro h
    rcases h with ⟨metadata, message, publicKey, hmetadata, hmessage, hpublic, hverify⟩
    exact ⟨metadata, hmetadata, message, hmessage, publicKey, hpublic, hverify⟩

/-- The signature check fails in canonicalization or in the signature scheme. -/
theorem verifyCredentialWithKey_eq_error {key : S.PbrsaPublicKey} {credential : SignedCredential}
    {e : CredentialsError S} (h : verifyCredentialWithKey key credential = .error e) :
    (∃ inner, e = .canonicalize inner) ∨ ∃ inner, e = .blindRsa inner := by
  simp only [verifyCredentialWithKey, Outcome.bind_eq_error, Outcome.mapError_eq_error] at h
  rcases h with ⟨inner, -, rfl⟩ | ⟨_, -, ⟨inner, -, rfl⟩ | ⟨_, -, ⟨inner, -, rfl⟩ | ⟨_, -, inner, -, rfl⟩⟩⟩
  · exact Or.inl ⟨inner, rfl⟩
  · exact Or.inl ⟨inner, rfl⟩
  · exact Or.inr ⟨inner, rfl⟩
  · exact Or.inr ⟨inner, rfl⟩

theorem verifyCredentialWithKey_ne_unknownIssuer (key : S.PbrsaPublicKey)
    (credential : SignedCredential) :
    verifyCredentialWithKey key credential ≠ .error .unknownIssuer ∧
      verifyCredentialWithKey key credential ≠ .error .credentialRevoked := by
  constructor
  · intro h
    rcases verifyCredentialWithKey_eq_error h with ⟨inner, h⟩ | ⟨inner, h⟩ <;> cases h
  · intro h
    rcases verifyCredentialWithKey_eq_error h with ⟨inner, h⟩ | ⟨inner, h⟩ <;> cases h

theorem Credential.digest_ne (credential : Credential) :
    credential.digest S ≠ .error .unknownIssuer ∧
      credential.digest S ≠ .error .credentialRevoked := by
  constructor <;>
  · intro h
    simp only [Credential.digest, Outcome.bind_eq_error, Outcome.mapError_eq_error, reduceCtorEq,
      and_false, exists_false, or_false] at h

theorem HolderAuthorization.verify_ne_credentialRevoked (authorization : HolderAuthorization) :
    authorization.verify S ≠ .error .credentialRevoked := by
  intro h
  simp only [HolderAuthorization.verify, HolderAuthorizationStatement.digest,
    Outcome.bind_eq_error, Outcome.mapError_eq_error, reduceCtorEq, and_false, exists_false,
    or_false, false_or] at h
  rcases h with ⟨_, -, h⟩
  unfold verifyIdentitySignatureWithKey at h
  split at h
  · cases h
  · split at h <;> cases h

theorem credentialHolderId_eq_ok {credential : SignedCredential} {holderId : HolderId} :
    credentialHolderId S credential = .ok holderId ↔
      ∃ text, credential.credential.blindMsg.asStr = some text ∧
        S.parsePublicKey text = .ok holderId.key := by
  unfold credentialHolderId
  cases htext : credential.credential.blindMsg.asStr with
  | none => simp
  | some text =>
      cases hkey : S.parsePublicKey text with
      | error e => simp [hkey]
      | ok key =>
          cases holderId
          simp [hkey]

namespace VerificationContext

variable {context : VerificationContext S} {credential : SignedCredential}

theorem verifyCredential_eq_unknownIssuer :
    context.verifyCredential credential = .error .unknownIssuer ↔
      context.issuers.lookup credential.credential.issuerIdPubkey = none := by
  unfold verifyCredential
  cases hkey : context.issuers.lookup credential.credential.issuerIdPubkey with
  | none => simp
  | some key =>
      have hsig := (verifyCredentialWithKey_ne_unknownIssuer key credential).1
      have hdigest := (credential.credential.digest_ne (S := S)).1
      simp only [Outcome.bind_eq_error, hsig, hdigest, false_or, reduceCtorEq, iff_false]
      intro h
      rcases h with ⟨_, -, digest, -, h⟩
      split at h <;> cases h

/-- Verification succeeds when the issuer is known, its key signed the credential, and
the credential's digest is not revoked. -/
theorem verifyCredential_eq_ok {u : Unit} :
    context.verifyCredential credential = .ok u ↔
      ∃ key digest, context.issuers.lookup credential.credential.issuerIdPubkey = some key ∧
        verifyCredentialWithKey key credential = .ok () ∧
        credential.credential.digest S = .ok digest ∧
        (credential.credential.issuerIdPubkey, (⟨⟨digest⟩⟩ : Revocation)) ∉ context.revocations := by
  unfold verifyCredential
  cases hkey : context.issuers.lookup credential.credential.issuerIdPubkey with
  | none => simp
  | some key =>
      simp only [Outcome.bind_eq_ok, Outcome.guard_eq_ok, Option.some.injEq]
      constructor
      · intro h
        rcases h with ⟨_, hsig, digest, hdigest, hfree, -⟩
        exact ⟨key, digest, rfl, hsig, hdigest, hfree⟩
      · intro h
        rcases h with ⟨key', digest, rfl, hsig, hdigest, hfree⟩
        exact ⟨(), hsig, digest, hdigest, hfree, trivial⟩

theorem verifyCredential_eq_revoked :
    context.verifyCredential credential = .error .credentialRevoked ↔
      ∃ key digest, context.issuers.lookup credential.credential.issuerIdPubkey = some key ∧
        verifyCredentialWithKey key credential = .ok () ∧
        credential.credential.digest S = .ok digest ∧
        (credential.credential.issuerIdPubkey, (⟨⟨digest⟩⟩ : Revocation)) ∈ context.revocations := by
  unfold verifyCredential
  cases hkey : context.issuers.lookup credential.credential.issuerIdPubkey with
  | none => simp
  | some key =>
      have hsig := (verifyCredentialWithKey_ne_unknownIssuer key credential).2
      have hdigest := (credential.credential.digest_ne (S := S)).2
      simp only [Outcome.bind_eq_error, hsig, hdigest, false_or, Option.some.injEq]
      constructor
      · intro h
        rcases h with ⟨_, hok, digest, hd, h⟩
        by_cases hrevoked :
            (credential.credential.issuerIdPubkey, (⟨⟨digest⟩⟩ : Revocation)) ∈ context.revocations
        · exact ⟨key, digest, rfl, hok, hd, hrevoked⟩
        · rw [if_neg hrevoked] at h
          cases h
      · intro h
        rcases h with ⟨key', digest, rfl, hok, hd, hrevoked⟩
        exact ⟨(), hok, digest, hd, if_pos hrevoked⟩

/-- The verdict depends on the key of the issuer and on one entry of the revocations. -/
theorem verifyCredential_congr {context' : VerificationContext S}
    (hkey : context'.issuers.lookup credential.credential.issuerIdPubkey
      = context.issuers.lookup credential.credential.issuerIdPubkey)
    (hrevoked : ∀ digest, credential.credential.digest S = .ok digest →
      ((credential.credential.issuerIdPubkey, (⟨⟨digest⟩⟩ : Revocation)) ∈ context'.revocations ↔
        (credential.credential.issuerIdPubkey, (⟨⟨digest⟩⟩ : Revocation)) ∈ context.revocations)) :
    context'.verifyCredential credential = context.verifyCredential credential := by
  unfold verifyCredential
  rw [hkey]
  -- the revocations are only asked about the digest of this credential
  cases context.issuers.lookup credential.credential.issuerIdPubkey with
  | none => rfl
  | some key =>
      cases hd : credential.credential.digest S with
      | error e => rfl
      | ok digest => simp only [Outcome.ok_bind, hrevoked digest hd]

/-- An authorized credential is accepted when the credential is, the holder it is
bound to signed the statement, the time has come, and the statement is about it. -/
theorem verifyCredentialAuthorizationAtTime_eq_ok {authorization : HolderAuthorization}
    {now : Timestamp} {u : Unit} :
    context.verifyCredentialAuthorizationAtTime credential authorization now = .ok u ↔
      context.verifyCredential credential = .ok () ∧ authorization.Signed S ∧
      credentialHolderId S credential = .ok authorization.authorization.holderIdPubkey ∧
      authorization.authorization.issuedAt.secs ≤ now.secs ∧
      credential.credential.digest S = .ok authorization.authorization.credentialDigest.output := by
  simp only [verifyCredentialAuthorizationAtTime, Outcome.bind_eq_ok, Outcome.guard_eq_ok,
    HolderAuthorization.verify_eq_ok, not_not, UInt64.not_lt]
  constructor
  · intro h
    rcases h with ⟨_, hcredential, _, ⟨hsigned, rfl⟩, _, hholder, rfl, htime, digest, hdigest, heq,
      -⟩
    refine ⟨hcredential, hsigned, hholder, htime, ?_⟩
    rw [heq]
    exact hdigest
  · intro h
    rcases h with ⟨hcredential, hsigned, hholder, htime, hdigest⟩
    exact ⟨(), hcredential, _, ⟨hsigned, rfl⟩, _, hholder, rfl, htime, _, hdigest, rfl, trivial⟩

/-- A presentation is refused as revoked only because the credential is. -/
theorem verifyCredential_of_authorization_eq_revoked {authorization : HolderAuthorization}
    {now : Timestamp}
    (h : context.verifyCredentialAuthorizationAtTime credential authorization now
      = .error .credentialRevoked) :
    context.verifyCredential credential = .error .credentialRevoked := by
  have hdigest := (credential.credential.digest_ne (S := S)).2
  have hsignature := HolderAuthorization.verify_ne_credentialRevoked (S := S) authorization
  have hholder : credentialHolderId S credential ≠ .error .credentialRevoked := by
    unfold credentialHolderId
    intro h
    split at h
    · cases h
    · split at h <;> cases h
  simp only [verifyCredentialAuthorizationAtTime, Outcome.bind_eq_error, hsignature, hholder,
    false_or] at h
  rcases h with h | ⟨_, -, _, -, _, -, h⟩
  · exact h
  · -- the checks after that have errors of their own
    exfalso
    split at h
    · cases h
    · split at h
      · cases h
      · rcases Outcome.bind_eq_error.mp h with h | ⟨_, -, h⟩
        · exact hdigest h
        · split at h <;> cases h

/-- The verdict on an authorization depends on the state through the credential only. -/
theorem verifyCredentialAuthorizationAtTime_congr {context' : VerificationContext S}
    (h : context'.verifyCredential credential = context.verifyCredential credential)
    (authorization : HolderAuthorization) (now : Timestamp) :
    context'.verifyCredentialAuthorizationAtTime credential authorization now
      = context.verifyCredentialAuthorizationAtTime credential authorization now := by
  unfold verifyCredentialAuthorizationAtTime
  rw [h]

end VerificationContext

end PeerBadge
