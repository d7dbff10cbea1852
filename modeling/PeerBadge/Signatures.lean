import PeerBadge.Canonical

/-! # Digests and identity signatures

Each kind of message is hashed behind its own domain separator. Issuer authorities,
revocations and holder authorizations carry a Schnorr signature over their digest;
a credential's digest is what revocations and authorizations refer to.
-/

namespace PeerBadge

/-! ## Domain separators -/

/-- A label and its terminating NUL. -/
def domainSeparator (label : String) : Bytes := Encoding.utf8 label.toList ++ [0]

def issuerAuthoritySignatureDomainSeparator : Bytes :=
  domainSeparator "fedi-credential/issuer-authority-signature/v1"

def revocationSignatureDomainSeparator : Bytes :=
  domainSeparator "fedi-credential/revocation-signature/v1"

def holderAuthorizationSignatureDomainSeparator : Bytes :=
  domainSeparator "fedi-credential/holder-authorization-signature/v1"

def credentialDigestDomainSeparator : Bytes :=
  domainSeparator "fedi-credential/credential-digest/v1"

/-! ## Digests -/

/-- `Issuer::digest`. -/
def Issuer.digest {S : Suite} (issuer : Issuer S) :
    Except (Failure (CredentialsError S)) Sha256Output := do
  let canonical ← (canonicalizeIssuerAuthority issuer).mapError (.map .canonicalize)
  .ok (S.sha256 (issuerAuthoritySignatureDomainSeparator ++ canonical))

def Revocation.digest (S : Suite) (revocation : Revocation) :
    Except (CredentialsError S) Sha256Output := do
  let canonical ← (canonicalizeRevocation S revocation).mapError .canonicalize
  .ok (S.sha256 (revocationSignatureDomainSeparator ++ canonical))

def HolderAuthorizationStatement.digest (S : Suite) (statement : HolderAuthorizationStatement) :
    Except (CredentialsError S) Sha256Output := do
  let canonical ← (canonicalizeHolderAuthorization S statement).mapError .canonicalize
  .ok (S.sha256 (holderAuthorizationSignatureDomainSeparator ++ canonical))

def Credential.digest (S : Suite) (credential : Credential) :
    Except (CredentialsError S) Sha256Output := do
  let canonical ← (canonicalizeCredential S credential).mapError .canonicalize
  .ok (S.sha256 (credentialDigestDomainSeparator ++ canonical))

/-! ## Signatures -/

/-- Check a Schnorr signature under a Nostr key. -/
def verifyIdentitySignatureWithKey (S : Suite) (identityPublicKey : NostrPublicKey)
    (signature : SchnorrSignature) (message : Sha256Output) : Except (CredentialsError S) Unit :=
  match S.xonly identityPublicKey with
  -- 32 bytes need not be a point of the curve
  | .error _ => .error .verificationFailed
  | .ok publicKey =>
      if S.verifySchnorr signature message publicKey then .ok ()
      else .error .verificationFailed

def verifyIdentitySignature (S : Suite) (issuerId : IssuerId) (signature : SchnorrSignature)
    (message : Sha256Output) : Except (CredentialsError S) Unit :=
  verifyIdentitySignatureWithKey S issuerId.key signature message

/-- Every location has a protocol and a location. -/
def validateRevocationLocations (S : Suite) (locations : List RevocationLocation) :
    Except (CredentialsError S) Unit :=
  if locations.any fun location => location.protocol.isEmpty || location.location.isEmpty then
    .error .verificationFailed
  else .ok ()

/-- `IssuerAuthority::verify`: locations first, then the signature. -/
def IssuerAuthority.verify {S : Suite} (authority : IssuerAuthority S) :
    Except (Failure (CredentialsError S)) (Issuer S) := do
  (validateRevocationLocations S authority.issuer.revocation).mapError .error
  let digest ← authority.issuer.digest
  (verifyIdentitySignature S authority.issuer.issuerIdPubkey authority.proof.signature
    digest).mapError .error
  .ok authority.issuer

def SignedRevocation.verify (S : Suite) (signedRevocation : SignedRevocation) :
    Except (CredentialsError S) Revocation := do
  let digest ← signedRevocation.revocation.digest S
  verifyIdentitySignature S signedRevocation.proof.issuerIdPubkey signedRevocation.proof.signature
    digest
  .ok signedRevocation.revocation

def HolderAuthorization.verify (S : Suite) (authorization : HolderAuthorization) :
    Except (CredentialsError S) HolderAuthorizationStatement := do
  let digest ← authorization.authorization.digest S
  verifyIdentitySignatureWithKey S authorization.authorization.holderIdPubkey.key
    authorization.proof.signature digest
  .ok authorization.authorization

/-! ## What the checks accept -/

section Specs

variable {S : Suite}

theorem Issuer.digest_eq_ok {issuer : Issuer S} {output : Sha256Output} :
    issuer.digest = .ok output ↔
      ∃ canonical, canonicalizeIssuerAuthority issuer = .ok canonical ∧
        S.sha256 (issuerAuthoritySignatureDomainSeparator ++ canonical) = output := by
  simp only [digest, Outcome.bind_eq_ok, Outcome.mapError_eq_ok, Except.ok.injEq]

theorem Revocation.digest_eq_ok {revocation : Revocation} {output : Sha256Output} :
    revocation.digest S = .ok output ↔
      ∃ canonical, canonicalizeRevocation S revocation = .ok canonical ∧
        S.sha256 (revocationSignatureDomainSeparator ++ canonical) = output := by
  simp only [digest, Outcome.bind_eq_ok, Outcome.mapError_eq_ok, Except.ok.injEq]

theorem HolderAuthorizationStatement.digest_eq_ok {statement : HolderAuthorizationStatement}
    {output : Sha256Output} :
    statement.digest S = .ok output ↔
      ∃ canonical, canonicalizeHolderAuthorization S statement = .ok canonical ∧
        S.sha256 (holderAuthorizationSignatureDomainSeparator ++ canonical) = output := by
  simp only [digest, Outcome.bind_eq_ok, Outcome.mapError_eq_ok, Except.ok.injEq]

theorem Credential.digest_eq_ok {credential : Credential} {output : Sha256Output} :
    credential.digest S = .ok output ↔
      ∃ canonical, canonicalizeCredential S credential = .ok canonical ∧
        S.sha256 (credentialDigestDomainSeparator ++ canonical) = output := by
  simp only [digest, Outcome.bind_eq_ok, Outcome.mapError_eq_ok, Except.ok.injEq]

theorem HolderAuthorizationStatement.exists_digest (hcanon : S.Canonicalizes)
    (statement : HolderAuthorizationStatement) : ∃ output, statement.digest S = .ok output := by
  rcases hcanon (holderAuthorizationPayload statement) with ⟨canonical, hcanonical⟩
  exact ⟨_, digest_eq_ok.mpr ⟨canonical, hcanonical, rfl⟩⟩

theorem Credential.exists_digest (hcanon : S.Canonicalizes) (credential : Credential) :
    ∃ output, credential.digest S = .ok output := by
  rcases hcanon credential.toValue with ⟨canonical, hcanonical⟩
  exact ⟨_, digest_eq_ok.mpr ⟨canonical, hcanonical, rfl⟩⟩

/-- Statements with one digest have one canonical form, unless the hash collides. -/
theorem HolderAuthorizationStatement.canonical_eq_of_digest_eq
    {a b : HolderAuthorizationStatement} {output : Sha256Output} (ha : a.digest S = .ok output)
    (hb : b.digest S = .ok output)
    (hfree : ∀ bytes bytes', canonicalizeHolderAuthorization S a = .ok bytes →
      canonicalizeHolderAuthorization S b = .ok bytes' →
      S.CollisionFree (holderAuthorizationSignatureDomainSeparator ++ bytes)
        (holderAuthorizationSignatureDomainSeparator ++ bytes')) :
    canonicalizeHolderAuthorization S a = canonicalizeHolderAuthorization S b := by
  rcases digest_eq_ok.mp ha with ⟨bytes, hbytes, hhash⟩
  rcases digest_eq_ok.mp hb with ⟨bytes', hbytes', hhash'⟩
  have hsame := (hfree bytes bytes' hbytes hbytes').append_inj (hhash.trans hhash'.symm)
  rw [hbytes, hbytes', hsame]

theorem Credential.canonical_eq_of_digest_eq {a b : Credential} {output : Sha256Output}
    (ha : a.digest S = .ok output) (hb : b.digest S = .ok output)
    (hfree : ∀ bytes bytes', canonicalizeCredential S a = .ok bytes →
      canonicalizeCredential S b = .ok bytes' →
      S.CollisionFree (credentialDigestDomainSeparator ++ bytes)
        (credentialDigestDomainSeparator ++ bytes')) :
    canonicalizeCredential S a = canonicalizeCredential S b := by
  rcases digest_eq_ok.mp ha with ⟨bytes, hbytes, hhash⟩
  rcases digest_eq_ok.mp hb with ⟨bytes', hbytes', hhash'⟩
  have hsame := (hfree bytes bytes' hbytes hbytes').append_inj (hhash.trans hhash'.symm)
  rw [hbytes, hbytes', hsame]

theorem verifyIdentitySignatureWithKey_eq_ok {key : NostrPublicKey} {signature : SchnorrSignature}
    {message : Sha256Output} {u : Unit} :
    verifyIdentitySignatureWithKey S key signature message = .ok u ↔
      S.ValidSchnorr key signature message := by
  unfold verifyIdentitySignatureWithKey Suite.ValidSchnorr
  cases hpoint : S.xonly key with
  | error e => simp
  | ok point => simp

theorem validateRevocationLocations_eq_ok {locations : List RevocationLocation} {u : Unit} :
    validateRevocationLocations S locations = .ok u ↔
      ∀ location ∈ locations, location.protocol ≠ "" ∧ location.location ≠ "" := by
  unfold validateRevocationLocations
  rw [Outcome.guard_eq_ok]
  simp

/-- What makes an authority acceptable: non-empty locations, and the issuer's
signature over the issuer digest. -/
def IssuerAuthority.Accepted (authority : IssuerAuthority S) : Prop :=
  (∀ location ∈ authority.issuer.revocation,
    location.protocol ≠ "" ∧ location.location ≠ "") ∧
  ∃ digest, authority.issuer.digest = .ok digest ∧
    S.ValidSchnorr authority.issuer.issuerIdPubkey.key authority.proof.signature digest

/-- The key a revocation names signed the revocation digest. -/
def SignedRevocation.Signed (S : Suite) (signedRevocation : SignedRevocation) : Prop :=
  ∃ digest, signedRevocation.revocation.digest S = .ok digest ∧
    S.ValidSchnorr signedRevocation.proof.issuerIdPubkey.key signedRevocation.proof.signature digest

/-- The holder an authorization names signed the statement digest. -/
def HolderAuthorization.Signed (S : Suite) (authorization : HolderAuthorization) : Prop :=
  ∃ digest, authorization.authorization.digest S = .ok digest ∧
    S.ValidSchnorr authorization.authorization.holderIdPubkey.key authorization.proof.signature
      digest

theorem IssuerAuthority.verify_eq_ok {authority : IssuerAuthority S} {issuer : Issuer S} :
    authority.verify = .ok issuer ↔ authority.Accepted ∧ issuer = authority.issuer := by
  simp only [verify, Outcome.bind_eq_ok, Outcome.mapError_eq_ok, verifyIdentitySignature,
    verifyIdentitySignatureWithKey_eq_ok, validateRevocationLocations_eq_ok, exists_const,
    Except.ok.injEq]
  constructor
  · intro h
    rcases h with ⟨hlocations, digest, hdigest, hvalid, rfl⟩
    exact ⟨⟨hlocations, digest, hdigest, hvalid⟩, rfl⟩
  · intro h
    rcases h with ⟨⟨hlocations, digest, hdigest, hvalid⟩, rfl⟩
    exact ⟨hlocations, digest, hdigest, hvalid, rfl⟩

theorem SignedRevocation.verify_eq_ok {signedRevocation : SignedRevocation}
    {revocation : Revocation} :
    signedRevocation.verify S = .ok revocation ↔
      signedRevocation.Signed S ∧ revocation = signedRevocation.revocation := by
  simp only [verify, Outcome.bind_eq_ok, verifyIdentitySignature,
    verifyIdentitySignatureWithKey_eq_ok, exists_const, Except.ok.injEq]
  constructor
  · intro h
    rcases h with ⟨digest, hdigest, hvalid, rfl⟩
    exact ⟨⟨digest, hdigest, hvalid⟩, rfl⟩
  · intro h
    rcases h with ⟨⟨digest, hdigest, hvalid⟩, rfl⟩
    exact ⟨digest, hdigest, hvalid, rfl⟩

theorem HolderAuthorization.verify_eq_ok {authorization : HolderAuthorization}
    {statement : HolderAuthorizationStatement} :
    authorization.verify S = .ok statement ↔
      authorization.Signed S ∧ statement = authorization.authorization := by
  simp only [verify, Outcome.bind_eq_ok, verifyIdentitySignatureWithKey_eq_ok, exists_const,
    Except.ok.injEq]
  constructor
  · intro h
    rcases h with ⟨digest, hdigest, hvalid, rfl⟩
    exact ⟨⟨digest, hdigest, hvalid⟩, rfl⟩
  · intro h
    rcases h with ⟨⟨digest, hdigest, hvalid⟩, rfl⟩
    exact ⟨digest, hdigest, hvalid, rfl⟩

end Specs

end PeerBadge
