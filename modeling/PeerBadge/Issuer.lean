import PeerBadge.Signatures

/-! # The issuer

An issuer signs its public metadata, blind-signs holder requests under the key its
metadata derives, and signs revocations of the credentials it issued.
-/

namespace PeerBadge

variable {S : Suite}

/-- Issuer identity and PBRSA signing key. -/
structure IssuerContext (S : Suite) where
  identityKeys : S.Keys
  keyPair : PbrsaKeyPair S

namespace IssuerContext

def issuerId (context : IssuerContext S) : IssuerId := ⟨S.publicKey context.identityKeys⟩

def signIdentityDigest (context : IssuerContext S) (digest : Sha256Output) (rng : S.NostrRng) :
    SchnorrSignature :=
  S.signSchnorr context.identityKeys digest rng

/-- Build and sign this issuer's public metadata. -/
def issuerAuthority (context : IssuerContext S) (revocation : List RevocationLocation)
    (rng : S.NostrRng) : Except (Failure (CredentialsError S)) (IssuerAuthority S) := do
  let issuer : Issuer S :=
    { issuerIdPubkey := context.issuerId
      issuanceKey := context.keyPair.pk
      revocation := revocation }
  let digest ← issuer.digest
  .ok
    { version := .v1
      issuer := issuer
      proof := { signature := context.signIdentityDigest digest rng } }

/-- Issue a blind signature over a holder issuance request. -/
def issueCredential (context : IssuerContext S) (info : Value) (request : IssuanceRequest)
    (rng : S.PbrsaRng) : Except (CredentialsError S) IssuanceResponse := do
  let metadata ← (canonicalizePbrsaInfo S .v1 context.issuerId info).mapError .canonicalize
  let secretKey ← (S.deriveSecretKeyForMetadata context.keyPair.pk context.keyPair.sk
    metadata).mapError .blindRsa
  let blindSignature ← (S.blindSign secretKey rng request.blindedMessage).mapError .blindRsa
  .ok
    { version := .v1
      issuerId := context.issuerId
      info := info
      blindSignature := blindSignature }

/-- Build and sign the revocation of a credential issued by this issuer. -/
def revokeCredential (context : IssuerContext S) (credential : SignedCredential)
    (rng : S.NostrRng) : Except (CredentialsError S) SignedRevocation :=
  if credential.credential.issuerIdPubkey ≠ context.issuerId then .error .issuerIdMismatch
  -- the proof of the credential is not looked at
  else do
    let credentialDigest ← credential.credential.digest S
    let revocation : Revocation := { credentialDigest := ⟨credentialDigest⟩ }
    let digest ← revocation.digest S
    .ok
      { version := .v1
        revocation := revocation
        proof :=
          { issuerIdPubkey := context.issuerId
            signature := context.signIdentityDigest digest rng } }

/-! ## What the operations return -/

variable {context : IssuerContext S}

theorem issuerAuthority_eq_ok {revocation : List RevocationLocation} {rng : S.NostrRng}
    {authority : IssuerAuthority S} :
    context.issuerAuthority revocation rng = .ok authority ↔
      ∃ digest, Issuer.digest ⟨context.issuerId, context.keyPair.pk, revocation⟩ = .ok digest ∧
        authority = ⟨.v1, ⟨context.issuerId, context.keyPair.pk, revocation⟩,
          ⟨context.signIdentityDigest digest rng⟩⟩ := by
  simp only [issuerAuthority, Outcome.bind_eq_ok, Except.ok.injEq]
  constructor
  · intro h
    rcases h with ⟨digest, hdigest, rfl⟩
    exact ⟨digest, hdigest, rfl⟩
  · intro h
    rcases h with ⟨digest, hdigest, rfl⟩
    exact ⟨digest, hdigest, rfl⟩

/-- An authority names its issuer and the issuance key. -/
theorem issuerAuthority_payload {revocation : List RevocationLocation} {rng : S.NostrRng}
    {authority : IssuerAuthority S} (h : context.issuerAuthority revocation rng = .ok authority) :
    authority.issuer.issuerIdPubkey = context.issuerId ∧
      authority.issuer.issuanceKey = context.keyPair.pk := by
  rcases issuerAuthority_eq_ok.mp h with ⟨digest, -, rfl⟩
  exact ⟨rfl, rfl⟩

/-- An authority with usable locations is acceptable. -/
theorem issuerAuthority_accepted (hsign : S.SignVerifies context.identityKeys)
    {revocation : List RevocationLocation} {rng : S.NostrRng} {authority : IssuerAuthority S}
    (hlocations : ∀ location ∈ revocation, location.protocol ≠ "" ∧ location.location ≠ "")
    (h : context.issuerAuthority revocation rng = .ok authority) : authority.Accepted := by
  rcases issuerAuthority_eq_ok.mp h with ⟨digest, hdigest, rfl⟩
  exact ⟨hlocations, digest, hdigest, hsign digest rng⟩

theorem issueCredential_eq_ok {info : Value} {request : IssuanceRequest} {rng : S.PbrsaRng}
    {response : IssuanceResponse} :
    context.issueCredential info request rng = .ok response ↔
      ∃ metadata secretKey blindSignature,
        canonicalizePbrsaInfo S .v1 context.issuerId info = .ok metadata ∧
        S.deriveSecretKeyForMetadata context.keyPair.pk context.keyPair.sk metadata
          = .ok secretKey ∧
        S.blindSign secretKey rng request.blindedMessage = .ok blindSignature ∧
        response = ⟨.v1, context.issuerId, info, blindSignature⟩ := by
  simp only [issueCredential, Outcome.bind_eq_ok, Outcome.mapError_eq_ok, Except.ok.injEq]
  constructor
  · intro h
    rcases h with ⟨metadata, hmetadata, secretKey, hsecret, blindSignature, hsign, rfl⟩
    exact ⟨metadata, secretKey, blindSignature, hmetadata, hsecret, hsign, rfl⟩
  · intro h
    rcases h with ⟨metadata, secretKey, blindSignature, hmetadata, hsecret, hsign, rfl⟩
    exact ⟨metadata, hmetadata, secretKey, hsecret, blindSignature, hsign, rfl⟩

/-- A response names its issuer and the info that was signed. -/
theorem issueCredential_payload {info : Value} {request : IssuanceRequest} {rng : S.PbrsaRng}
    {response : IssuanceResponse} (h : context.issueCredential info request rng = .ok response) :
    response.issuerId = context.issuerId ∧ response.info = info := by
  rcases issueCredential_eq_ok.mp h with ⟨metadata, secretKey, blindSignature, -, -, -, rfl⟩
  exact ⟨rfl, rfl⟩

/-- A revocation carries the digest of the credential and this issuer's signature. -/
theorem revokeCredential_eq_ok {credential : SignedCredential} {rng : S.NostrRng}
    {signedRevocation : SignedRevocation} :
    context.revokeCredential credential rng = .ok signedRevocation ↔
      credential.credential.issuerIdPubkey = context.issuerId ∧
      ∃ credentialDigest digest, credential.credential.digest S = .ok credentialDigest ∧
        Revocation.digest S ⟨⟨credentialDigest⟩⟩ = .ok digest ∧
        signedRevocation = ⟨.v1, ⟨⟨credentialDigest⟩⟩,
          ⟨context.issuerId, context.signIdentityDigest digest rng⟩⟩ := by
  simp only [revokeCredential, Outcome.guard_eq_ok, Outcome.bind_eq_ok, not_not,
    Except.ok.injEq]
  constructor
  · intro h
    rcases h with ⟨hid, credentialDigest, hcredential, digest, hdigest, rfl⟩
    exact ⟨hid, credentialDigest, digest, hcredential, hdigest, rfl⟩
  · intro h
    rcases h with ⟨hid, credentialDigest, digest, hcredential, hdigest, rfl⟩
    exact ⟨hid, credentialDigest, hcredential, digest, hdigest, rfl⟩

/-- A revocation an issuer makes is signed, names the issuer of the credential, and
carries its digest. -/
theorem revokeCredential_signed (hsign : S.SignVerifies context.identityKeys)
    {credential : SignedCredential} {rng : S.NostrRng} {signedRevocation : SignedRevocation}
    (h : context.revokeCredential credential rng = .ok signedRevocation) :
    signedRevocation.Signed S ∧
      signedRevocation.proof.issuerIdPubkey = context.issuerId ∧
      credential.credential.issuerIdPubkey = context.issuerId ∧
      credential.credential.digest S
        = .ok signedRevocation.revocation.credentialDigest.output := by
  rcases revokeCredential_eq_ok.mp h with ⟨hid, credentialDigest, digest, hcredential, hdigest, rfl⟩
  exact ⟨⟨digest, hdigest, hsign digest rng⟩, rfl, hid, hcredential⟩

end IssuerContext

end PeerBadge
