import PeerBadge.Holder

/-! # Wire objects

The JSON forms in which authorities, requests, responses, credentials, revocations and
authorizations travel, and how each is read. Structs are read from objects by name or
from arrays by position, and unknown members are ignored. Byte fields are base64; digests
and Schnorr signatures must have their length.
-/

namespace PeerBadge

/-- JSON-friendly issuer secret export. -/
structure IssuerSecretKeys where
  issuerIdSecretKey : String
  issuanceSecretKey : Bytes
deriving DecidableEq

/-! ## Forms -/

def SchnorrSignatureProof.toValue (proof : SchnorrSignatureProof) : Value :=
  .object [("signature", base64UrlUnpadded proof.signature.toList)]

/-- Fails when the DER form of the issuance key does. -/
def IssuerAuthority.toValue {S : Suite} (authority : IssuerAuthority S) :
    Except S.PbrsaError Value := do
  let issuer ← authority.issuer.toValue
  .ok (.object
    [("version", authority.version.toValue), ("issuer", issuer),
      ("proof", authority.proof.toValue)])

def RevocationProof.toValue (proof : RevocationProof) : Value :=
  .object
    [("issuer_id_pubkey", proof.issuerIdPubkey.toValue),
      ("signature", base64UrlUnpadded proof.signature.toList)]

def SignedRevocation.toValue (signedRevocation : SignedRevocation) : Value :=
  .object
    [("version", signedRevocation.version.toValue),
      ("revocation", signedRevocation.revocation.toValue),
      ("proof", signedRevocation.proof.toValue)]

def CredentialProof.toValue (proof : CredentialProof) : Value :=
  .object [("signature", base64UrlUnpadded proof.signature)]

def SignedCredential.toValue (credential : SignedCredential) : Value :=
  .object
    [("version", credential.version.toValue), ("credential", credential.credential.toValue),
      ("proof", credential.proof.toValue)]

def IssuanceRequest.toValue (request : IssuanceRequest) : Value :=
  .object
    [("version", request.version.toValue),
      ("blinded_message", base64UrlUnpadded request.blindedMessage)]

def IssuanceResponse.toValue (response : IssuanceResponse) : Value :=
  .object
    [("version", response.version.toValue), ("issuer_id", response.issuerId.toValue),
      ("info", response.info), ("blind_signature", base64UrlUnpadded response.blindSignature)]

def HolderAuthorizationRequest.toValue (request : HolderAuthorizationRequest) : Value :=
  .object [("subject_pubkey", request.subjectPubkey.toValue)]

def HolderAuthorization.toValue (authorization : HolderAuthorization) : Value :=
  .object
    [("version", authorization.version.toValue),
      ("authorization", authorization.authorization.toValue),
      ("proof", authorization.proof.toValue)]

def IssuerSecretKeys.toValue (keys : IssuerSecretKeys) : Value :=
  .object
    [("issuer_id_secret_key", .string keys.issuerIdSecretKey),
      ("issuance_secret_key", base64UrlUnpadded keys.issuanceSecretKey)]

/-! ## Readers -/

/-- `Deserialize` of a Nostr key. -/
def readNostrKey (S : Suite) (doc : Json Number) : Except DeError NostrPublicKey := do
  let text ← Serde.string doc
  match S.deserializePublicKey text with
  | .ok key => .ok key
  | .error _ => .error (.custom "invalid public key")

/-- A Schnorr signature is 64 bytes, whatever they are. -/
def readSignature (doc : Json Number) : Except DeError SchnorrSignature :=
  Serde.byteVector 64 (fun _ => .custom "malformed signature") doc

/-- A PBRSA public key from its DER form; `fromDer` is `PbrsaPublicKey::from_der`. -/
def readIssuanceKey {S : Suite} (fromDer : Bytes → Except S.PbrsaError S.PbrsaPublicKey)
    (doc : Json Number) : Except DeError S.PbrsaPublicKey := do
  let der ← Serde.bytes doc
  match fromDer der with
  | .ok key => .ok key
  | .error _ => .error (.custom "invalid issuance key")

def HolderId.ofDocument (S : Suite) (doc : Json Number) : Except DeError HolderId :=
  (readNostrKey S doc).map HolderId.mk

def SubjectPubkey.ofDocument (S : Suite) (doc : Json Number) : Except DeError SubjectPubkey :=
  (readNostrKey S doc).map SubjectPubkey.mk

def Timestamp.ofDocument (doc : Json Number) : Except DeError Timestamp :=
  (Serde.u64 doc).map Timestamp.mk

def CredentialDigest.ofDocument (doc : Json Number) : Except DeError CredentialDigest :=
  (Serde.byteVector 32
    (fun len => .custom ("invalid length " ++ toString len ++ ", expected 32")) doc).map
    CredentialDigest.mk

def SchnorrSignatureProof.fieldNames : List String := ["signature"]

def SchnorrSignatureProof.ofDocument (doc : Json Number) : Except DeError SchnorrSignatureProof := do
  Serde.checkStruct fieldNames doc
  let signature ← Serde.field fieldNames doc "signature" readSignature
  .ok { signature := signature }

def RevocationLocation.fieldNames : List String := ["protocol", "location"]

def RevocationLocation.ofDocument (doc : Json Number) : Except DeError RevocationLocation := do
  Serde.checkStruct fieldNames doc
  let protocol ← Serde.field fieldNames doc "protocol" Serde.string
  let location ← Serde.field fieldNames doc "location" Serde.string
  .ok { protocol := protocol, location := location }

def Issuer.fieldNames : List String := ["issuer_id_pubkey", "issuance_key", "revocation"]

def Issuer.ofDocument {S : Suite} (fromDer : Bytes → Except S.PbrsaError S.PbrsaPublicKey)
    (doc : Json Number) : Except DeError (Issuer S) := do
  Serde.checkStruct fieldNames doc
  let issuerIdPubkey ← Serde.field fieldNames doc "issuer_id_pubkey" (PendingIssuance.readIssuerId S)
  let issuanceKey ← Serde.field fieldNames doc "issuance_key" (readIssuanceKey fromDer)
  let revocation ← Serde.field fieldNames doc "revocation" (Serde.list RevocationLocation.ofDocument)
  .ok { issuerIdPubkey := issuerIdPubkey, issuanceKey := issuanceKey, revocation := revocation }

def IssuerAuthority.fieldNames : List String := ["version", "issuer", "proof"]

def IssuerAuthority.ofDocument {S : Suite} (fromDer : Bytes → Except S.PbrsaError S.PbrsaPublicKey)
    (doc : Json Number) : Except DeError (IssuerAuthority S) := do
  Serde.checkStruct fieldNames doc
  let version ← Serde.field fieldNames doc "version" PendingIssuance.readVersion
  let issuer ← Serde.field fieldNames doc "issuer" (Issuer.ofDocument fromDer)
  let proof ← Serde.field fieldNames doc "proof" SchnorrSignatureProof.ofDocument
  .ok { version := version, issuer := issuer, proof := proof }

def Revocation.fieldNames : List String := ["credential_digest"]

def Revocation.ofDocument (doc : Json Number) : Except DeError Revocation := do
  Serde.checkStruct fieldNames doc
  let credentialDigest ← Serde.field fieldNames doc "credential_digest" CredentialDigest.ofDocument
  .ok { credentialDigest := credentialDigest }

def RevocationProof.fieldNames : List String := ["issuer_id_pubkey", "signature"]

def RevocationProof.ofDocument (S : Suite) (doc : Json Number) : Except DeError RevocationProof := do
  Serde.checkStruct fieldNames doc
  let issuerIdPubkey ← Serde.field fieldNames doc "issuer_id_pubkey" (PendingIssuance.readIssuerId S)
  let signature ← Serde.field fieldNames doc "signature" readSignature
  .ok { issuerIdPubkey := issuerIdPubkey, signature := signature }

def SignedRevocation.fieldNames : List String := ["version", "revocation", "proof"]

def SignedRevocation.ofDocument (S : Suite) (doc : Json Number) : Except DeError SignedRevocation := do
  Serde.checkStruct fieldNames doc
  let version ← Serde.field fieldNames doc "version" PendingIssuance.readVersion
  let revocation ← Serde.field fieldNames doc "revocation" Revocation.ofDocument
  let proof ← Serde.field fieldNames doc "proof" (RevocationProof.ofDocument S)
  .ok { version := version, revocation := revocation, proof := proof }

def Credential.fieldNames : List String := ["issuer_id_pubkey", "info", "blind_msg"]

def Credential.ofDocument (S : Suite) (doc : Json Number) : Except DeError Credential := do
  Serde.checkStruct fieldNames doc
  let issuerIdPubkey ← Serde.field fieldNames doc "issuer_id_pubkey" (PendingIssuance.readIssuerId S)
  let info ← Serde.field fieldNames doc "info" Serde.value
  let blindMsg ← Serde.field fieldNames doc "blind_msg" Serde.value
  .ok { issuerIdPubkey := issuerIdPubkey, info := info, blindMsg := blindMsg }

def CredentialProof.fieldNames : List String := ["signature"]

def CredentialProof.ofDocument (doc : Json Number) : Except DeError CredentialProof := do
  Serde.checkStruct fieldNames doc
  -- a PBRSA signature may have any length here
  let signature ← Serde.field fieldNames doc "signature" Serde.bytes
  .ok { signature := signature }

def SignedCredential.fieldNames : List String := ["version", "credential", "proof"]

def SignedCredential.ofDocument (S : Suite) (doc : Json Number) : Except DeError SignedCredential := do
  Serde.checkStruct fieldNames doc
  let version ← Serde.field fieldNames doc "version" PendingIssuance.readVersion
  let credential ← Serde.field fieldNames doc "credential" (Credential.ofDocument S)
  let proof ← Serde.field fieldNames doc "proof" CredentialProof.ofDocument
  .ok { version := version, credential := credential, proof := proof }

def IssuanceRequest.fieldNames : List String := ["version", "blinded_message"]

def IssuanceRequest.ofDocument (doc : Json Number) : Except DeError IssuanceRequest := do
  Serde.checkStruct fieldNames doc
  let version ← Serde.field fieldNames doc "version" PendingIssuance.readVersion
  let blindedMessage ← Serde.field fieldNames doc "blinded_message" Serde.bytes
  .ok { version := version, blindedMessage := blindedMessage }

def IssuanceResponse.fieldNames : List String := ["version", "issuer_id", "info", "blind_signature"]

def IssuanceResponse.ofDocument (S : Suite) (doc : Json Number) : Except DeError IssuanceResponse := do
  Serde.checkStruct fieldNames doc
  let version ← Serde.field fieldNames doc "version" PendingIssuance.readVersion
  let issuerId ← Serde.field fieldNames doc "issuer_id" (PendingIssuance.readIssuerId S)
  let info ← Serde.field fieldNames doc "info" Serde.value
  let blindSignature ← Serde.field fieldNames doc "blind_signature" Serde.bytes
  .ok { version := version, issuerId := issuerId, info := info, blindSignature := blindSignature }

def HolderAuthorizationStatement.fieldNames : List String :=
  ["holder_id_pubkey", "subject_pubkey", "credential_digest", "issued_at"]

def HolderAuthorizationStatement.ofDocument (S : Suite) (doc : Json Number) :
    Except DeError HolderAuthorizationStatement := do
  Serde.checkStruct fieldNames doc
  let holderIdPubkey ← Serde.field fieldNames doc "holder_id_pubkey" (HolderId.ofDocument S)
  let subjectPubkey ← Serde.field fieldNames doc "subject_pubkey" (SubjectPubkey.ofDocument S)
  let credentialDigest ← Serde.field fieldNames doc "credential_digest" CredentialDigest.ofDocument
  let issuedAt ← Serde.field fieldNames doc "issued_at" Timestamp.ofDocument
  .ok
    { holderIdPubkey := holderIdPubkey
      subjectPubkey := subjectPubkey
      credentialDigest := credentialDigest
      issuedAt := issuedAt }

def HolderAuthorizationRequest.fieldNames : List String := ["subject_pubkey"]

def HolderAuthorizationRequest.ofDocument (S : Suite) (doc : Json Number) :
    Except DeError HolderAuthorizationRequest := do
  Serde.checkStruct fieldNames doc
  let subjectPubkey ← Serde.field fieldNames doc "subject_pubkey" (SubjectPubkey.ofDocument S)
  .ok { subjectPubkey := subjectPubkey }

def HolderAuthorization.fieldNames : List String := ["version", "authorization", "proof"]

def HolderAuthorization.ofDocument (S : Suite) (doc : Json Number) :
    Except DeError HolderAuthorization := do
  Serde.checkStruct fieldNames doc
  let version ← Serde.field fieldNames doc "version" PendingIssuance.readVersion
  let authorization ← Serde.field fieldNames doc "authorization"
    (HolderAuthorizationStatement.ofDocument S)
  let proof ← Serde.field fieldNames doc "proof" SchnorrSignatureProof.ofDocument
  .ok { version := version, authorization := authorization, proof := proof }

def IssuerSecretKeys.fieldNames : List String := ["issuer_id_secret_key", "issuance_secret_key"]

def IssuerSecretKeys.ofDocument (doc : Json Number) : Except DeError IssuerSecretKeys := do
  Serde.checkStruct fieldNames doc
  let issuerIdSecretKey ← Serde.field fieldNames doc "issuer_id_secret_key" Serde.string
  let issuanceSecretKey ← Serde.field fieldNames doc "issuance_secret_key" Serde.bytes
  .ok { issuerIdSecretKey := issuerIdSecretKey, issuanceSecretKey := issuanceSecretKey }

end PeerBadge
