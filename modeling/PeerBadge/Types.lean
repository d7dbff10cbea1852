import PeerBadge.Libraries
import PeerBadge.Outcome

/-! # Protocol types

The wire objects of the protocol with the JSON form of those that are signed or
hashed, and the error type every operation shares.
-/

namespace PeerBadge

/-- Protocol version marker. -/
inductive ProtocolV1 where
  | v1
deriving DecidableEq

/-- Issuer identifier: a Nostr public key. -/
structure IssuerId where
  key : NostrPublicKey
deriving DecidableEq

/-- Holder identifier: a Nostr public key. -/
structure HolderId where
  key : NostrPublicKey
deriving DecidableEq

/-- The auxiliary key a holder authorizes. -/
structure SubjectPubkey where
  key : NostrPublicKey
deriving DecidableEq

/-- Unix timestamp in seconds. -/
structure Timestamp where
  secs : UInt64
deriving DecidableEq

/-- SHA-256 digest of a finalized credential payload. -/
structure CredentialDigest where
  output : Sha256Output
deriving DecidableEq

structure SchnorrSignatureProof where
  signature : SchnorrSignature
deriving DecidableEq

/-! ## Issuer authorities -/

/-- Where issuer revocations may be published. -/
structure RevocationLocation where
  protocol : String
  location : String
deriving DecidableEq

/-- Issuer metadata signed by the issuer identity key. -/
structure Issuer (S : Suite) where
  issuerIdPubkey : IssuerId
  issuanceKey : S.PbrsaPublicKey
  revocation : List RevocationLocation

structure IssuerAuthority (S : Suite) where
  version : ProtocolV1
  issuer : Issuer S
  proof : SchnorrSignatureProof

/-! ## Revocations -/

structure Revocation where
  credentialDigest : CredentialDigest
deriving DecidableEq

structure RevocationProof where
  issuerIdPubkey : IssuerId
  signature : SchnorrSignature
deriving DecidableEq

structure SignedRevocation where
  version : ProtocolV1
  revocation : Revocation
  proof : RevocationProof
deriving DecidableEq

/-! ## Credentials -/

/-- The payload signed by the issuance key: `info` is seen by the issuer during
issuance, `blindMsg` is not. -/
structure Credential where
  issuerIdPubkey : IssuerId
  info : Value
  blindMsg : Value
deriving DecidableEq

structure CredentialProof where
  signature : Bytes
deriving DecidableEq

structure SignedCredential where
  version : ProtocolV1
  credential : Credential
  proof : CredentialProof
deriving DecidableEq

structure IssuanceRequest where
  version : ProtocolV1
  blindedMessage : Bytes
deriving DecidableEq

structure IssuanceResponse where
  version : ProtocolV1
  issuerId : IssuerId
  info : Value
  blindSignature : Bytes
deriving DecidableEq

/-! ## Holder authorizations -/

structure HolderAuthorizationRequest where
  subjectPubkey : SubjectPubkey
deriving DecidableEq

@[ext] structure HolderAuthorizationStatement where
  holderIdPubkey : HolderId
  subjectPubkey : SubjectPubkey
  credentialDigest : CredentialDigest
  issuedAt : Timestamp
deriving DecidableEq

structure HolderAuthorization where
  version : ProtocolV1
  authorization : HolderAuthorizationStatement
  proof : SchnorrSignatureProof
deriving DecidableEq

/-! ## Errors -/

/-- Error returned by protocol operations. -/
inductive CredentialsError (S : Suite) where
  | blindRsa (e : S.PbrsaError)
  | canonicalize (e : S.JsonError)
  | nostrKey (e : S.NostrError)
  | issuerIdMismatch
  | holderIdMismatch
  | infoMismatch
  | invalidPendingIssuanceState (message : String)
  | unknownIssuer
  | credentialRevoked
  | authorizationCredentialDigestMismatch
  | authorizationNotYetValid
  | verificationFailed

/-! ## JSON forms -/

/-- Unpadded URL-safe base64, the form of every byte field. -/
def base64UrlUnpadded (bytes : Bytes) : Value :=
  .string (String.ofList (Encoding.base64 bytes))

def ProtocolV1.toValue (_ : ProtocolV1) : Value := .number (.posInt 1)

def IssuerId.toValue (id : IssuerId) : Value := .string (nostrHex id.key)

def HolderId.toValue (id : HolderId) : Value := .string (nostrHex id.key)

def SubjectPubkey.toValue (subject : SubjectPubkey) : Value := .string (nostrHex subject.key)

def Timestamp.toValue (time : Timestamp) : Value := .number (.posInt time.secs)

def CredentialDigest.toValue (digest : CredentialDigest) : Value :=
  base64UrlUnpadded digest.output.toList

def RevocationLocation.toValue (location : RevocationLocation) : Value :=
  .object [("protocol", .string location.protocol), ("location", .string location.location)]

/-- Fails when the DER form of the issuance key does. -/
def Issuer.toValue {S : Suite} (issuer : Issuer S) : Except S.PbrsaError Value := do
  let der ← S.toDer issuer.issuanceKey
  .ok (.object
    [("issuer_id_pubkey", issuer.issuerIdPubkey.toValue),
      ("issuance_key", base64UrlUnpadded der),
      ("revocation", .array (issuer.revocation.map RevocationLocation.toValue))])

/-- The form of an issuer, given the DER form of its key. -/
theorem Issuer.toValue_eq_ok {S : Suite} {issuer : Issuer S} {v : Value} :
    issuer.toValue = .ok v ↔ ∃ der, S.toDer issuer.issuanceKey = .ok der ∧
      Value.object
        [("issuer_id_pubkey", issuer.issuerIdPubkey.toValue),
          ("issuance_key", base64UrlUnpadded der),
          ("revocation", .array (issuer.revocation.map RevocationLocation.toValue))] = v := by
  simp only [toValue, Outcome.bind_eq_ok, Except.ok.injEq]

def Revocation.toValue (revocation : Revocation) : Value :=
  .object [("credential_digest", revocation.credentialDigest.toValue)]

def Credential.toValue (credential : Credential) : Value :=
  .object
    [("issuer_id_pubkey", credential.issuerIdPubkey.toValue), ("info", credential.info),
      ("blind_msg", credential.blindMsg)]

def HolderAuthorizationStatement.toValue (statement : HolderAuthorizationStatement) : Value :=
  .object
    [("holder_id_pubkey", statement.holderIdPubkey.toValue),
      ("subject_pubkey", statement.subjectPubkey.toValue),
      ("credential_digest", statement.credentialDigest.toValue),
      ("issued_at", statement.issuedAt.toValue)]

/-! ## What RFC 8785 sees of them

Each form identifies what it was made from; the timestamp only as long as it is
exact as a double. -/

theorem base64UrlUnpadded_inj {a b : Bytes}
    (h : (base64UrlUnpadded a).rfc8785 = (base64UrlUnpadded b).rfc8785) : a = b := by
  have htext := Json.str.inj h
  exact Encoding.base64_injective (String.ofList_injective htext)

theorem IssuerId.toValue_inj {a b : IssuerId} (h : a.toValue.rfc8785 = b.toValue.rfc8785) :
    a = b :=
  congrArg IssuerId.mk (nostrHex_injective (Json.str.inj h))

theorem HolderId.toValue_inj {a b : HolderId} (h : a.toValue.rfc8785 = b.toValue.rfc8785) :
    a = b :=
  congrArg HolderId.mk (nostrHex_injective (Json.str.inj h))

theorem SubjectPubkey.toValue_inj {a b : SubjectPubkey}
    (h : a.toValue.rfc8785 = b.toValue.rfc8785) : a = b :=
  congrArg SubjectPubkey.mk (nostrHex_injective (Json.str.inj h))

theorem CredentialDigest.toValue_inj {a b : CredentialDigest}
    (h : a.toValue.rfc8785 = b.toValue.rfc8785) : a = b :=
  congrArg CredentialDigest.mk (Vector.toList_inj.mp (base64UrlUnpadded_inj h))

/-- Seconds a double holds exactly. -/
def Timestamp.Exact (time : Timestamp) : Prop := time.secs.toNat ≤ 2 ^ 53 - 1

theorem Timestamp.Exact.of_le {a b : Timestamp} (hb : b.Exact) (h : a.secs ≤ b.secs) : a.Exact :=
  Nat.le_trans (UInt64.le_iff_toNat_le.mp h) hb

theorem Timestamp.toValue_inj {a b : Timestamp} (ha : a.Exact) (hb : b.Exact)
    (h : a.toValue.rfc8785 = b.toValue.rfc8785) : a = b := by
  have hnum := Json.num.inj h
  unfold Exact at ha hb
  exact congrArg Timestamp.mk (Number.double_posInt_inj (by omega) (by omega) hnum)

/-- A time that is exact is written like no other time. -/
theorem Timestamp.toValue_inj_left {a b : Timestamp} (ha : a.Exact)
    (h : a.toValue.rfc8785 = b.toValue.rfc8785) : a = b := by
  have hbits := (Number.double_eq_iff.mp (Json.num.inj h)).1
  rw [(Number.toBinary64_posInt a.secs).2, (Number.toBinary64_posInt b.secs).2] at hbits
  unfold Exact at ha
  have hsecs := Binary64.roundMagnitude_natCast_inj_left (by omega) hbits
  exact congrArg Timestamp.mk (UInt64.toNat_inj.mp hsecs)

/-- The sorted members of each form. -/
theorem RevocationLocation.toValue_rfc8785 (location : RevocationLocation) :
    location.toValue.rfc8785 =
      .obj [("location", .str location.location), ("protocol", .str location.protocol)] := by
  simp only [toValue, Value.rfc8785_object, Value.rfc8785_string, List.map, Json.ofMembers,
    List.foldl, Json.insertMember, String.reduceLT, String.reduceEq, if_true, if_false]

theorem Revocation.toValue_rfc8785 (revocation : Revocation) :
    revocation.toValue.rfc8785 =
      .obj [("credential_digest", revocation.credentialDigest.toValue.rfc8785)] := by
  simp only [toValue, Value.rfc8785_object, List.map, Json.ofMembers, List.foldl,
    Json.insertMember]

theorem Credential.toValue_rfc8785 (credential : Credential) :
    credential.toValue.rfc8785 =
      .obj [("blind_msg", credential.blindMsg.rfc8785), ("info", credential.info.rfc8785),
        ("issuer_id_pubkey", credential.issuerIdPubkey.toValue.rfc8785)] := by
  simp only [toValue, Value.rfc8785_object, List.map, Json.ofMembers, List.foldl,
    Json.insertMember, String.reduceLT, String.reduceEq, if_true, if_false]

theorem HolderAuthorizationStatement.toValue_rfc8785 (statement : HolderAuthorizationStatement) :
    statement.toValue.rfc8785 =
      .obj [("credential_digest", statement.credentialDigest.toValue.rfc8785),
        ("holder_id_pubkey", statement.holderIdPubkey.toValue.rfc8785),
        ("issued_at", statement.issuedAt.toValue.rfc8785),
        ("subject_pubkey", statement.subjectPubkey.toValue.rfc8785)] := by
  simp only [toValue, Value.rfc8785_object, List.map, Json.ofMembers, List.foldl,
    Json.insertMember, String.reduceLT, String.reduceEq, if_true, if_false]

end PeerBadge
