import PeerBadge.Persistence
import PeerBadge.Wire

/-! # Transport

Every wire object is read back from the tree it is written as, field by field: keys,
digests, signatures and byte strings of any length. So an object that has been read can
be sent on any number of times, and checks of it give what they gave.
-/

namespace PeerBadge

variable {S : Suite} {fromDer : Bytes → Except S.PbrsaError S.PbrsaPublicKey}

/-! ## Fields -/

theorem readVersion_toValue (version : ProtocolV1) :
    PendingIssuance.readVersion version.toValue.tree = .ok version := by
  cases version
  decide

theorem readIssuerId_toValue (hkeys : S.KeyRoundTrip) (issuerId : IssuerId) :
    PendingIssuance.readIssuerId S issuerId.toValue.tree = .ok issuerId :=
  PendingIssuance.readIssuerId_document hkeys issuerId

theorem readNostrKey_hex (hkeys : S.KeyRoundTrip) (key : NostrPublicKey) :
    readNostrKey S (.str (nostrHex key)) = .ok key := by
  simp only [readNostrKey, Serde.string, Outcome.ok_bind, hkeys key]

theorem HolderId.ofDocument_toValue (hkeys : S.KeyRoundTrip) (id : HolderId) :
    ofDocument S id.toValue.tree = .ok id := by
  have hread : readNostrKey S id.toValue.tree = .ok id.key := readNostrKey_hex hkeys id.key
  rw [ofDocument, hread]
  rfl

theorem SubjectPubkey.ofDocument_toValue (hkeys : S.KeyRoundTrip) (subject : SubjectPubkey) :
    ofDocument S subject.toValue.tree = .ok subject := by
  have hread : readNostrKey S subject.toValue.tree = .ok subject.key :=
    readNostrKey_hex hkeys subject.key
  rw [ofDocument, hread]
  rfl

theorem bytes_base64UrlUnpadded (bytes : Bytes) :
    Serde.bytes (base64UrlUnpadded bytes).tree = .ok bytes :=
  Serde.bytes_base64 bytes

theorem readSignature_base64UrlUnpadded (signature : SchnorrSignature) :
    readSignature (base64UrlUnpadded signature.toList).tree = .ok signature :=
  Serde.byteVector_eq_ok.mpr (bytes_base64UrlUnpadded signature.toList)

theorem CredentialDigest.ofDocument_toValue (digest : CredentialDigest) :
    ofDocument digest.toValue.tree = .ok digest := by
  rw [ofDocument, toValue,
    Serde.byteVector_eq_ok.mpr (bytes_base64UrlUnpadded digest.output.toList)]
  rfl

theorem value_tree (v : Value) : Serde.value v.tree = .ok v := by
  rw [Serde.value, Value.ofDocument_tree]

theorem string_string (s : String) : Serde.string (Value.string s).tree = .ok s := rfl

/-! ## Structs -/

theorem SchnorrSignatureProof.ofDocument_toValue (proof : SchnorrSignatureProof) :
    ofDocument proof.toValue.tree = .ok proof := by
  simp (disch := simp) only [ofDocument, toValue, Serde.checkStruct_object, Outcome.ok_bind,
    Serde.field_object, List.lookup_cons, String.reduceBEq, readSignature_base64UrlUnpadded]

theorem RevocationLocation.ofDocument_toValue (location : RevocationLocation) :
    ofDocument location.toValue.tree = .ok location := by
  simp (disch := simp) only [ofDocument, toValue, Serde.checkStruct_object, Outcome.ok_bind,
    Serde.field_object, List.lookup_cons, String.reduceBEq, string_string]

theorem Issuer.ofDocument_toValue (hkeys : S.KeyRoundTrip) (hder : S.DerRoundTrip fromDer)
    {issuer : Issuer S} {v : Value} (h : issuer.toValue = .ok v) :
    ofDocument fromDer v.tree = .ok issuer := by
  rcases Issuer.toValue_eq_ok.mp h with ⟨der, hkey, rfl⟩
  have hread : readIssuanceKey fromDer (base64UrlUnpadded der).tree = .ok issuer.issuanceKey := by
    simp only [readIssuanceKey, bytes_base64UrlUnpadded, Outcome.ok_bind, hder _ der hkey]
  have hlocations := Serde.list_array RevocationLocation.ofDocument_toValue issuer.revocation
  simp (disch := simp) only [ofDocument, Serde.checkStruct_object, Outcome.ok_bind,
    Serde.field_object, List.lookup_cons, String.reduceBEq, readIssuerId_toValue hkeys, hread,
    hlocations]

theorem IssuerAuthority.toValue_eq_ok {authority : IssuerAuthority S} {v : Value} :
    authority.toValue = .ok v ↔ ∃ issuer, authority.issuer.toValue = .ok issuer ∧
      Value.object
        [("version", authority.version.toValue), ("issuer", issuer),
          ("proof", authority.proof.toValue)] = v := by
  simp only [toValue, Outcome.bind_eq_ok, Except.ok.injEq]

theorem IssuerAuthority.ofDocument_toValue (hkeys : S.KeyRoundTrip)
    (hder : S.DerRoundTrip fromDer) {authority : IssuerAuthority S} {v : Value}
    (h : authority.toValue = .ok v) : ofDocument fromDer v.tree = .ok authority := by
  rcases IssuerAuthority.toValue_eq_ok.mp h with ⟨issuer, hissuer, rfl⟩
  simp (disch := simp) only [ofDocument, Serde.checkStruct_object, Outcome.ok_bind,
    Serde.field_object, List.lookup_cons, String.reduceBEq, readVersion_toValue,
    Issuer.ofDocument_toValue hkeys hder hissuer, SchnorrSignatureProof.ofDocument_toValue]

theorem Revocation.ofDocument_toValue (revocation : Revocation) :
    ofDocument revocation.toValue.tree = .ok revocation := by
  simp (disch := simp) only [ofDocument, toValue, Serde.checkStruct_object, Outcome.ok_bind,
    Serde.field_object, List.lookup_cons, String.reduceBEq, CredentialDigest.ofDocument_toValue]

theorem RevocationProof.ofDocument_toValue (hkeys : S.KeyRoundTrip) (proof : RevocationProof) :
    ofDocument S proof.toValue.tree = .ok proof := by
  simp (disch := simp) only [ofDocument, toValue, Serde.checkStruct_object, Outcome.ok_bind,
    Serde.field_object, List.lookup_cons, String.reduceBEq, readIssuerId_toValue hkeys,
    readSignature_base64UrlUnpadded]

theorem SignedRevocation.ofDocument_toValue (hkeys : S.KeyRoundTrip)
    (signedRevocation : SignedRevocation) :
    ofDocument S signedRevocation.toValue.tree = .ok signedRevocation := by
  simp (disch := simp) only [ofDocument, toValue, Serde.checkStruct_object, Outcome.ok_bind,
    Serde.field_object, List.lookup_cons, String.reduceBEq, readVersion_toValue,
    Revocation.ofDocument_toValue, RevocationProof.ofDocument_toValue hkeys]

theorem Credential.ofDocument_toValue (hkeys : S.KeyRoundTrip) (credential : Credential) :
    ofDocument S credential.toValue.tree = .ok credential := by
  simp (disch := simp) only [ofDocument, toValue, Serde.checkStruct_object, Outcome.ok_bind,
    Serde.field_object, List.lookup_cons, String.reduceBEq, readIssuerId_toValue hkeys, value_tree]

theorem CredentialProof.ofDocument_toValue (proof : CredentialProof) :
    ofDocument proof.toValue.tree = .ok proof := by
  simp (disch := simp) only [ofDocument, toValue, Serde.checkStruct_object, Outcome.ok_bind,
    Serde.field_object, List.lookup_cons, String.reduceBEq, bytes_base64UrlUnpadded]

theorem SignedCredential.ofDocument_toValue (hkeys : S.KeyRoundTrip)
    (credential : SignedCredential) :
    ofDocument S credential.toValue.tree = .ok credential := by
  simp (disch := simp) only [ofDocument, toValue, Serde.checkStruct_object, Outcome.ok_bind,
    Serde.field_object, List.lookup_cons, String.reduceBEq, readVersion_toValue,
    Credential.ofDocument_toValue hkeys, CredentialProof.ofDocument_toValue]

theorem IssuanceRequest.ofDocument_toValue (request : IssuanceRequest) :
    ofDocument request.toValue.tree = .ok request := by
  simp (disch := simp) only [ofDocument, toValue, Serde.checkStruct_object, Outcome.ok_bind,
    Serde.field_object, List.lookup_cons, String.reduceBEq, readVersion_toValue,
    bytes_base64UrlUnpadded]

theorem IssuanceResponse.ofDocument_toValue (hkeys : S.KeyRoundTrip)
    (response : IssuanceResponse) :
    ofDocument S response.toValue.tree = .ok response := by
  simp (disch := simp) only [ofDocument, toValue, Serde.checkStruct_object, Outcome.ok_bind,
    Serde.field_object, List.lookup_cons, String.reduceBEq, readVersion_toValue,
    readIssuerId_toValue hkeys, value_tree, bytes_base64UrlUnpadded]

theorem HolderAuthorizationStatement.ofDocument_toValue (hkeys : S.KeyRoundTrip)
    (statement : HolderAuthorizationStatement) :
    ofDocument S statement.toValue.tree = .ok statement := by
  have htime : Timestamp.ofDocument statement.issuedAt.toValue.tree = .ok statement.issuedAt := rfl
  simp (disch := simp) only [ofDocument, toValue, Serde.checkStruct_object, Outcome.ok_bind,
    Serde.field_object, List.lookup_cons, String.reduceBEq, HolderId.ofDocument_toValue hkeys,
    SubjectPubkey.ofDocument_toValue hkeys, CredentialDigest.ofDocument_toValue, htime]

theorem HolderAuthorizationRequest.ofDocument_toValue (hkeys : S.KeyRoundTrip)
    (request : HolderAuthorizationRequest) :
    ofDocument S request.toValue.tree = .ok request := by
  simp (disch := simp) only [ofDocument, toValue, Serde.checkStruct_object, Outcome.ok_bind,
    Serde.field_object, List.lookup_cons, String.reduceBEq, SubjectPubkey.ofDocument_toValue hkeys]

theorem HolderAuthorization.ofDocument_toValue (hkeys : S.KeyRoundTrip)
    (authorization : HolderAuthorization) :
    ofDocument S authorization.toValue.tree = .ok authorization := by
  simp (disch := simp) only [ofDocument, toValue, Serde.checkStruct_object, Outcome.ok_bind,
    Serde.field_object, List.lookup_cons, String.reduceBEq, readVersion_toValue,
    HolderAuthorizationStatement.ofDocument_toValue hkeys, SchnorrSignatureProof.ofDocument_toValue]

theorem IssuerSecretKeys.ofDocument_toValue (keys : IssuerSecretKeys) :
    ofDocument keys.toValue.tree = .ok keys := by
  simp (disch := simp) only [ofDocument, toValue, Serde.checkStruct_object, Outcome.ok_bind,
    Serde.field_object, List.lookup_cons, String.reduceBEq, string_string, bytes_base64UrlUnpadded]

/-! ## What is accepted -/

/-- The version is the integer `1`. -/
def Versioned (fields : List String) (doc : Json Number) : Prop :=
  Serde.FieldIs fields doc "version" (· = .num (.posInt 1))

/-- A Schnorr signature in a field, 64 bytes. -/
def Signed64 (fields : List String) (doc : Json Number) : Prop :=
  Serde.FieldIs fields doc "signature" (Serde.Base64Of 64)

/-- A credential digest in a field, 32 bytes. -/
def Digest32 (fields : List String) (doc : Json Number) : Prop :=
  Serde.FieldIs fields doc "credential_digest" (Serde.Base64Of 32)

theorem eq_one_of_readVersion {doc : Json Number} {version : ProtocolV1}
    (h : PendingIssuance.readVersion doc = .ok version) : doc = .num (.posInt 1) := by
  rcases Outcome.bind_eq_ok.mp h with ⟨n, hn, hversion⟩
  split at hversion
  · rename_i hone
    rcases Serde.u16_eq_ok.mp hn with ⟨m, rfl, hm⟩
    rw [hone] at hm
    rw [UInt64.toNat_inj.mp (hm.trans rfl : m.toNat = (1 : UInt64).toNat)]
  · cases hversion

theorem versioned_of_field {fields : List String} {doc : Json Number} {version : ProtocolV1}
    (h : Serde.field fields doc "version" PendingIssuance.readVersion = .ok version) :
    Versioned fields doc :=
  Serde.fieldIs_of_field h fun _ => eq_one_of_readVersion

theorem SchnorrSignatureProof.signed_of_ofDocument {doc : Json Number}
    {proof : SchnorrSignatureProof} (h : ofDocument doc = .ok proof) : Signed64 fieldNames doc := by
  simp only [ofDocument, Outcome.bind_eq_ok] at h
  rcases h with ⟨_, -, signature, hsignature, -⟩
  exact Serde.fieldIs_of_field hsignature fun _ => Serde.base64Of_byteVector

theorem RevocationProof.signed_of_ofDocument {doc : Json Number} {proof : RevocationProof}
    (h : ofDocument S doc = .ok proof) : Signed64 fieldNames doc := by
  simp only [ofDocument, Outcome.bind_eq_ok] at h
  rcases h with ⟨_, -, _, -, signature, hsignature, -⟩
  exact Serde.fieldIs_of_field hsignature fun _ => Serde.base64Of_byteVector

theorem CredentialDigest.base64Of_ofDocument {doc : Json Number} {digest : CredentialDigest}
    (h : ofDocument doc = .ok digest) : Serde.Base64Of 32 doc := by
  rcases Outcome.map_eq_ok.mp h with ⟨output, houtput, -⟩
  exact Serde.base64Of_byteVector houtput

theorem Revocation.digest_of_ofDocument {doc : Json Number} {revocation : Revocation}
    (h : ofDocument doc = .ok revocation) : Digest32 fieldNames doc := by
  simp only [ofDocument, Outcome.bind_eq_ok] at h
  rcases h with ⟨_, -, digest, hdigest, -⟩
  exact Serde.fieldIs_of_field hdigest fun _ => CredentialDigest.base64Of_ofDocument

theorem HolderAuthorizationStatement.digest_of_ofDocument {doc : Json Number}
    {statement : HolderAuthorizationStatement} (h : ofDocument S doc = .ok statement) :
    Digest32 fieldNames doc := by
  simp only [ofDocument, Outcome.bind_eq_ok] at h
  rcases h with ⟨_, -, _, -, _, -, digest, hdigest, -⟩
  exact Serde.fieldIs_of_field hdigest fun _ => CredentialDigest.base64Of_ofDocument

theorem fromDer_of_readIssuanceKey {doc : Json Number} {key : S.PbrsaPublicKey}
    (h : readIssuanceKey fromDer doc = .ok key) : ∃ der, fromDer der = .ok key := by
  rcases Outcome.bind_eq_ok.mp h with ⟨der, -, hder⟩
  split at hder
  · rename_i hfrom
    cases hder
    exact ⟨der, hfrom⟩
  · cases hder

/-- A decoded issuer has a form: its key came out of one. -/
theorem Issuer.exists_toValue (hexports : S.DerExports fromDer) {doc : Json Number}
    {issuer : Issuer S} (h : ofDocument fromDer doc = .ok issuer) :
    ∃ v, issuer.toValue = .ok v := by
  simp only [ofDocument, Outcome.bind_eq_ok, Serde.field_eq_ok] at h
  rcases h with ⟨_, -, _, -, key, ⟨_, -, hkey⟩, _, -, hissuer⟩
  rcases fromDer_of_readIssuanceKey hkey with ⟨der, hder⟩
  rcases hexports der key hder with ⟨der', hder'⟩
  cases hissuer
  exact ⟨_, Issuer.toValue_eq_ok.mpr ⟨der', hder', rfl⟩⟩

theorem IssuerAuthority.exists_toValue (hexports : S.DerExports fromDer) {doc : Json Number}
    {authority : IssuerAuthority S} (h : ofDocument fromDer doc = .ok authority) :
    ∃ v, authority.toValue = .ok v := by
  simp only [ofDocument, Outcome.bind_eq_ok, Serde.field_eq_ok] at h
  rcases h with ⟨_, -, _, -, issuer, ⟨_, -, hissuer⟩, _, -, hauthority⟩
  rcases Issuer.exists_toValue hexports hissuer with ⟨v, hv⟩
  cases hauthority
  exact ⟨_, IssuerAuthority.toValue_eq_ok.mpr ⟨v, hv, rfl⟩⟩

/-! ## All wire objects -/

/-- What is written of the seven kinds is read back, and what is read can be written. -/
structure WireTransports (S : Suite) (fromDer : Bytes → Except S.PbrsaError S.PbrsaPublicKey) :
    Prop where
  issuerAuthority :
    Serde.Transports (IssuerAuthority.toValue (S := S)) (IssuerAuthority.ofDocument fromDer)
  issuanceRequest :
    Serde.Transports (Serde.infallible IssuanceRequest.toValue) IssuanceRequest.ofDocument
  issuanceResponse :
    Serde.Transports (Serde.infallible IssuanceResponse.toValue) (IssuanceResponse.ofDocument S)
  signedCredential :
    Serde.Transports (Serde.infallible SignedCredential.toValue) (SignedCredential.ofDocument S)
  signedRevocation :
    Serde.Transports (Serde.infallible SignedRevocation.toValue) (SignedRevocation.ofDocument S)
  holderAuthorization :
    Serde.Transports (Serde.infallible HolderAuthorization.toValue)
      (HolderAuthorization.ofDocument S)
  issuerSecretKeys :
    Serde.Transports (Serde.infallible IssuerSecretKeys.toValue) IssuerSecretKeys.ofDocument

/-- What a document of a versioned kind has to look like. -/
structure WireWellFormed (S : Suite) (fromDer : Bytes → Except S.PbrsaError S.PbrsaPublicKey) :
    Prop where
  issuerAuthority : ∀ doc authority, IssuerAuthority.ofDocument fromDer doc = .ok authority →
    Versioned IssuerAuthority.fieldNames doc ∧
      Serde.FieldIs IssuerAuthority.fieldNames doc "proof" (Signed64 SchnorrSignatureProof.fieldNames)
  issuanceRequest : ∀ doc request, IssuanceRequest.ofDocument doc = .ok request →
    Versioned IssuanceRequest.fieldNames doc
  issuanceResponse : ∀ doc response, IssuanceResponse.ofDocument S doc = .ok response →
    Versioned IssuanceResponse.fieldNames doc
  signedCredential : ∀ doc credential, SignedCredential.ofDocument S doc = .ok credential →
    Versioned SignedCredential.fieldNames doc
  signedRevocation : ∀ doc signedRevocation,
    SignedRevocation.ofDocument S doc = .ok signedRevocation →
    Versioned SignedRevocation.fieldNames doc ∧
      Serde.FieldIs SignedRevocation.fieldNames doc "revocation" (Digest32 Revocation.fieldNames) ∧
      Serde.FieldIs SignedRevocation.fieldNames doc "proof" (Signed64 RevocationProof.fieldNames)
  holderAuthorization : ∀ doc authorization,
    HolderAuthorization.ofDocument S doc = .ok authorization →
    Versioned HolderAuthorization.fieldNames doc ∧
      Serde.FieldIs HolderAuthorization.fieldNames doc "authorization"
        (Digest32 HolderAuthorizationStatement.fieldNames) ∧
      Serde.FieldIs HolderAuthorization.fieldNames doc "proof"
        (Signed64 SchnorrSignatureProof.fieldNames)

/-- Writers and readers of the seven kinds fit. -/
theorem wireTransports (hkeys : S.KeyRoundTrip) (hder : S.DerRoundTrip fromDer)
    (hexports : S.DerExports fromDer) : WireTransports S fromDer where
  issuerAuthority :=
    { read_write := fun _ _ => IssuerAuthority.ofDocument_toValue hkeys hder
      rewrites := fun _ _ => IssuerAuthority.exists_toValue hexports }
  issuanceRequest := Serde.transports_infallible IssuanceRequest.ofDocument_toValue
  issuanceResponse := Serde.transports_infallible (IssuanceResponse.ofDocument_toValue hkeys)
  signedCredential := Serde.transports_infallible (SignedCredential.ofDocument_toValue hkeys)
  signedRevocation := Serde.transports_infallible (SignedRevocation.ofDocument_toValue hkeys)
  holderAuthorization := Serde.transports_infallible (HolderAuthorization.ofDocument_toValue hkeys)
  issuerSecretKeys := Serde.transports_infallible IssuerSecretKeys.ofDocument_toValue

/-- Every reader checks the version, and the lengths of digests and signatures. -/
theorem wireWellFormed (fromDer : Bytes → Except S.PbrsaError S.PbrsaPublicKey) :
    WireWellFormed S fromDer := by
  constructor
  case issuerAuthority =>
    intro doc authority h
    simp only [IssuerAuthority.ofDocument, Outcome.bind_eq_ok] at h
    rcases h with ⟨_, -, _, hversion, _, -, _, hproof, -⟩
    exact ⟨versioned_of_field hversion,
      Serde.fieldIs_of_field hproof fun _ => SchnorrSignatureProof.signed_of_ofDocument⟩
  case issuanceRequest =>
    intro doc request h
    simp only [IssuanceRequest.ofDocument, Outcome.bind_eq_ok] at h
    rcases h with ⟨_, -, _, hversion, -⟩
    exact versioned_of_field hversion
  case issuanceResponse =>
    intro doc response h
    simp only [IssuanceResponse.ofDocument, Outcome.bind_eq_ok] at h
    rcases h with ⟨_, -, _, hversion, -⟩
    exact versioned_of_field hversion
  case signedCredential =>
    intro doc credential h
    simp only [SignedCredential.ofDocument, Outcome.bind_eq_ok] at h
    rcases h with ⟨_, -, _, hversion, -⟩
    exact versioned_of_field hversion
  case signedRevocation =>
    intro doc signedRevocation h
    simp only [SignedRevocation.ofDocument, Outcome.bind_eq_ok] at h
    rcases h with ⟨_, -, _, hversion, _, hrevocation, _, hproof, -⟩
    exact ⟨versioned_of_field hversion,
      Serde.fieldIs_of_field hrevocation fun _ => Revocation.digest_of_ofDocument,
      Serde.fieldIs_of_field hproof fun _ => RevocationProof.signed_of_ofDocument⟩
  case holderAuthorization =>
    intro doc authorization h
    simp only [HolderAuthorization.ofDocument, Outcome.bind_eq_ok] at h
    rcases h with ⟨_, -, _, hversion, _, hstatement, _, hproof, -⟩
    exact ⟨versioned_of_field hversion,
      Serde.fieldIs_of_field hstatement fun _ => HolderAuthorizationStatement.digest_of_ofDocument,
      Serde.fieldIs_of_field hproof fun _ => SchnorrSignatureProof.signed_of_ofDocument⟩

/-- What is read has the shape of its struct. -/
structure WireShaped (S : Suite) (fromDer : Bytes → Except S.PbrsaError S.PbrsaPublicKey) :
    Prop where
  issuerAuthority :
    Serde.ReadsStruct IssuerAuthority.fieldNames (IssuerAuthority.ofDocument fromDer)
  issuanceRequest : Serde.ReadsStruct IssuanceRequest.fieldNames IssuanceRequest.ofDocument
  issuanceResponse : Serde.ReadsStruct IssuanceResponse.fieldNames (IssuanceResponse.ofDocument S)
  signedCredential : Serde.ReadsStruct SignedCredential.fieldNames (SignedCredential.ofDocument S)
  signedRevocation : Serde.ReadsStruct SignedRevocation.fieldNames (SignedRevocation.ofDocument S)
  holderAuthorizationRequest :
    Serde.ReadsStruct HolderAuthorizationRequest.fieldNames
      (HolderAuthorizationRequest.ofDocument S)
  holderAuthorization :
    Serde.ReadsStruct HolderAuthorization.fieldNames (HolderAuthorization.ofDocument S)
  issuerSecretKeys : Serde.ReadsStruct IssuerSecretKeys.fieldNames IssuerSecretKeys.ofDocument

/-- No wire object is read from a repeated field, from surplus elements or from no struct. -/
theorem wireShaped (fromDer : Bytes → Except S.PbrsaError S.PbrsaPublicKey) :
    WireShaped S fromDer where
  issuerAuthority := Serde.readsStruct_checkStruct _ _
  issuanceRequest := Serde.readsStruct_checkStruct _ _
  issuanceResponse := Serde.readsStruct_checkStruct _ _
  signedCredential := Serde.readsStruct_checkStruct _ _
  signedRevocation := Serde.readsStruct_checkStruct _ _
  holderAuthorizationRequest := Serde.readsStruct_checkStruct _ _
  holderAuthorization := Serde.readsStruct_checkStruct _ _
  issuerSecretKeys := Serde.readsStruct_checkStruct _ _

/-- Checks and digests of what is read do not change on any number of hops. -/
structure WireChecksKept (S : Suite) (fromDer : Bytes → Except S.PbrsaError S.PbrsaPublicKey) :
    Prop where
  issuerAuthority : ∀ doc authority n, IssuerAuthority.ofDocument fromDer doc = .ok authority →
    ∃ doc' authority',
      Serde.hops IssuerAuthority.toValue (IssuerAuthority.ofDocument fromDer) n doc = some doc' ∧
      IssuerAuthority.ofDocument fromDer doc' = .ok authority' ∧
      authority'.verify = authority.verify ∧ authority'.issuer.digest = authority.issuer.digest
  signedRevocation : ∀ doc signedRevocation n,
    SignedRevocation.ofDocument S doc = .ok signedRevocation →
    ∃ doc' signedRevocation',
      Serde.hops (Serde.infallible SignedRevocation.toValue) (SignedRevocation.ofDocument S) n doc
        = some doc' ∧
      SignedRevocation.ofDocument S doc' = .ok signedRevocation' ∧
      signedRevocation'.verify S = signedRevocation.verify S ∧
      signedRevocation'.revocation.digest S = signedRevocation.revocation.digest S
  holderAuthorization : ∀ doc authorization n,
    HolderAuthorization.ofDocument S doc = .ok authorization →
    ∃ doc' authorization',
      Serde.hops (Serde.infallible HolderAuthorization.toValue) (HolderAuthorization.ofDocument S) n
        doc = some doc' ∧
      HolderAuthorization.ofDocument S doc' = .ok authorization' ∧
      authorization'.verify S = authorization.verify S ∧
      authorization'.authorization.digest S = authorization.authorization.digest S
  signedCredential : ∀ doc credential n, SignedCredential.ofDocument S doc = .ok credential →
    ∃ doc' credential',
      Serde.hops (Serde.infallible SignedCredential.toValue) (SignedCredential.ofDocument S) n doc
        = some doc' ∧
      SignedCredential.ofDocument S doc' = .ok credential' ∧
      credential'.credential.digest S = credential.credential.digest S

/-- What is read back as it was is checked as it was. -/
theorem WireTransports.checksKept (h : WireTransports S fromDer) : WireChecksKept S fromDer := by
  constructor
  case issuerAuthority =>
    intro doc authority n hread
    rcases h.issuerAuthority.read_hops hread n with ⟨doc', hhops, hread'⟩
    exact ⟨doc', authority, hhops, hread', rfl, rfl⟩
  case signedRevocation =>
    intro doc signedRevocation n hread
    rcases h.signedRevocation.read_hops hread n with ⟨doc', hhops, hread'⟩
    exact ⟨doc', signedRevocation, hhops, hread', rfl, rfl⟩
  case holderAuthorization =>
    intro doc authorization n hread
    rcases h.holderAuthorization.read_hops hread n with ⟨doc', hhops, hread'⟩
    exact ⟨doc', authorization, hhops, hread', rfl, rfl⟩
  case signedCredential =>
    intro doc credential n hread
    rcases h.signedCredential.read_hops hread n with ⟨doc', hhops, hread'⟩
    exact ⟨doc', credential, hhops, hread', rfl⟩

/-- Wire objects survive transport: what is written is read back, what is read has the
version and the lengths it must have, and any number of hops changes no check of it. -/
theorem wire_survives_transport (hkeys : S.KeyRoundTrip) (hder : S.DerRoundTrip fromDer)
    (hexports : S.DerExports fromDer) :
    WireTransports S fromDer ∧ WireWellFormed S fromDer ∧ WireChecksKept S fromDer := by
  have htransports := wireTransports hkeys hder hexports
  exact ⟨htransports, wireWellFormed fromDer, htransports.checksKept⟩

/-- The authority of the reference issuer, with a relay, on its way to a verifier. -/
theorem wire_survives_transport_authority :
    ∃ authority v, Reference.issuer.issuerAuthority [⟨"nostr", "wss://relay.example.com"⟩] ()
        = .ok authority ∧
      authority.toValue = .ok v ∧
      IssuerAuthority.ofDocument Reference.fromDer v.tree = .ok authority := by
  rcases Reference.exists_authority [⟨"nostr", "wss://relay.example.com"⟩] with
    ⟨authority, hauthority⟩
  rcases IssuerContext.issuerAuthority_eq_ok.mp hauthority with ⟨digest, -, rfl⟩
  refine ⟨_, _, hauthority, rfl, ?_⟩
  exact (wire_survives_transport Reference.keyRoundTrip Reference.derRoundTrip
    Reference.derExports).1.issuerAuthority.read_write _ _ rfl

end PeerBadge
