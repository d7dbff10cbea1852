import PeerBadge.Verifier

/-! # The holder

A holder asks for a blind signature, keeps what it needs to unblind the answer, and
turns the answer into a credential; the state kept in between can be exported to a
string and imported again. A holder also signs authorizations for keys that may
present its credentials.
-/

namespace PeerBadge

variable {S : Suite}

/-! ## Authorizing -/

/-- Holder identity keys. -/
structure HolderContext (S : Suite) where
  identityKeys : S.Keys

namespace HolderContext

def holderId (context : HolderContext S) : HolderId := ⟨S.publicKey context.identityKeys⟩

end HolderContext

/-- The statement to sign for a request. -/
def HolderAuthorizationRequest.intoStatement (S : Suite) (request : HolderAuthorizationRequest)
    (holderIdPubkey : HolderId) (issuedAt : Timestamp) (credential : SignedCredential) :
    Except (CredentialsError S) HolderAuthorizationStatement := do
  let digest ← credential.credential.digest S
  .ok
    { holderIdPubkey := holderIdPubkey
      subjectPubkey := request.subjectPubkey
      credentialDigest := ⟨digest⟩
      issuedAt := issuedAt }

/-- Create a signed authorization with a given issuance time. -/
def HolderContext.authorizeCredentialUseAtTime (context : HolderContext S)
    (request : HolderAuthorizationRequest) (credential : SignedCredential) (issuedAt : Timestamp)
    (rng : S.NostrRng) : Except (CredentialsError S) HolderAuthorization := do
  -- only the holder a credential is bound to can authorize its use
  let holderId ← credentialHolderId S credential
  if holderId ≠ context.holderId then .error .holderIdMismatch
  else do
    let authorization ← request.intoStatement S context.holderId issuedAt credential
    let digest ← authorization.digest S
    .ok
      { version := .v1
        authorization := authorization
        proof := { signature := S.signSchnorr context.identityKeys digest rng } }

/-! ## Pending issuance -/

inductive PendingIssuanceStep where
  | waitingForIssuerResponse
deriving DecidableEq

/-- Holder-side pending issuance state. -/
structure PendingIssuance where
  version : ProtocolV1
  step : PendingIssuanceStep
  issuerId : IssuerId
  info : Value
  blindMsg : Value
  blindMessage : Bytes
  secret : Bytes
  msgRandomizer : Option Bytes
deriving DecidableEq

namespace PendingIssuance

/-- Create a holder issuance request and the local pending state. -/
def createRequest (issuerPublicKey : S.PbrsaPublicKey) (issuerId : IssuerId) (info : Value)
    (blindMsg : Value) (rng : S.PbrsaRng) :
    Except (CredentialsError S) (IssuanceRequest × PendingIssuance) := do
  let metadata ← (canonicalizePbrsaInfo S .v1 issuerId info).mapError .canonicalize
  let message ← (canonicalizePbrsaBlindMsg S .v1 blindMsg).mapError .canonicalize
  let publicKey ← (S.derivePublicKeyForMetadata issuerPublicKey metadata).mapError .blindRsa
  let blindingResult ← (S.blind publicKey rng message (some metadata)).mapError .blindRsa
  .ok
    ({ version := .v1
       blindedMessage := blindingResult.blindMessage },
     { version := .v1
       step := .waitingForIssuerResponse
       issuerId := issuerId
       info := info
       blindMsg := blindMsg
       blindMessage := blindingResult.blindMessage
       secret := blindingResult.secret
       msgRandomizer := blindingResult.msgRandomizer.map Vector.toList })

/-- The blinding result the state was made from. -/
def blindingResult (S : Suite) (pending : PendingIssuance) :
    Except (CredentialsError S) BlindingResult :=
  match pending.msgRandomizer with
  | none => .ok ⟨pending.blindMessage, pending.secret, none⟩
  | some msgRandomizer =>
      -- an imported state may have any length here
      if h : msgRandomizer.length = 32 then
        .ok ⟨pending.blindMessage, pending.secret, some ⟨msgRandomizer.toArray, h⟩⟩
      else
        .error (.invalidPendingIssuanceState
          ("message randomizer must be 32 bytes, got " ++ toString msgRandomizer.length))

/-- Finalize an issuer response into a holder credential. -/
def finalize (pending : PendingIssuance) (issuerPublicKey : S.PbrsaPublicKey)
    (response : IssuanceResponse) : Except (CredentialsError S) SignedCredential :=
  if response.issuerId ≠ pending.issuerId then .error .issuerIdMismatch
  -- a comparison of values, not of canonical forms
  else if !response.info.eq pending.info then .error .infoMismatch
  else do
    let metadata ← (canonicalizePbrsaInfo S .v1 pending.issuerId pending.info).mapError
      .canonicalize
    let message ← (canonicalizePbrsaBlindMsg S .v1 pending.blindMsg).mapError .canonicalize
    let publicKey ← (S.derivePublicKeyForMetadata issuerPublicKey metadata).mapError .blindRsa
    let blindingResult ← pending.blindingResult S
    let signature ← (S.finalize publicKey response.blindSignature blindingResult message
      (some metadata)).mapError .blindRsa
    -- everything but the signature is the holder's own
    let credential : SignedCredential :=
      { version := .v1
        credential :=
          { issuerIdPubkey := pending.issuerId
            info := pending.info
            blindMsg := pending.blindMsg }
        proof := { signature := signature } }
    verifyCredentialWithKey issuerPublicKey credential
    .ok credential

/-- The middle of `finalize` of the JavaScript binding, after its arguments were read and
before the credential is written: the key comes from an authority, whose issuer must be
the one of the response. -/
def finalizeWasm (pending : PendingIssuance) (issuerAuthority : IssuerAuthority S)
    (response : IssuanceResponse) : Except (CredentialsError S) SignedCredential :=
  if issuerAuthority.issuer.issuerIdPubkey ≠ response.issuerId then .error .issuerIdMismatch
  else pending.finalize issuerAuthority.issuer.issuanceKey response

/-! ## Export and import -/

def fieldNames : List String :=
  ["version", "step", "issuer_id", "info", "blind_msg", "blind_message", "secret",
    "msg_randomizer"]

def stepName : String := "waiting_for_issuer_response"

def base64Document (bytes : Bytes) : Json Number := .str (String.ofList (Encoding.base64 bytes))

/-- The document a state serializes as, members in field order. -/
def toDocument (pending : PendingIssuance) : Json Number :=
  .obj
    [("version", .num (.posInt 1)), ("step", .str stepName),
      ("issuer_id", .str (nostrHex pending.issuerId.key)), ("info", pending.info.tree),
      ("blind_msg", pending.blindMsg.tree),
      ("blind_message", base64Document pending.blindMessage),
      ("secret", base64Document pending.secret),
      ("msg_randomizer", (pending.msgRandomizer.map base64Document).getD .null)]

def readVersion (doc : Json Number) : Except DeError ProtocolV1 := do
  let version ← Serde.u16 doc
  if version = 1 then .ok .v1
  else .error (.custom ("unsupported protocol version: " ++ toString version))

def readStep (doc : Json Number) : Except DeError PendingIssuanceStep := do
  let variant ← Serde.unitVariant doc
  if variant = stepName then .ok .waitingForIssuerResponse else .error (.unknownVariant variant)

def readIssuerId (S : Suite) (doc : Json Number) : Except DeError IssuerId := do
  let text ← Serde.string doc
  match S.deserializePublicKey text with
  | .ok key => .ok ⟨key⟩
  | .error _ => .error (.custom "invalid public key")

/-- The randomizer may be `null`, and it may be missing. -/
def readMsgRandomizer : Option (Json Number) → Except DeError (Option Bytes)
  | none => .ok none
  | some doc => Serde.option Serde.bytes doc

/-- The state a document denotes. -/
def ofDocument (S : Suite) (doc : Json Number) : Except DeError PendingIssuance := do
  let field ← Serde.structFields fieldNames doc
  let version ← Serde.required field "version" >>= readVersion
  let step ← Serde.required field "step" >>= readStep
  let issuerId ← Serde.required field "issuer_id" >>= readIssuerId S
  let info ← Serde.required field "info"
  let blindMsg ← Serde.required field "blind_msg"
  let blindMessage ← Serde.required field "blind_message" >>= Serde.bytes
  let secret ← Serde.required field "secret" >>= Serde.bytes
  let msgRandomizer ← readMsgRandomizer (field "msg_randomizer")
  .ok
    { version := version
      step := step
      issuerId := issuerId
      info := .ofDocument info
      blindMsg := .ofDocument blindMsg
      blindMessage := blindMessage
      secret := secret
      msgRandomizer := msgRandomizer }

/-- Export app-storable pending issuance state. -/
def exportState (S : Suite) (pending : PendingIssuance) : Except (CredentialsError S) String :=
  (S.toString pending.toDocument).mapError .canonicalize

/-- Import app-stored pending issuance state. -/
def importState (S : Suite) (state : String) : Except (CredentialsError S) PendingIssuance :=
  match S.fromStr state with
  | .error e => .error (.invalidPendingIssuanceState (S.jsonErrorText e))
  | .ok doc =>
      match ofDocument S doc with
      | .error e => .error (.invalidPendingIssuanceState (S.deErrorText state e))
      | .ok pending => .ok pending

/-! ## What the operations return -/

/-- The state a request leaves behind. -/
def ofBlinding (issuerId : IssuerId) (info blindMsg : Value) (result : BlindingResult) :
    PendingIssuance where
  version := .v1
  step := .waitingForIssuerResponse
  issuerId := issuerId
  info := info
  blindMsg := blindMsg
  blindMessage := result.blindMessage
  secret := result.secret
  msgRandomizer := result.msgRandomizer.map Vector.toList

/-- The credential a state turns into with a signature. -/
def toCredential (pending : PendingIssuance) (signature : Bytes) : SignedCredential where
  version := .v1
  credential := ⟨pending.issuerId, pending.info, pending.blindMsg⟩
  proof := ⟨signature⟩

theorem createRequest_eq_ok {issuerPublicKey : S.PbrsaPublicKey} {issuerId : IssuerId}
    {info blindMsg : Value} {rng : S.PbrsaRng} {request : IssuanceRequest}
    {pending : PendingIssuance} :
    createRequest issuerPublicKey issuerId info blindMsg rng = .ok (request, pending) ↔
      ∃ metadata message publicKey result,
        canonicalizePbrsaInfo S .v1 issuerId info = .ok metadata ∧
        canonicalizePbrsaBlindMsg S .v1 blindMsg = .ok message ∧
        S.derivePublicKeyForMetadata issuerPublicKey metadata = .ok publicKey ∧
        S.blind publicKey rng message (some metadata) = .ok result ∧
        request = ⟨.v1, result.blindMessage⟩ ∧
        pending = ofBlinding issuerId info blindMsg result := by
  simp only [createRequest, Outcome.bind_eq_ok, Outcome.mapError_eq_ok, Except.ok.injEq,
    Prod.mk.injEq]
  constructor
  · intro h
    rcases h with ⟨metadata, hmetadata, message, hmessage, publicKey, hpublic, result, hblind, rfl,
      rfl⟩
    exact ⟨metadata, message, publicKey, result, hmetadata, hmessage, hpublic, hblind, rfl, rfl⟩
  · intro h
    rcases h with ⟨metadata, message, publicKey, result, hmetadata, hmessage, hpublic, hblind, rfl,
      rfl⟩
    exact ⟨metadata, hmetadata, message, hmessage, publicKey, hpublic, result, hblind, rfl, rfl⟩

/-- A state keeps what was asked for. -/
theorem createRequest_payload {issuerPublicKey : S.PbrsaPublicKey} {issuerId : IssuerId}
    {info blindMsg : Value} {rng : S.PbrsaRng} {request : IssuanceRequest}
    {pending : PendingIssuance}
    (h : createRequest issuerPublicKey issuerId info blindMsg rng = .ok (request, pending)) :
    pending.issuerId = issuerId ∧ pending.info = info ∧ pending.blindMsg = blindMsg := by
  rcases createRequest_eq_ok.mp h with ⟨metadata, message, publicKey, result, -, -, -, -, -, rfl⟩
  exact ⟨rfl, rfl, rfl⟩

/-- Keeping a blinding result loses nothing of it. -/
theorem blindingResult_ofBlinding (issuerId : IssuerId) (info blindMsg : Value)
    (result : BlindingResult) :
    (ofBlinding issuerId info blindMsg result).blindingResult S = .ok result := by
  rcases result with ⟨blindMessage, secret, msgRandomizer⟩
  cases msgRandomizer with
  | none => rfl
  | some msgRandomizer =>
      have hlen : msgRandomizer.toList.length = 32 := Vector.length_toList
      simp only [blindingResult, ofBlinding, Option.map_some, dif_pos hlen]
      congr 1

/-- Only a randomizer of the wrong length makes a state unusable. -/
theorem blindingResult_eq_error {pending : PendingIssuance} {e : CredentialsError S}
    (h : pending.blindingResult S = .error e) : ∃ message, e = .invalidPendingIssuanceState message := by
  unfold blindingResult at h
  split at h
  · cases h
  · split at h
    · cases h
    · cases h
      exact ⟨_, rfl⟩

/-- A finalized credential has the payload of the state, and it has been checked. -/
theorem finalize_eq_ok {pending : PendingIssuance} {issuerPublicKey : S.PbrsaPublicKey}
    {response : IssuanceResponse} {credential : SignedCredential} :
    pending.finalize issuerPublicKey response = .ok credential ↔
      response.issuerId = pending.issuerId ∧ response.info.eq pending.info = true ∧
      ∃ metadata message publicKey result signature,
        canonicalizePbrsaInfo S .v1 pending.issuerId pending.info = .ok metadata ∧
        canonicalizePbrsaBlindMsg S .v1 pending.blindMsg = .ok message ∧
        S.derivePublicKeyForMetadata issuerPublicKey metadata = .ok publicKey ∧
        pending.blindingResult S = .ok result ∧
        S.finalize publicKey response.blindSignature result message (some metadata)
          = .ok signature ∧
        credential = pending.toCredential signature ∧
        verifyCredentialWithKey issuerPublicKey credential = .ok () := by
  simp only [finalize, Outcome.guard_eq_ok, Outcome.bind_eq_ok, Outcome.mapError_eq_ok, not_not,
    Except.ok.injEq, Bool.not_eq_true', Bool.not_eq_false]
  constructor
  · intro h
    rcases h with ⟨hid, hinfo, metadata, hmetadata, message, hmessage, publicKey, hpublic, result,
      hresult, signature, hfinal, _, hverify, rfl⟩
    exact ⟨hid, hinfo, metadata, message, publicKey, result, signature, hmetadata, hmessage,
      hpublic, hresult, hfinal, rfl, hverify⟩
  · intro h
    rcases h with ⟨hid, hinfo, metadata, message, publicKey, result, signature, hmetadata, hmessage,
      hpublic, hresult, hfinal, rfl, hverify⟩
    exact ⟨hid, hinfo, metadata, hmetadata, message, hmessage, publicKey, hpublic, result, hresult,
      signature, hfinal, (), hverify, rfl⟩

/-- Everything but the signature is the holder's own. -/
theorem finalize_payload {pending : PendingIssuance} {issuerPublicKey : S.PbrsaPublicKey}
    {response : IssuanceResponse} {credential : SignedCredential}
    (h : pending.finalize issuerPublicKey response = .ok credential) :
    credential.credential = ⟨pending.issuerId, pending.info, pending.blindMsg⟩ := by
  rcases finalize_eq_ok.mp h with ⟨-, -, _, _, _, _, signature, -, -, -, -, -, rfl, -⟩
  rfl

/-- An info mismatch is reported for infos that are not equal, and for nothing else. -/
theorem finalize_eq_infoMismatch {pending : PendingIssuance} {issuerPublicKey : S.PbrsaPublicKey}
    {response : IssuanceResponse} :
    pending.finalize issuerPublicKey response = .error .infoMismatch ↔
      response.issuerId = pending.issuerId ∧ ¬response.info.eq pending.info := by
  unfold finalize
  by_cases hid : response.issuerId = pending.issuerId
  · by_cases hinfo : response.info.eq pending.info = true
    · -- past both checks every error is of another kind
      simp only [hid, hinfo, ne_eq, not_true, Bool.not_true, Bool.false_eq_true, if_false,
        and_false, iff_false]
      intro h
      simp only [Outcome.bind_eq_error, Outcome.mapError_eq_error, reduceCtorEq, and_false,
        exists_false, false_or, or_false] at h
      rcases h with ⟨_, -, _, -, _, -, h | ⟨_, -, _, -, h⟩⟩
      · rcases blindingResult_eq_error h with ⟨message, h⟩
        cases h
      · rcases verifyCredentialWithKey_eq_error h with ⟨inner, h⟩ | ⟨inner, h⟩ <;> cases h
    · simp [hid, hinfo]
  · simp [hid]

theorem finalizeWasm_eq_ok {pending : PendingIssuance} {issuerAuthority : IssuerAuthority S}
    {response : IssuanceResponse} {credential : SignedCredential} :
    pending.finalizeWasm issuerAuthority response = .ok credential ↔
      issuerAuthority.issuer.issuerIdPubkey = response.issuerId ∧
        pending.finalize issuerAuthority.issuer.issuanceKey response = .ok credential := by
  simp only [finalizeWasm, Outcome.guard_eq_ok, not_not]

end PendingIssuance

namespace HolderContext

/-- An authorization is signed for the holder the credential is bound to, over a
statement about that credential. -/
theorem authorizeCredentialUseAtTime_eq_ok {context : HolderContext S}
    {request : HolderAuthorizationRequest} {credential : SignedCredential} {issuedAt : Timestamp}
    {rng : S.NostrRng} {authorization : HolderAuthorization} :
    context.authorizeCredentialUseAtTime request credential issuedAt rng = .ok authorization ↔
      credentialHolderId S credential = .ok context.holderId ∧
      ∃ credentialDigest digest, credential.credential.digest S = .ok credentialDigest ∧
        HolderAuthorizationStatement.digest S
          ⟨context.holderId, request.subjectPubkey, ⟨credentialDigest⟩, issuedAt⟩ = .ok digest ∧
        authorization =
          ⟨.v1, ⟨context.holderId, request.subjectPubkey, ⟨credentialDigest⟩, issuedAt⟩,
            ⟨S.signSchnorr context.identityKeys digest rng⟩⟩ := by
  simp only [authorizeCredentialUseAtTime, HolderAuthorizationRequest.intoStatement,
    Outcome.bind_eq_ok, Outcome.guard_eq_ok, not_not, Except.ok.injEq]
  constructor
  · intro h
    rcases h with ⟨holderId, hholder, rfl, _, ⟨credentialDigest, hcredential, rfl⟩, digest, hdigest,
      rfl⟩
    exact ⟨hholder, credentialDigest, digest, hcredential, hdigest, rfl⟩
  · intro h
    rcases h with ⟨hholder, credentialDigest, digest, hcredential, hdigest, rfl⟩
    exact ⟨_, hholder, rfl, _, ⟨credentialDigest, hcredential, rfl⟩, digest, hdigest, rfl⟩

end HolderContext

end PeerBadge
