import PeerBadge.Badges
import PeerBadge.Transport
import PeerBadge.Wasm

/-! # Native and JavaScript

A message that is sent as text and parsed in JavaScript arrives with every number a
double. Protocol objects hold no other numbers than the version and a time, so they
arrive as they are; the info and the blind message of a credential may arrive in another
encoding, with the canonical form they had.

Everything a verifier or an issuer does with a credential depends on its canonical form
and its proof. So a native SDK and one behind the JavaScript binding that get the same
messages are in the same state, and do the same.
-/

namespace PeerBadge

variable {S : Suite}

/-! ## Credentials in another encoding -/

namespace SignedCredential

/-- The same proof over payloads RFC 8785 does not tell apart. -/
structure Reencoded (p q : SignedCredential) : Prop where
  payload : p.credential.toValue.rfc8785 = q.credential.toValue.rfc8785
  proof : p.proof = q.proof

namespace Reencoded

variable {p q : SignedCredential}

theorem issuerIdPubkey (h : p.Reencoded q) :
    p.credential.issuerIdPubkey = q.credential.issuerIdPubkey :=
  ((Credential.toValue_inj _ _).mp h.payload).1

theorem digest (h : p.Reencoded q) (hS : S.Rfc8785) :
    p.credential.digest S = q.credential.digest S := by
  have hcanonical : canonicalizeCredential S p.credential = canonicalizeCredential S q.credential :=
    (canonicalizeJsonValue_eq_iff hS _ _).mpr h.payload
  rw [Credential.digest, hcanonical, Credential.digest]

/-- The blind signature is over the same metadata and the same message. -/
theorem verifyCredentialWithKey (h : p.Reencoded q) (hS : S.Rfc8785) (key : S.PbrsaPublicKey) :
    PeerBadge.verifyCredentialWithKey key p = PeerBadge.verifyCredentialWithKey key q := by
  rcases (Credential.toValue_inj _ _).mp h.payload with ⟨hid, hinfo, hmsg⟩
  have hmetadata := (canonicalizePbrsaInfo_eq_iff hS .v1 _ _ _ _).mpr ⟨hid, hinfo⟩
  have hmessage : canonicalizePbrsaBlindMsg S .v1 p.credential.blindMsg
      = canonicalizePbrsaBlindMsg S .v1 q.credential.blindMsg :=
    (canonicalizeJsonValue_eq_iff hS _ _).mpr ((pbrsaBlindMsgPayload_inj .v1 _ _).mpr hmsg)
  rw [PeerBadge.verifyCredentialWithKey, hmetadata, hmessage, h.proof,
    PeerBadge.verifyCredentialWithKey]

theorem credentialHolderId (h : p.Reencoded q) :
    PeerBadge.credentialHolderId S p = PeerBadge.credentialHolderId S q := by
  have hmsg := ((Credential.toValue_inj _ _).mp h.payload).2.2
  have htext : p.credential.blindMsg.asStr = q.credential.blindMsg.asStr := by
    apply Option.ext
    intro text
    simp only [Value.asStr_eq_some_iff]
    -- a string has no other encoding
    constructor
    · rintro heq
      exact Value.eq_string_of_rfc8785 (hmsg.symm.trans (congrArg Value.rfc8785 heq))
    · intro heq
      exact Value.eq_string_of_rfc8785 (hmsg.trans (congrArg Value.rfc8785 heq))
  rw [PeerBadge.credentialHolderId, htext, PeerBadge.credentialHolderId]

theorem verifyCredential (h : p.Reencoded q) (hS : S.Rfc8785) (context : VerificationContext S) :
    context.verifyCredential p = context.verifyCredential q := by
  unfold VerificationContext.verifyCredential
  rw [h.issuerIdPubkey]
  simp only [h.verifyCredentialWithKey hS, h.digest hS]

theorem verifyCredentialAuthorizationAtTime (h : p.Reencoded q) (hS : S.Rfc8785)
    (context : VerificationContext S) (authorization : HolderAuthorization) (now : Timestamp) :
    context.verifyCredentialAuthorizationAtTime p authorization now
      = context.verifyCredentialAuthorizationAtTime q authorization now := by
  simp only [VerificationContext.verifyCredentialAuthorizationAtTime, h.verifyCredential hS,
    h.credentialHolderId, h.digest hS]

theorem revokeCredential (h : p.Reencoded q) (hS : S.Rfc8785) (issuer : IssuerContext S)
    (rng : S.NostrRng) :
    issuer.revokeCredential p rng = issuer.revokeCredential q rng := by
  simp only [IssuerContext.revokeCredential, h.issuerIdPubkey, h.digest hS]

theorem authorizeCredentialUseAtTime (h : p.Reencoded q) (hS : S.Rfc8785)
    (holder : HolderContext S) (request : HolderAuthorizationRequest) (issuedAt : Timestamp)
    (rng : S.NostrRng) :
    holder.authorizeCredentialUseAtTime request p issuedAt rng
      = holder.authorizeCredentialUseAtTime request q issuedAt rng := by
  simp only [HolderContext.authorizeCredentialUseAtTime, HolderAuthorizationRequest.intoStatement,
    h.credentialHolderId, h.digest hS]

end Reencoded

/-- The credential as it arrives from JavaScript. -/
def throughDoubles (credential : SignedCredential) : SignedCredential :=
  { credential with credential := credential.credential.throughDoubles }

theorem reencoded_throughDoubles (credential : SignedCredential) :
    credential.throughDoubles.Reencoded credential where
  payload := credential.credential.rfc8785_throughDoubles
  proof := rfl

end SignedCredential

/-! ## Forms that arrive as they are -/

@[simp] theorem base64UrlUnpadded_throughDoubles (bytes : Bytes) :
    (base64UrlUnpadded bytes).throughDoubles = base64UrlUnpadded bytes := rfl

@[simp] theorem ProtocolV1.toValue_throughDoubles (version : ProtocolV1) :
    version.toValue.throughDoubles = version.toValue :=
  congrArg Value.number (Number.throughDouble_posInt (by decide))

@[simp] theorem IssuerId.toValue_throughDoubles (id : IssuerId) :
    id.toValue.throughDoubles = id.toValue := rfl

@[simp] theorem HolderId.toValue_throughDoubles (id : HolderId) :
    id.toValue.throughDoubles = id.toValue := rfl

@[simp] theorem SubjectPubkey.toValue_throughDoubles (subject : SubjectPubkey) :
    subject.toValue.throughDoubles = subject.toValue := rfl

@[simp] theorem CredentialDigest.toValue_throughDoubles (digest : CredentialDigest) :
    digest.toValue.throughDoubles = digest.toValue := rfl

theorem Timestamp.toValue_throughDoubles {time : Timestamp} (h : time.Exact) :
    time.toValue.throughDoubles = time.toValue := by
  unfold Exact at h
  exact congrArg Value.number (Number.throughDouble_posInt (by omega))

@[simp] theorem RevocationLocation.toValue_throughDoubles (location : RevocationLocation) :
    location.toValue.throughDoubles = location.toValue := by
  simp [RevocationLocation.toValue]

theorem IssuerAuthority.isJs_toValue {authority : IssuerAuthority S} {form : Value}
    (h : authority.toValue = .ok form) : form.IsJs := by
  rcases IssuerAuthority.toValue_eq_ok.mp h with ⟨issuer, hissuer, rfl⟩
  rcases Issuer.toValue_eq_ok.mp hissuer with ⟨der, -, rfl⟩
  simp [Value.IsJs, SchnorrSignatureProof.toValue, Function.comp_def]

theorem SignedRevocation.isJs_toValue (revocation : SignedRevocation) :
    revocation.toValue.IsJs := by
  simp [Value.IsJs, SignedRevocation.toValue, Revocation.toValue, RevocationProof.toValue]

theorem RevocationLocation.isJs_array (locations : List RevocationLocation) :
    (Value.array (locations.map RevocationLocation.toValue)).IsJs := by
  simp [Value.IsJs, Function.comp_def]

theorem IssuanceRequest.isJs_toValue (request : IssuanceRequest) : request.toValue.IsJs := by
  simp [Value.IsJs, IssuanceRequest.toValue]

theorem HolderAuthorizationRequest.isJs_toValue (request : HolderAuthorizationRequest) :
    request.toValue.IsJs := by
  simp [Value.IsJs, HolderAuthorizationRequest.toValue]

theorem HolderAuthorization.isJs_toValue {authorization : HolderAuthorization}
    (h : authorization.authorization.issuedAt.Exact) : authorization.toValue.IsJs := by
  simp [Value.IsJs, HolderAuthorization.toValue, HolderAuthorizationStatement.toValue,
    SchnorrSignatureProof.toValue, Timestamp.toValue_throughDoubles h]

theorem SignedCredential.toValue_throughDoubles (credential : SignedCredential) :
    credential.toValue.throughDoubles = credential.throughDoubles.toValue := by
  simp [SignedCredential.toValue, Credential.toValue, CredentialProof.toValue, throughDoubles,
    Credential.throughDoubles]

theorem SignedCredential.isJs_toValue {credential : SignedCredential}
    (hinfo : credential.credential.info.IsJs) (hmsg : credential.credential.blindMsg.IsJs) :
    credential.toValue.IsJs := by
  have hinfo' : credential.credential.info.throughDoubles = credential.credential.info := hinfo
  have hmsg' : credential.credential.blindMsg.throughDoubles = credential.credential.blindMsg := hmsg
  rw [Value.IsJs, credential.toValue_throughDoubles]
  simp only [throughDoubles, Credential.throughDoubles, hinfo', hmsg']

theorem IssuanceResponse.isJs_toValue {response : IssuanceResponse} (h : response.info.IsJs) :
    response.toValue.IsJs := by
  have hinfo : response.info.throughDoubles = response.info := h
  simp [Value.IsJs, IssuanceResponse.toValue, hinfo]

/-- A time JavaScript has no number for arrives as a float. -/
theorem Timestamp.throughDoubles_of_not_exact {time : Timestamp} (h : ¬time.Exact) :
    ∃ x, time.toValue.throughDoubles = .number (.float x) := by
  unfold Exact at h
  refine ⟨(Number.posInt time.secs).toBinary64, congrArg Value.number ?_⟩
  apply Number.throughDouble_of_none
  cases hsafe : (Number.posInt time.secs).toBinary64.safeInteger with
  | none => rfl
  | some m =>
      rcases Binary64.safeInteger_eq_some hsafe with ⟨hm, hbits⟩
      rw [(Number.toBinary64_posInt time.secs).2] at hbits
      have hsame := Binary64.roundMagnitude_natCast_inj_left hm hbits
      omega

/-! ## Forms that can be written -/

@[simp] theorem base64UrlUnpadded_plain (bytes : Bytes) : (base64UrlUnpadded bytes).Plain :=
  Value.plain_string _

@[simp] theorem ProtocolV1.plain_toValue (version : ProtocolV1) : version.toValue.Plain :=
  Value.plain_number _

@[simp] theorem IssuerId.plain_toValue (id : IssuerId) : id.toValue.Plain := Value.plain_string _

@[simp] theorem HolderId.plain_toValue (id : HolderId) : id.toValue.Plain := Value.plain_string _

@[simp] theorem SubjectPubkey.plain_toValue (subject : SubjectPubkey) : subject.toValue.Plain :=
  Value.plain_string _

@[simp] theorem CredentialDigest.plain_toValue (digest : CredentialDigest) :
    digest.toValue.Plain :=
  base64UrlUnpadded_plain _

@[simp] theorem Timestamp.plain_toValue (time : Timestamp) : time.toValue.Plain :=
  Value.plain_number _

@[simp] theorem SchnorrSignatureProof.plain_toValue (proof : SchnorrSignatureProof) :
    proof.toValue.Plain :=
  Value.plain_object (by simp)

@[simp] theorem RevocationLocation.plain_toValue (location : RevocationLocation) :
    location.toValue.Plain :=
  Value.plain_object (by simp)

theorem IssuerAuthority.plain_toValue {authority : IssuerAuthority S} {form : Value}
    (h : authority.toValue = .ok form) : form.Plain := by
  rcases IssuerAuthority.toValue_eq_ok.mp h with ⟨issuer, hissuer, rfl⟩
  rcases Issuer.toValue_eq_ok.mp hissuer with ⟨der, -, rfl⟩
  exact Value.plain_object (by simp [Value.plain_object])

theorem SignedRevocation.plain_toValue (revocation : SignedRevocation) :
    revocation.toValue.Plain :=
  Value.plain_object (by simp [Revocation.toValue, RevocationProof.toValue, Value.plain_object])

theorem IssuanceRequest.plain_toValue (request : IssuanceRequest) : request.toValue.Plain :=
  Value.plain_object (by simp)

theorem HolderAuthorization.plain_toValue (authorization : HolderAuthorization) :
    authorization.toValue.Plain :=
  Value.plain_object (by simp [HolderAuthorizationStatement.toValue, Value.plain_object])

/-- Only the info and the blind message of a credential may have members of any name. -/
theorem SignedCredential.plain_toValue {credential : SignedCredential}
    (hinfo : credential.credential.info.Plain) (hmsg : credential.credential.blindMsg.Plain) :
    credential.toValue.Plain :=
  Value.plain_object
    (by simp [Credential.toValue, CredentialProof.toValue, Value.plain_object, hinfo, hmsg])

theorem IssuanceResponse.plain_toValue {response : IssuanceResponse} (h : response.info.Plain) :
    response.toValue.Plain :=
  Value.plain_object (by simp [h])

/-- The authority of the reference issuer can be written. -/
theorem Reference.exists_form {authority : IssuerAuthority Reference.suite}
    (h : Reference.issuer.issuerAuthority [] () = .ok authority) :
    ∃ form, authority.toValue = .ok form := by
  rcases IssuerContext.issuerAuthority_eq_ok.mp h with ⟨digest, -, rfl⟩
  exact ⟨_, rfl⟩

namespace Wasm

/-! ## Reading what was parsed -/

variable {B : Bindgen S} {fromDer : Bytes → Except S.PbrsaError S.PbrsaPublicKey}

/-- A form that arrives as it is, is read as what it was written from. -/
theorem fromJs_of_isJs {α ε : Type} {fromValue : JsValue → Except String α}
    {write : α → Except ε Value} {read : Json Number → Except DeError α}
    (h : Bindgen.Reads fromValue write read) {x : α} {form : Value} (hwrite : write x = .ok form)
    (hform : form.IsJs) (hread : read form.tree = .ok x) :
    (fromJs fromValue form.parsed : Except (JsError S) α) = .ok x := by
  rw [fromJs, h.eq_ok hwrite hform hread, Outcome.mapError_ok]

theorem fromJs_ofJs (hB : B.Documented fromDer) (js : JsValue) :
    (fromJs B.value js : Except (JsError S) Value) = .ok (.ofJs js) := by
  rw [fromJs, hB.value, Outcome.mapError_ok]

theorem fromJs_value (hB : B.Documented fromDer) (info : Value) :
    (fromJs B.value info.parsed : Except (JsError S) Value) = .ok info.throughDoubles := by
  rw [fromJs_ofJs hB, Value.ofJs_parsed]

theorem fromJs_locations (hB : B.Documented fromDer) (locations : List RevocationLocation) :
    (fromJs B.revocationLocations
      (Value.array (locations.map RevocationLocation.toValue)).parsed :
      Except (JsError S) (List RevocationLocation)) = .ok locations :=
  fromJs_of_isJs hB.revocationLocations rfl (RevocationLocation.isJs_array locations)
    (Serde.list_array RevocationLocation.ofDocument_toValue locations)

theorem fromJs_authority (hB : B.Documented fromDer) (hkeys : S.KeyRoundTrip)
    (hder : S.DerRoundTrip fromDer) {authority : IssuerAuthority S} {form : Value}
    (hform : authority.toValue = .ok form) :
    (fromJs B.issuerAuthority form.parsed : Except (JsError S) (IssuerAuthority S))
      = .ok authority :=
  fromJs_of_isJs hB.issuerAuthority hform (IssuerAuthority.isJs_toValue hform)
    (IssuerAuthority.ofDocument_toValue hkeys hder hform)

theorem fromJs_revocation (hB : B.Documented fromDer) (hkeys : S.KeyRoundTrip)
    (revocation : SignedRevocation) :
    (fromJs B.signedRevocation revocation.toValue.parsed : Except (JsError S) SignedRevocation)
      = .ok revocation :=
  fromJs_of_isJs hB.signedRevocation rfl revocation.isJs_toValue
    (SignedRevocation.ofDocument_toValue hkeys revocation)

theorem fromJs_request (hB : B.Documented fromDer) (request : IssuanceRequest) :
    (fromJs B.issuanceRequest request.toValue.parsed : Except (JsError S) IssuanceRequest)
      = .ok request :=
  fromJs_of_isJs hB.issuanceRequest rfl request.isJs_toValue
    (IssuanceRequest.ofDocument_toValue request)

theorem fromJs_authorizationRequest (hB : B.Documented fromDer) (hkeys : S.KeyRoundTrip)
    (request : HolderAuthorizationRequest) :
    (fromJs B.holderAuthorizationRequest request.toValue.parsed :
      Except (JsError S) HolderAuthorizationRequest) = .ok request :=
  fromJs_of_isJs hB.holderAuthorizationRequest rfl request.isJs_toValue
    (HolderAuthorizationRequest.ofDocument_toValue hkeys request)

theorem fromJs_authorization (hB : B.Documented fromDer) (hkeys : S.KeyRoundTrip)
    {authorization : HolderAuthorization} (h : authorization.authorization.issuedAt.Exact) :
    (fromJs B.holderAuthorization authorization.toValue.parsed :
      Except (JsError S) HolderAuthorization) = .ok authorization :=
  fromJs_of_isJs hB.holderAuthorization rfl (HolderAuthorization.isJs_toValue h)
    (HolderAuthorization.ofDocument_toValue hkeys authorization)

theorem fromJs_credential (hB : B.Documented fromDer) (hkeys : S.KeyRoundTrip)
    (credential : SignedCredential) :
    (fromJs B.signedCredential credential.toValue.parsed : Except (JsError S) SignedCredential)
      = .ok credential.throughDoubles := by
  have hread : SignedCredential.ofDocument S credential.toValue.throughDoubles.tree
      = .ok credential.throughDoubles := by
    rw [credential.toValue_throughDoubles, SignedCredential.ofDocument_toValue hkeys]
  rw [fromJs, hB.signedCredential.eq_ok_of_arrives rfl (Value.arrives_parsed _) hread,
    Outcome.mapError_ok]

/-- An authorization with a time that is no JavaScript number is not read. -/
theorem fromJs_authorization_of_not_exact (hB : B.Documented fromDer) (hkeys : S.KeyRoundTrip)
    {authorization : HolderAuthorization} (h : ¬authorization.authorization.issuedAt.Exact) :
    ∃ e, (fromJs B.holderAuthorization authorization.toValue.parsed :
      Except (JsError S) HolderAuthorization) = .error (.fromJs e) := by
  rcases Timestamp.throughDoubles_of_not_exact h with ⟨x, hx⟩
  have htime : Timestamp.ofDocument (Value.number (.float x)).tree = .error .invalidType := rfl
  have hread : HolderAuthorization.ofDocument S authorization.toValue.throughDoubles.tree
      = .error .invalidType := by
    simp (disch := simp) only [HolderAuthorization.toValue, HolderAuthorizationStatement.toValue,
      Value.throughDoubles_object, List.map_cons, List.map_nil, ProtocolV1.toValue_throughDoubles,
      HolderId.toValue_throughDoubles, SubjectPubkey.toValue_throughDoubles,
      CredentialDigest.toValue_throughDoubles, hx, HolderAuthorization.ofDocument,
      HolderAuthorizationStatement.ofDocument, Serde.checkStruct_object, Outcome.ok_bind,
      Serde.field_object, List.lookup_cons, String.reduceBEq, readVersion_toValue,
      HolderId.ofDocument_toValue hkeys, SubjectPubkey.ofDocument_toValue hkeys,
      CredentialDigest.ofDocument_toValue, htime, Outcome.error_bind]
  rcases hB.holderAuthorization.eq_error rfl hread with ⟨text, htext⟩
  refine ⟨text, ?_⟩
  rw [fromJs, htext, Outcome.mapError_error]

/-! ## Verifiers -/

/-- What a verifier in JavaScript is handed. -/
inductive Message where
  | issuerAuthority (authority : JsValue)
  | revocation (revocation : JsValue)

/-- The verifier after a message, whatever comes back. -/
def step (B : Bindgen S) (context : VerificationContext S) : Message → VerificationContext S
  | .issuerAuthority authority => (addIssuerAuthority B context authority).2
  | .revocation revocation => (addRevocation B context revocation).2

/-- The message is the text of what a native verifier is given, parsed. -/
def Message.Carries : Message → Call S → Prop
  | .issuerAuthority js, .addIssuerAuthority authority =>
      ∃ form, authority.toValue = .ok form ∧ js = form.parsed
  | .revocation js, .addRevocation signedRevocation => js = signedRevocation.toValue.parsed
  | _, _ => False

/-- A message has the effect of the call it carries. -/
theorem step_of_carries (hB : B.Documented fromDer) (hkeys : S.KeyRoundTrip)
    (hder : S.DerRoundTrip fromDer) {message : Message} {call : Call S} (h : message.Carries call)
    (context : VerificationContext S) : step B context message = context.step call := by
  cases message with
  | issuerAuthority js =>
      cases call with
      | addIssuerAuthority authority =>
          rcases h with ⟨form, hform, rfl⟩
          simp only [step, addIssuerAuthority, fromJs_authority hB hkeys hder hform]
          rfl
      | addRevocation revocation => exact absurd h id
  | revocation js =>
      cases call with
      | addIssuerAuthority authority => exact absurd h id
      | addRevocation revocation =>
          have hjs : js = revocation.toValue.parsed := h
          simp only [step, addRevocation, hjs, fromJs_revocation hB hkeys]
          rfl

/-- Message by message the two verifiers are in the same state. -/
theorem run_of_carries (hB : B.Documented fromDer) (hkeys : S.KeyRoundTrip)
    (hder : S.DerRoundTrip fromDer) {messages : List Message} {calls : List (Call S)}
    (h : List.Forall₂ Message.Carries messages calls) (context : VerificationContext S) :
    Runs.run (step B) context messages = Runs.run VerificationContext.step context calls := by
  induction h generalizing context with
  | nil => rfl
  | cons hcarries _ ih =>
      rw [Runs.run_cons, Runs.run_cons, step_of_carries hB hkeys hder hcarries, ih]

/-- What JavaScript sees of a verdict. -/
def verdict (result : Except (CredentialsError S) Unit) : Except (JsError S) Bool := do
  result.mapError .protocol
  .ok true

theorem verdict_eq_ok {result : Except (CredentialsError S) Unit} {b : Bool} :
    verdict result = .ok b ↔ result = .ok () ∧ b = true := by
  cases result with
  | error e => simp [verdict]
  | ok u => simp [verdict, eq_comm]

theorem verifyCredential_parsed (hB : B.Documented fromDer) (hS : S.Rfc8785)
    (hkeys : S.KeyRoundTrip) (context : VerificationContext S) (credential : SignedCredential) :
    verifyCredential B context credential.toValue.parsed
      = verdict (context.verifyCredential credential) := by
  rw [verifyCredential, fromJs_credential hB hkeys, Outcome.ok_bind,
    credential.reencoded_throughDoubles.verifyCredential hS]
  rfl

theorem verifyCredentialAuthorization_parsed (hB : B.Documented fromDer) (hS : S.Rfc8785)
    (hkeys : S.KeyRoundTrip) (context : VerificationContext S) (credential : SignedCredential)
    {authorization : HolderAuthorization} (hexact : authorization.authorization.issuedAt.Exact)
    {dateNow : F64} {now : Timestamp}
    (hnow : (currentUnixTimestamp dateNow : Except (JsError S) Timestamp) = .ok now) :
    verifyCredentialAuthorization B context credential.toValue.parsed
        authorization.toValue.parsed dateNow
      = verdict (context.verifyCredentialAuthorizationAtTime credential authorization now) := by
  rw [verifyCredentialAuthorization, fromJs_credential hB hkeys, Outcome.ok_bind,
    fromJs_authorization hB hkeys hexact, Outcome.ok_bind, hnow, Outcome.ok_bind,
    credential.reencoded_throughDoubles.verifyCredentialAuthorizationAtTime hS]
  rfl

/-- A verifier behind the binding that has got the messages of a native one is in its
state, and gives its verdict on every credential and on every authorization, the error
included; only an authorization whose time is no JavaScript number it does not read. -/
theorem verifier_agrees (hB : B.Documented fromDer) (hS : S.Rfc8785) (hkeys : S.KeyRoundTrip)
    (hder : S.DerRoundTrip fromDer) {messages : List Message} {calls : List (Call S)}
    (hcarries : List.Forall₂ Message.Carries messages calls) :
    Runs.run (step B) .new messages = VerificationContext.run calls ∧
    ∀ credential : SignedCredential,
      verifyCredential B (Runs.run (step B) .new messages) credential.toValue.parsed
        = verdict ((VerificationContext.run calls).verifyCredential credential) ∧
      ∀ (authorization : HolderAuthorization) dateNow now,
        (currentUnixTimestamp dateNow : Except (JsError S) Timestamp) = .ok now →
        (authorization.authorization.issuedAt.Exact →
          verifyCredentialAuthorization B (Runs.run (step B) .new messages)
              credential.toValue.parsed authorization.toValue.parsed dateNow
            = verdict ((VerificationContext.run calls).verifyCredentialAuthorizationAtTime
                credential authorization now)) ∧
        (¬authorization.authorization.issuedAt.Exact → ∃ e,
          verifyCredentialAuthorization B (Runs.run (step B) .new messages)
              credential.toValue.parsed authorization.toValue.parsed dateNow
            = .error (.fromJs e)) := by
  have hrun : Runs.run (step B) .new messages = VerificationContext.run calls :=
    run_of_carries hB hkeys hder hcarries .new
  rw [hrun]
  refine ⟨rfl, ?_⟩
  intro credential
  refine ⟨verifyCredential_parsed hB hS hkeys _ credential, ?_⟩
  intro authorization dateNow now hnow
  constructor
  · intro hexact
    exact verifyCredentialAuthorization_parsed hB hS hkeys _ credential hexact hnow
  · intro hinexact
    rcases fromJs_authorization_of_not_exact hB hkeys hinexact with ⟨e, he⟩
    refine ⟨e, ?_⟩
    rw [verifyCredentialAuthorization, fromJs_credential hB hkeys, Outcome.ok_bind, he,
      Outcome.error_bind]

/-- A verifier in JavaScript accepts a credential whose info `7.0` has become `7`. -/
theorem verifier_agrees_seven :
    ∃ authority form, Reference.issuer.issuerAuthority [] () = .ok authority ∧
      authority.toValue = .ok form ∧
      verifyCredential Reference.bindgen
        (Runs.run (step Reference.bindgen) .new [.issuerAuthority form.parsed])
        (Reference.credential (.number (.float Reference.seven)) (.string "holder")).toValue.parsed
          = .ok true := by
  rcases Reference.exists_authorizes with ⟨authority, hauthority, hauthorizes⟩
  rcases Reference.exists_form hauthority with ⟨form, hform⟩
  have hcarries : List.Forall₂ Message.Carries [.issuerAuthority form.parsed]
      [Call.addIssuerAuthority authority] := .cons ⟨form, hform, rfl⟩ .nil
  refine ⟨authority, form, hauthority, hform, ?_⟩
  rw [((verifier_agrees Reference.bindgen_documented Reference.rfc8785 Reference.keyRoundTrip
    Reference.derRoundTrip hcarries).2 _).1, VerificationContext.verifyCredential_of_authorizes hauthorizes]
  rfl

/-! ## Signing -/

/-- What JavaScript sees of something that was signed. -/
def sent {α : Type} (write : α → Value) (result : Except (CredentialsError S) α) :
    Except (JsError S) JsValue := do
  let x ← result.mapError .protocol
  .ok (write x).parsed

/-- What JavaScript sees of an authority. -/
def announced (result : Except (Failure (CredentialsError S)) (IssuerAuthority S)) :
    Except (Failure (JsError S)) JsValue := do
  let authority ← result.mapError (.map .protocol)
  let form ← authority.toValue.mapError fun e => .error (.toDer e)
  .ok form.parsed

theorem toJs_of_isJs (hB : B.Documented fromDer) {form : Value} (hplain : form.Plain)
    (h : form.IsJs) : (toJs B form : Except (JsError S) JsValue) = .ok form.parsed := by
  rw [toJs, hB.toValue_of_isJs hplain h, Outcome.mapError_ok]

/-- Once a call has made something that can be written, it is sent. -/
theorem sent_of_isJs (hB : B.Documented fromDer) {α : Type} {write : α → Value}
    {result : Except (CredentialsError S) α}
    (h : ∀ x, result = .ok x → (write x).Plain ∧ (write x).IsJs) :
    (do let x ← result.mapError .protocol; toJs B (write x)) = sent write result := by
  cases hresult : result with
  | error e => rfl
  | ok x =>
      rcases h x hresult with ⟨hplain, hform⟩
      rw [sent, Outcome.mapError_ok, Outcome.ok_bind, Outcome.ok_bind]
      exact toJs_of_isJs hB hplain hform

/-- The info of a response is the one it was asked for; the blind signature depends on its
canonical form. -/
theorem issueCredential_congr (hS : S.Rfc8785) (issuer : IssuerContext S) {info info' : Value}
    (h : info.rfc8785 = info'.rfc8785) (request : IssuanceRequest) (rng : S.PbrsaRng) :
    issuer.issueCredential info' request rng
      = (issuer.issueCredential info request rng).map fun response =>
          { response with info := info' } := by
  have hmetadata := (canonicalizePbrsaInfo_eq_iff hS .v1 issuer.issuerId issuer.issuerId _ _).mpr
    ⟨rfl, h⟩
  simp only [IssuerContext.issueCredential, hmetadata]
  cases (canonicalizePbrsaInfo S .v1 issuer.issuerId info').mapError
      CredentialsError.canonicalize with
  | error e => rfl
  | ok metadata =>
      simp only [Outcome.ok_bind]
      cases (S.deriveSecretKeyForMetadata issuer.keyPair.pk issuer.keyPair.sk metadata).mapError
          CredentialsError.blindRsa with
      | error e => rfl
      | ok secretKey =>
          simp only [Outcome.ok_bind]
          cases (S.blindSign secretKey rng request.blindedMessage).mapError
            CredentialsError.blindRsa <;> rfl

theorem issueCredential_parsed (hB : B.Documented fromDer) (hS : S.Rfc8785)
    (issuer : IssuerContext S) {info : Value} (hplain : info.Plain) (request : IssuanceRequest)
    (rng : S.PbrsaRng) :
    issueCredential B issuer info.parsed request.toValue.parsed rng
      = sent (fun response : IssuanceResponse =>
            { response with info := info.throughDoubles }.toValue)
          (issuer.issueCredential info request rng) := by
  have hcongr := issueCredential_congr hS issuer info.rfc8785_throughDoubles.symm request rng
  rw [issueCredential, fromJs_value hB, Outcome.ok_bind, fromJs_request hB, Outcome.ok_bind, hcongr]
  cases issuer.issueCredential info request rng with
  | error e => rfl
  | ok response =>
      exact toJs_of_isJs hB (IssuanceResponse.plain_toValue (Value.plain_throughDoubles.mpr hplain))
        (IssuanceResponse.isJs_toValue (Value.isJs_throughDoubles info))

theorem revokeCredential_parsed (hB : B.Documented fromDer) (hS : S.Rfc8785)
    (hkeys : S.KeyRoundTrip) (issuer : IssuerContext S) (credential : SignedCredential)
    (rng : S.NostrRng) :
    revokeCredential B issuer credential.toValue.parsed rng
      = sent SignedRevocation.toValue (issuer.revokeCredential credential rng) := by
  rw [revokeCredential, fromJs_credential hB hkeys, Outcome.ok_bind,
    credential.reencoded_throughDoubles.revokeCredential hS]
  exact sent_of_isJs hB fun revocation _ => ⟨revocation.plain_toValue, revocation.isJs_toValue⟩

theorem authorizeCredentialUse_parsed (hB : B.Documented fromDer) (hS : S.Rfc8785)
    (hkeys : S.KeyRoundTrip) (holder : HolderContext S) (request : HolderAuthorizationRequest)
    (credential : SignedCredential) {dateNow : F64} {now : Timestamp}
    (hnow : (currentUnixTimestamp dateNow : Except (JsError S) Timestamp) = .ok now)
    (hexact : now.Exact) (rng : S.NostrRng) :
    authorizeCredentialUse B holder request.toValue.parsed credential.toValue.parsed dateNow rng
      = sent HolderAuthorization.toValue
          (holder.authorizeCredentialUseAtTime request credential now rng) := by
  rw [authorizeCredentialUse, fromJs_authorizationRequest hB hkeys, Outcome.ok_bind,
    fromJs_credential hB hkeys, Outcome.ok_bind, hnow, Outcome.ok_bind,
    credential.reencoded_throughDoubles.authorizeCredentialUseAtTime hS]
  apply sent_of_isJs hB
  intro authorization hauthorization
  rcases HolderContext.authorizeCredentialUseAtTime_eq_ok.mp hauthorization with
    ⟨-, credentialDigest, digest, -, -, rfl⟩
  exact ⟨HolderAuthorization.plain_toValue _, HolderAuthorization.isJs_toValue hexact⟩

theorem issuerAuthority_parsed (hB : B.Documented fromDer) (issuer : IssuerContext S)
    (locations : List RevocationLocation) (rng : S.NostrRng) :
    issuerAuthority B issuer (Value.array (locations.map RevocationLocation.toValue)).parsed rng
      = announced (issuer.issuerAuthority locations rng) := by
  rw [issuerAuthority, fromJs_locations hB, Outcome.mapError_ok, Outcome.ok_bind, announced]
  cases issuer.issuerAuthority locations rng with
  | error e => rfl
  | ok authority =>
      simp only [Outcome.mapError_ok, Outcome.ok_bind]
      cases hform : authority.toValue with
      | error e => rfl
      | ok form =>
          simp only [Outcome.mapError_ok, Outcome.ok_bind,
            toJs_of_isJs hB (IssuerAuthority.plain_toValue hform)
              (IssuerAuthority.isJs_toValue hform)]

/-- Behind the binding an issuer and a holder sign what they sign natively when they are
handed the same messages: authorities, blind signatures, revocations and authorizations.
Only the info of a response is in the encoding of JavaScript, and it must be one that can
be written there. -/
theorem signers_agree (hB : B.Documented fromDer) (hS : S.Rfc8785) (hkeys : S.KeyRoundTrip) :
    (∀ (issuer : IssuerContext S) (locations : List RevocationLocation) rng,
      issuerAuthority B issuer (Value.array (locations.map RevocationLocation.toValue)).parsed rng
        = announced (issuer.issuerAuthority locations rng)) ∧
    (∀ (issuer : IssuerContext S) (info : Value) (request : IssuanceRequest) rng, info.Plain →
      issueCredential B issuer info.parsed request.toValue.parsed rng
        = sent (fun response : IssuanceResponse =>
            { response with info := info.throughDoubles }.toValue)
          (issuer.issueCredential info request rng)) ∧
    (∀ (issuer : IssuerContext S) (credential : SignedCredential) rng,
      revokeCredential B issuer credential.toValue.parsed rng
        = sent SignedRevocation.toValue (issuer.revokeCredential credential rng)) ∧
    ∀ (holder : HolderContext S) (request : HolderAuthorizationRequest)
      (credential : SignedCredential) dateNow now rng,
      (currentUnixTimestamp dateNow : Except (JsError S) Timestamp) = .ok now → now.Exact →
      authorizeCredentialUse B holder request.toValue.parsed credential.toValue.parsed dateNow rng
        = sent HolderAuthorization.toValue
            (holder.authorizeCredentialUseAtTime request credential now rng) := by
  refine ⟨issuerAuthority_parsed hB, ?_, revokeCredential_parsed hB hS hkeys, ?_⟩
  · intro issuer info request rng hplain
    exact issueCredential_parsed hB hS issuer hplain request rng
  · intro holder request credential dateNow now rng hnow hexact
    exact authorizeCredentialUse_parsed hB hS hkeys holder request credential hnow hexact rng

/-- In JavaScript, too, the reference issuer signs the info `7.0`, which has become `7`,
and revokes a credential for it. -/
theorem signers_agree_seven :
    ∃ request response revocation,
      Reference.issuer.issueCredential (.number (.float Reference.seven)) request
        Reference.blindingRng = .ok response ∧
      issueCredential Reference.bindgen Reference.issuer
        (Value.number (.float Reference.seven)).parsed request.toValue.parsed
          Reference.blindingRng
        = .ok { response with
            info := (Value.number (.float Reference.seven)).throughDoubles }.toValue.parsed ∧
      Reference.issuer.revokeCredential
        (Reference.credential (.number (.float Reference.seven)) (.string "holder")) ()
          = .ok revocation ∧
      revokeCredential Reference.bindgen Reference.issuer
        (Reference.credential (.number (.float Reference.seven)) (.string "holder")).toValue.parsed
          () = .ok revocation.toValue.parsed := by
  rcases Reference.exists_response (.number (.float Reference.seven))
    (.number (.float Reference.seven)) (.string "holder") Reference.blindingRng
    Reference.blindingRng with ⟨request, pending, response, -, hresponse⟩
  rcases Reference.exists_revocation (.number (.float Reference.seven)) (.string "holder") with
    ⟨revocation, hrevocation⟩
  rcases signers_agree Reference.bindgen_documented Reference.rfc8785 Reference.keyRoundTrip with
    ⟨-, hissue, hrevoke, -⟩
  refine ⟨request, response, revocation, hresponse, ?_, hrevocation, ?_⟩
  · rw [hissue _ _ _ _ (Value.plain_number _), hresponse]
    rfl
  · have hsame := hrevoke Reference.issuer
      (Reference.credential (.number (.float Reference.seven)) (.string "holder")) ()
    rw [hsame, hrevocation]
    rfl

end Wasm

end PeerBadge
