import PeerBadge.Types

/-! # Canonical payloads

What is signed, blind-signed or hashed is the canonical form of a JSON object built
around the data. Payloads are built here; `json!` panics when serializing one of
its members fails, which only the DER form of an issuance key can.
-/

namespace PeerBadge

/-- Canonicalize a JSON value. -/
def canonicalizeJsonValue (S : Suite) (value : Value) : Except S.JsonError Bytes := S.toVec value

def pbrsaPublicInfoCanonicalType : String := "fedibtc.credentials.public-info"

def pbrsaBlindMsgCanonicalType : String := "fedibtc.credentials.blind-msg"

def issuerAuthorityCanonicalType : String := "fedibtc.credentials.issuer-authority"

def revocationCanonicalType : String := "fedibtc.credentials.revocation"

def holderAuthorizationCanonicalType : String := "fedibtc.credentials.holder-authorization"

/-! ## Payloads -/

def pbrsaInfoPayload (version : ProtocolV1) (issuerId : IssuerId) (info : Value) : Value :=
  .object
    [("type", .string pbrsaPublicInfoCanonicalType), ("version", version.toValue),
      ("issuer_id_pubkey", issuerId.toValue), ("info", info)]

def pbrsaBlindMsgPayload (version : ProtocolV1) (blindMsg : Value) : Value :=
  .object
    [("type", .string pbrsaBlindMsgCanonicalType), ("version", version.toValue),
      ("blind_msg", blindMsg)]

def issuerAuthorityPayload (issuer : Value) : Value :=
  .object [("type", .string issuerAuthorityCanonicalType), ("issuer", issuer)]

def revocationPayload (revocation : Revocation) : Value :=
  .object [("type", .string revocationCanonicalType), ("revocation", revocation.toValue)]

def holderAuthorizationPayload (authorization : HolderAuthorizationStatement) : Value :=
  .object
    [("type", .string holderAuthorizationCanonicalType), ("version", ProtocolV1.v1.toValue),
      ("authorization", authorization.toValue)]

section Canonicalize

variable (S : Suite)

/-- The metadata of a blind signature. -/
def canonicalizePbrsaInfo (version : ProtocolV1) (issuerId : IssuerId) (info : Value) :
    Except S.JsonError Bytes :=
  canonicalizeJsonValue S (pbrsaInfoPayload version issuerId info)

/-- The message of a blind signature. -/
def canonicalizePbrsaBlindMsg (version : ProtocolV1) (blindMsg : Value) :
    Except S.JsonError Bytes :=
  canonicalizeJsonValue S (pbrsaBlindMsgPayload version blindMsg)

def canonicalizeRevocation (revocation : Revocation) : Except S.JsonError Bytes :=
  canonicalizeJsonValue S (revocationPayload revocation)

def canonicalizeHolderAuthorization (authorization : HolderAuthorizationStatement) :
    Except S.JsonError Bytes :=
  canonicalizeJsonValue S (holderAuthorizationPayload authorization)

def canonicalizeCredential (credential : Credential) : Except S.JsonError Bytes :=
  canonicalizeJsonValue S credential.toValue

end Canonicalize

def canonicalizeIssuerAuthority {S : Suite} (issuer : Issuer S) :
    Except (Failure S.JsonError) Bytes :=
  match issuer.toValue with
  -- inside `json!` an error of `to_value` is unwrapped
  | .error _ => .error .panicked
  | .ok value => (canonicalizeJsonValue S (issuerAuthorityPayload value)).mapError .error

theorem canonicalizeIssuerAuthority_eq_ok {S : Suite} {issuer : Issuer S} {bytes : Bytes} :
    canonicalizeIssuerAuthority issuer = .ok bytes ↔ ∃ value, issuer.toValue = .ok value ∧
      canonicalizeJsonValue S (issuerAuthorityPayload value) = .ok bytes := by
  unfold canonicalizeIssuerAuthority
  cases issuer.toValue with
  | error e => simp
  | ok value => simp [Outcome.mapError_eq_ok]

/-! ## What RFC 8785 sees of them -/

theorem pbrsaInfoPayload_rfc8785 (version : ProtocolV1) (issuerId : IssuerId) (info : Value) :
    (pbrsaInfoPayload version issuerId info).rfc8785 =
      .obj [("info", info.rfc8785), ("issuer_id_pubkey", issuerId.toValue.rfc8785),
        ("type", .str pbrsaPublicInfoCanonicalType), ("version", version.toValue.rfc8785)] := by
  simp only [pbrsaInfoPayload, Value.rfc8785_object, Value.rfc8785_string, List.map,
    Json.ofMembers, List.foldl, Json.insertMember, String.reduceLT, String.reduceEq, if_true,
    if_false]

theorem pbrsaBlindMsgPayload_rfc8785 (version : ProtocolV1) (blindMsg : Value) :
    (pbrsaBlindMsgPayload version blindMsg).rfc8785 =
      .obj [("blind_msg", blindMsg.rfc8785), ("type", .str pbrsaBlindMsgCanonicalType),
        ("version", version.toValue.rfc8785)] := by
  simp only [pbrsaBlindMsgPayload, Value.rfc8785_object, Value.rfc8785_string, List.map,
    Json.ofMembers, List.foldl, Json.insertMember, String.reduceLT, String.reduceEq, if_true,
    if_false]

theorem issuerAuthorityPayload_rfc8785 (issuer : Value) :
    (issuerAuthorityPayload issuer).rfc8785 =
      .obj [("issuer", issuer.rfc8785), ("type", .str issuerAuthorityCanonicalType)] := by
  simp only [issuerAuthorityPayload, Value.rfc8785_object, Value.rfc8785_string, List.map,
    Json.ofMembers, List.foldl, Json.insertMember, String.reduceLT, String.reduceEq, if_true,
    if_false]

theorem revocationPayload_rfc8785 (revocation : Revocation) :
    (revocationPayload revocation).rfc8785 =
      .obj [("revocation", revocation.toValue.rfc8785), ("type", .str revocationCanonicalType)] := by
  simp only [revocationPayload, Value.rfc8785_object, Value.rfc8785_string, List.map,
    Json.ofMembers, List.foldl, Json.insertMember, String.reduceLT, String.reduceEq, if_true,
    if_false]

theorem holderAuthorizationPayload_rfc8785 (authorization : HolderAuthorizationStatement) :
    (holderAuthorizationPayload authorization).rfc8785 =
      .obj [("authorization", authorization.toValue.rfc8785),
        ("type", .str holderAuthorizationCanonicalType),
        ("version", ProtocolV1.v1.toValue.rfc8785)] := by
  simp only [holderAuthorizationPayload, Value.rfc8785_object, Value.rfc8785_string, List.map,
    Json.ofMembers, List.foldl, Json.insertMember, String.reduceLT, String.reduceEq, if_true,
    if_false]

/-- Under RFC 8785 every payload has its canonical bytes. -/
theorem canonicalizeJsonValue_of_rfc8785 {S : Suite} (hS : S.Rfc8785) (value : Value) :
    canonicalizeJsonValue S value = .ok value.canonical :=
  hS value

/-- Equal canonical forms are forms of values RFC 8785 does not tell apart. -/
theorem canonicalizeJsonValue_eq_iff {S : Suite} (hS : S.Rfc8785) (v w : Value) :
    canonicalizeJsonValue S v = canonicalizeJsonValue S w ↔ v.rfc8785 = w.rfc8785 := by
  rw [canonicalizeJsonValue_of_rfc8785 hS, canonicalizeJsonValue_of_rfc8785 hS,
    Except.ok.injEq, Value.canonical_eq_iff]

/-- The metadata determines issuer and info, as far as RFC 8785 tells infos apart. -/
theorem pbrsaInfoPayload_inj (version : ProtocolV1) (a b : IssuerId) (v w : Value) :
    (pbrsaInfoPayload version a v).rfc8785 = (pbrsaInfoPayload version b w).rfc8785 ↔
      a = b ∧ v.rfc8785 = w.rfc8785 := by
  rw [pbrsaInfoPayload_rfc8785, pbrsaInfoPayload_rfc8785]
  constructor
  · intro h
    injection h with hmembers
    simp only [List.cons.injEq, Prod.mk.injEq, true_and, and_true] at hmembers
    exact ⟨IssuerId.toValue_inj hmembers.2, hmembers.1⟩
  · intro h
    rcases h with ⟨rfl, h⟩
    rw [h]

theorem canonicalizePbrsaInfo_eq_iff {S : Suite} (hS : S.Rfc8785) (version : ProtocolV1)
    (a b : IssuerId) (v w : Value) :
    canonicalizePbrsaInfo S version a v = canonicalizePbrsaInfo S version b w ↔
      a = b ∧ v.rfc8785 = w.rfc8785 := by
  unfold canonicalizePbrsaInfo
  rw [canonicalizeJsonValue_eq_iff hS, pbrsaInfoPayload_inj]

/-- The message determines the blind message. -/
theorem pbrsaBlindMsgPayload_inj (version : ProtocolV1) (v w : Value) :
    (pbrsaBlindMsgPayload version v).rfc8785 = (pbrsaBlindMsgPayload version w).rfc8785 ↔
      v.rfc8785 = w.rfc8785 := by
  rw [pbrsaBlindMsgPayload_rfc8785, pbrsaBlindMsgPayload_rfc8785]
  constructor
  · intro h
    injection h with hmembers
    simp only [List.cons.injEq, Prod.mk.injEq, true_and, and_true] at hmembers
    exact hmembers
  · intro h
    rw [h]

/-- The credential form determines issuer, info and blind message. -/
theorem Credential.toValue_inj (p q : Credential) :
    p.toValue.rfc8785 = q.toValue.rfc8785 ↔
      p.issuerIdPubkey = q.issuerIdPubkey ∧ p.info.rfc8785 = q.info.rfc8785 ∧
        p.blindMsg.rfc8785 = q.blindMsg.rfc8785 := by
  rw [Credential.toValue_rfc8785, Credential.toValue_rfc8785]
  constructor
  · intro h
    injection h with hmembers
    simp only [List.cons.injEq, Prod.mk.injEq, true_and, and_true] at hmembers
    exact ⟨IssuerId.toValue_inj hmembers.2.2, hmembers.2.1, hmembers.1⟩
  · intro h
    rcases h with ⟨hid, hinfo, hmsg⟩
    rw [hid, hinfo, hmsg]

end PeerBadge
