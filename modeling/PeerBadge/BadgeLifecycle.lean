import PeerBadge.Browser

/-! # A badge from JavaScript to JavaScript

An issuing application turns a level into an info and a holder key into a blind message,
a holder and an issuer exchange a request and a response, and a verifying application
reads the badge off the credential. The level is a JavaScript number all the way: of all
doubles the twelve levels are let in, and the one that went in comes out.
-/

namespace PeerBadge

variable {S : Suite} {B : Bindgen S} {fromDer : Bytes → Except S.PbrsaError S.PbrsaPublicKey}

namespace Wasm

/-! ## Levels -/

/-- The JavaScript number of a level. -/
def levelNumber (trustLevel : UInt64) : F64 := .finite (Number.posInt trustLevel).toBinary64

/-- A double without a fraction is the double of its whole part. -/
theorem bits_of_isWhole {x : Binary64} (h : x.IsWhole) :
    x.bits = Binary64.roundMagnitude x.whole := by
  have hunits : Binary64.units x.bits = x.whole * 2 ^ Binary64.unitExponent :=
    (Nat.div_mul_cancel (Nat.dvd_of_mod_eq_zero h)).symm
  have hround := Binary64.roundMagnitude_units x.bits
  rw [hunits] at hround
  rw [← hround]
  push_cast
  field_simp

theorem whole_of_bits {x : Binary64} {n : Nat} (hn : n ≤ 2 ^ 53)
    (h : x.bits = Binary64.roundMagnitude n) : x.IsWhole ∧ x.whole = n := by
  have hunits : Binary64.units x.bits = n * 2 ^ Binary64.unitExponent := by
    rw [h, Binary64.units_roundMagnitude_natCast hn]
  rw [Binary64.IsWhole, Binary64.whole, hunits]
  exact ⟨Nat.mul_mod_left _ _, Nat.mul_div_cancel _ (Nat.two_pow_pos _)⟩

theorem saturate_toNat (n : UInt64) : saturate n.toNat = n := by
  have hlt := n.toNat_lt
  rw [saturate, Nat.min_eq_left (by omega), UInt64.ofNat_toNat]

theorem toNat_saturate (n : Nat) : (saturate n).toNat = min n (2 ^ 64 - 1) := by
  apply UInt64.toNat_ofNat_of_lt'
  have hsize : UInt64.size = 2 ^ 64 := rfl
  omega

/-- A whole double that is no negative number and is cast to a level is its number. -/
theorem eq_levelNumber_of_isWhole {x : Binary64} (hwhole : x.IsWhole)
    (hsign : ¬(x.negative ∧ x.bits ≠ 0)) (hlegal : LegalLevel (saturate x.whole)) :
    x = (Number.posInt (saturate x.whole)).toBinary64 := by
  have hsmall := hlegal.toNat_lt
  have hpos := UInt64.lt_iff_toNat_lt.mp hlegal.pos
  have hvalue : (saturate x.whole).toNat = x.whole := by
    rw [toNat_saturate] at hsmall ⊢
    omega
  have hbits := bits_of_isWhole hwhole
  have hnonzero : x.bits ≠ 0 := by
    rw [hbits, ← hvalue]
    exact Binary64.roundMagnitude_natCast_ne_zero hpos
  have hnegative : x.negative = false := by
    rw [Bool.eq_false_iff]
    intro hneg
    exact hsign ⟨hneg, hnonzero⟩
  rcases x with ⟨negative, bits, finite⟩
  simp only [Number.toBinary64, Binary64.ofNat, Binary64.mk.injEq]
  exact ⟨hnegative, by rw [hvalue]; exact hbits⟩

theorem isJs_trustScoreInfoV1 {trustLevel : UInt64} {info : Value}
    (h : PeerBadge.trustScoreInfoV1 trustLevel = .ok info) : info.IsJs := by
  rcases PeerBadge.trustScoreInfoV1_eq_ok.mp h with ⟨hlegal, rfl⟩
  simp [Value.IsJs, Number.throughDouble_posInt hlegal.toNat_lt]

theorem plain_trustScoreInfoV1 {trustLevel : UInt64} {info : Value}
    (h : PeerBadge.trustScoreInfoV1 trustLevel = .ok info) : info.Plain := by
  rcases PeerBadge.trustScoreInfoV1_eq_ok.mp h with ⟨-, rfl⟩
  exact Value.plain_object (by simp)

/-- Of all doubles the numbers of the levels are accepted. -/
theorem trustScoreInfoV1_eq_ok (hB : B.Documented fromDer) {level : F64} {js : JsValue} :
    trustScoreInfoV1 B level = .ok js ↔
      ∃ trustLevel info, level = levelNumber trustLevel ∧
        PeerBadge.trustScoreInfoV1 trustLevel = .ok info ∧ info.parsed = js := by
  constructor
  · intro h
    cases level with
    | infinite negative => cases h
    | nan => cases h
    | finite x =>
        rw [trustScoreInfoV1, Outcome.guard_eq_ok, Outcome.bind_eq_ok, not_or, not_not] at h
        rcases h with ⟨⟨hwhole, hsign⟩, info, hinfo, hjs⟩
        have hinfo' := Outcome.mapError_eq_ok.mp hinfo
        have hlegal := (PeerBadge.trustScoreInfoV1_eq_ok.mp hinfo').1
        refine ⟨saturate x.whole, info, ?_, hinfo', ?_⟩
        · exact congrArg F64.finite (eq_levelNumber_of_isWhole hwhole hsign hlegal)
        · rw [toJs_of_isJs hB (plain_trustScoreInfoV1 hinfo') (isJs_trustScoreInfoV1 hinfo')] at hjs
          exact Except.ok.inj hjs
  · intro h
    rcases h with ⟨trustLevel, info, rfl, hinfo, rfl⟩
    have hlegal := (PeerBadge.trustScoreInfoV1_eq_ok.mp hinfo).1
    have hbits := (Number.toBinary64_posInt trustLevel).2
    rcases whole_of_bits hlegal.toNat_lt.le hbits with ⟨hwhole, hvalue⟩
    rw [levelNumber, trustScoreInfoV1, Outcome.guard_eq_ok, Outcome.bind_eq_ok, not_or, not_not]
    refine ⟨⟨hwhole, ?_⟩, info, ?_,
      toJs_of_isJs hB (plain_trustScoreInfoV1 hinfo) (isJs_trustScoreInfoV1 hinfo)⟩
    · intro hnegative
      cases hnegative.1
    · rw [hvalue, saturate_toNat, hinfo, Outcome.mapError_ok]

/-! ## The way of a badge -/

/-- The badge as JavaScript sees it. -/
def badgeJs (trustLevel : F64) (holder : NostrPublicKey) : JsValue :=
  .obj [("holder_pubkey", .str (nostrHex holder)), ("trust_level", .num trustLevel)]

theorem parseTrustScoreBadgeV1_parsed (hB : B.Documented fromDer) (hkeys : S.KeyRoundTrip)
    {credential : SignedCredential} (hinfo : credential.credential.info.IsJs)
    (hmsg : credential.credential.blindMsg.IsJs) {badge : TrustScoreBadgeV1}
    (h : PeerBadge.parseTrustScoreBadgeV1 S credential.credential = .ok badge) :
    parseTrustScoreBadgeV1 B credential.toValue.parsed
      = .ok (badgeJs (levelNumber badge.trustLevel) badge.holderPubkey) := by
  rcases parseTrustScoreBadgeV1_eq_ok.mp h with ⟨info, -, -, hlegal⟩
  have hread : (fromJs B.signedCredential credential.toValue.parsed : Except (JsError S) _)
      = .ok credential :=
    fromJs_of_isJs hB.signedCredential rfl (SignedCredential.isJs_toValue hinfo hmsg)
      (SignedCredential.ofDocument_toValue hkeys credential)
  have hbadge : (Value.object
      [("trust_level", .number (.posInt badge.trustLevel)),
        ("holder_pubkey", .string (nostrHex badge.holderPubkey))]).IsJs := by
    simp [Value.IsJs, Number.throughDouble_posInt hlegal.toNat_lt]
  rw [parseTrustScoreBadgeV1, hread, Outcome.ok_bind, h, Outcome.mapError_ok, Outcome.ok_bind,
    toJs_of_isJs hB (Value.plain_object (by simp)) hbadge]
  simp only [Value.parsed, Value.object, Value.number, Value.string, List.map, Json.ofMembers,
    List.foldl, Json.insertMember, String.reduceLT, if_true, Json.mapNum_obj, Json.mapNum_num,
    Json.mapNum_str, badgeJs, levelNumber]

/-- The info and the blind message of a badge are built in JavaScript, and a credential is
issued for them there. Then the level was one of the twelve, the holder gets the
credential, it is accepted until it is revoked, and the badge read off it is the level
that went in with the key of the holder, however that was spelled. -/
theorem badge_lifecycle (hB : B.Documented fromDer) (hS : S.Rfc8785) (hkeys : S.KeyRoundTrip)
    (hder : S.DerRoundTrip fromDer) (hcomplete : S.PbrsaComplete) (hplain : S.PbrsaDeterministic)
    (hhex : S.ParsesHex) (issuer : IssuerContext S) {locations : List RevocationLocation}
    {rng : S.NostrRng} {authority : IssuerAuthority S}
    (hauthority : issuer.issuerAuthority locations rng = .ok authority) {form : Value}
    (hform : authority.toValue = .ok form) {level : F64} {holderText : String}
    {holder : NostrPublicKey} (hholder : S.parsePublicKey holderText = .ok holder)
    {info blindMsg : JsValue}
    (hinfo : trustScoreInfoV1 B level = .ok info)
    (hmsg : trustScoreBlindMsgV1 B holderText = .ok blindMsg)
    {requestRng responseRng : S.PbrsaRng} {request response : JsValue} {pending : PendingIssuance}
    (hrequest : createRequest B form.parsed info blindMsg requestRng = .ok (request, pending))
    (hresponse : issueCredential B issuer info request responseRng = .ok response) :
    (∃ trustLevel, LegalLevel trustLevel ∧ level = levelNumber trustLevel) ∧
    ∃ credential, finalize B pending form.parsed response = .ok credential ∧
      parseTrustScoreBadgeV1 B credential = .ok (badgeJs level holder) ∧
      ∀ calls : List (Call S), LastKey issuer.issuerId calls issuer.keyPair.pk →
        (verifyCredential B (VerificationContext.run calls) credential = .ok true ↔
          ∃ digest, Credential.digest S
              ⟨issuer.issuerId, .ofJs info, .ofJs blindMsg⟩ = .ok digest ∧
            ¬Revoked issuer.issuerId ⟨digest⟩ calls) := by
  rcases (trustScoreInfoV1_eq_ok hB).mp hinfo with ⟨trustLevel, infoValue, rfl, hconstruct, rfl⟩
  have hlegal := (PeerBadge.trustScoreInfoV1_eq_ok.mp hconstruct).1
  refine ⟨⟨trustLevel, hlegal, rfl⟩, ?_⟩
  -- both values are read back as they were built
  have hinfoRead : Value.ofJs infoValue.parsed = infoValue :=
    (Value.ofJs_parsed infoValue).trans (isJs_trustScoreInfoV1 hconstruct)
  have hmsgRead : Value.ofJs blindMsg = PeerBadge.trustScoreBlindMsgV1 holder := by
    simp only [trustScoreBlindMsgV1, hholder] at hmsg
    have hjs : (PeerBadge.trustScoreBlindMsgV1 holder).IsJs := rfl
    have hplainMsg : (PeerBadge.trustScoreBlindMsgV1 holder).Plain := Value.plain_string _
    rw [toJs_of_isJs hB hplainMsg hjs] at hmsg
    rw [← Except.ok.inj hmsg, Value.ofJs_parsed, hjs]
  have hid := IssuerContext.issuerAuthority_payload hauthority
  rcases (createRequest_eq_ok hB hkeys hder hform).mp hrequest with ⟨nativeRequest, hnative, rfl⟩
  rw [hid.1, hid.2] at hnative
  have hinfoPlain : (Value.ofJs infoValue.parsed).Plain := by
    rw [hinfoRead]
    exact plain_trustScoreInfoV1 hconstruct
  have hmsgPlain : (Value.ofJs blindMsg).Plain := by
    rw [hmsgRead]
    exact Value.plain_string _
  rcases issueCredential_arrives hB hinfoPlain hresponse with ⟨nativeResponse, hissue, harrives⟩
  rcases exists_credential hB hS hkeys hder hcomplete hplain hauthority hform hinfoPlain hmsgPlain
    hnative hissue harrives rfl with ⟨credential, hfinal, hpayload, hverify⟩
  refine ⟨credential.toValue.parsed, hfinal, ?_, ?_⟩
  · have hbadge : PeerBadge.parseTrustScoreBadgeV1 S credential.credential
        = .ok ⟨trustLevel, holder⟩ := by
      rw [hpayload, hinfoRead, hmsgRead]
      exact parseTrustScoreBadgeV1_of_constructors hhex hconstruct holder
    apply parseTrustScoreBadgeV1_parsed hB hkeys _ _ hbadge <;> rw [hpayload]
    · exact Value.isJs_ofJs _
    · exact Value.isJs_ofJs _
  · intro calls hkey
    rw [hverify calls hkey, hpayload]

/-- Level `7` from one JavaScript application to another. -/
theorem badge_lifecycle_seven :
    ∃ authority form info blindMsg request pending response credential,
      Reference.issuer.issuerAuthority [] () = .ok authority ∧ authority.toValue = .ok form ∧
      trustScoreInfoV1 Reference.bindgen (.finite Reference.seven) = .ok info ∧
      trustScoreBlindMsgV1 Reference.bindgen (nostrHex Reference.identityKeys) = .ok blindMsg ∧
      createRequest Reference.bindgen form.parsed info blindMsg Reference.blindingRng
        = .ok (request, pending) ∧
      issueCredential Reference.bindgen Reference.issuer info request Reference.blindingRng
        = .ok response ∧
      finalize Reference.bindgen pending form.parsed response = .ok credential ∧
      parseTrustScoreBadgeV1 Reference.bindgen credential
        = .ok (badgeJs (.finite Reference.seven) Reference.identityKeys) := by
  rcases Reference.exists_authorizes with ⟨authority, hauthority, hauthorizes⟩
  rcases Reference.exists_form hauthority with ⟨form, hform⟩
  have hlevel : F64.finite Reference.seven = levelNumber 7 := by decide +kernel
  have hconstruct : ∃ info, PeerBadge.trustScoreInfoV1 7 = .ok info := ⟨_, rfl⟩
  rcases hconstruct with ⟨info, hconstruct⟩
  have hinfo := (trustScoreInfoV1_eq_ok Reference.bindgen_documented).mpr
    ⟨7, info, hlevel, hconstruct, rfl⟩
  have hholder : Reference.suite.parsePublicKey (nostrHex Reference.identityKeys)
      = .ok Reference.identityKeys := Reference.parsesHex _
  have hmsg : trustScoreBlindMsgV1 Reference.bindgen (nostrHex Reference.identityKeys)
      = .ok Reference.holderMsg.parsed := by
    simp only [trustScoreBlindMsgV1, hholder]
    exact toJs_of_isJs Reference.bindgen_documented (Value.plain_string _) rfl
  rcases Reference.exists_response (.ofJs info.parsed) info (.ofJs Reference.holderMsg.parsed)
    Reference.blindingRng Reference.blindingRng with
    ⟨request, pending, response, hrequest, hresponse⟩
  rw [← hauthorizes.2.1, ← hauthorizes.2.2] at hrequest
  have hjs : createRequest Reference.bindgen form.parsed info.parsed Reference.holderMsg.parsed
      Reference.blindingRng = .ok (request.toValue.parsed, pending) :=
    (createRequest_eq_ok Reference.bindgen_documented Reference.keyRoundTrip Reference.derRoundTrip
      hform).mpr ⟨request, hrequest, rfl⟩
  have hissue : ∃ js, issueCredential Reference.bindgen Reference.issuer info.parsed
      request.toValue.parsed Reference.blindingRng = .ok js := by
    rw [issueCredential_parsed Reference.bindgen_documented Reference.rfc8785 _
      (plain_trustScoreInfoV1 hconstruct), hresponse]
    exact ⟨_, rfl⟩
  rcases hissue with ⟨responseJs, hissue⟩
  rcases badge_lifecycle Reference.bindgen_documented Reference.rfc8785 Reference.keyRoundTrip
    Reference.derRoundTrip Reference.pbrsaComplete Reference.pbrsaDeterministic Reference.parsesHex
    Reference.issuer hauthority hform hholder hinfo hmsg hjs hissue with
    ⟨-, credential, hfinal, hbadge, -⟩
  exact ⟨authority, form, info.parsed, Reference.holderMsg.parsed, request.toValue.parsed, pending,
    responseJs, credential, hauthority, hform, hinfo, hmsg, hjs, hissue, hfinal, hbadge⟩

end Wasm

end PeerBadge
