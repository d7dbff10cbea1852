import PeerBadge.Agreement
import PeerBadge.Issuance

/-! # Holders in JavaScript

A holder behind the JavaScript binding asks for an info, and compares the info of the
response with it. Both infos have come from JavaScript, so they are equal exactly when
they have one canonical form, and the comparison does what it is for: the holder gets its
credential from an issuer that signed the canonical info it asked for, and reports a
mismatch otherwise. A native holder is not as lucky.

The credential is handed to JavaScript whole when its info and its blind message have no
member that cannot be set there.
-/

namespace PeerBadge

variable {S : Suite} {B : Bindgen S} {fromDer : Bytes → Except S.PbrsaError S.PbrsaPublicKey}

namespace Wasm

/-! ## Steps -/

/-- A request from JavaScript is a native one for what the values are read as. -/
theorem createRequest_eq_ok (hB : B.Documented fromDer) (hkeys : S.KeyRoundTrip)
    (hder : S.DerRoundTrip fromDer) {authority : IssuerAuthority S} {form : Value}
    (hform : authority.toValue = .ok form) {info blindMsg : JsValue} {rng : S.PbrsaRng}
    {requestJs : JsValue} {pending : PendingIssuance} :
    createRequest B form.parsed info blindMsg rng = .ok (requestJs, pending) ↔
      ∃ request, PendingIssuance.createRequest authority.issuer.issuanceKey
          authority.issuer.issuerIdPubkey (.ofJs info) (.ofJs blindMsg) rng
            = .ok (request, pending) ∧
        request.toValue.parsed = requestJs := by
  rw [createRequest, fromJs_authority hB hkeys hder hform, Outcome.ok_bind, fromJs_ofJs hB,
    Outcome.ok_bind, fromJs_ofJs hB, Outcome.ok_bind]
  simp only [Outcome.bind_eq_ok, Outcome.mapError_eq_ok, Prod.exists,
    toJs_of_isJs hB (IssuanceRequest.plain_toValue _) (IssuanceRequest.isJs_toValue _),
    Except.ok.injEq, Prod.mk.injEq]
  constructor
  · intro h
    rcases h with ⟨request, _, hrequest, js, rfl, rfl, rfl⟩
    exact ⟨request, hrequest, rfl⟩
  · intro h
    rcases h with ⟨request, hrequest, rfl⟩
    exact ⟨request, pending, hrequest, _, rfl, rfl, rfl⟩

/-- The response of an issuer in JavaScript arrives like that of a native one. -/
theorem issueCredential_arrives (hB : B.Documented fromDer) {issuer : IssuerContext S}
    {info : JsValue} (hplain : (Value.ofJs info).Plain) {request : IssuanceRequest}
    {rng : S.PbrsaRng} {responseJs : JsValue}
    (h : issueCredential B issuer info request.toValue.parsed rng = .ok responseJs) :
    ∃ response, issuer.issueCredential (.ofJs info) request rng = .ok response ∧
      response.toValue.Arrives responseJs := by
  rw [issueCredential, fromJs_ofJs hB, Outcome.ok_bind, fromJs_request hB, Outcome.ok_bind,
    Outcome.bind_eq_ok] at h
  rcases h with ⟨response, hresponse, hjs⟩
  have hissue := Outcome.mapError_eq_ok.mp hresponse
  have hinfo := (IssuerContext.issueCredential_payload hissue).2
  refine ⟨response, hissue, ?_⟩
  rw [toJs_of_isJs hB (IssuanceResponse.plain_toValue (hinfo ▸ hplain))
    (IssuanceResponse.isJs_toValue (hinfo ▸ Value.isJs_ofJs info))] at hjs
  rw [← Except.ok.inj hjs]
  exact Value.arrives_parsed _

/-- Only the info of a response may change on the way. -/
theorem fromJs_response (hB : B.Documented fromDer) (hkeys : S.KeyRoundTrip)
    {response : IssuanceResponse} {js : JsValue} (h : response.toValue.Arrives js) :
    (fromJs B.issuanceResponse js : Except (JsError S) IssuanceResponse)
      = .ok { response with info := response.info.throughDoubles } := by
  have hform : response.toValue.throughDoubles
      = { response with info := response.info.throughDoubles }.toValue := by
    simp [IssuanceResponse.toValue]
  have hread : IssuanceResponse.ofDocument S response.toValue.throughDoubles.tree
      = .ok { response with info := response.info.throughDoubles } := by
    rw [hform, IssuanceResponse.ofDocument_toValue hkeys]
  rw [fromJs, hB.issuanceResponse.eq_ok_of_arrives rfl h hread, Outcome.mapError_ok]

theorem finalize_of_arrives (hB : B.Documented fromDer) (hkeys : S.KeyRoundTrip)
    (hder : S.DerRoundTrip fromDer) {authority : IssuerAuthority S} {form : Value}
    (hform : authority.toValue = .ok form) {response : IssuanceResponse} {js : JsValue}
    (h : response.toValue.Arrives js) (pending : PendingIssuance) :
    finalize B pending form.parsed js =
      (pending.finalizeWasm authority
        { response with info := response.info.throughDoubles }).mapError .protocol >>=
          fun credential => toJs B credential.toValue := by
  rw [finalize, fromJs_authority hB hkeys hder hform, Outcome.ok_bind, fromJs_response hB hkeys h,
    Outcome.ok_bind]

/-! ## Issuance -/

/-- The issuer has signed the canonical info the holder asked for. -/
theorem exists_credential (hB : B.Documented fromDer) (hS : S.Rfc8785) (hkeys : S.KeyRoundTrip)
    (hder : S.DerRoundTrip fromDer) (hcomplete : S.PbrsaComplete) (hplain : S.PbrsaDeterministic)
    {issuer : IssuerContext S} {locations : List RevocationLocation} {rng : S.NostrRng}
    {authority : IssuerAuthority S}
    (hauthority : issuer.issuerAuthority locations rng = .ok authority) {form : Value}
    (hform : authority.toValue = .ok form) {info blindMsg : JsValue}
    (hinfo : (Value.ofJs info).Plain) (hmsg : (Value.ofJs blindMsg).Plain)
    {requestRng responseRng : S.PbrsaRng} {request : IssuanceRequest} {pending : PendingIssuance}
    (hrequest : PendingIssuance.createRequest issuer.keyPair.pk issuer.issuerId (.ofJs info)
      (.ofJs blindMsg) requestRng = .ok (request, pending)) {info' : Value}
    {response : IssuanceResponse} {responseJs : JsValue}
    (hissue : issuer.issueCredential info' request responseRng = .ok response)
    (harrives : response.toValue.Arrives responseJs)
    (hcanonical : info'.rfc8785 = (Value.ofJs info).rfc8785) :
    ∃ credential : SignedCredential,
      finalize B pending form.parsed responseJs = .ok credential.toValue.parsed ∧
      credential.credential = ⟨issuer.issuerId, .ofJs info, .ofJs blindMsg⟩ ∧
      ∀ calls : List (Call S), LastKey issuer.issuerId calls issuer.keyPair.pk →
        (verifyCredential B (VerificationContext.run calls) credential.toValue.parsed = .ok true ↔
          ∃ digest, credential.credential.digest S = .ok digest ∧
            ¬Revoked issuer.issuerId ⟨digest⟩ calls) := by
  rcases IssuerContext.issuerAuthority_eq_ok.mp hauthority with ⟨digest, -, rfl⟩
  rcases IssuerContext.issueCredential_payload hissue with ⟨hresponseId, hresponseInfo⟩
  -- on the way the info takes the spelling it was asked for in
  have harrived : response.info.throughDoubles = .ofJs info := by
    rw [hresponseInfo, Value.throughDoubles_eq_iff.mpr hcanonical]
    exact Value.isJs_ofJs info
  have hissue' : issuer.issueCredential (.ofJs info) request responseRng
      = .ok { response with info := .ofJs info } := by
    rw [issueCredential_congr hS issuer hcanonical request responseRng, hissue]
    rfl
  rcases PendingIssuance.finalize_of_issueCredential hcomplete hplain hrequest hissue' with
    ⟨credential, hfinal, hpayload, hproof⟩
  have hwritten : (toJs B credential.toValue : Except (JsError S) JsValue)
      = .ok credential.toValue.parsed := by
    apply toJs_of_isJs hB
    · apply SignedCredential.plain_toValue <;> rw [hpayload]
      · exact hinfo
      · exact hmsg
    · apply SignedCredential.isJs_toValue <;> rw [hpayload]
      · exact Value.isJs_ofJs info
      · exact Value.isJs_ofJs blindMsg
  refine ⟨credential, ?_, hpayload, ?_⟩
  · rw [finalize_of_arrives hB hkeys hder hform harrives, harrived,
      PendingIssuance.finalizeWasm_eq_ok.mpr ⟨hresponseId.symm, hfinal⟩, Outcome.mapError_ok,
      Outcome.ok_bind, hwritten]
  · intro calls hkey
    have hissuerId : credential.credential.issuerIdPubkey = issuer.issuerId := by rw [hpayload]
    rw [verifyCredential_parsed hB hS hkeys, verdict_eq_ok]
    rw [← hissuerId] at hkey ⊢
    simp only [VerificationContext.verifyCredential_of_lastKey hkey hproof, and_true]

/-- A holder in JavaScript asks an issuer, native or not, for a credential. If the issuer
signs the canonical info that was asked for, the holder gets the credential, if that can
be written, and every verifier that knows the issuance key accepts it until it is revoked;
if the issuer signs any other info, the holder reports a mismatch. -/
theorem javascript_issuance (hB : B.Documented fromDer) (hS : S.Rfc8785) (hkeys : S.KeyRoundTrip)
    (hder : S.DerRoundTrip fromDer) (hcomplete : S.PbrsaComplete) (hplain : S.PbrsaDeterministic)
    (issuer : IssuerContext S) {locations : List RevocationLocation} {rng : S.NostrRng}
    {authority : IssuerAuthority S}
    (hauthority : issuer.issuerAuthority locations rng = .ok authority) {form : Value}
    (hform : authority.toValue = .ok form) {info blindMsg : JsValue}
    {requestRng responseRng : S.PbrsaRng} {requestJs : JsValue} {pending : PendingIssuance}
    (hrequest : createRequest B form.parsed info blindMsg requestRng = .ok (requestJs, pending)) :
    ∃ request, (fromJs B.issuanceRequest requestJs : Except (JsError S) _) = .ok request ∧
      ∀ info' response responseJs,
        issuer.issueCredential info' request responseRng = .ok response →
        response.toValue.Arrives responseJs →
        (canonicalizePbrsaInfo S .v1 issuer.issuerId info'
            = canonicalizePbrsaInfo S .v1 issuer.issuerId (.ofJs info) →
          (Value.ofJs info).Plain → (Value.ofJs blindMsg).Plain →
          ∃ credential : SignedCredential,
            finalize B pending form.parsed responseJs = .ok credential.toValue.parsed ∧
            credential.credential = ⟨issuer.issuerId, .ofJs info, .ofJs blindMsg⟩ ∧
            ∀ calls : List (Call S), LastKey issuer.issuerId calls issuer.keyPair.pk →
              (verifyCredential B (VerificationContext.run calls) credential.toValue.parsed
                  = .ok true ↔
                ∃ digest, credential.credential.digest S = .ok digest ∧
                  ¬Revoked issuer.issuerId ⟨digest⟩ calls)) ∧
        (canonicalizePbrsaInfo S .v1 issuer.issuerId info'
            ≠ canonicalizePbrsaInfo S .v1 issuer.issuerId (.ofJs info) →
          finalize B pending form.parsed responseJs = .error (.protocol .infoMismatch)) := by
  have hid := IssuerContext.issuerAuthority_payload hauthority
  rcases (createRequest_eq_ok hB hkeys hder hform).mp hrequest with ⟨request, hnative, rfl⟩
  rw [hid.1, hid.2] at hnative
  refine ⟨request, fromJs_request hB request, ?_⟩
  intro info' response responseJs hissue harrives
  rw [Ne, canonicalizePbrsaInfo_eq_iff hS]
  constructor
  · intro hcanonical hinfo hmsg
    exact exists_credential hB hS hkeys hder hcomplete hplain hauthority hform hinfo hmsg hnative
      hissue harrives hcanonical.2
  · intro hcanonical
    rcases PendingIssuance.createRequest_payload hnative with ⟨hpendingId, hpendingInfo, -⟩
    rcases IssuerContext.issueCredential_payload hissue with ⟨hresponseId, hresponseInfo⟩
    have hmismatch : pending.finalize authority.issuer.issuanceKey
        { response with info := response.info.throughDoubles } = .error .infoMismatch := by
      apply PendingIssuance.finalize_eq_infoMismatch.mpr
      refine ⟨hresponseId.trans hpendingId.symm, ?_⟩
      rw [hpendingInfo, hresponseInfo,
        (Value.isJs_throughDoubles info').eqv_iff (Value.isJs_ofJs info),
        Value.rfc8785_throughDoubles]
      intro hsame
      exact hcanonical ⟨rfl, hsame⟩
    rw [finalize_of_arrives hB hkeys hder hform harrives, PendingIssuance.finalizeWasm,
      if_neg (not_not.mpr (hid.1.trans hresponseId.symm)), hmismatch]
    rfl

/-- A holder in JavaScript asks for the info `7`, the issuer signs `7.0`, and the holder
gets a credential that is accepted. -/
theorem javascript_issuance_seven :
    ∃ authority form requestJs pending request response credential,
      Reference.issuer.issuerAuthority [] () = .ok authority ∧ authority.toValue = .ok form ∧
      createRequest Reference.bindgen form.parsed (.num (.finite Reference.seven))
        (.str "holder") Reference.blindingRng = .ok (requestJs, pending) ∧
      Reference.issuer.issueCredential (.number (.float Reference.seven)) request
        Reference.blindingRng = .ok response ∧
      finalize Reference.bindgen pending form.parsed response.toValue.parsed = .ok credential ∧
      verifyCredential Reference.bindgen (VerificationContext.run [.addIssuerAuthority authority])
        credential = .ok true := by
  rcases Reference.exists_authorizes with ⟨authority, hauthority, hauthorizes⟩
  rcases Reference.exists_form hauthority with ⟨form, hform⟩
  let info : JsValue := .num (.finite Reference.seven)
  rcases Reference.exists_response (.ofJs info) (.number (.float Reference.seven))
    (.ofJs (.str "holder")) Reference.blindingRng Reference.blindingRng with
    ⟨request, pending, response, hrequest, hresponse⟩
  rw [← hauthorizes.2.1, ← hauthorizes.2.2] at hrequest
  have hjs : createRequest Reference.bindgen form.parsed info (.str "holder") Reference.blindingRng
      = .ok (request.toValue.parsed, pending) :=
    (createRequest_eq_ok Reference.bindgen_documented Reference.keyRoundTrip Reference.derRoundTrip
      hform).mpr ⟨request, hrequest, rfl⟩
  rcases javascript_issuance Reference.bindgen_documented Reference.rfc8785 Reference.keyRoundTrip
    Reference.derRoundTrip Reference.pbrsaComplete Reference.pbrsaDeterministic Reference.issuer
    hauthority hform hjs with ⟨request', hread, hspec⟩
  -- the issuer reads the request that was made
  have hsame : request = request' := by
    have hread' := fromJs_request Reference.bindgen_documented request
    exact Except.ok.inj (hread'.symm.trans hread)
  rw [← hsame] at hspec
  have hcanonical : canonicalizePbrsaInfo Reference.suite .v1 Reference.issuer.issuerId
      (.number (.float Reference.seven))
        = canonicalizePbrsaInfo Reference.suite .v1 Reference.issuer.issuerId (.ofJs info) := by
    apply (canonicalizePbrsaInfo_eq_iff Reference.rfc8785 _ _ _ _ _).mpr
    have hinfo : Value.ofJs info = (Value.number (.float Reference.seven)).throughDoubles :=
      Value.ofJs_parsed (.number (.float Reference.seven))
    rw [hinfo, Value.rfc8785_throughDoubles]
    exact ⟨rfl, rfl⟩
  rcases (hspec _ response _ hresponse (Value.arrives_parsed _)).1 hcanonical
    (Value.plain_number _) (Value.plain_string _) with
    ⟨credential, hfinal, hpayload, hverify⟩
  rcases lastKey_singleton hauthorizes with ⟨hkey, hfree⟩
  rcases credential.credential.exists_digest Reference.canonicalizes with ⟨digest, hdigest⟩
  exact ⟨authority, form, _, pending, request, response, _, hauthority, hform, hjs, hresponse,
    hfinal, (hverify _ hkey).mpr ⟨digest, hdigest, hfree _⟩⟩

end Wasm

end PeerBadge
