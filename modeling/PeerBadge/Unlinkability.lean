import PeerBadge.Issuance
import PeerBadge.Runs

/-! # Unlinkability

What an issuer sees of an issuance is a request and its own response. Both come from the
metadata and from a blinded message, and any blinded message can be blinded from any
message. So the issuer's view of one session fits the credential of any other session
under the same info: nothing it has seen says which credential came from which request.
-/

namespace PeerBadge

variable {S : Suite}

/-- An honest issuance from start to end: what passes the issuer, and the credential. -/
def honestSession (issuer : IssuerContext S) (info blindMsg : Value) (rng issuerRng : S.PbrsaRng) :
    Except (CredentialsError S) ((IssuanceRequest × IssuanceResponse) × SignedCredential) := do
  let (request, pending) ← PendingIssuance.createRequest issuer.keyPair.pk issuer.issuerId info
    blindMsg rng
  let response ← issuer.issueCredential info request issuerRng
  let credential ← pending.finalize issuer.keyPair.pk response
  .ok ((request, response), credential)

section Session

variable {issuer : IssuerContext S} {info blindMsg blindMsg' : Value}
  {rng rng' : S.PbrsaRng} {request : IssuanceRequest} {response : IssuanceResponse}
  {credential credential' : SignedCredential}

theorem honestSession_eq_ok {issuerRng : S.PbrsaRng} :
    honestSession issuer info blindMsg rng issuerRng = .ok ((request, response), credential) ↔
      ∃ pending,
        PendingIssuance.createRequest issuer.keyPair.pk issuer.issuerId info blindMsg rng
          = .ok (request, pending) ∧
        issuer.issueCredential info request issuerRng = .ok response ∧
        pending.finalize issuer.keyPair.pk response = .ok credential := by
  simp only [honestSession, Outcome.bind_eq_ok, Except.ok.injEq, Prod.mk.injEq, Prod.exists]
  constructor
  · intro h
    rcases h with ⟨_, pending, hrequest, _, hresponse, _, hfinal, ⟨rfl, rfl⟩, rfl⟩
    exact ⟨pending, hrequest, hresponse, hfinal⟩
  · intro h
    rcases h with ⟨pending, hrequest, hresponse, hfinal⟩
    exact ⟨_, pending, hrequest, _, hresponse, _, hfinal, ⟨rfl, rfl⟩, rfl⟩

/-- An answer does not depend on the issuer's randomness. -/
theorem issueCredential_rng (hsign : S.BlindSignDetermined) (issuerRng issuerRng' : S.PbrsaRng) :
    issuer.issueCredential info request issuerRng = issuer.issueCredential info request issuerRng' := by
  simp only [IssuerContext.issueCredential]
  cases hmetadata : canonicalizePbrsaInfo S .v1 issuer.issuerId info with
  | error e => rfl
  | ok metadata =>
      cases hsecret : S.deriveSecretKeyForMetadata issuer.keyPair.pk issuer.keyPair.sk metadata with
      | error e => simp only [Outcome.mapError_ok, Outcome.ok_bind, hsecret, Outcome.mapError_error,
          Outcome.error_bind]
      | ok secretKey =>
          simp only [Outcome.mapError_ok, Outcome.ok_bind, hsecret,
            hsign issuer.keyPair metadata secretKey hsecret issuerRng issuerRng']

theorem honestSession_issuerRng (hsign : S.BlindSignDetermined) (issuerRng issuerRng' : S.PbrsaRng) :
    honestSession issuer info blindMsg rng issuerRng
      = honestSession issuer info blindMsg rng issuerRng' := by
  unfold honestSession
  simp only [issueCredential_rng hsign issuerRng issuerRng']

/-- A request can be made for any other blind message, with any salt. -/
theorem exists_createRequest {Salt : Type} {salt : S.PbrsaRng → Salt} (hlinks : S.BlindingLinks salt)
    {pending : PendingIssuance}
    (h : PendingIssuance.createRequest issuer.keyPair.pk issuer.issuerId info blindMsg rng
      = .ok (request, pending)) {message' : Bytes}
    (hmessage' : canonicalizePbrsaBlindMsg S .v1 blindMsg' = .ok message') (s : Salt) :
    ∃ rng' metadata publicKey result, salt rng' = s ∧
      canonicalizePbrsaInfo S .v1 issuer.issuerId info = .ok metadata ∧
      S.derivePublicKeyForMetadata issuer.keyPair.pk metadata = .ok publicKey ∧
      S.blind publicKey rng' message' (some metadata) = .ok result ∧
      result.blindMessage = request.blindedMessage ∧
      PendingIssuance.createRequest issuer.keyPair.pk issuer.issuerId info blindMsg' rng'
        = .ok (request, .ofBlinding issuer.issuerId info blindMsg' result) := by
  rcases PendingIssuance.createRequest_eq_ok.mp h with
    ⟨metadata, message, publicKey, result, hmetadata, -, hpublic, hblind, rfl, -⟩
  rcases hlinks issuer.keyPair metadata publicKey rng message result hpublic hblind message' s with
    ⟨rng', result', hsalt, hblind', hsame⟩
  refine ⟨rng', metadata, publicKey, result', hsalt, hmetadata, hpublic, hblind', hsame, ?_⟩
  apply PendingIssuance.createRequest_eq_ok.mpr
  exact ⟨metadata, message', publicKey, result', hmetadata, hmessage', hpublic, hblind',
    by rw [hsame], rfl⟩

/-- The request and the response of one session lead to the credential of another. -/
theorem honestSession_exchange {Salt : Type} {salt : S.PbrsaRng → Salt}
    (hlinks : S.BlindingLinks salt) (hfinalize : S.FinalizeDetermined salt)
    {issuerRng issuerRng' : S.PbrsaRng} {view view' : IssuanceRequest × IssuanceResponse}
    (h : honestSession issuer info blindMsg rng issuerRng = .ok (view, credential))
    (h' : honestSession issuer info blindMsg' rng' issuerRng' = .ok (view', credential')) :
    ∃ rng'', honestSession issuer info blindMsg' rng'' issuerRng = .ok (view, credential') := by
  rcases honestSession_eq_ok.mp h with ⟨pending, hrequest, hresponse, -⟩
  rcases honestSession_eq_ok.mp h' with ⟨pending', hrequest', hresponse', hfinal'⟩
  -- what the other session has signed
  rcases PendingIssuance.createRequest_eq_ok.mp hrequest' with
    ⟨metadata, message', publicKey, result', hmetadata, hmessage', hpublic, hblind', hview', rfl⟩
  rcases IssuerContext.issueCredential_eq_ok.mp hresponse' with
    ⟨_, secretKey, signature', hmetadata', hsecret, hsign', hanswer'⟩
  cases hmetadata.symm.trans hmetadata'
  -- a request for its message that looks like the one of this session
  rcases exists_createRequest hlinks hrequest hmessage' (salt rng') with
    ⟨rng'', _, _, result, hsalt, hmetadata'', hpublic'', hblind, hsame, hcreate⟩
  cases hmetadata.symm.trans hmetadata''
  cases hpublic.symm.trans hpublic''
  refine ⟨rng'', honestSession_eq_ok.mpr ⟨_, hcreate, hresponse, ?_⟩⟩
  rcases IssuerContext.issueCredential_eq_ok.mp hresponse with
    ⟨_, _, signature, hmetadata'', hsecret', hsign, hanswer⟩
  cases hmetadata.symm.trans hmetadata''
  cases hsecret.symm.trans hsecret'
  rw [← hsame] at hsign
  rw [hview'] at hsign'
  -- unblinding gives the signature the other session has got
  have hsignature := hfinalize issuer.keyPair metadata publicKey secretKey message' rng'' rng' result
    result' issuerRng issuerRng' signature signature' hpublic hsecret hblind hblind' hsalt hsign hsign'
  rcases PendingIssuance.finalize_eq_ok.mp hfinal' with
    ⟨-, -, _, _, _, _, final, hmetadata'', hmessage'', hpublic'', hresult', hfinal, rfl, hverify⟩
  cases hmetadata.symm.trans hmetadata''
  cases hmessage'.symm.trans hmessage''
  cases hpublic.symm.trans hpublic''
  rw [PendingIssuance.blindingResult_ofBlinding, Except.ok.injEq] at hresult'
  rw [hanswer', ← hresult', ← hsignature] at hfinal
  apply PendingIssuance.finalize_eq_ok.mpr
  rw [hanswer]
  exact ⟨rfl, Value.eq_self info, metadata, message', publicKey, result, final, hmetadata, hmessage',
    hpublic, PendingIssuance.blindingResult_ofBlinding _ _ _ result, hfinal, rfl, hverify⟩

end Session

/-- Sessions under one issuer and one info can be given each other's blind messages and
credentials without any change in what the issuer receives and returns. -/
theorem exchangeable_honestSession {Salt : Type} {salt : S.PbrsaRng → Salt}
    (hlinks : S.BlindingLinks salt) (hsign : S.BlindSignDetermined)
    (hfinalize : S.FinalizeDetermined salt) (issuer : IssuerContext S) (info : Value) :
    Runs.Exchangeable fun blindMsg rng view credential => ∀ issuerRng,
      honestSession issuer info blindMsg rng issuerRng = .ok (view, credential) := by
  intro blindMsg rng view credential blindMsg' rng' view' credential' h h'
  -- any randomness of the issuer will do for the exchange
  rcases honestSession_exchange hlinks hfinalize (h rng) (h' rng) with ⟨rng'', hexchange⟩
  refine ⟨rng'', ?_⟩
  intro issuerRng
  rw [honestSession_issuerRng hsign issuerRng rng, hexchange]

/-- Whatever the issuer sees of any number of honest sessions, every matching of its
requests to the credentials is consistent with it, and so are any other blind messages. -/
theorem issuance_unlinkable {Salt : Type} {salt : S.PbrsaRng → Salt} (hlinks : S.BlindingLinks salt)
    (hsign : S.BlindSignDetermined) (hfinalize : S.FinalizeDetermined salt)
    (issuer : IssuerContext S) (info : Value) {n : ℕ} {blindMsg : Fin n → Value}
    {rng issuerRng : Fin n → S.PbrsaRng} {request : Fin n → IssuanceRequest}
    {response : Fin n → IssuanceResponse} {credential : Fin n → SignedCredential}
    (hsessions : ∀ i, honestSession issuer info (blindMsg i) (rng i) (issuerRng i)
      = .ok ((request i, response i), credential i)) :
    (∀ π : Equiv.Perm (Fin n), ∃ rng' : Fin n → S.PbrsaRng, ∀ i issuerRng',
      honestSession issuer info (blindMsg (π i)) (rng' i) issuerRng'
        = .ok ((request i, response i), credential (π i))) ∧
    ∀ other : Fin n → Value,
      (∀ i, ∃ message, canonicalizePbrsaBlindMsg S .v1 (other i) = .ok message) →
      ∃ rng' : Fin n → S.PbrsaRng, ∀ i, ∃ pending,
        PendingIssuance.createRequest issuer.keyPair.pk issuer.issuerId info (other i) (rng' i)
          = .ok (request i, pending) ∧
        ∀ issuerRng', issuer.issueCredential info (request i) issuerRng' = .ok (response i) := by
  constructor
  · intro π
    have hruns : ∀ i issuerRng', honestSession issuer info (blindMsg i) (rng i) issuerRng'
        = .ok ((request i, response i), credential i) := by
      intro i issuerRng'
      rw [honestSession_issuerRng hsign issuerRng' (issuerRng i), hsessions i]
    exact (exchangeable_honestSession hlinks hsign hfinalize issuer info).reorder hruns π
  · intro other hother
    have hrequests : ∀ i, ∃ rng' pending,
        PendingIssuance.createRequest issuer.keyPair.pk issuer.issuerId info (other i) rng'
          = .ok (request i, pending) := by
      intro i
      rcases honestSession_eq_ok.mp (hsessions i) with ⟨pending, hrequest, -, -⟩
      rcases hother i with ⟨message, hmessage⟩
      rcases exists_createRequest hlinks hrequest hmessage (salt (rng i)) with
        ⟨rng', _, _, result, -, -, -, -, -, hcreate⟩
      exact ⟨rng', _, hcreate⟩
    choose rng' pending hcreate using hrequests
    refine ⟨rng', fun i => ⟨pending i, hcreate i, ?_⟩⟩
    intro issuerRng'
    rcases honestSession_eq_ok.mp (hsessions i) with ⟨_, -, hresponse, -⟩
    rw [issueCredential_rng hsign issuerRng' (issuerRng i), hresponse]

/-- Two sessions of the reference issuer, and the same two requests and responses with
the holders exchanged. -/
theorem issuance_unlinkable_two :
    ∃ (blindMsg : Fin 2 → Value) (view : Fin 2 → IssuanceRequest × IssuanceResponse)
        (credential : Fin 2 → SignedCredential) (rng rng' : Fin 2 → Reference.suite.PbrsaRng),
      blindMsg 0 ≠ blindMsg 1 ∧
      (∀ i, honestSession Reference.issuer (.number (.posInt 7)) (blindMsg i) (rng i)
        Reference.blindingRng = .ok (view i, credential i)) ∧
      ∀ i, honestSession Reference.issuer (.number (.posInt 7)) (blindMsg (Equiv.swap 0 1 i))
        (rng' i) Reference.blindingRng = .ok (view i, credential (Equiv.swap 0 1 i)) := by
  have hsessions : ∀ i : Fin 2, ∃ request response credential,
      honestSession Reference.issuer (.number (.posInt 7))
        (.string (if i = 0 then "alice" else "bob")) Reference.blindingRng Reference.blindingRng
        = .ok ((request, response), credential) := by
    intro i
    rcases Reference.exists_response (.number (.posInt 7)) (.number (.posInt 7))
      (.string (if i = 0 then "alice" else "bob")) Reference.blindingRng Reference.blindingRng with
      ⟨request, pending, response, hrequest, hresponse⟩
    rcases PendingIssuance.finalize_of_issueCredential Reference.pbrsaComplete
      Reference.pbrsaDeterministic hrequest hresponse with ⟨credential, hfinal, -, -⟩
    exact ⟨request, response, credential,
      honestSession_eq_ok.mpr ⟨pending, hrequest, hresponse, hfinal⟩⟩
  choose request response credential hsessions using hsessions
  rcases (issuance_unlinkable Reference.blindingLinks Reference.blindSignDetermined
    Reference.finalizeDetermined Reference.issuer (.number (.posInt 7)) hsessions).1
    (Equiv.swap 0 1) with ⟨rng', hswapped⟩
  refine ⟨_, fun i => (request i, response i), credential, _, rng', ?_, hsessions, ?_⟩
  · intro h
    exact absurd (Value.asStr_eq_some_iff.mpr h) (by decide)
  · intro i
    exact hswapped i Reference.blindingRng

end PeerBadge
