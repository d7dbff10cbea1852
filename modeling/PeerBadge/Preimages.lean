import PeerBadge.Reference
import PeerBadge.Signatures

/-! # Hash preimages

What the four digests are computed from, as one function over the four kinds of
payload, and that it is unambiguous: the domain separator gives the kind away, and
within a kind the canonical form gives the payload away.

For credentials the canonical form separates exactly what the two blind-signature
payloads separate together, so proofs, digests, revocations and authorizations all
talk about the same thing.
-/

namespace PeerBadge

variable {S : Suite}

/-- Something one of the four digest functions is applied to. -/
inductive Payload (S : Suite) where
  | issuer (issuer : Issuer S)
  | revocation (revocation : Revocation)
  | authorization (statement : HolderAuthorizationStatement)
  | credential (credential : Credential)

namespace Payload

/-- The label of the domain separator. -/
def label : Payload S → String
  | .issuer _ => "fedi-credential/issuer-authority-signature/v1"
  | .revocation _ => "fedi-credential/revocation-signature/v1"
  | .authorization _ => "fedi-credential/holder-authorization-signature/v1"
  | .credential _ => "fedi-credential/credential-digest/v1"

/-- The canonical JSON. -/
def canonical : Payload S → Except (Failure S.JsonError) Bytes
  | .issuer i => canonicalizeIssuerAuthority i
  | .revocation r => (canonicalizeRevocation S r).mapError .error
  | .authorization a => (canonicalizeHolderAuthorization S a).mapError .error
  | .credential c => (canonicalizeCredential S c).mapError .error

/-- The byte string that is hashed. -/
def preimage (payload : Payload S) : Except (Failure S.JsonError) Bytes := do
  let canonical ← payload.canonical
  .ok (domainSeparator payload.label ++ canonical)

/-- The digest function of the kind. -/
def digest : Payload S → Except (Failure (CredentialsError S)) Sha256Output
  | .issuer i => i.digest
  | .revocation r => (r.digest S).mapError .error
  | .authorization a => (a.digest S).mapError .error
  | .credential c => (c.digest S).mapError .error

/-- Every digest is the hash of the preimage of its kind. -/
theorem digest_eq_ok {payload : Payload S} {output : Sha256Output} :
    payload.digest = .ok output ↔
      ∃ bytes, payload.preimage = .ok bytes ∧ S.sha256 bytes = output := by
  have hpreimage : (∃ bytes, payload.preimage = .ok bytes ∧ S.sha256 bytes = output) ↔
      ∃ c, payload.canonical = .ok c ∧ S.sha256 (domainSeparator payload.label ++ c) = output := by
    simp only [preimage, Outcome.bind_eq_ok, Except.ok.injEq]
    constructor
    · intro h
      rcases h with ⟨_, ⟨c, hc, rfl⟩, hhash⟩
      exact ⟨c, hc, hhash⟩
    · intro h
      rcases h with ⟨c, hc, hhash⟩
      exact ⟨_, ⟨c, hc, rfl⟩, hhash⟩
  rw [hpreimage]
  cases payload with
  | issuer i => exact Issuer.digest_eq_ok
  | revocation r =>
      simp only [digest, canonical, Outcome.mapError_eq_ok]
      exact Revocation.digest_eq_ok
  | authorization a =>
      simp only [digest, canonical, Outcome.mapError_eq_ok]
      exact HolderAuthorizationStatement.digest_eq_ok
  | credential c =>
      simp only [digest, canonical, Outcome.mapError_eq_ok]
      exact Credential.digest_eq_ok

/-- The same kind and the same payload. Timestamps are told apart as long as both
are exact as doubles, infos and blind messages as RFC 8785 tells them apart. -/
def Same : Payload S → Payload S → Prop
  | .issuer a, .issuer b =>
      a.issuerIdPubkey = b.issuerIdPubkey ∧ a.issuanceKey = b.issuanceKey ∧
        a.revocation = b.revocation
  | .revocation a, .revocation b => a.credentialDigest = b.credentialDigest
  | .authorization a, .authorization b =>
      a.holderIdPubkey = b.holderIdPubkey ∧ a.subjectPubkey = b.subjectPubkey ∧
        a.credentialDigest = b.credentialDigest ∧
        (a.issuedAt.Exact → b.issuedAt.Exact → a.issuedAt = b.issuedAt)
  | .credential a, .credential b =>
      a.issuerIdPubkey = b.issuerIdPubkey ∧ a.info.rfc8785 = b.info.rfc8785 ∧
        a.blindMsg.rfc8785 = b.blindMsg.rfc8785
  | _, _ => False

/-! ## Kinds -/

/-- No label contains the byte that ends it. -/
theorem zero_notMem_label (payload : Payload S) :
    (0 : UInt8) ∉ Encoding.utf8 payload.label.toList := by
  cases payload <;> (simp only [label]; decide)

/-- Equal preimages have equal labels and equal canonical forms. -/
theorem preimage_inj {p q : Payload S} {bytes : Bytes} (hp : p.preimage = .ok bytes)
    (hq : q.preimage = .ok bytes) :
    p.label = q.label ∧ ∃ canonical, p.canonical = .ok canonical ∧ q.canonical = .ok canonical := by
  simp only [preimage, Outcome.bind_eq_ok, Except.ok.injEq, domainSeparator, List.append_assoc,
    List.cons_append, List.nil_append] at hp hq
  rcases hp with ⟨cp, hcp, rfl⟩
  rcases hq with ⟨cq, hcq, heq⟩
  rcases Encoding.append_terminator_inj (zero_notMem_label q) (zero_notMem_label p) heq with
    ⟨hlabel, rfl⟩
  constructor
  · exact (String.toList_inj.mp (Encoding.utf8_injective hlabel)).symm
  · exact ⟨cq, hcp, hcq⟩

/-! ## Payloads of one kind -/

theorem revocationLocation_inj {a b : RevocationLocation}
    (h : a.toValue.rfc8785 = b.toValue.rfc8785) : a = b := by
  rw [RevocationLocation.toValue_rfc8785, RevocationLocation.toValue_rfc8785] at h
  injection h with hmembers
  simp only [List.cons.injEq, Prod.mk.injEq, true_and, and_true, Json.str.injEq] at hmembers
  cases a
  cases b
  simp only [RevocationLocation.mk.injEq]
  exact hmembers.symm

/-- The list of locations is determined, order included. -/
theorem revocation_list_inj {as bs : List RevocationLocation}
    (h : (Value.array (as.map RevocationLocation.toValue)).rfc8785
      = (Value.array (bs.map RevocationLocation.toValue)).rfc8785) : as = bs := by
  rw [Value.rfc8785_array, Value.rfc8785_array, List.map_map, List.map_map, Json.arr.injEq] at h
  refine List.map_injective_iff.mpr ?_ h
  intro a b hab
  exact revocationLocation_inj hab

theorem issuer_inj (hS : S.Rfc8785) (hder : S.DerInjective) {a b : Issuer S} {bytes : Bytes}
    (ha : canonicalizeIssuerAuthority a = .ok bytes)
    (hb : canonicalizeIssuerAuthority b = .ok bytes) : Same (.issuer a) (.issuer b) := by
  rcases canonicalizeIssuerAuthority_eq_ok.mp ha with ⟨va, hva, hca⟩
  rcases canonicalizeIssuerAuthority_eq_ok.mp hb with ⟨vb, hvb, hcb⟩
  rcases Issuer.toValue_eq_ok.mp hva with ⟨der, hdera, rfl⟩
  rcases Issuer.toValue_eq_ok.mp hvb with ⟨der', hderb, rfl⟩
  have hvalue := (canonicalizeJsonValue_eq_iff hS _ _).mp (hca.trans hcb.symm)
  rw [issuerAuthorityPayload_rfc8785, issuerAuthorityPayload_rfc8785] at hvalue
  injection hvalue with hmembers
  simp only [List.cons.injEq, Prod.mk.injEq, true_and, and_true, Value.rfc8785_object, List.map,
    Json.ofMembers, List.foldl, Json.insertMember, String.reduceLT, String.reduceEq, if_true,
    if_false, Json.obj.injEq] at hmembers
  rcases hmembers with ⟨hkey, hid, hrevocation⟩
  have hsame : der = der' := base64UrlUnpadded_inj hkey
  refine ⟨IssuerId.toValue_inj hid, ?_, revocation_list_inj hrevocation⟩
  exact hder _ _ der hdera (hsame ▸ hderb)

theorem revocation_inj (hS : S.Rfc8785) {a b : Revocation}
    (h : canonicalizeRevocation S a = canonicalizeRevocation S b) :
    a.credentialDigest = b.credentialDigest := by
  have hvalue := (canonicalizeJsonValue_eq_iff hS _ _).mp h
  rw [revocationPayload_rfc8785, revocationPayload_rfc8785, Revocation.toValue_rfc8785,
    Revocation.toValue_rfc8785] at hvalue
  simp only [Json.obj.injEq, List.cons.injEq, Prod.mk.injEq, true_and, and_true] at hvalue
  exact CredentialDigest.toValue_inj hvalue

theorem authorization_inj (hS : S.Rfc8785) {a b : HolderAuthorizationStatement}
    (h : canonicalizeHolderAuthorization S a = canonicalizeHolderAuthorization S b) :
    Same (S := S) (.authorization a) (.authorization b) := by
  have hvalue := (canonicalizeJsonValue_eq_iff hS _ _).mp h
  rw [holderAuthorizationPayload_rfc8785, holderAuthorizationPayload_rfc8785,
    HolderAuthorizationStatement.toValue_rfc8785,
    HolderAuthorizationStatement.toValue_rfc8785] at hvalue
  simp only [Json.obj.injEq, List.cons.injEq, Prod.mk.injEq, true_and, and_true] at hvalue
  rcases hvalue with ⟨hdigest, hholder, htime, hsubject⟩
  refine ⟨HolderId.toValue_inj hholder, SubjectPubkey.toValue_inj hsubject,
    CredentialDigest.toValue_inj hdigest, ?_⟩
  intro hexact hexact'
  exact Timestamp.toValue_inj hexact hexact' htime

theorem credential_inj (hS : S.Rfc8785) {a b : Credential}
    (h : canonicalizeCredential S a = canonicalizeCredential S b) :
    Same (S := S) (.credential a) (.credential b) :=
  (Credential.toValue_inj a b).mp ((canonicalizeJsonValue_eq_iff hS _ _).mp h)

/-! ## Unambiguity -/

/-- Equal preimages are preimages of the same payload. -/
theorem same_of_preimage_eq (hS : S.Rfc8785) (hder : S.DerInjective) {p q : Payload S}
    {bytes : Bytes} (hp : p.preimage = .ok bytes) (hq : q.preimage = .ok bytes) : Same p q := by
  rcases preimage_inj hp hq with ⟨hlabel, canonical, hcp, hcq⟩
  cases p <;> cases q <;> simp only [label, String.reduceEq] at hlabel <;>
    simp only [Payload.canonical, Outcome.mapError_eq_ok] at hcp hcq
  -- only the four pairs of one kind are left
  case issuer.issuer a b => exact issuer_inj hS hder hcp hcq
  case revocation.revocation a b => exact revocation_inj hS (hcp.trans hcq.symm)
  case authorization.authorization a b => exact authorization_inj hS (hcp.trans hcq.symm)
  case credential.credential a b => exact credential_inj hS (hcp.trans hcq.symm)

/-- No two payloads of the four kinds share a preimage unless they are the same, and
so one signature is never a signature for two of them. -/
theorem preimage_unambiguous (hS : S.Rfc8785) (hder : S.DerInjective) {p q : Payload S}
    {bytes bytes' : Bytes} (hp : p.preimage = .ok bytes) (hq : q.preimage = .ok bytes') :
    p.digest = .ok (S.sha256 bytes) ∧ q.digest = .ok (S.sha256 bytes') ∧
    (bytes = bytes' → Same p q) ∧
    ∀ key signature, S.BindsDigest key signature → S.CollisionFree bytes bytes' →
      S.ValidSchnorr key signature (S.sha256 bytes) →
      S.ValidSchnorr key signature (S.sha256 bytes') → Same p q := by
  have hsame : bytes = bytes' → Same p q := by
    intro heq
    exact same_of_preimage_eq hS hder hp (heq ▸ hq)
  refine ⟨digest_eq_ok.mpr ⟨bytes, hp, rfl⟩, digest_eq_ok.mpr ⟨bytes', hq, rfl⟩, hsame, ?_⟩
  intro key signature hbinds hfree hvalid hvalid'
  exact hsame (hfree (hbinds _ _ hvalid hvalid'))

/-- An authority without locations and a revocation: different preimages. -/
theorem preimage_unambiguous_issuer_revocation :
    (Payload.issuer (S := Reference.suite) ⟨⟨Vector.replicate 32 1⟩, ⟨[2], none⟩, []⟩).preimage
      ≠ (Payload.revocation (S := Reference.suite) ⟨⟨Vector.replicate 32 3⟩⟩).preimage := by
  intro h
  have hq : (Payload.revocation (S := Reference.suite) ⟨⟨Vector.replicate 32 3⟩⟩).preimage
      = .ok _ := rfl
  exact (preimage_unambiguous Reference.rfc8785 Reference.derInjective (h.trans hq) hq).2.2.1 rfl

end Payload

/-! ## Statements that are signed alike -/

/-- RFC 8785 writes the two times alike. -/
def Timestamp.Alike (a b : Timestamp) : Prop := a.toValue.rfc8785 = b.toValue.rfc8785

namespace HolderAuthorizationStatement

/-- The same statement, but for seconds that a double rounds away. -/
structure Alike (a b : HolderAuthorizationStatement) : Prop where
  holderIdPubkey : a.holderIdPubkey = b.holderIdPubkey
  subjectPubkey : a.subjectPubkey = b.subjectPubkey
  credentialDigest : a.credentialDigest = b.credentialDigest
  issuedAt : a.issuedAt.Alike b.issuedAt

theorem alike_iff_canonicalize_eq (hS : S.Rfc8785) (a b : HolderAuthorizationStatement) :
    a.Alike b ↔ canonicalizeHolderAuthorization S a = canonicalizeHolderAuthorization S b := by
  have hvalue := canonicalizeJsonValue_eq_iff hS (holderAuthorizationPayload a)
    (holderAuthorizationPayload b)
  rw [holderAuthorizationPayload_rfc8785, holderAuthorizationPayload_rfc8785,
    HolderAuthorizationStatement.toValue_rfc8785,
    HolderAuthorizationStatement.toValue_rfc8785] at hvalue
  simp only [Json.obj.injEq, List.cons.injEq, Prod.mk.injEq, true_and, and_true] at hvalue
  rw [canonicalizeHolderAuthorization, canonicalizeHolderAuthorization, hvalue]
  constructor
  · intro h
    exact ⟨by rw [h.credentialDigest], by rw [h.holderIdPubkey], h.issuedAt,
      by rw [h.subjectPubkey]⟩
  · intro h
    rcases h with ⟨hdigest, hholder, htime, hsubject⟩
    exact ⟨HolderId.toValue_inj hholder, SubjectPubkey.toValue_inj hsubject,
      CredentialDigest.toValue_inj hdigest, htime⟩

/-- With a time JavaScript has a number for there is no other statement. -/
theorem Alike.eq_of_exact {a b : HolderAuthorizationStatement} (h : a.Alike b)
    (hexact : b.issuedAt.Exact) : b = a :=
  HolderAuthorizationStatement.ext h.holderIdPubkey.symm h.subjectPubkey.symm
    h.credentialDigest.symm (Timestamp.toValue_inj_left hexact h.issuedAt.symm)

end HolderAuthorizationStatement

/-! ## What is signed and what is digested -/

/-- Both byte strings an issuance key signs are the same. -/
def SignedAlike (S : Suite) (p q : Credential) : Prop :=
  canonicalizePbrsaInfo S .v1 p.issuerIdPubkey p.info
      = canonicalizePbrsaInfo S .v1 q.issuerIdPubkey q.info ∧
    canonicalizePbrsaBlindMsg S .v1 p.blindMsg = canonicalizePbrsaBlindMsg S .v1 q.blindMsg

/-- The blind signature and the credential digest cover the same thing. -/
theorem signedAlike_iff_canonicalizeCredential_eq (hS : S.Rfc8785) (p q : Credential) :
    (SignedAlike S p q ↔ canonicalizeCredential S p = canonicalizeCredential S q) ∧
    (SignedAlike S p q → p.digest S = q.digest S) ∧
    ((Payload.credential p : Payload S).preimage = (Payload.credential q : Payload S).preimage →
      SignedAlike S p q) := by
  have hiff : SignedAlike S p q ↔ canonicalizeCredential S p = canonicalizeCredential S q := by
    unfold SignedAlike canonicalizePbrsaBlindMsg canonicalizeCredential
    rw [canonicalizePbrsaInfo_eq_iff hS, canonicalizeJsonValue_eq_iff hS,
      canonicalizeJsonValue_eq_iff hS, pbrsaBlindMsgPayload_inj, Credential.toValue_inj, and_assoc]
  refine ⟨hiff, ?_, ?_⟩
  · intro h
    simp only [Credential.digest, hiff.mp h]
  · intro h
    have hp : (Payload.credential p : Payload S).preimage =
        .ok (domainSeparator (Payload.credential p : Payload S).label ++ p.toValue.canonical) := by
      simp only [Payload.preimage, Payload.canonical, canonicalizeCredential,
        canonicalizeJsonValue_of_rfc8785 hS, Outcome.mapError_ok, Outcome.ok_bind]
    rcases Payload.preimage_inj hp (h ▸ hp) with ⟨-, canonical, hcp, hcq⟩
    simp only [Payload.canonical, Outcome.mapError_eq_ok] at hcp hcq
    exact hiff.mpr (hcp.trans hcq.symm)

/-- An info of `7` and one of `7.0` are signed alike, and digested alike. -/
theorem signedAlike_iff_canonicalizeCredential_eq_seven :
    canonicalizeCredential Reference.suite
        ⟨⟨Vector.replicate 32 1⟩, .number (.posInt 7), .string "holder"⟩
      = canonicalizeCredential Reference.suite
        ⟨⟨Vector.replicate 32 1⟩, .number (.float Reference.seven), .string "holder"⟩ := by
  apply (signedAlike_iff_canonicalizeCredential_eq Reference.rfc8785 _ _).1.mp
  constructor
  · exact (canonicalizePbrsaInfo_eq_iff Reference.rfc8785 _ _ _ _ _).mpr
      ⟨rfl, Reference.rfc8785_seven⟩
  · rfl

end PeerBadge
