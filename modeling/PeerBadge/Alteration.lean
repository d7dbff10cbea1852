import PeerBadge.Clock

/-! # Altered authorizations

A holder signs the canonical form of a statement, and the canonical form has the time as
a double. So the signature pins down everything, the key it is under included, but the
seconds a double rounds away: a native verifier accepts the statement with any time of the
same double, and no other alteration. Times that JavaScript has numbers for have no second
spelling, and the JavaScript binding reads no others.
-/

namespace PeerBadge

variable {S : Suite}

namespace Timestamp

theorem Alike.bits {a b : Timestamp} (h : a.Alike b) :
    Binary64.roundMagnitude (a.secs.toNat : ℚ) = Binary64.roundMagnitude (b.secs.toNat : ℚ) := by
  have hbits := (Number.double_eq_iff.mp (Json.num.inj h)).1
  rwa [(Number.toBinary64_posInt a.secs).2, (Number.toBinary64_posInt b.secs).2] at hbits

end Timestamp

namespace Binary64

/-- Multiples of 2048 are doubles in the range of `u64`. -/
theorem units_roundMagnitude_mul {m : Nat} (hpos : 0 < m) (hm : m < 2 ^ 53) :
    units (roundMagnitude ((2048 * m : Nat) : ℚ)) = 2048 * m * 2 ^ unitExponent := by
  obtain ⟨e, he, hlarge⟩ : ∃ e, e = unitExponent + 11 ∧ 52 ≤ e := ⟨1085, rfl, by decide⟩
  have hexact := units_roundMagnitude_of_significand (q := ((2048 * m : Nat) : ℚ)) hpos hm hlarge
    (by
      rw [he, pow_add]
      push_cast
      ring)
  have hpow : 2 ^ 11 = 2048 := rfl
  rw [hexact, he, pow_add, hpow, Nat.mul_comm 2048 m, Nat.mul_assoc,
    Nat.mul_comm (2 ^ unitExponent)]

/-- Between two numbers that far apart lies a double. -/
theorem roundMagnitude_ne_of_add_le {a b : Nat} (hb : b < 2 ^ 64) (h : a + 4096 ≤ b) :
    roundMagnitude (a : ℚ) ≠ roundMagnitude (b : ℚ) := by
  intro heq
  have hdivmod := Nat.div_add_mod a 2048
  have hmod := Nat.mod_lt a (show 2048 > 0 by decide)
  set m := a / 2048 + 1
  have hmultiples : a ≤ 2048 * m ∧ 2048 * (m + 1) ≤ b ∧ m + 1 < 2 ^ 53 := by omega
  have hlow : units (roundMagnitude (a : ℚ)) ≤ 2048 * m * 2 ^ unitExponent := by
    rw [← units_roundMagnitude_mul (Nat.succ_pos _) (Nat.lt_of_succ_lt hmultiples.2.2)]
    apply units_mono
    apply roundMagnitude_mono (by positivity)
    exact_mod_cast hmultiples.1
  have hhigh : 2048 * (m + 1) * 2 ^ unitExponent ≤ units (roundMagnitude (b : ℚ)) := by
    rw [← units_roundMagnitude_mul (Nat.succ_pos _) hmultiples.2.2]
    apply units_mono
    apply roundMagnitude_mono (by positivity)
    exact_mod_cast hmultiples.2.1
  rw [heq] at hlow
  have hle := Nat.le_of_mul_le_mul_right (Nat.le_trans hhigh hlow) (Nat.two_pow_pos unitExponent)
  exact absurd (Nat.le_of_mul_le_mul_left hle (by decide)) (Nat.not_succ_le_self m)

end Binary64

namespace Timestamp

/-- Two times that are written alike are less than 4096 seconds apart. -/
theorem Alike.lt {a b : Timestamp} (h : a.Alike b) : b.secs.toNat < a.secs.toNat + 4096 := by
  by_contra hfar
  exact Binary64.roundMagnitude_ne_of_add_le b.secs.toNat_lt (Nat.le_of_not_lt hfar) h.bits

end Timestamp

/-! ## Authorizations -/

/-- Where something is accepted, the clock shows a time. -/
theorem Wasm.currentUnixTimestamp_of_accepted {B : Bindgen S} {context : VerificationContext S}
    {credential authorization : JsValue} {dateNow : F64}
    (h : verifyCredentialAuthorization B context credential authorization dateNow = .ok true) :
    ∃ now, (currentUnixTimestamp dateNow : Except (JsError S) Timestamp) = .ok now := by
  rcases Outcome.bind_eq_ok.mp h with ⟨_, -, h⟩
  rcases Outcome.bind_eq_ok.mp h with ⟨_, -, h⟩
  rcases Outcome.bind_eq_ok.mp h with ⟨now, hnow, -⟩
  exact ⟨now, hnow⟩

section Altered

variable {signed altered : HolderAuthorization}

/-- A signature holds for the statements that are alike, and for no others. -/
theorem HolderAuthorization.signed_iff_alike (hS : S.Rfc8785)
    (hproof : altered.proof = signed.proof) (hsigned : signed.Signed S)
    (hbinds : S.BindsSigner signed.authorization.holderIdPubkey.key
      altered.authorization.holderIdPubkey.key signed.proof.signature)
    (hfree : ∀ bytes bytes',
      canonicalizeHolderAuthorization S signed.authorization = .ok bytes →
      canonicalizeHolderAuthorization S altered.authorization = .ok bytes' →
      S.CollisionFree (holderAuthorizationSignatureDomainSeparator ++ bytes)
        (holderAuthorizationSignatureDomainSeparator ++ bytes')) :
    altered.Signed S ↔ signed.authorization.Alike altered.authorization := by
  rcases hsigned with ⟨digest, hdigest, hvalid⟩
  constructor
  · intro h
    rcases h with ⟨digest', hdigest', hvalid'⟩
    rw [hproof] at hvalid'
    rw [← (hbinds digest digest' hvalid hvalid').2] at hdigest'
    apply (HolderAuthorizationStatement.alike_iff_canonicalize_eq hS _ _).mpr
    exact HolderAuthorizationStatement.canonical_eq_of_digest_eq hdigest hdigest' hfree
  · intro h
    have hcanonical := (HolderAuthorizationStatement.alike_iff_canonicalize_eq hS _ _).mp h
    refine ⟨digest, ?_, ?_⟩
    · rw [← hdigest, HolderAuthorizationStatement.digest, ← hcanonical,
        HolderAuthorizationStatement.digest]
    · rw [hproof, ← h.holderIdPubkey]
      exact hvalid

namespace VerificationContext

/-- What an altered authorization is good for: a native verifier accepts it exactly when
nothing but rounded-away seconds of the time was altered, that time has come, and the
original is accepted; the time moves by less than 4096 seconds. A verifier behind the
JavaScript binding accepts the original only. -/
theorem alteration_accepted_iff {B : Bindgen S}
    {fromDer : Bytes → Except S.PbrsaError S.PbrsaPublicKey} (hB : B.Documented fromDer)
    (hS : S.Rfc8785) (hkeys : S.KeyRoundTrip) (hproof : altered.proof = signed.proof)
    (hsigned : signed.verify S = .ok signed.authorization)
    (hbinds : S.BindsSigner signed.authorization.holderIdPubkey.key
      altered.authorization.holderIdPubkey.key signed.proof.signature)
    (hfree : ∀ bytes bytes',
      canonicalizeHolderAuthorization S signed.authorization = .ok bytes →
      canonicalizeHolderAuthorization S altered.authorization = .ok bytes' →
      S.CollisionFree (holderAuthorizationSignatureDomainSeparator ++ bytes)
        (holderAuthorizationSignatureDomainSeparator ++ bytes')) :
    (∀ (verifier : VerificationContext S) (credential : SignedCredential) (now : Timestamp),
      verifier.verifyCredentialAuthorizationAtTime credential altered now = .ok () ↔
        signed.authorization.Alike altered.authorization ∧
        altered.authorization.issuedAt.secs ≤ now.secs ∧
        verifier.verifyCredentialAuthorizationAtTime credential signed
          signed.authorization.issuedAt = .ok ()) ∧
    (signed.authorization.Alike altered.authorization →
      altered.authorization.issuedAt.secs.toNat
          < signed.authorization.issuedAt.secs.toNat + 4096 ∧
        signed.authorization.issuedAt.secs.toNat
          < altered.authorization.issuedAt.secs.toNat + 4096) ∧
    ∀ (verifier : VerificationContext S) (credential : SignedCredential) (dateNow : F64),
      Wasm.verifyCredentialAuthorization B verifier credential.toValue.parsed
        altered.toValue.parsed dateNow = .ok true → altered = signed := by
  have hsigned' : signed.Signed S := (HolderAuthorization.verify_eq_ok.mp hsigned).1
  have halike := HolderAuthorization.signed_iff_alike hS hproof hsigned' hbinds hfree
  refine ⟨?_, ?_, ?_⟩
  · intro verifier credential now
    rw [verifyCredentialAuthorizationAtTime_eq_ok, verifyCredentialAuthorizationAtTime_eq_ok,
      halike]
    constructor
    · intro h
      rcases h with ⟨hcredential, hsame, hbound, htime, hdigest⟩
      rw [← hsame.holderIdPubkey] at hbound
      rw [← hsame.credentialDigest] at hdigest
      exact ⟨hsame, htime, hcredential, hsigned', hbound, UInt64.le_refl _, hdigest⟩
    · intro h
      rcases h with ⟨hsame, htime, hcredential, -, hbound, -, hdigest⟩
      rw [hsame.holderIdPubkey] at hbound
      rw [hsame.credentialDigest] at hdigest
      exact ⟨hcredential, hsame, hbound, htime, hdigest⟩
  · intro hsame
    have hback : altered.authorization.issuedAt.Alike signed.authorization.issuedAt :=
      hsame.issuedAt.symm
    exact ⟨hsame.issuedAt.lt, hback.lt⟩
  · intro verifier credential dateNow hok
    by_cases hexact : altered.authorization.issuedAt.Exact
    · rcases Wasm.currentUnixTimestamp_of_accepted hok with ⟨now, hnow⟩
      rw [Wasm.verifyCredentialAuthorization_parsed hB hS hkeys verifier credential hexact hnow,
        Wasm.verdict_eq_ok] at hok
      have hsame := halike.mp (verifyCredentialAuthorizationAtTime_eq_ok.mp hok.1).2.1
      have hstatement := hsame.eq_of_exact hexact
      rcases altered with ⟨⟨⟩, statement, proof⟩
      rcases signed with ⟨⟨⟩, statement', proof'⟩
      exact congrArg₂ (HolderAuthorization.mk .v1) hstatement hproof
    · -- the binding does not read such a time
      rcases Wasm.fromJs_authorization_of_not_exact hB hkeys hexact with ⟨e, he⟩
      rw [Wasm.verifyCredentialAuthorization, Wasm.fromJs_credential hB hkeys, Outcome.ok_bind, he]
        at hok
      cases hok

end VerificationContext

end Altered

namespace Reference

/-- A time far in the future, and the second after it. -/
def farTime : Timestamp := ⟨9223372036854775808⟩

def nextTime : Timestamp := ⟨9223372036854775809⟩

theorem farTime_alike : farTime.Alike nextTime := by
  unfold Timestamp.Alike
  decide +kernel

/-- The authorization with another time in it. -/
def altered (signed : HolderAuthorization) : HolderAuthorization :=
  { signed with authorization := { signed.authorization with issuedAt := nextTime } }

end Reference

/-- Signed for a far time, the authorization is accepted with the second after it in its
place. -/
theorem VerificationContext.alteration_accepted_iff_reference :
    ∃ (verifier : VerificationContext Reference.suite) (signed : HolderAuthorization),
      Reference.holder.authorizeCredentialUseAtTime Reference.authorizationRequest
        (Reference.credential (.number (.posInt 7)) Reference.holderMsg) Reference.farTime ()
          = .ok signed ∧
      verifier.verifyCredentialAuthorizationAtTime
        (Reference.credential (.number (.posInt 7)) Reference.holderMsg)
        (Reference.altered signed) Reference.nextTime = .ok () := by
  rcases exists_accepted (.number (.posInt 7)) Reference.holderMsg with ⟨verifier, hverify⟩
  rcases (Reference.holder.exists_authorizeCredentialUseAtTime_iff Reference.canonicalizes
    Reference.authorizationRequest
    (Reference.credential (.number (.posInt 7)) Reference.holderMsg)
    Reference.farTime ()).mpr Reference.parse_holderMsg with ⟨signed, hauthorize⟩
  have haccepted := (HolderContext.verify_authorizeCredentialUseAtTime
    (Reference.signVerifies Reference.identityKeys) hauthorize verifier
    Reference.farTime).mpr ⟨hverify, UInt64.le_refl _⟩
  have htime : signed.authorization.issuedAt = Reference.farTime := by
    rcases HolderContext.authorizeCredentialUseAtTime_eq_ok.mp hauthorize with
      ⟨-, credentialDigest, digest, -, -, rfl⟩
    rfl
  have hsigned := (verifyCredentialAuthorizationAtTime_eq_ok.mp haccepted).2.1
  have halike : signed.authorization.Alike (Reference.altered signed).authorization :=
    ⟨rfl, rfl, rfl, htime ▸ Reference.farTime_alike⟩
  have hcanonical := (HolderAuthorizationStatement.alike_iff_canonicalize_eq Reference.rfc8785 _
    _).mp halike
  have hproof : (Reference.altered signed).proof = signed.proof := rfl
  have hspec := alteration_accepted_iff Reference.bindgen_documented Reference.rfc8785
    Reference.keyRoundTrip hproof (HolderAuthorization.verify_eq_ok.mpr ⟨hsigned, rfl⟩)
    (Reference.bindsSigner _ _ _)
    (fun bytes bytes' hbytes hbytes' _ => by
      rw [Except.ok.inj (hbytes.symm.trans (hcanonical.trans hbytes'))])
  refine ⟨verifier, signed, hauthorize, (hspec.1 verifier _ _).mpr
    ⟨halike, UInt64.le_refl _, ?_⟩⟩
  rw [htime]
  exact haccepted

end PeerBadge
