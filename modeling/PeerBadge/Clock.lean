import PeerBadge.Agreement
import PeerBadge.Presentation

/-! # Clocks

Natively the time of an authorization is the whole seconds of the system clock. Behind
the JavaScript binding it is computed in doubles, from the milliseconds of `Date.now`:
divided by 1000 and rounded down. The quotient is rounded to a double first, and for a
date this never reaches the next second, so the two clocks show the same time.

An instant is a number of nanoseconds since the epoch.
-/

namespace PeerBadge

variable {S : Suite}

/-! ## The native clock -/

/-- Whole seconds of the system clock; before the epoch there are none. -/
def currentUnixTimestamp (instant : Int) : Except (CredentialsError S) Timestamp :=
  if 0 ≤ instant then .ok ⟨UInt64.ofNat (instant / 10 ^ 9).toNat⟩ else .error .verificationFailed

/-- Create a signed authorization for the current time. -/
def HolderContext.authorizeCredentialUse (context : HolderContext S)
    (request : HolderAuthorizationRequest) (credential : SignedCredential) (instant : Int)
    (rng : S.NostrRng) : Except (CredentialsError S) HolderAuthorization := do
  let issuedAt ← currentUnixTimestamp instant
  context.authorizeCredentialUseAtTime request credential issuedAt rng

/-- Verify a credential and a holder authorization at the current time. -/
def VerificationContext.verifyCredentialAuthorization (context : VerificationContext S)
    (credential : SignedCredential) (authorization : HolderAuthorization) (instant : Int) :
    Except (CredentialsError S) Unit := do
  let now ← currentUnixTimestamp instant
  context.verifyCredentialAuthorizationAtTime credential authorization now

/-! ## Dates -/

/-- The milliseconds of the last JavaScript date. -/
def lastDate : Nat := 8640000000000000

/-- An instant JavaScript has a date for. -/
def IsDate (instant : Int) : Prop := (instant / 10 ^ 6).natAbs ≤ lastDate

instance (instant : Int) : Decidable (IsDate instant) :=
  inferInstanceAs (Decidable ((instant / 10 ^ 6).natAbs ≤ lastDate))

theorem lastDate_lt : lastDate < 2 ^ 64 := by decide

/-- `Date.now`: the whole milliseconds, in a double. -/
def dateNow (instant : Int) : F64 :=
  if h : (instant / 10 ^ 6).natAbs < 2 ^ 64 then
    .finite (Binary64.ofNat (decide (instant / 10 ^ 6 < 0)) (instant / 10 ^ 6).natAbs h)
  else .nan

theorem dateNow_of_isDate {instant : Int} (h : IsDate instant) :
    ∃ x : Binary64, dateNow instant = .finite x ∧
      x.negative = decide (instant / 10 ^ 6 < 0) ∧
      x.magnitude = ((instant / 10 ^ 6).natAbs : ℚ) := by
  have hlt : (instant / 10 ^ 6).natAbs < 2 ^ 64 := Nat.lt_of_le_of_lt h lastDate_lt
  refine ⟨_, dif_pos hlt, rfl, ?_⟩
  have hexact : (instant / 10 ^ 6).natAbs ≤ 2 ^ 53 := Nat.le_trans h (by decide)
  rw [Binary64.magnitude, Binary64.ofNat, Binary64.units_roundMagnitude_natCast hexact]
  push_cast
  field_simp

/-! ## Division -/

/-- A number with ten binary digits behind the point is a double. -/
theorem units_thousandths {n : Nat} (hpos : 0 < n) (hn : n < 2 ^ 53) :
    Binary64.units (Binary64.roundMagnitude ((n : ℚ) / 2 ^ 10)) * 2 ^ 10
      = n * 2 ^ Binary64.unitExponent := by
  obtain ⟨e, he, hlarge⟩ : ∃ e, Binary64.unitExponent = e + 10 ∧ 52 ≤ e :=
    ⟨1064, rfl, by decide⟩
  have hexact := Binary64.units_roundMagnitude_of_significand (q := (n : ℚ) / 2 ^ 10) hpos hn
    hlarge (by
      rw [he, pow_add]
      push_cast
      field_simp)
  rw [hexact, he, pow_add, Nat.mul_assoc]

/-- The whole seconds of a date are what is left of the quotient. -/
theorem units_seconds {ms : Nat} (h : ms ≤ lastDate) :
    Binary64.units (Binary64.roundMagnitude ((ms : ℚ) / 1000)) / 2 ^ Binary64.unitExponent
      = ms / 1000 := by
  have hdate : ms ≤ 8640000000000000 := h
  have hdivmod := Nat.div_add_mod ms 1000
  have hmod := Nat.mod_lt ms (show 1000 > 0 by decide)
  set k := ms / 1000
  -- from below by the whole number
  have hlow : k * 2 ^ Binary64.unitExponent
      ≤ Binary64.units (Binary64.roundMagnitude ((ms : ℚ) / 1000)) := by
    rw [← Binary64.units_roundMagnitude_natCast (n := k) (by omega)]
    apply Binary64.units_mono
    apply Binary64.roundMagnitude_mono (by positivity)
    have hle : (1000 * k : ℚ) ≤ ms := by exact_mod_cast (by omega : 1000 * k ≤ ms)
    rw [le_div_iff₀ (by norm_num)]
    linarith
  -- from above by a double just below the next one
  have hhigh : Binary64.units (Binary64.roundMagnitude ((ms : ℚ) / 1000)) * 2 ^ 10
      ≤ ((k + 1) * 2 ^ 10 - 1) * 2 ^ Binary64.unitExponent := by
    rw [← units_thousandths (n := (k + 1) * 2 ^ 10 - 1) (by omega) (by omega)]
    apply Nat.mul_le_mul_right
    apply Binary64.units_mono
    apply Binary64.roundMagnitude_mono (by positivity)
    have hcast : (((k + 1) * 2 ^ 10 - 1 : Nat) : ℚ) = (k + 1) * 2 ^ 10 - 1 := by
      rw [Nat.cast_sub (by omega)]
      push_cast
      ring
    have hlast : (ms : ℚ) ≤ 1000 * k + 999 := by
      exact_mod_cast (by omega : ms ≤ 1000 * k + 999)
    have hpos : (0 : ℚ) ≤ k := Nat.cast_nonneg k
    rw [hcast, div_le_div_iff₀ (by norm_num) (by norm_num)]
    linarith
  apply Nat.div_eq_of_lt_le hlow
  apply Nat.lt_of_mul_lt_mul_right (a := 2 ^ 10)
  calc Binary64.units (Binary64.roundMagnitude ((ms : ℚ) / 1000)) * 2 ^ 10
      ≤ ((k + 1) * 2 ^ 10 - 1) * 2 ^ Binary64.unitExponent := hhigh
    _ < (k + 1) * 2 ^ 10 * 2 ^ Binary64.unitExponent :=
        Nat.mul_lt_mul_of_pos_right (by omega) (Nat.two_pow_pos _)
    _ = (k + 1) * 2 ^ Binary64.unitExponent * 2 ^ 10 := by ring

/-- A millisecond and more are not rounded to nothing. -/
theorem roundMagnitude_div_ne_zero (ms : Nat) (h : 0 < ms) :
    Binary64.roundMagnitude ((ms : ℚ) / 1000) ≠ 0 := by
  intro hzero
  have hone := units_thousandths (n := 1) (by decide) (by decide)
  have hle : Binary64.units (Binary64.roundMagnitude (((1 : Nat) : ℚ) / 2 ^ 10))
      ≤ Binary64.units (Binary64.roundMagnitude ((ms : ℚ) / 1000)) := by
    apply Binary64.units_mono
    apply Binary64.roundMagnitude_mono (by positivity)
    have hms : (1 : ℚ) ≤ ms := by exact_mod_cast h
    rw [div_le_div_iff₀ (by norm_num) (by norm_num)]
    push_cast
    linarith
  have hnothing : Binary64.units 0 = 0 := rfl
  rw [hzero, hnothing, Nat.le_zero] at hle
  rw [hle, Nat.zero_mul, Nat.one_mul] at hone
  exact absurd hone.symm (Nat.two_pow_pos _).ne'

/-! ## Agreement -/

theorem saturate_of_lt {n : Nat} (h : n < 2 ^ 64) : Wasm.saturate n = UInt64.ofNat n := by
  rw [Wasm.saturate, Nat.min_eq_left (by omega)]

theorem currentUnixTimestamp_eq_ok {instant : Int} {time : Timestamp} :
    (currentUnixTimestamp instant : Except (CredentialsError S) Timestamp) = .ok time ↔
      0 ≤ instant ∧ ⟨UInt64.ofNat (instant / 10 ^ 9).toNat⟩ = time := by
  unfold currentUnixTimestamp
  split <;> simp_all

/-- From the epoch on the JavaScript clock shows the whole seconds. -/
theorem currentUnixTimestamp_dateNow {instant : Int} (h : IsDate instant) (hepoch : 0 ≤ instant) :
    (Wasm.currentUnixTimestamp (dateNow instant) : Except (JsError S) Timestamp)
      = .ok ⟨UInt64.ofNat (instant / 10 ^ 9).toNat⟩ := by
  rcases dateNow_of_isDate h with ⟨x, hx, hsign, hmagnitude⟩
  have hdate : (instant / 10 ^ 6).natAbs ≤ lastDate := h
  have hseconds : (instant / 10 ^ 6).natAbs / 1000 = (instant / 10 ^ 9).toNat := by omega
  have hlt : (instant / 10 ^ 9).toNat < 2 ^ 64 := by
    have hlast := lastDate_lt
    omega
  have hpositive : x.negative = false := by
    rw [hsign, decide_eq_false_iff_not]
    omega
  rw [hx, Wasm.currentUnixTimestamp, hmagnitude]
  simp only [hpositive, Bool.false_eq_true, false_and, if_false, units_seconds hdate, hseconds,
    saturate_of_lt hlt]

/-- Before the epoch it shows nothing. -/
theorem currentUnixTimestamp_dateNow_of_neg {instant : Int} (h : IsDate instant)
    (hepoch : instant < 0) :
    (Wasm.currentUnixTimestamp (dateNow instant) : Except (JsError S) Timestamp)
      = .error (.message "current time must be non-negative") := by
  rcases dateNow_of_isDate h with ⟨x, hx, hsign, hmagnitude⟩
  have hnegative : x.negative = true := by
    rw [hsign, decide_eq_true_iff]
    omega
  have hbits := roundMagnitude_div_ne_zero (instant / 10 ^ 6).natAbs (by omega)
  rw [hx, Wasm.currentUnixTimestamp, hmagnitude]
  simp only [hnegative, hbits, ne_eq, not_false_eq_true, and_self, if_true]

/-- The two clocks show the same time at every instant JavaScript has a date for, and
none before the epoch. -/
theorem clock_agrees {instant : Int} (h : IsDate instant) (time : Timestamp) :
    (Wasm.currentUnixTimestamp (dateNow instant) : Except (JsError S) Timestamp) = .ok time ↔
      (currentUnixTimestamp instant : Except (CredentialsError S) Timestamp) = .ok time := by
  rw [currentUnixTimestamp_eq_ok]
  by_cases hepoch : 0 ≤ instant
  · simp only [currentUnixTimestamp_dateNow h hepoch, Except.ok.injEq, hepoch, true_and]
  · simp only [currentUnixTimestamp_dateNow_of_neg h (Int.lt_of_not_ge hepoch), reduceCtorEq,
      hepoch, false_and]

/-- `1.001` seconds after the epoch it is second one. -/
theorem clock_agrees_one :
    (Wasm.currentUnixTimestamp (dateNow 1001000000) :
      Except (JsError Reference.suite) Timestamp) = .ok ⟨1⟩ :=
  (clock_agrees (by decide) ⟨1⟩).mpr (by rfl)

/-! ## Authorizations -/

theorem toNat_seconds {instant : Int} (h : IsDate instant) :
    (UInt64.ofNat (instant / 10 ^ 9).toNat).toNat = (instant / 10 ^ 9).toNat := by
  have hdate : (instant / 10 ^ 6).natAbs ≤ 8640000000000000 := h
  apply UInt64.toNat_ofNat_of_lt'
  have hsize : UInt64.size = 2 ^ 64 := rfl
  omega

/-- The time of a date is exact as a double. -/
theorem exact_of_isDate {instant : Int} (h : IsDate instant) :
    Timestamp.Exact ⟨UInt64.ofNat (instant / 10 ^ 9).toNat⟩ := by
  have hdate : (instant / 10 ^ 6).natAbs ≤ 8640000000000000 := h
  rw [Timestamp.Exact, toNat_seconds h]
  omega

/-- Seconds of the clock are ordered like the seconds of the instants. -/
theorem seconds_le_iff {signed shown : Int} (hsigned : IsDate signed) (hshown : IsDate shown)
    (hepoch : 0 ≤ signed) (hepoch' : 0 ≤ shown) :
    UInt64.ofNat (signed / 10 ^ 9).toNat ≤ UInt64.ofNat (shown / 10 ^ 9).toNat ↔
      signed / 10 ^ 9 ≤ shown / 10 ^ 9 := by
  rw [UInt64.le_iff_toNat_le, toNat_seconds hsigned, toNat_seconds hshown]
  omega

/-- An authorization signed at one instant is the same natively and in JavaScript, and at
another instant a native verifier and one in JavaScript accept it alike: when the
credential is good and the second it was signed in has come. -/
theorem authorization_between_clocks {B : Bindgen S}
    {fromDer : Bytes → Except S.PbrsaError S.PbrsaPublicKey} (hB : B.Documented fromDer)
    (hS : S.Rfc8785) (hkeys : S.KeyRoundTrip) {holder : HolderContext S}
    (hsign : S.SignVerifies holder.identityKeys)
    {request : HolderAuthorizationRequest} {credential : SignedCredential} {rng : S.NostrRng}
    {authorization : HolderAuthorization} {signed shown : Int} (hsigned : IsDate signed)
    (hshown : IsDate shown)
    (h : holder.authorizeCredentialUse request credential signed rng = .ok authorization)
    (verifier : VerificationContext S) :
    Wasm.authorizeCredentialUse B holder request.toValue.parsed credential.toValue.parsed
        (dateNow signed) rng = .ok authorization.toValue.parsed ∧
    (verifier.verifyCredentialAuthorization credential authorization shown = .ok () ↔
      verifier.verifyCredential credential = .ok () ∧ 0 ≤ shown ∧
        signed / 10 ^ 9 ≤ shown / 10 ^ 9) ∧
    (Wasm.verifyCredentialAuthorization B verifier credential.toValue.parsed
        authorization.toValue.parsed (dateNow shown) = .ok true ↔
      verifier.verifyCredentialAuthorization credential authorization shown = .ok ()) := by
  rcases Outcome.bind_eq_ok.mp h with ⟨issuedAt, hissued, hauthorize⟩
  rcases currentUnixTimestamp_eq_ok.mp hissued with ⟨hepoch, rfl⟩
  have hexact := exact_of_isDate hsigned
  have htime : authorization.authorization.issuedAt.Exact := by
    rcases HolderContext.authorizeCredentialUseAtTime_eq_ok.mp hauthorize with
      ⟨-, credentialDigest, digest, -, -, rfl⟩
    exact hexact
  have haccepts := HolderContext.verify_authorizeCredentialUseAtTime hsign hauthorize verifier
  refine ⟨?_, ?_, ?_⟩
  · rw [Wasm.authorizeCredentialUse_parsed hB hS hkeys holder request credential
      (currentUnixTimestamp_dateNow hsigned hepoch) hexact rng, hauthorize]
    rfl
  · rw [VerificationContext.verifyCredentialAuthorization, Outcome.bind_eq_ok]
    constructor
    · intro hok
      rcases hok with ⟨now, hnow, hverify⟩
      rcases currentUnixTimestamp_eq_ok.mp hnow with ⟨hepoch', rfl⟩
      rcases (haccepts _).mp hverify with ⟨hcredential, hle⟩
      exact ⟨hcredential, hepoch', (seconds_le_iff hsigned hshown hepoch hepoch').mp hle⟩
    · intro hok
      rcases hok with ⟨hcredential, hepoch', hle⟩
      refine ⟨_, currentUnixTimestamp_eq_ok.mpr ⟨hepoch', rfl⟩, (haccepts _).mpr ⟨hcredential, ?_⟩⟩
      exact (seconds_le_iff hsigned hshown hepoch hepoch').mpr hle
  · rw [VerificationContext.verifyCredentialAuthorization, Outcome.bind_eq_ok]
    by_cases hepoch' : 0 ≤ shown
    · rw [Wasm.verifyCredentialAuthorization_parsed hB hS hkeys verifier credential htime
        (currentUnixTimestamp_dateNow hshown hepoch'), Wasm.verdict_eq_ok]
      simp only [currentUnixTimestamp_eq_ok, hepoch', true_and, exists_eq_left', and_true]
    · -- there is no time to compare with
      rw [Wasm.verifyCredentialAuthorization, Wasm.fromJs_credential hB hkeys, Outcome.ok_bind,
        Wasm.fromJs_authorization hB hkeys htime, Outcome.ok_bind,
        currentUnixTimestamp_dateNow_of_neg hshown (Int.lt_of_not_ge hepoch')]
      simp only [currentUnixTimestamp_eq_ok, hepoch', false_and, exists_false, iff_false]
      intro hok
      cases hok

/-- A holder signs natively at 5 seconds, and a verifier in JavaScript accepts the two at
7.5 seconds, with the info `7.0` of the credential become `7`. -/
theorem authorization_between_clocks_reference :
    ∃ (verifier : VerificationContext Reference.suite) (authorization : HolderAuthorization),
      Reference.holder.authorizeCredentialUse Reference.authorizationRequest
        (Reference.credential (.number (.float Reference.seven)) Reference.holderMsg) 5000000000 ()
          = .ok authorization ∧
      Wasm.verifyCredentialAuthorization Reference.bindgen verifier
        (Reference.credential (.number (.float Reference.seven))
          Reference.holderMsg).toValue.parsed authorization.toValue.parsed (dateNow 7500000000)
          = .ok true := by
  rcases VerificationContext.exists_accepted (.number (.float Reference.seven))
    Reference.holderMsg with ⟨verifier, hverify⟩
  rcases (Reference.holder.exists_authorizeCredentialUseAtTime_iff Reference.canonicalizes
    Reference.authorizationRequest
    (Reference.credential (.number (.float Reference.seven)) Reference.holderMsg) ⟨5⟩ ()).mpr
    Reference.parse_holderMsg with ⟨authorization, hauthorize⟩
  have hnow : Reference.holder.authorizeCredentialUse Reference.authorizationRequest
      (Reference.credential (.number (.float Reference.seven)) Reference.holderMsg) 5000000000 ()
        = .ok authorization := hauthorize
  have hshown : IsDate 7500000000 := by decide
  rcases authorization_between_clocks Reference.bindgen_documented Reference.rfc8785
    Reference.keyRoundTrip (Reference.signVerifies _) (by decide) hshown hnow verifier with
    ⟨-, haccepts, hjs⟩
  exact ⟨verifier, authorization, hnow,
    hjs.mpr (haccepts.mpr ⟨hverify, by decide, by decide⟩)⟩

end PeerBadge
