import Mathlib.Data.Nat.Log
import Mathlib.Data.Rat.Floor
import Mathlib.Tactic.FieldSimp
import Mathlib.Tactic.Linarith
import Mathlib.Tactic.Positivity
import Mathlib.Tactic.Ring

/-! # Finite binary64 numbers

A finite double is a sign and the 63 bits below it, read as one number that stays
below the pattern of infinity. Magnitudes are counted in *units* of `2^-1074`, the
least positive double, so that every magnitude is a natural number of units.

`roundMagnitude` is round-to-nearest, ties-to-even, of an exact rational. The
results below are the ones an encoder of doubles needs: a magnitude rounds to
itself, integers up to `2^53` are converted without loss, and those below it are the
only integers with their doubles.
-/

namespace PeerBadge

/-- A finite IEEE 754 binary64 number: `bits` is the exponent field followed by
the fraction field. -/
structure Binary64 where
  negative : Bool
  bits : Nat
  finite : bits < 2047 * 2 ^ 52
deriving DecidableEq

namespace Binary64

/-- One is `2 ^ unitExponent` units. -/
def unitExponent : Nat := 1074

/-- The magnitude with the given bits, in units of `2^-1074`. -/
def units (bits : Nat) : Nat :=
  if bits < 2 ^ 52 then bits
  else (2 ^ 52 + bits % 2 ^ 52) * 2 ^ (bits / 2 ^ 52 - 1)

/-- The magnitude of a double as a rational number. -/
def magnitude (x : Binary64) : ℚ := units x.bits / 2 ^ unitExponent

/-- The quotient of two naturals, rounded to nearest with ties to even. -/
def roundHalfEven (n d : Nat) : Nat :=
  if 2 * (n % d) < d then n / d
  else if 2 * (n % d) = d then n / d + n / d % 2
  else n / d + 1

/-- The bits of the double nearest to a non-negative rational. Below `2^53` units
the spacing is one unit; above, it is the power of two that leaves 53 bits. -/
def roundMagnitude (q : ℚ) : Nat :=
  let n := q.num.toNat * 2 ^ unitExponent
  -- zero for subnormals, whose spacing is one unit
  let scale := Nat.log2 (n / q.den) - 52
  scale * 2 ^ 52 + roundHalfEven n (q.den * 2 ^ scale)

/-- Negative zero is the same number as zero. -/
def dropNegativeZero (x : Binary64) : Binary64 :=
  if x.bits = 0 then { x with negative := false } else x

@[simp] theorem dropNegativeZero_bits (x : Binary64) : x.dropNegativeZero.bits = x.bits := by
  unfold dropNegativeZero
  split <;> rfl

@[simp] theorem dropNegativeZero_dropNegativeZero (x : Binary64) :
    x.dropNegativeZero.dropNegativeZero = x.dropNegativeZero := by
  by_cases h : x.bits = 0
  · simp [dropNegativeZero, h]
  · simp [dropNegativeZero, h]

/-- Doubles are the same number when they have the same bits and, unless these are
zero, the same sign. -/
theorem dropNegativeZero_eq_iff {x y : Binary64} :
    x.dropNegativeZero = y.dropNegativeZero ↔
      x.bits = y.bits ∧ (x.bits ≠ 0 → x.negative = y.negative) := by
  rcases x with ⟨negative, bits, finite⟩
  rcases y with ⟨negative', bits', finite'⟩
  by_cases hx : bits = 0
  · by_cases hy : bits' = 0
    · simp [dropNegativeZero, hx, hy]
    · simp [dropNegativeZero, hx, hy, eq_comm]
  · by_cases hy : bits' = 0
    · simp [dropNegativeZero, hx, hy]
    · simp [dropNegativeZero, hx, hy, and_comm]

/-! ## Rounding -/

theorem roundHalfEven_mul_right (n d c : Nat) (hc : 0 < c) :
    roundHalfEven (n * c) (d * c) = roundHalfEven n d := by
  have hlt : 2 * (n % d * c) < d * c ↔ 2 * (n % d) < d := by
    rw [← Nat.mul_assoc]
    exact Nat.mul_lt_mul_right hc
  have heq : 2 * (n % d * c) = d * c ↔ 2 * (n % d) = d := by
    rw [← Nat.mul_assoc]
    exact Nat.mul_left_inj hc.ne'
  simp only [roundHalfEven, Nat.mul_mod_mul_right, Nat.mul_div_mul_right _ _ hc, hlt, heq]

theorem roundHalfEven_one (n : Nat) : roundHalfEven n 1 = n := by
  simp [roundHalfEven, Nat.mod_one]

/-- An exact quotient is not rounded. -/
theorem roundHalfEven_mul_self (n d : Nat) (hd : 0 < d) : roundHalfEven (n * d) d = n := by
  simpa using (roundHalfEven_mul_right n 1 d hd).trans (roundHalfEven_one n)

theorem roundHalfEven_le (n d : Nat) : roundHalfEven n d ≤ n / d + 1 := by
  unfold roundHalfEven
  split
  · omega
  · split <;> omega

theorem div_le_roundHalfEven (n d : Nat) : n / d ≤ roundHalfEven n d := by
  unfold roundHalfEven
  split
  · omega
  · split <;> omega

/-- A rational that is a whole number of units rounds as that number does. -/
theorem roundMagnitude_of_units {q : ℚ} {u : Nat} (h : q * 2 ^ unitExponent = u) :
    roundMagnitude q =
      (Nat.log2 u - 52) * 2 ^ 52 + roundHalfEven u (2 ^ (Nat.log2 u - 52)) := by
  -- `q` is a quotient of naturals, so it can be compared in natural numbers
  have hq : 0 ≤ q := by
    have hu : (0 : ℚ) ≤ q * 2 ^ unitExponent := h ▸ Nat.cast_nonneg u
    exact nonneg_of_mul_nonneg_left hu (by positivity)
  have hnum : ((q.num.toNat : Nat) : ℚ) = q * q.den := by
    have hz : (q.num.toNat : ℤ) = q.num := Int.toNat_of_nonneg (Rat.num_nonneg.mpr hq)
    rw [Rat.mul_den_eq_num, ← hz]
    rfl
  have hn : q.num.toNat * 2 ^ unitExponent = u * q.den := by
    have hcast : ((q.num.toNat * 2 ^ unitExponent : Nat) : ℚ) = ((u * q.den : Nat) : ℚ) := by
      push_cast
      rw [← h, hnum]
      ring
    exact_mod_cast hcast
  have hden : 0 < q.den := q.den_pos
  unfold roundMagnitude
  simp only [hn, Nat.mul_div_cancel _ hden]
  rw [Nat.mul_comm q.den, roundHalfEven_mul_right _ _ _ hden]

theorem log2_mul_two_pow {m : Nat} (hm : m ≠ 0) (k : Nat) :
    Nat.log2 (m * 2 ^ k) = Nat.log2 m + k := by
  rw [Nat.log2_eq_iff (by positivity)]
  constructor
  · rw [Nat.pow_add]
    exact Nat.mul_le_mul_right _ (Nat.log2_self_le hm)
  · have hlt : m < 2 ^ (Nat.log2 m + 1) := (Nat.log2_lt hm).mp (Nat.lt_succ_self _)
    calc m * 2 ^ k < 2 ^ (Nat.log2 m + 1) * 2 ^ k :=
          Nat.mul_lt_mul_of_pos_right hlt (by positivity)
      _ = 2 ^ (Nat.log2 m + k + 1) := by rw [← Nat.pow_add]; congr 1; omega

/-- A 53-bit significand at a power-of-two scale needs no rounding. -/
theorem roundMagnitude_of_normal {q : ℚ} {sig scale : Nat} (hlow : 2 ^ 52 ≤ sig)
    (hhigh : sig < 2 ^ 53) (h : q * 2 ^ unitExponent = (sig * 2 ^ scale : Nat)) :
    roundMagnitude q = scale * 2 ^ 52 + sig := by
  have hsig : sig ≠ 0 := by omega
  have hlog : Nat.log2 sig = 52 := (Nat.log2_eq_iff hsig).mpr ⟨hlow, hhigh⟩
  rw [roundMagnitude_of_units h, log2_mul_two_pow hsig, hlog, Nat.add_sub_cancel_left,
    roundHalfEven_mul_self _ _ (by positivity)]

/-- The bits of a 53-bit significand at a power-of-two scale denote it. -/
theorem units_normal {sig : Nat} (scale : Nat) (hlow : 2 ^ 52 ≤ sig) (hhigh : sig < 2 ^ 53) :
    units (scale * 2 ^ 52 + sig) = sig * 2 ^ scale := by
  have hmod : 2 ^ 52 + (scale * 2 ^ 52 + sig) % 2 ^ 52 = sig := by omega
  have hdiv : (scale * 2 ^ 52 + sig) / 2 ^ 52 - 1 = scale := by omega
  rw [units, if_neg (by omega), hmod, hdiv]

/-- A magnitude rounds to its own bits. -/
theorem roundMagnitude_units (bits : Nat) :
    roundMagnitude ((units bits : ℚ) / 2 ^ unitExponent) = bits := by
  rcases Nat.lt_or_ge bits (2 ^ 52) with hlt | hge
  · -- subnormal: the spacing is one unit
    have hscale : Nat.log2 bits - 52 = 0 := by
      rcases Nat.eq_zero_or_pos bits with rfl | hpos
      · simp
      · have := (Nat.log2_lt hpos.ne').mpr hlt
        omega
    rw [roundMagnitude_of_units (u := bits) (by rw [units, if_pos hlt]; field_simp), hscale]
    simp [roundHalfEven_one]
  · -- normal: the bits are a scale and a 53-bit significand
    obtain ⟨scale, sig, hlow, hhigh, rfl⟩ :
        ∃ scale sig, 2 ^ 52 ≤ sig ∧ sig < 2 ^ 53 ∧ bits = scale * 2 ^ 52 + sig :=
      ⟨bits / 2 ^ 52 - 1, 2 ^ 52 + bits % 2 ^ 52, by omega, by omega, by omega⟩
    refine roundMagnitude_of_normal hlow hhigh ?_
    rw [units_normal scale hlow hhigh]
    field_simp

theorem roundMagnitude_magnitude (x : Binary64) : roundMagnitude x.magnitude = x.bits :=
  roundMagnitude_units x.bits

/-- The double with the given sign nearest to `q`, unless that is infinity. -/
def ofRat (negative : Bool) (q : ℚ) : Option Binary64 :=
  if h : roundMagnitude q < 2047 * 2 ^ 52 then some ⟨negative, roundMagnitude q, h⟩ else none

/-- A rational that rounds to the bits of `x` is read as `x`. -/
theorem ofRat_of_roundMagnitude {x : Binary64} {q : ℚ} (h : roundMagnitude q = x.bits) :
    ofRat x.negative q = some x := by
  have hfin : roundMagnitude q < 2047 * 2 ^ 52 := h ▸ x.finite
  rw [ofRat, dif_pos hfin]
  simp only [h]

/-! ## Order -/

theorem div_mono_of_cross {n d n' d' : Nat} (hd : 0 < d) (hd' : 0 < d') (h : n * d' ≤ n' * d) :
    n / d ≤ n' / d' := by
  rw [Nat.le_div_iff_mul_le hd']
  apply Nat.le_of_mul_le_mul_right (c := d) _ hd
  calc n / d * d' * d = n / d * d * d' := by ring
    _ ≤ n * d' := Nat.mul_le_mul_right _ (Nat.div_mul_le_self n d)
    _ ≤ n' * d := h

/-- A larger quotient is not rounded to less. -/
theorem roundHalfEven_mono {n d n' d' : Nat} (hd : 0 < d) (hd' : 0 < d') (h : n * d' ≤ n' * d) :
    roundHalfEven n d ≤ roundHalfEven n' d' := by
  have hfloor := div_mono_of_cross hd hd' h
  rcases Nat.lt_or_eq_of_le hfloor with hlt | heq
  · have hup := roundHalfEven_le n d
    have hdown := div_le_roundHalfEven n' d'
    omega
  · -- with one floor the remainders decide
    have hrest : n % d * d' ≤ n' % d' * d := by
      have hn := Nat.div_add_mod n d
      have hn' := Nat.div_add_mod n' d'
      rw [← heq] at hn'
      have hsame : d * (n / d) * d' = d' * (n / d) * d := by ring
      rw [← hn, ← hn', Nat.add_mul, Nat.add_mul, hsame] at h
      exact Nat.le_of_add_le_add_left h
    have hhalf : ∀ {r r' : Nat}, r * d' ≤ r' * d → d < 2 * r → d' < 2 * r' := by
      intro r r' hr hlt
      by_contra hle
      nlinarith
    have hhalf' : n % d * d' ≤ n' % d' * d → d = 2 * (n % d) → d' ≤ 2 * (n' % d') := by
      intro hr heq
      by_contra hlt
      nlinarith
    have hover := hhalf hrest
    have htie := hhalf' hrest
    unfold roundHalfEven
    rw [← heq]
    split_ifs <;> omega

/-- The bits a quotient rounds to, with the scale it is rounded at. -/
theorem roundScaled_mono {n d n' d' : Nat} (hd : 0 < d) (hd' : 0 < d') (h : n * d' ≤ n' * d) :
    (Nat.log2 (n / d) - 52) * 2 ^ 52 + roundHalfEven n (d * 2 ^ (Nat.log2 (n / d) - 52))
      ≤ (Nat.log2 (n' / d') - 52) * 2 ^ 52
        + roundHalfEven n' (d' * 2 ^ (Nat.log2 (n' / d') - 52)) := by
  have hfloor := div_mono_of_cross hd hd' h
  have hlog : Nat.log2 (n / d) ≤ Nat.log2 (n' / d') := by
    rw [Nat.log2_eq_log_two, Nat.log2_eq_log_two]
    exact Nat.log_mono_right hfloor
  rcases Nat.lt_or_eq_of_le (Nat.sub_le_sub_right hlog 52) with hlt | heq
  · -- another scale: what is below fits in 53 bits, and what is above has 53 bits
    set s := Nat.log2 (n / d) - 52 with hs
    set s' := Nat.log2 (n' / d') - 52 with hs'
    have hbelow : n / (d * 2 ^ s) < 2 ^ 53 := by
      rw [← Nat.div_div_eq_div_mul, Nat.div_lt_iff_lt_mul (Nat.two_pow_pos _), ← Nat.pow_add]
      exact Nat.lt_of_lt_of_le Nat.lt_log2_self (Nat.pow_le_pow_right (by decide) (by omega))
    have habove : 2 ^ 52 ≤ n' / (d' * 2 ^ s') := by
      have hne : n' / d' ≠ 0 := by
        intro hzero
        rw [hzero] at hs'
        simp at hs'
        omega
      rw [← Nat.div_div_eq_div_mul, Nat.le_div_iff_mul_le (Nat.two_pow_pos _), ← Nat.pow_add]
      have hexp : 52 + s' = Nat.log2 (n' / d') := by omega
      rw [hexp]
      exact Nat.log2_self_le hne
    have hup := roundHalfEven_le n (d * 2 ^ s)
    have hdown := div_le_roundHalfEven n' (d' * 2 ^ s')
    omega
  · rw [heq]
    apply Nat.add_le_add_left
    apply roundHalfEven_mono (by positivity) (by positivity)
    rw [← Nat.mul_assoc, ← Nat.mul_assoc]
    exact Nat.mul_le_mul_right _ h

/-- A larger number is not rounded to less. -/
theorem roundMagnitude_mono {q q' : ℚ} (hq : 0 ≤ q) (h : q ≤ q') :
    roundMagnitude q ≤ roundMagnitude q' := by
  unfold roundMagnitude
  apply roundScaled_mono q.den_pos q'.den_pos
  have hnum : (q.num.toNat : ℤ) = q.num := Int.toNat_of_nonneg (Rat.num_nonneg.mpr hq)
  have hnum' : (q'.num.toNat : ℤ) = q'.num :=
    Int.toNat_of_nonneg (Rat.num_nonneg.mpr (hq.trans h))
  have hcross : q.num.toNat * q'.den ≤ q'.num.toNat * q.den := by
    zify
    rw [hnum, hnum']
    exact (Rat.le_iff q q').mp h
  calc q.num.toNat * 2 ^ unitExponent * q'.den
      = q.num.toNat * q'.den * 2 ^ unitExponent := by ring
    _ ≤ q'.num.toNat * q.den * 2 ^ unitExponent := Nat.mul_le_mul_right _ hcross
    _ = q'.num.toNat * 2 ^ unitExponent * q.den := by ring

/-- Larger bits stand for larger magnitudes. -/
theorem units_mono {bits bits' : Nat} (h : bits ≤ bits') : units bits ≤ units bits' := by
  by_contra hlt
  have hround : roundMagnitude ((units bits' : ℚ) / 2 ^ unitExponent)
      ≤ roundMagnitude ((units bits : ℚ) / 2 ^ unitExponent) := by
    apply roundMagnitude_mono (by positivity)
    have hcast : (units bits' : ℚ) ≤ units bits := by exact_mod_cast (Nat.lt_of_not_le hlt).le
    gcongr
  rw [roundMagnitude_units, roundMagnitude_units] at hround
  exact hlt (by rw [Nat.le_antisymm h hround])

/-! ## Integers -/

/-- A 64-bit integer is far below the largest double. -/
theorem roundMagnitude_natCast_lt {n : Nat} (h : n < 2 ^ 64) :
    roundMagnitude n < 2047 * 2 ^ 52 := by
  rw [roundMagnitude_of_units (u := n * 2 ^ unitExponent) (by push_cast; rfl)]
  rcases Nat.eq_zero_or_pos n with rfl | hpos
  · simp [roundHalfEven]
  · -- the scale is at most 1085 and the significand at most `2^53`
    have hexp : unitExponent = 1074 := rfl
    have hlog : Nat.log2 n < 64 := (Nat.log2_lt hpos.ne').mpr h
    rw [log2_mul_two_pow hpos.ne']
    have hlt : n * 2 ^ unitExponent < 2 ^ (Nat.log2 n + unitExponent + 1) := by
      rw [← log2_mul_two_pow hpos.ne' unitExponent]
      exact (Nat.log2_lt (by positivity)).mp (Nat.lt_succ_self _)
    have hquot : n * 2 ^ unitExponent / 2 ^ (Nat.log2 n + unitExponent - 52) < 2 ^ 53 := by
      rw [Nat.div_lt_iff_lt_mul (by positivity), ← Nat.pow_add]
      exact lt_of_lt_of_le hlt (Nat.pow_le_pow_right (by decide) (by omega))
    have hround := roundHalfEven_le (n * 2 ^ unitExponent)
      (2 ^ (Nat.log2 n + unitExponent - 52))
    have hscale : (Nat.log2 n + unitExponent - 52) * 2 ^ 52 ≤ 1085 * 2 ^ 52 :=
      Nat.mul_le_mul_right _ (by omega)
    omega

/-- The double nearest to a 64-bit magnitude. -/
def ofNat (negative : Bool) (n : Nat) (h : n < 2 ^ 64) : Binary64 :=
  ⟨negative, roundMagnitude n, roundMagnitude_natCast_lt h⟩

/-- A significand of at most 53 bits is shifted up to 53 and kept. -/
theorem units_roundMagnitude_of_significand {q : ℚ} {n e : Nat} (hpos : 0 < n) (hn : n < 2 ^ 53)
    (he : 52 ≤ e) (h : q * 2 ^ unitExponent = (n * 2 ^ e : Nat)) :
    units (roundMagnitude q) = n * 2 ^ e := by
  set l := Nat.log2 n with hl
  have hl53 : l < 53 := (Nat.log2_lt hpos.ne').mpr hn
  have hlow : 2 ^ 52 ≤ n * 2 ^ (52 - l) := by
    calc 2 ^ 52 = 2 ^ l * 2 ^ (52 - l) := by rw [← Nat.pow_add]; congr 1; omega
      _ ≤ n * 2 ^ (52 - l) := Nat.mul_le_mul_right _ (Nat.log2_self_le hpos.ne')
  have hhigh : n * 2 ^ (52 - l) < 2 ^ 53 := by
    calc n * 2 ^ (52 - l) < 2 ^ (l + 1) * 2 ^ (52 - l) :=
          Nat.mul_lt_mul_of_pos_right ((Nat.log2_lt hpos.ne').mp (Nat.lt_succ_self _))
            (by positivity)
      _ = 2 ^ 53 := by rw [← Nat.pow_add]; congr 1; omega
  have hsplit : n * 2 ^ e = n * 2 ^ (52 - l) * 2 ^ (l + (e - 52)) := by
    rw [Nat.mul_assoc, ← Nat.pow_add]
    congr 2
    omega
  rw [hsplit] at h ⊢
  rw [roundMagnitude_of_normal hlow hhigh h, units_normal _ hlow hhigh]

/-- Integers up to `2^53` are converted exactly. -/
theorem units_roundMagnitude_natCast {n : Nat} (h : n ≤ 2 ^ 53) :
    units (roundMagnitude n) = n * 2 ^ unitExponent := by
  rcases Nat.eq_zero_or_pos n with rfl | hpos
  · rw [roundMagnitude_of_units (u := 0) (by simp)]
    simp [roundHalfEven, units]
  rcases Nat.lt_or_eq_of_le h with hlt | rfl
  · exact units_roundMagnitude_of_significand hpos hlt (by decide) (by push_cast; rfl)
  · -- `2^53` itself is a power of two
    have hsplit : 2 ^ 53 * 2 ^ unitExponent = 2 ^ 52 * 2 ^ (unitExponent + 1) := by
      rw [← Nat.pow_add, ← Nat.pow_add, Nat.add_comm unitExponent, ← Nat.add_assoc]
    have hbits : roundMagnitude ((2 ^ 53 : Nat) : ℚ) = (unitExponent + 1) * 2 ^ 52 + 2 ^ 52 :=
      roundMagnitude_of_normal (Nat.le_refl _) (by decide) (by rw [← hsplit]; push_cast; rfl)
    rw [hbits, units_normal _ (Nat.le_refl _) (by decide), hsplit]

/-- No two integers up to `2^53` share a double. -/
theorem roundMagnitude_natCast_inj {m n : Nat} (hm : m ≤ 2 ^ 53) (hn : n ≤ 2 ^ 53)
    (h : roundMagnitude m = roundMagnitude n) : m = n := by
  have hunits : m * 2 ^ unitExponent = n * 2 ^ unitExponent := by
    rw [← units_roundMagnitude_natCast hm, ← units_roundMagnitude_natCast hn, h]
  exact Nat.eq_of_mul_eq_mul_right (by positivity) hunits

/-- From `2^53` on the exponent field is at least 1076. -/
theorem le_roundMagnitude_natCast {n : Nat} (h : 2 ^ 53 ≤ n) :
    1076 * 2 ^ 52 ≤ roundMagnitude n := by
  have hexp : unitExponent = 1074 := rfl
  have hn : n ≠ 0 := by omega
  have hlog : 53 ≤ Nat.log2 n := (Nat.le_log2 hn).mpr h
  rw [roundMagnitude_of_units (u := n * 2 ^ unitExponent) (by push_cast; rfl),
    log2_mul_two_pow hn]
  have hscale : 1075 * 2 ^ 52 ≤ (Nat.log2 n + unitExponent - 52) * 2 ^ 52 :=
    Nat.mul_le_mul_right _ (by omega)
  -- the significand has its leading bit
  have hsig : 2 ^ 52 ≤ n * 2 ^ unitExponent / 2 ^ (Nat.log2 n + unitExponent - 52) := by
    have hsplit : 52 + (Nat.log2 n + unitExponent - 52) = Nat.log2 n + unitExponent := by omega
    rw [Nat.le_div_iff_mul_le (Nat.two_pow_pos _), ← Nat.pow_add, hsplit, Nat.pow_add]
    exact Nat.mul_le_mul_right _ (Nat.log2_self_le hn)
  have hround := div_le_roundHalfEven (n * 2 ^ unitExponent)
    (2 ^ (Nat.log2 n + unitExponent - 52))
  omega

/-- An integer below `2^53` shares its double with no other integer at all. -/
theorem roundMagnitude_natCast_inj_left {m n : Nat} (hm : m < 2 ^ 53)
    (h : roundMagnitude m = roundMagnitude n) : m = n := by
  rcases Nat.lt_or_ge n (2 ^ 53) with hlt | hge
  · exact roundMagnitude_natCast_inj hm.le hlt.le h
  · -- the bits of `n` stand for at least `2^53`, those of `m` for `m`
    have hexp : unitExponent = 1074 := rfl
    have hbits := le_roundMagnitude_natCast hge
    have hunits := units_roundMagnitude_natCast hm.le
    rw [h, units, if_neg (by omega)] at hunits
    have hpow : 2 ^ 52 * 2 ^ (unitExponent + 1)
        ≤ (2 ^ 52 + roundMagnitude n % 2 ^ 52) * 2 ^ (roundMagnitude n / 2 ^ 52 - 1) :=
      Nat.mul_le_mul (by omega) (Nat.pow_le_pow_right (by decide) (by omega))
    have hlt : m * 2 ^ unitExponent < 2 ^ 53 * 2 ^ unitExponent :=
      Nat.mul_lt_mul_of_pos_right hm (Nat.two_pow_pos _)
    have htop : 2 ^ 52 * 2 ^ (unitExponent + 1) = 2 ^ 53 * 2 ^ unitExponent := by
      rw [Nat.pow_succ]
      ring
    rw [← hunits, ← htop] at hlt
    exact absurd (Nat.lt_of_le_of_lt hpow hlt) (Nat.lt_irrefl _)

theorem roundMagnitude_zero : roundMagnitude (0 : Nat) = 0 := by
  rw [roundMagnitude_of_units (u := 0) (by simp)]
  simp [roundHalfEven]

theorem roundMagnitude_natCast_ne_zero {n : Nat} (h : 0 < n) : roundMagnitude n ≠ 0 := by
  intro hn
  have heq := roundMagnitude_natCast_inj_left (m := 0) (by decide)
    (roundMagnitude_zero.trans hn.symm)
  omega

/-! ## Whole numbers -/

/-- The magnitude of a whole number below `2^53`. -/
def safeInteger (x : Binary64) : Option Nat :=
  if units x.bits % 2 ^ unitExponent = 0 ∧ units x.bits / 2 ^ unitExponent < 2 ^ 53 then
    some (units x.bits / 2 ^ unitExponent)
  else none

/-- The magnitude has the double it was read from. -/
theorem safeInteger_eq_some {x : Binary64} {n : Nat} (h : x.safeInteger = some n) :
    n < 2 ^ 53 ∧ roundMagnitude n = x.bits := by
  unfold safeInteger at h
  split at h
  · rename_i hwhole
    have hn := Option.some.inj h
    rw [hn] at hwhole
    refine ⟨hwhole.2, ?_⟩
    have hunits : n * 2 ^ unitExponent = units x.bits := by
      rw [← hn]
      exact Nat.div_mul_cancel (Nat.dvd_of_mod_eq_zero hwhole.1)
    have hmagnitude : (n : ℚ) = x.magnitude := by
      rw [magnitude, eq_div_iff (by positivity), ← hunits]
      push_cast
      rfl
    rw [hmagnitude, roundMagnitude_magnitude]
  · cases h

/-- Every integer below `2^53` is read off its double. -/
theorem safeInteger_of_bits {x : Binary64} {n : Nat} (hn : n < 2 ^ 53)
    (h : x.bits = roundMagnitude n) : x.safeInteger = some n := by
  have hunits : units x.bits = n * 2 ^ unitExponent := by
    rw [h, units_roundMagnitude_natCast hn.le]
  have hdiv : units x.bits / 2 ^ unitExponent = n := by
    rw [hunits, Nat.mul_div_cancel _ (by positivity)]
  have hmod : units x.bits % 2 ^ unitExponent = 0 := by
    rw [hunits, Nat.mul_mod_left]
  rw [safeInteger, if_pos ⟨hmod, by rw [hdiv]; exact hn⟩, hdiv]

end Binary64

end PeerBadge
