import Mathlib.Data.Int.Log
import PeerBadge.Binary64

/-! # Decimal text of doubles

A decimal is an integer of digits and a power of ten. `shortest` finds a decimal
with as few digits as possible that still rounds to a given double, and `layout`
writes a decimal in the grammar of JSON numbers. `numberToString` is ECMAScript's
`Number::toString` in radix ten, built from the two.

Reading is the other direction: `readParts` accepts exactly the JSON grammar of
unsigned numbers, and what `layout` writes is read back with the same value.
-/

namespace PeerBadge

/-- The number `digits * 10 ^ exponent`. -/
structure Decimal where
  digits : Nat
  exponent : Int
deriving DecidableEq

namespace Decimal

def value (d : Decimal) : ℚ := d.digits * 10 ^ d.exponent

/-! ## Shortest digits -/

/-- The decimal of `k` digits at or just below `q`, where `q` has `n` digits
before the point. -/
def below (q : ℚ) (n : Int) (k : Nat) : Decimal :=
  ⟨⌊q / 10 ^ (n - k)⌋₊, n - k⟩

/-- The decimal of `k` digits just above `q`. -/
def above (q : ℚ) (n : Int) (k : Nat) : Decimal :=
  if (below q n k).digits + 1 = 10 ^ k then ⟨10 ^ (k - 1), n - k + 1⟩
  else ⟨(below q n k).digits + 1, n - k⟩

/-- Of two decimals around `q` the closer one, and of equally close ones the even. -/
def closest (q : ℚ) (lo hi : Decimal) : Decimal :=
  if q - lo.value < hi.value - q then lo
  else if q - lo.value = hi.value - q ∧ lo.digits % 2 = 0 then lo
  else hi

/-- Look for the first number of digits, from `k` on, at which a neighbour of `x`
rounds to `x`. Seventeen digits are always enough; the last branch is the exact
expansion. -/
def shortestFrom (x : Binary64) (n : Int) : Nat → Nat → Decimal
  | 0, _ => ⟨Binary64.units x.bits * 5 ^ Binary64.unitExponent, -Binary64.unitExponent⟩
  | fuel + 1, k =>
      let lo := below x.magnitude n k
      let hi := above x.magnitude n k
      if Binary64.roundMagnitude lo.value = x.bits then
        if Binary64.roundMagnitude hi.value = x.bits then closest x.magnitude lo hi else lo
      else if Binary64.roundMagnitude hi.value = x.bits then hi
      else shortestFrom x n fuel (k + 1)

/-- The shortest decimal that rounds to `x`, and of those the closest to it. -/
def shortest (x : Binary64) : Decimal :=
  shortestFrom x (Int.log 10 x.magnitude + 1) 17 1

theorem roundMagnitude_closest {x : Binary64} {q : ℚ} {lo hi : Decimal}
    (hlo : Binary64.roundMagnitude lo.value = x.bits)
    (hhi : Binary64.roundMagnitude hi.value = x.bits) :
    Binary64.roundMagnitude (closest q lo hi).value = x.bits := by
  unfold closest
  split
  · exact hlo
  · split
    · exact hlo
    · exact hhi

/-- Every decimal the search can return rounds to the double it was made from. -/
theorem roundMagnitude_shortestFrom (x : Binary64) (n : Int) (fuel k : Nat) :
    Binary64.roundMagnitude (shortestFrom x n fuel k).value = x.bits := by
  induction fuel generalizing k with
  | zero =>
      -- the exact expansion is the double itself
      have hexact : (shortestFrom x n 0 k).value = x.magnitude := by
        have h10 : (10 : ℚ) ^ Binary64.unitExponent
            = 5 ^ Binary64.unitExponent * 2 ^ Binary64.unitExponent := by
          rw [← mul_pow]
          norm_num
        simp only [shortestFrom, value, Binary64.magnitude, zpow_neg, zpow_natCast, h10]
        push_cast
        field_simp
      rw [hexact, Binary64.roundMagnitude_magnitude]
  | succ fuel ih =>
      rw [shortestFrom]
      -- a decimal is only returned once it has been seen to round to `x`
      split
      · rename_i hlo
        split
        · rename_i hhi
          exact roundMagnitude_closest hlo hhi
        · exact hlo
      · split
        · rename_i hhi
          exact hhi
        · exact ih (k + 1)

theorem roundMagnitude_shortest (x : Binary64) :
    Binary64.roundMagnitude (shortest x).value = x.bits :=
  roundMagnitude_shortestFrom x _ 17 1

/-- Only zero has the digits of zero. -/
theorem shortest_digits_pos {x : Binary64} (h : x.bits ≠ 0) : 0 < (shortest x).digits := by
  rcases Nat.eq_zero_or_pos (shortest x).digits with hzero | hpos
  · -- no digits round to no bits
    have hround := roundMagnitude_shortest x
    rw [value, hzero, Binary64.roundMagnitude_of_units (u := 0) (by simp)] at hround
    simp [Binary64.roundHalfEven] at hround
    exact absurd hround.symm h
  · exact hpos

/-! ## Number grammar -/

/-- The parts of an unsigned JSON number: digits before the point, digits after
it, and the exponent if one is written. -/
structure Parts where
  whole : List Char
  fraction : List Char
  exponent : Option Int
deriving DecidableEq

/-- Digits only, and no leading zero before another digit. -/
structure Parts.WellFormed (p : Parts) : Prop where
  whole_ne : p.whole ≠ []
  whole_digits : ∀ c ∈ p.whole, c.isDigit
  no_leading_zero : p.whole.head? = some '0' → p.whole = ['0']
  fraction_digits : ∀ c ∈ p.fraction, c.isDigit

def fractionText (f : List Char) : List Char := if f = [] then [] else '.' :: f

def exponentText : Option Int → List Char
  | none => []
  | some e => 'e' :: (if 0 ≤ e then '+' else '-') :: Nat.toDigits 10 e.natAbs

def Parts.text (p : Parts) : List Char :=
  p.whole ++ (fractionText p.fraction ++ exponentText p.exponent)

/-- The number the parts denote. -/
def Parts.decimal (p : Parts) : Decimal :=
  ⟨Nat.ofDigitChars 10 (p.whole ++ p.fraction) 0, p.exponent.getD 0 - p.fraction.length⟩

/-- Digits up to the end of the text. -/
def readDigits (cs : List Char) : Option Nat :=
  if cs ≠ [] ∧ cs.all Char.isDigit then some (Nat.ofDigitChars 10 cs 0) else none

/-- The exponent part, which must end the text. -/
def readExponent : List Char → Option (Option Int)
  | [] => some none
  | c :: cs =>
      if c = 'e' ∨ c = 'E' then
        match cs with
        | '+' :: ds => (readDigits ds).map fun n => some (n : Int)
        | '-' :: ds => (readDigits ds).map fun n => some (-(n : Int))
        | ds => (readDigits ds).map fun n => some (n : Int)
      else none

/-- The fraction part and what follows it. -/
def readFraction : List Char → Option (List Char × List Char)
  | '.' :: cs =>
      if cs.takeWhile Char.isDigit = [] then none
      else some (cs.takeWhile Char.isDigit, cs.dropWhile Char.isDigit)
  | cs => some ([], cs)

/-- Read an unsigned JSON number. -/
def readParts (cs : List Char) : Option Parts :=
  let whole := cs.takeWhile Char.isDigit
  if whole = [] ∨ (whole.head? = some '0' ∧ whole ≠ ['0']) then none
  else do
    let (fraction, rest) ← readFraction (cs.dropWhile Char.isDigit)
    let exponent ← readExponent rest
    some ⟨whole, fraction, exponent⟩

theorem takeWhile_append_stop {p : Char → Bool} {l r : List Char} (hl : ∀ c ∈ l, p c)
    (hr : ∀ c ∈ r.head?, p c = false) :
    (l ++ r).takeWhile p = l ∧ (l ++ r).dropWhile p = r := by
  rw [List.takeWhile_append_of_pos hl, List.dropWhile_append_of_pos hl]
  cases r with
  | nil => simp
  | cons c r =>
      have hc : p c = false := hr c (by simp)
      simp [hc]

theorem readDigits_toDigits (n : Nat) : readDigits (Nat.toDigits 10 n) = some n := by
  have hall : (Nat.toDigits 10 n).all Char.isDigit := by
    simpa using fun c hc => Nat.isDigit_of_mem_toDigits (by decide) (by decide) hc
  simp only [readDigits, hall, Nat.ofDigitChars_ten_toDigits]
  simp

theorem readExponent_text (e : Option Int) : readExponent (exponentText e) = some e := by
  cases e with
  | none => rfl
  | some e =>
      rcases le_or_gt 0 e with hpos | hneg
      · have hnat : (e.natAbs : Int) = e := Int.natAbs_of_nonneg hpos
        simp [exponentText, readExponent, hpos, readDigits_toDigits, hnat]
      · have habs : -|e| = e := by rw [abs_of_neg hneg, neg_neg]
        simp [exponentText, readExponent, not_le.mpr hneg, readDigits_toDigits, habs]

/-- The exponent text does not start with a digit or a point. -/
theorem exponentText_head (e : Option Int) :
    ∀ c ∈ (exponentText e).head?, c.isDigit = false ∧ c ≠ '.' := by
  cases e with
  | none => simp [exponentText]
  | some e => simp [exponentText]

theorem readFraction_text {f : List Char} (hf : ∀ c ∈ f, c.isDigit) (e : Option Int) :
    readFraction (fractionText f ++ exponentText e) = some (f, exponentText e) := by
  unfold fractionText
  split
  · rename_i hnil
    subst hnil
    cases e with
    | none => rfl
    | some e => rfl
  · rename_i hne
    obtain ⟨htake, hdrop⟩ :=
      takeWhile_append_stop (r := exponentText e) hf fun c hc => (exponentText_head e c hc).1
    simp only [List.cons_append, readFraction, htake, hdrop, if_neg hne]

/-- What is written in the grammar is read back. -/
theorem readParts_text {p : Parts} (hp : p.WellFormed) : readParts p.text = some p := by
  have hhead : ∀ c ∈ (fractionText p.fraction ++ exponentText p.exponent).head?,
      c.isDigit = false := by
    unfold fractionText
    split
    · simpa using fun c hc => (exponentText_head p.exponent c (by simpa using hc)).1
    · simp
  obtain ⟨htake, hdrop⟩ := takeWhile_append_stop hp.whole_digits hhead
  have hguard : ¬(p.whole = [] ∨ (p.whole.head? = some '0' ∧ p.whole ≠ ['0'])) := by
    intro h
    rcases h with h | ⟨h, hne⟩
    · exact hp.whole_ne h
    · exact hne (hp.no_leading_zero h)
  simp [readParts, Parts.text, htake, hdrop, hguard, readFraction_text hp.fraction_digits,
    readExponent_text]

/-! ## Layout -/

/-- Where a writer puts the point: positional notation while the number of digits
before the point is above `low` and at most `high`, scientific notation outside;
`tail` is the fraction written for whole numbers. -/
structure Format where
  low : Int
  high : Int
  tail : List Char

/-- The parts a decimal is written with. -/
def layout (fmt : Format) (d : Decimal) : Parts :=
  let ds := Nat.toDigits 10 d.digits
  let n := d.exponent + ds.length
  if ds.length ≤ n ∧ n ≤ fmt.high then
    -- a whole number
    ⟨ds ++ List.replicate d.exponent.toNat '0', fmt.tail, none⟩
  else if 0 < n ∧ n ≤ fmt.high then ⟨ds.take n.toNat, ds.drop n.toNat, none⟩
  else if fmt.low < n ∧ n ≤ 0 then ⟨['0'], List.replicate (-n).toNat '0' ++ ds, none⟩
  else ⟨ds.take 1, ds.drop 1, some (n - 1)⟩

theorem isDigit_of_mem_toDigits {n : Nat} {c : Char} (h : c ∈ Nat.toDigits 10 n) : c.isDigit :=
  Nat.isDigit_of_mem_toDigits (by decide) (by decide) h

/-- A positive number has no leading zero. -/
theorem head_toDigits_ne_zero {n : Nat} (h : 0 < n) : (Nat.toDigits 10 n).head? ≠ some '0' := by
  induction n using Nat.strong_induction_on with
  | _ n ih =>
      rw [Nat.toDigits_eq_if (by decide)]
      split
      · simpa using h.ne'
      · have hhead : (Nat.toDigits 10 (n / 10)).head? ≠ some '0' :=
          ih (n / 10) (by omega) (by omega)
        rw [List.head?_append_of_ne_nil _ Nat.toDigits_ne_nil]
        exact hhead

theorem layout_wellFormed {fmt : Format} (htail : ∀ c ∈ fmt.tail, c.isDigit) {d : Decimal}
    (hd : 0 < d.digits) : (layout fmt d).WellFormed := by
  have hdigit : ∀ c ∈ Nat.toDigits 10 d.digits, c.isDigit := fun c hc => isDigit_of_mem_toDigits hc
  have hhead := head_toDigits_ne_zero hd
  have hne : Nat.toDigits 10 d.digits ≠ [] := Nat.toDigits_ne_nil
  have hzero : ∀ (k : Nat) (c : Char), c ∈ List.replicate k '0' → c.isDigit := by
    intro k c hc
    rw [(List.mem_replicate.mp hc).2]
    rfl
  have htake : ∀ k, 0 < k → ((Nat.toDigits 10 d.digits).take k).head?
      = (Nat.toDigits 10 d.digits).head? := by
    intro k hk
    simp [List.head?_take, hk.ne']
  have htake_ne : ∀ k, 0 < k → (Nat.toDigits 10 d.digits).take k ≠ [] := by
    intro k hk
    simp [hne, hk.ne']
  unfold layout
  dsimp only
  -- one case per way to place the point: behind, within, before the digits, scientific
  split
  · refine ⟨by simp [hne], ?_, ?_, htail⟩
    · intro c hc
      rcases List.mem_append.mp hc with hc | hc
      · exact hdigit c hc
      · exact hzero _ c hc
    · intro h
      rw [List.head?_append_of_ne_nil _ hne] at h
      exact absurd h hhead
  · split
    · rename_i hpos
      refine ⟨htake_ne _ (by omega), fun c hc => hdigit c (List.mem_of_mem_take hc), ?_,
        fun c hc => hdigit c (List.mem_of_mem_drop hc)⟩
      intro h
      rw [htake _ (by omega)] at h
      exact absurd h hhead
    · split
      · refine ⟨by simp, by simp, by simp, ?_⟩
        intro c hc
        rcases List.mem_append.mp hc with hc | hc
        · exact hzero _ c hc
        · exact hdigit c hc
      · refine ⟨htake_ne 1 (by decide), fun c hc => hdigit c (List.mem_of_mem_take hc), ?_,
          fun c hc => hdigit c (List.mem_of_mem_drop hc)⟩
        intro h
        rw [htake 1 (by decide)] at h
        exact absurd h hhead

/-- The layout keeps the value. -/
theorem layout_value {fmt : Format} (htail : fmt.tail = List.replicate fmt.tail.length '0')
    (d : Decimal) : (layout fmt d).decimal.value = d.value := by
  unfold layout
  dsimp only
  -- in each case the digits are the same, and the exponent makes up for the point
  split
  · rename_i hint
    obtain ⟨e, he⟩ : ∃ e : Nat, d.exponent = e :=
      ⟨d.exponent.toNat, by have := hint.1; omega⟩
    rw [htail]
    simp only [Parts.decimal, value, List.append_assoc, Nat.ofDigitChars_append,
      Nat.ofDigitChars_replicate_zero, Nat.ofDigitChars_ten_toDigits, he, Int.toNat_natCast,
      List.length_replicate, Option.getD_none]
    push_cast
    rw [zero_sub, zpow_neg, zpow_natCast, zpow_natCast]
    field_simp
  · split
    · rename_i hpos
      have hexp : (0 : Int) - ((Nat.toDigits 10 d.digits).drop
          (d.exponent + (Nat.toDigits 10 d.digits).length).toNat).length = d.exponent := by
        rw [List.length_drop]
        omega
      simp only [Parts.decimal, value, List.take_append_drop, Nat.ofDigitChars_ten_toDigits,
        Option.getD_none, hexp]
    · split
      · rename_i hneg
        have hexp : (0 : Int) - (List.replicate
            (-(d.exponent + (Nat.toDigits 10 d.digits).length)).toNat '0'
              ++ Nat.toDigits 10 d.digits).length = d.exponent := by
          rw [List.length_append, List.length_replicate]
          omega
        have hzeros : Nat.ofDigitChars 10 (['0'] ++ (List.replicate
            (-(d.exponent + (Nat.toDigits 10 d.digits).length)).toNat '0'
              ++ Nat.toDigits 10 d.digits)) 0 = d.digits := by
          simp [Nat.ofDigitChars_cons, Nat.ofDigitChars_append]
        simp only [Parts.decimal, value, hzeros, Option.getD_none, hexp]
      · have hlen : 0 < (Nat.toDigits 10 d.digits).length := Nat.length_toDigits_pos
        have hexp : d.exponent + (Nat.toDigits 10 d.digits).length - 1
            - ((Nat.toDigits 10 d.digits).drop 1).length = d.exponent := by
          rw [List.length_drop]
          omega
        simp only [Parts.decimal, value, List.take_append_drop, Nat.ofDigitChars_ten_toDigits,
          Option.getD_some, hexp]

/-! ## Signed numbers -/

/-- Characters a JSON number is made of. -/
def isNumberChar (c : Char) : Bool :=
  c.isDigit || c = '-' || c = '+' || c = '.' || c = 'e' || c = 'E'

/-- A minus sign in front of a negative number. -/
def signText (negative : Bool) (cs : List Char) : List Char :=
  if negative then '-' :: cs else cs

/-- The sign of a number text and the text behind it. -/
def readSign : List Char → Bool × List Char
  | '-' :: cs => (true, cs)
  | cs => (false, cs)

theorem readSign_text (negative : Bool) {cs : List Char} (h : cs.head? ≠ some '-') :
    readSign (signText negative cs) = (negative, cs) := by
  cases negative with
  | true => rfl
  | false =>
      cases cs with
      | nil => rfl
      | cons c cs =>
          have hc : c ≠ '-' := by simpa using h
          unfold signText readSign
          split
          · rename_i heq
            simp at heq
            exact absurd heq.1 hc
          · simp

theorem Parts.WellFormed.head_text {p : Parts} (hp : p.WellFormed) : p.text.head? ≠ some '-' := by
  obtain ⟨c, cs, hwhole⟩ := List.exists_cons_of_ne_nil hp.whole_ne
  have hc : c.isDigit := hp.whole_digits c (by simp [hwhole])
  rw [Parts.text, hwhole]
  intro h
  simp at h
  rw [h] at hc
  exact absurd hc (by decide)

theorem Parts.WellFormed.isNumberChar {p : Parts} (hp : p.WellFormed) :
    ∀ c ∈ p.text, isNumberChar c := by
  have hdigit : ∀ c : Char, c.isDigit → Decimal.isNumberChar c := by
    intro c hc
    simp [Decimal.isNumberChar, hc]
  intro c hc
  simp only [Parts.text, List.mem_append] at hc
  rcases hc with hc | hc | hc
  · exact hdigit c (hp.whole_digits c hc)
  · unfold fractionText at hc
    split at hc
    · simp at hc
    · rcases List.mem_cons.mp hc with rfl | hc
      · rfl
      · exact hdigit c (hp.fraction_digits c hc)
  · cases hexp : p.exponent with
    | none => simp [hexp, exponentText] at hc
    | some e =>
        rw [hexp, exponentText] at hc
        rcases List.mem_cons.mp hc with rfl | hc
        · rfl
        · rcases List.mem_cons.mp hc with rfl | hc
          · split <;> rfl
          · exact hdigit c (isDigit_of_mem_toDigits hc)

/-- The parts a double is written with. Zero is the whole number it is. -/
def parts (fmt : Format) (x : Binary64) : Parts :=
  if x.bits = 0 then ⟨['0'], fmt.tail, none⟩ else layout fmt (shortest x)

/-- Write a double: its sign, and its shortest digits in the given format. -/
def text (fmt : Format) (x : Binary64) : List Char :=
  signText x.negative (parts fmt x).text

/-- The sign and the parts of a signed JSON number. -/
def readNumber (cs : List Char) : Option (Bool × Parts) :=
  (readParts (readSign cs).2).map fun p => ((readSign cs).1, p)

/-- Read a number text as the nearest double. -/
def readBinary64 (cs : List Char) : Option Binary64 :=
  match readNumber cs with
  | none => none
  | some (negative, p) => Binary64.ofRat negative p.decimal.value

/-- A format is usable when its tail is a run of zeros. -/
def Format.Valid (fmt : Format) : Prop :=
  fmt.tail = List.replicate fmt.tail.length '0'

theorem Format.Valid.digits {fmt : Format} (h : fmt.Valid) : ∀ c ∈ fmt.tail, c.isDigit := by
  intro c hc
  rw [h] at hc
  rw [(List.mem_replicate.mp hc).2]
  rfl

theorem parts_wellFormed {fmt : Format} (h : fmt.Valid) (x : Binary64) :
    (parts fmt x).WellFormed := by
  unfold parts
  split
  · exact ⟨by simp, by simp, by simp, h.digits⟩
  · rename_i hx
    exact layout_wellFormed h.digits (shortest_digits_pos hx)

/-- The parts of a double round to it. -/
theorem roundMagnitude_parts {fmt : Format} (h : fmt.Valid) (x : Binary64) :
    Binary64.roundMagnitude (parts fmt x).decimal.value = x.bits := by
  unfold parts
  split
  · rename_i hx
    have hzero : Nat.ofDigitChars 10 ('0' :: fmt.tail) 0 = 0 := by
      rw [h]
      simp [Nat.ofDigitChars_cons]
    have hvalue : (⟨['0'], fmt.tail, none⟩ : Parts).decimal.value = 0 := by
      simp [Parts.decimal, value, hzero]
    rw [hx, hvalue, Binary64.roundMagnitude_of_units (u := 0) (by simp)]
    simp [Binary64.roundHalfEven]
  · rw [layout_value h, roundMagnitude_shortest]

theorem readNumber_text {fmt : Format} (h : fmt.Valid) (x : Binary64) :
    readNumber (text fmt x) = some (x.negative, parts fmt x) := by
  have hwf := parts_wellFormed h x
  rw [readNumber, text, readSign_text x.negative hwf.head_text, readParts_text hwf]
  rfl

/-- The text of a double is read back as that double. -/
theorem readBinary64_text {fmt : Format} (h : fmt.Valid) (x : Binary64) :
    readBinary64 (text fmt x) = some x := by
  rw [readBinary64, readNumber_text h]
  exact Binary64.ofRat_of_roundMagnitude (roundMagnitude_parts h x)

/-- The text of a double is a number token. -/
theorem isNumberChar_text {fmt : Format} (h : fmt.Valid) (x : Binary64) :
    text fmt x ≠ [] ∧ ∀ c ∈ text fmt x, isNumberChar c := by
  have hwf := parts_wellFormed h x
  constructor
  · intro hnil
    unfold text signText at hnil
    split at hnil
    · simp at hnil
    · rw [Parts.text, List.append_eq_nil_iff] at hnil
      exact hwf.whole_ne hnil.1
  · intro c hc
    unfold text signText at hc
    split at hc
    · rcases List.mem_cons.mp hc with rfl | hc
      · rfl
      · exact hwf.isNumberChar c hc
    · exact hwf.isNumberChar c hc

/-! ## ECMAScript -/

/-- The notation of ECMAScript: positional from `1e-6` up to `1e21`. -/
def ecmaScript : Format := ⟨-6, 21, []⟩

theorem ecmaScript_valid : ecmaScript.Valid := rfl

/-- `Number::toString` in radix ten; negative zero is written `0`. -/
def numberToString (x : Binary64) : List Char := text ecmaScript x.dropNegativeZero

/-- ECMAScript's number text determines the double, up to the sign of zero. -/
theorem readBinary64_numberToString (x : Binary64) :
    readBinary64 (numberToString x) = some x.dropNegativeZero :=
  readBinary64_text ecmaScript_valid x.dropNegativeZero

end Decimal

end PeerBadge
