import PeerBadge.Value

/-! # serde_json text

The text `serde_json` writes for a document and the reader behind `from_str`, with
its default features: a number without fraction and exponent is an integer when it
fits, every other number is the nearest double, and a reader with `remaining`
levels refuses what is nested as deep.

`read_write` is the round trip: a document is read back exactly, unless it
is too deep.
-/

namespace PeerBadge

namespace SerdeJson

/-- Positional between `1e-5` and `1e16`; a whole number gets the fraction `.0`. -/
def floatFormat : Decimal.Format := ⟨-5, 16, ['0']⟩

theorem floatFormat_valid : floatFormat.Valid := rfl

def numberText : Number → List Char
  | .posInt n => Nat.toDigits 10 n.toNat
  | .negInt n _ => '-' :: Nat.toDigits 10 n.toInt.natAbs
  | .float x => Decimal.text floatFormat x

/-- The nearest double, unless it is out of range. -/
def readFloat (negative : Bool) (p : Decimal.Parts) : Option Number :=
  (Binary64.ofRat negative p.decimal.value).map .float

/-- Digits only are an integer, if `u64` or `i64` holds it. -/
def readInteger (negative : Bool) (p : Decimal.Parts) : Option Number :=
  let n := Nat.ofDigitChars 10 p.whole 0
  if negative then
    -- `-0` is not negative and becomes a float, and so does what no `i64` holds
    if h : n ≤ 2 ^ 63 ∧ Int64.ofInt (-n) < 0 then some (.negInt (Int64.ofInt (-n)) h.2)
    else readFloat negative p
  else if n < 2 ^ 64 then some (.posInt (UInt64.ofNat n))
  else readFloat negative p

/-- Digits only: what an integer looks like. -/
def Integral (p : Decimal.Parts) : Prop := p.fraction = [] ∧ p.exponent = none

instance (p : Decimal.Parts) : Decidable (Integral p) :=
  inferInstanceAs (Decidable (p.fraction = [] ∧ p.exponent = none))

def readNumber (cs : List Char) : Option Number :=
  match Decimal.readNumber cs with
  | none => none
  | some (negative, p) =>
      if Integral p then readInteger negative p
      else readFloat negative p

/-- `serde_json::to_string` of a document. -/
def write (doc : Json Number) : List Char := doc.render numberText

/-- `serde_json::from_str`, with the levels of nesting it starts from. -/
def read (remaining : Nat) (cs : List Char) : Except Json.ReadError (Json Number) :=
  Json.readDocument readNumber remaining cs

/-! ## Numbers -/

/-- The parts of a natural number. -/
theorem toDigits_wellFormed (n : Nat) :
    Decimal.Parts.WellFormed ⟨Nat.toDigits 10 n, [], none⟩ where
  whole_ne := Nat.toDigits_ne_nil
  whole_digits _ hc := Decimal.isDigit_of_mem_toDigits hc
  no_leading_zero h := by
    rcases Nat.eq_zero_or_pos n with rfl | hpos
    · rfl
    · exact absurd h (Decimal.head_toDigits_ne_zero hpos)
  fraction_digits := by simp

theorem readNumber_toDigits (negative : Bool) (n : Nat) :
    Decimal.readNumber (Decimal.signText negative (Nat.toDigits 10 n))
      = some (negative, ⟨Nat.toDigits 10 n, [], none⟩) := by
  have hwf := toDigits_wellFormed n
  have htext : Decimal.Parts.text ⟨Nat.toDigits 10 n, [], none⟩ = Nat.toDigits 10 n := by
    simp [Decimal.Parts.text, Decimal.fractionText, Decimal.exponentText]
  have hhead := hwf.head_text
  have hread := Decimal.readParts_text hwf
  rw [htext] at hhead hread
  rw [Decimal.readNumber, Decimal.readSign_text negative hhead, hread]
  rfl

theorem layout_not_integral (d : Decimal) : ¬Integral (Decimal.layout floatFormat d) := by
  have hne : Nat.toDigits 10 d.digits ≠ [] := Nat.toDigits_ne_nil
  unfold Decimal.layout Integral
  dsimp only
  -- a whole number has the tail, a split one has digits left, the last has an exponent
  split
  · simp [floatFormat]
  · split
    · rename_i hwhole hsplit
      intro h
      rcases h with ⟨hnil, -⟩
      rw [List.drop_eq_nil_iff] at hnil
      omega
    · split
      · simp [hne]
      · simp

/-- A float never looks like an integer. -/
theorem parts_not_integral (x : Binary64) : ¬Integral (Decimal.parts floatFormat x) := by
  unfold Decimal.parts
  split
  · simp [Integral, floatFormat]
  · exact layout_not_integral _

theorem readNumber_float (x : Binary64) :
    readNumber (Decimal.text floatFormat x) = some (.float x) := by
  rw [readNumber, Decimal.readNumber_text floatFormat_valid]
  have hround := Decimal.roundMagnitude_parts floatFormat_valid x
  simp only [if_neg (parts_not_integral x), readFloat, Binary64.ofRat_of_roundMagnitude hround]
  rfl

/-- A negative `i64` is recovered from its magnitude. -/
theorem ofInt_neg_natAbs (n : Int64) (neg : n < 0) :
    Int64.ofInt (-(n.toInt.natAbs : Int)) = n := by
  have hneg : n.toInt < 0 := Int64.lt_iff_toInt_lt.mp neg
  have habs : -(n.toInt.natAbs : Int) = n.toInt := by omega
  rw [habs, Int64.ofInt_toInt]

/-- Numbers are read back as they were held. -/
theorem numberText_spec : Json.NumberText numberText readNumber id where
  ne_nil n := by
    cases n with
    | posInt n => exact Nat.toDigits_ne_nil
    | negInt n neg => simp [numberText]
    | float x => exact (Decimal.isNumberChar_text floatFormat_valid x).1
  chars n := by
    have hdigits : ∀ m, ∀ c ∈ Nat.toDigits 10 m, Decimal.isNumberChar c := by
      intro m c hc
      simp [Decimal.isNumberChar, Decimal.isDigit_of_mem_toDigits hc]
    cases n with
    | posInt n => exact hdigits n.toNat
    | negInt n neg =>
        intro c hc
        rcases List.mem_cons.mp hc with rfl | hc
        · rfl
        · exact hdigits _ c hc
    | float x => exact (Decimal.isNumberChar_text floatFormat_valid x).2
  read n := by
    cases n with
    | posInt n =>
        have hread := readNumber_toDigits false n.toNat
        have hlt : n.toNat < 2 ^ 64 := n.toNat_lt
        simp only [Decimal.signText, Bool.false_eq_true, if_false] at hread
        have hint : Integral ⟨Nat.toDigits 10 n.toNat, [], none⟩ := ⟨rfl, rfl⟩
        simp only [numberText, readNumber, hread, if_pos hint, readInteger, Bool.false_eq_true,
          if_false, Nat.ofDigitChars_ten_toDigits, if_pos hlt, UInt64.ofNat_toNat, id]
    | negInt n neg =>
        -- the magnitude of an `i64` may be `2^63`
        have hread := readNumber_toDigits true n.toInt.natAbs
        have hle : n.toInt.natAbs ≤ 2 ^ 63 := by
          have hlow : -2 ^ 63 ≤ n.toInt := Int64.le_toInt n
          have hneg : n.toInt < 0 := Int64.lt_iff_toInt_lt.mp neg
          omega
        have hback := ofInt_neg_natAbs n neg
        simp only [Decimal.signText, if_true] at hread
        have hint : Integral ⟨Nat.toDigits 10 n.toInt.natAbs, [], none⟩ := ⟨rfl, rfl⟩
        simp only [numberText, readNumber, hread, if_pos hint, readInteger, if_true,
          Nat.ofDigitChars_ten_toDigits, hback, hle, neg, and_self, dif_pos, id]
    | float x => exact readNumber_float x

/-! ## Documents -/

/-- What was written is read back unless it is nested too deep. -/
theorem read_write {remaining : Nat} (hrem : 0 < remaining) (doc : Json Number) :
    read remaining (write doc) =
      if doc.depth < remaining then .ok doc else .error .recursionLimitExceeded := by
  rw [read, write, Json.readDocument_render numberText_spec doc hrem, Json.mapNum_id]

end SerdeJson

end PeerBadge
