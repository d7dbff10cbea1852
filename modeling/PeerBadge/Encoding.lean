import Mathlib.Data.List.TakeWhile
import Mathlib.Logic.Function.Basic

/-! # Byte encodings

UTF-8 text, hexadecimal, unpadded URL-safe base64 and NUL-terminated prefixes, on
lists of bytes. The encoders are injective because each has a decoder that undoes
it; the base64 decoder is the one a padding-indifferent reader has.
-/

namespace PeerBadge

/-- A byte string. -/
abbrev Bytes := List UInt8

namespace Encoding

/-- The UTF-8 bytes of a text. -/
def utf8 (cs : List Char) : Bytes := (String.ofList cs).toUTF8.data.toList

theorem utf8_injective : Function.Injective utf8 := by
  intro cs ds h
  have hbytes : (String.ofList cs).toByteArray = (String.ofList ds).toByteArray :=
    ByteArray.ext (Array.toList_inj.mp h)
  exact String.ofList_injective (String.toByteArray_inj.mp hbytes)

/-! ## Terminated prefixes -/

/-- A prefix that ends in its only terminator can be told from what follows. -/
theorem append_terminator_inj {α : Type} {z : α} {s t x y : List α} (hs : z ∉ s) (ht : z ∉ t)
    (h : s ++ z :: x = t ++ z :: y) : s = t ∧ x = y := by
  induction s generalizing t with
  | nil =>
      cases t with
      | nil => simpa using h
      | cons b t =>
          have hb : z = b := (List.cons.inj h).1
          exact absurd (by simp [hb]) ht
  | cons a s ih =>
      cases t with
      | nil =>
          -- the shorter prefix would put the terminator into the longer one
          have ha : a = z := (List.cons.inj h).1
          exact absurd (by simp [ha]) hs
      | cons b t =>
          obtain ⟨hab, htail⟩ := List.cons.inj h
          obtain ⟨hst, hxy⟩ := ih (fun hz => hs (List.mem_cons_of_mem _ hz))
            (fun hz => ht (List.mem_cons_of_mem _ hz)) htail
          exact ⟨by rw [hab, hst], hxy⟩

/-! ## Hexadecimal -/

/-- The value of a hexadecimal digit, in either case. -/
def hexValue (c : Char) : Option Nat :=
  if '0' ≤ c ∧ c ≤ '9' then some (c.toNat - '0'.toNat)
  else if 'a' ≤ c ∧ c ≤ 'f' then some (c.toNat - 'a'.toNat + 10)
  else if 'A' ≤ c ∧ c ≤ 'F' then some (c.toNat - 'A'.toNat + 10)
  else none

theorem hexValue_digitChar : ∀ n < 16, hexValue (Nat.digitChar n) = some n := by
  decide

/-- Two lowercase digits for each byte. -/
def hex : Bytes → List Char
  | [] => []
  | b :: bs => Nat.digitChar (b.toNat / 16) :: Nat.digitChar (b.toNat % 16) :: hex bs

def ofHex : List Char → Option Bytes
  | [] => some []
  | [_] => none
  | c :: d :: cs => do
      let hi ← hexValue c
      let lo ← hexValue d
      let bs ← ofHex cs
      some (UInt8.ofNat (hi * 16 + lo) :: bs)

theorem ofHex_hex (bs : Bytes) : ofHex (hex bs) = some bs := by
  induction bs with
  | nil => rfl
  | cons b bs ih =>
      have hb : b.toNat < 256 := b.toNat_lt
      have hhi := hexValue_digitChar (b.toNat / 16) (by omega)
      have hlo := hexValue_digitChar (b.toNat % 16) (Nat.mod_lt _ (by decide))
      have hbyte : b.toNat / 16 * 16 + b.toNat % 16 = b.toNat := by omega
      simp only [hex, ofHex, hhi, hlo, ih, Option.bind_eq_bind, Option.bind_some, hbyte,
        UInt8.ofNat_toNat]

theorem hex_injective : Function.Injective hex := by
  intro a b h
  have ha := ofHex_hex a
  rw [h, ofHex_hex] at ha
  exact (Option.some.inj ha).symm

/-! ## Base64 -/

/-- The URL-safe alphabet. -/
def base64Char (n : Nat) : Char :=
  if n < 26 then Char.ofNat ('A'.toNat + n)
  else if n < 52 then Char.ofNat ('a'.toNat + (n - 26))
  else if n < 62 then Char.ofNat ('0'.toNat + (n - 52))
  else if n = 62 then '-'
  else '_'

def base64Value (c : Char) : Option Nat :=
  if 'A' ≤ c ∧ c ≤ 'Z' then some (c.toNat - 'A'.toNat)
  else if 'a' ≤ c ∧ c ≤ 'z' then some (c.toNat - 'a'.toNat + 26)
  else if '0' ≤ c ∧ c ≤ '9' then some (c.toNat - '0'.toNat + 52)
  else if c = '-' then some 62
  else if c = '_' then some 63
  else none

theorem base64Value_base64Char : ∀ n < 64, base64Value (base64Char n) = some n := by
  decide

/-- Padding is not in the alphabet. -/
theorem base64Char_ne_pad : ∀ n < 64, base64Char n ≠ '=' := by
  decide

/-- Three bytes make four characters; a final group of one or two bytes makes two
or three. -/
def base64 : Bytes → List Char
  | [] => []
  | [a] => [base64Char (a.toNat / 4), base64Char (a.toNat % 4 * 16)]
  | [a, b] =>
      [base64Char (a.toNat / 4), base64Char (a.toNat % 4 * 16 + b.toNat / 16),
        base64Char (b.toNat % 16 * 4)]
  | a :: b :: c :: bs =>
      base64Char (a.toNat / 4) :: base64Char (a.toNat % 4 * 16 + b.toNat / 16) ::
        base64Char (b.toNat % 16 * 4 + c.toNat / 64) :: base64Char (c.toNat % 64) :: base64 bs

/-- Groups of four characters. In a final shorter group the bits that belong to no
byte must be zero. -/
def ofBase64Digits : List Char → Option Bytes
  | [] => some []
  | [_] => none
  | [w, x] => do
      let w ← base64Value w
      let x ← base64Value x
      if x % 16 = 0 then some [UInt8.ofNat (w * 4 + x / 16)] else none
  | [w, x, y] => do
      let w ← base64Value w
      let x ← base64Value x
      let y ← base64Value y
      if y % 4 = 0 then
        some [UInt8.ofNat (w * 4 + x / 16), UInt8.ofNat (x % 16 * 16 + y / 4)]
      else none
  | w :: x :: y :: z :: cs => do
      let w ← base64Value w
      let x ← base64Value x
      let y ← base64Value y
      let z ← base64Value z
      let bs ← ofBase64Digits cs
      some (UInt8.ofNat (w * 4 + x / 16) :: UInt8.ofNat (x % 16 * 16 + y / 4) ::
        UInt8.ofNat (y % 4 * 64 + z) :: bs)

/-- Decode; the padding the length calls for may be there or not. -/
def ofBase64 (cs : List Char) : Option Bytes :=
  -- padding may be there in full, in part or not at all
  let digits := cs.takeWhile (· != '=')
  let pad := cs.dropWhile (· != '=')
  if pad.all (· == '=') && decide (pad.length ≤ (4 - digits.length % 4) % 4) then
    ofBase64Digits digits
  else none

theorem ofBase64Digits_base64 (bs : Bytes) : ofBase64Digits (base64 bs) = some bs := by
  have hvalue := base64Value_base64Char
  -- in each group the characters carry all bits of the bytes
  fun_induction base64 bs with
  | case1 => rfl
  | case2 a =>
      have ha : a.toNat < 256 := a.toNat_lt
      have h0 := hvalue (a.toNat / 4) (by omega)
      have h1 := hvalue (a.toNat % 4 * 16) (by omega)
      have hlow : a.toNat % 4 * 16 % 16 = 0 := by omega
      have hbyte : a.toNat / 4 * 4 + a.toNat % 4 * 16 / 16 = a.toNat := by omega
      simp only [ofBase64Digits, h0, h1, Option.bind_eq_bind, Option.bind_some, hlow, hbyte,
        if_true, UInt8.ofNat_toNat]
  | case3 a b =>
      have ha : a.toNat < 256 := a.toNat_lt
      have hb : b.toNat < 256 := b.toNat_lt
      have h0 := hvalue (a.toNat / 4) (by omega)
      have h1 := hvalue (a.toNat % 4 * 16 + b.toNat / 16) (by omega)
      have h2 := hvalue (b.toNat % 16 * 4) (by omega)
      have hlow : b.toNat % 16 * 4 % 4 = 0 := by omega
      have hbyte : a.toNat / 4 * 4 + (a.toNat % 4 * 16 + b.toNat / 16) / 16 = a.toNat := by omega
      have hbyte' : (a.toNat % 4 * 16 + b.toNat / 16) % 16 * 16 + b.toNat % 16 * 4 / 4
          = b.toNat := by omega
      simp only [ofBase64Digits, h0, h1, h2, Option.bind_eq_bind, Option.bind_some, hlow, hbyte,
        hbyte', if_true, UInt8.ofNat_toNat]
  | case4 a b c bs ih =>
      have ha : a.toNat < 256 := a.toNat_lt
      have hb : b.toNat < 256 := b.toNat_lt
      have hc : c.toNat < 256 := c.toNat_lt
      have h0 := hvalue (a.toNat / 4) (by omega)
      have h1 := hvalue (a.toNat % 4 * 16 + b.toNat / 16) (by omega)
      have h2 := hvalue (b.toNat % 16 * 4 + c.toNat / 64) (by omega)
      have h3 := hvalue (c.toNat % 64) (by omega)
      have hbyte : a.toNat / 4 * 4 + (a.toNat % 4 * 16 + b.toNat / 16) / 16 = a.toNat := by omega
      have hbyte' : (a.toNat % 4 * 16 + b.toNat / 16) % 16 * 16
          + (b.toNat % 16 * 4 + c.toNat / 64) / 4 = b.toNat := by omega
      have hbyte'' : (b.toNat % 16 * 4 + c.toNat / 64) % 4 * 64 + c.toNat % 64
          = c.toNat := by omega
      simp only [ofBase64Digits, h0, h1, h2, h3, ih, Option.bind_eq_bind, Option.bind_some,
        hbyte, hbyte', hbyte'', UInt8.ofNat_toNat]

theorem base64_ne_pad (bs : Bytes) : ∀ c ∈ base64 bs, c ≠ '=' := by
  have hpad := base64Char_ne_pad
  fun_induction base64 bs with
  | case1 => simp
  | case2 a =>
      have ha : a.toNat < 256 := a.toNat_lt
      simp only [List.mem_cons, List.not_mem_nil, or_false, forall_eq_or_imp, forall_eq]
      exact ⟨hpad _ (by omega), hpad _ (by omega)⟩
  | case3 a b =>
      have ha : a.toNat < 256 := a.toNat_lt
      have hb : b.toNat < 256 := b.toNat_lt
      simp only [List.mem_cons, List.not_mem_nil, or_false, forall_eq_or_imp, forall_eq]
      exact ⟨hpad _ (by omega), hpad _ (by omega), hpad _ (by omega)⟩
  | case4 a b c bs ih =>
      have ha : a.toNat < 256 := a.toNat_lt
      have hb : b.toNat < 256 := b.toNat_lt
      have hc : c.toNat < 256 := c.toNat_lt
      simp only [List.mem_cons, forall_eq_or_imp]
      exact ⟨hpad _ (by omega), hpad _ (by omega), hpad _ (by omega), hpad _ (by omega), ih⟩

/-- Unpadded text is decoded to the bytes it was made from. -/
theorem ofBase64_base64 (bs : Bytes) : ofBase64 (base64 bs) = some bs := by
  have htake : (base64 bs).takeWhile (· != '=') = base64 bs := by
    rw [List.takeWhile_eq_self_iff]
    intro c hc
    simpa using base64_ne_pad bs c hc
  have hdrop : (base64 bs).dropWhile (· != '=') = [] := by
    rw [List.dropWhile_eq_nil_iff]
    intro c hc
    simpa using base64_ne_pad bs c hc
  simp [ofBase64, htake, hdrop, ofBase64Digits_base64]

theorem base64_injective : Function.Injective base64 := by
  intro a b h
  have ha := ofBase64_base64 a
  rw [h, ofBase64_base64] at ha
  exact (Option.some.inj ha).symm

end Encoding

end PeerBadge
