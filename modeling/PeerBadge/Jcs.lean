import Mathlib.Data.List.Sort
import PeerBadge.JsonText

/-! # JSON canonicalization

The canonical text of RFC 8785 for a value whose numbers are doubles: no
whitespace, members in the order of the UTF-16 code units of their names, strings
escaped as `JSON.stringify` escapes them, numbers in ECMAScript notation, and the
whole in UTF-8.

The result is that the encoding is unambiguous: on sorted values two canonical
texts are equal exactly when the values are, negative zero counting as zero.
-/

namespace PeerBadge

namespace Jcs

variable {ν μ : Type}

/-! ## Member order -/

/-- The UTF-16 code units of a character. -/
def utf16Char (c : Char) : List Nat :=
  if c.toNat < 0x10000 then [c.toNat]
  -- a surrogate pair, which sorts below the characters from U+E000 on
  else [0xD800 + (c.toNat - 0x10000) / 0x400, 0xDC00 + (c.toNat - 0x10000) % 0x400]

def utf16 (s : String) : List Nat := s.toList.flatMap utf16Char

/-- The order of member names: code unit by code unit. -/
def NameLe {α : Type} (m n : String × α) : Prop := utf16 m.1 ≤ utf16 n.1

instance {α : Type} : DecidableRel (@NameLe α) := fun m n =>
  inferInstanceAs (Decidable (utf16 m.1 ≤ utf16 n.1))

def orderMembers {α : Type} (ms : List (String × α)) : List (String × α) :=
  ms.insertionSort NameLe

/-- Put the members of every object in order. -/
def order : Json ν → Json ν :=
  Json.fold
    { null := .null, bool := .bool, num := .num, str := .str, arr := .arr
      obj := fun ms => .obj (orderMembers ms) }

@[simp] theorem order_arr (xs : List (Json ν)) : order (.arr xs) = .arr (xs.map order) := by
  simp [order]

@[simp] theorem order_obj (ms : List (String × Json ν)) :
    order (.obj ms) = .obj (orderMembers (ms.map fun m => (m.1, order m.2))) := by
  simp [order]

/-- Ordering looks at names only. -/
theorem orderMembers_map {α β : Type} (f : α → β) (ms : List (String × α)) :
    orderMembers (ms.map fun m => (m.1, f m.2)) = (orderMembers ms).map fun m => (m.1, f m.2) :=
  (List.map_insertionSort NameLe NameLe (fun m => (m.1, f m.2)) ms fun _ _ _ _ => Iff.rfl).symm

theorem order_mapNum (f : ν → μ) (v : Json ν) : order (v.mapNum f) = (order v).mapNum f := by
  induction v with
  | arr xs ih => simpa using ih
  | obj ms ih =>
      have hvalues : (ms.map fun m => (m.1, order (m.2.mapNum f)))
          = ms.map fun m => (m.1, (order m.2).mapNum f) :=
        List.map_congr_left fun m hm => by rw [ih m hm]
      have hmap := orderMembers_map (Json.mapNum f) (ms.map fun m => (m.1, order m.2))
      simp only [List.map_map, Function.comp_def] at hmap
      simp only [Json.mapNum_obj, order_obj, List.map_map, Function.comp_def, hvalues, hmap]
  | _ => rfl

/-- Reading an ordered value into sorted maps gives the value back. -/
theorem toSorted_order {v : Json ν} (h : v.Sorted) : (order v).toSorted = v := by
  induction v with
  | arr xs ih =>
      rw [Json.sorted_arr_iff] at h
      simpa [Function.comp_def] using
        List.map_congr_left (g := id) fun x hx => ih x hx (h x hx)
  | obj ms ih =>
      rw [Json.sorted_obj_iff] at h
      -- reordered, then mapped back, the members are a permutation of the sorted ones
      have hback : ((ms.map fun m => (m.1, order m.2)).map fun m => (m.1, m.2.toSorted)) = ms := by
        simpa using List.map_congr_left (g := id) fun m hm => by simp [ih m hm (h.2 m hm)]
      have hperm : ((orderMembers (ms.map fun m => (m.1, order m.2))).map
          fun m => (m.1, m.2.toSorted)).Perm ms := by
        have hsort := (List.perm_insertionSort NameLe (ms.map fun m => (m.1, order m.2))).map
          fun m => (m.1, m.2.toSorted)
        rwa [hback] at hsort
      rw [order_obj, Json.toSorted_obj, Json.ofMembers_eq_of_perm hperm h.1]
  | _ => rfl

/-! ## Text -/

/-- The canonical text. -/
def text (v : Json Binary64) : List Char := (order v).render Decimal.numberToString

/-- The canonical bytes. -/
def bytes (v : Json Binary64) : Bytes := Encoding.utf8 (text v)

/-- ECMAScript number texts fit the JSON number reader. -/
theorem numberText :
    Json.NumberText Decimal.numberToString Decimal.readBinary64 Binary64.dropNegativeZero where
  ne_nil _ := (Decimal.isNumberChar_text Decimal.ecmaScript_valid _).1
  chars _ := (Decimal.isNumberChar_text Decimal.ecmaScript_valid _).2
  read := Decimal.readBinary64_numberToString

theorem numberToString_dropNegativeZero (x : Binary64) :
    Decimal.numberToString x.dropNegativeZero = Decimal.numberToString x := by
  simp only [Decimal.numberToString, Binary64.dropNegativeZero_dropNegativeZero]

theorem text_dropNegativeZero (v : Json Binary64) :
    text (v.mapNum Binary64.dropNegativeZero) = text v := by
  rw [text, text, order_mapNum, Json.render_mapNum]
  congr 1
  funext x
  exact numberToString_dropNegativeZero x

/-- Equal canonical texts are texts of equal values. -/
theorem text_eq_iff {v w : Json Binary64} (hv : v.Sorted) (hw : w.Sorted) :
    text v = text w ↔
      v.mapNum Binary64.dropNegativeZero = w.mapNum Binary64.dropNegativeZero := by
  constructor
  · -- read the text back, and undo the ordering of members
    intro h
    have hread := Json.mapNum_eq_of_render_eq numberText h
    rw [← order_mapNum, ← order_mapNum] at hread
    have hsorted := congrArg Json.toSorted hread
    rwa [toSorted_order (Json.sorted_mapNum _ hv), toSorted_order (Json.sorted_mapNum _ hw)]
      at hsorted
  · intro h
    rw [← text_dropNegativeZero v, h, text_dropNegativeZero w]

/-- Canonical bytes identify a value. -/
theorem bytes_eq_iff {v w : Json Binary64} (hv : v.Sorted) (hw : w.Sorted) :
    bytes v = bytes w ↔
      v.mapNum Binary64.dropNegativeZero = w.mapNum Binary64.dropNegativeZero := by
  rw [← text_eq_iff hv hw]
  exact Encoding.utf8_injective.eq_iff

/-- The names of RFC 8785, section 3.2.3, in their order. -/
example :
    (orderMembers [("\u20ac", ()), ("\r", ()), ("\ufb33", ()), ("1", ()), ("😀", ()),
      ("\u0080", ()), ("\u00f6", ())]).map Prod.fst
      = ["\r", "1", "\u0080", "\u00f6", "\u20ac", "😀", "\ufb33"] := by
  decide

end Jcs

end PeerBadge
