import PeerBadge.Value

/-! # JavaScript values

What crosses the border to JavaScript: a JSON tree all of whose numbers are doubles.
Read, a whole number of the safe range is an integer, another finite number is a float,
and what is no number in JSON is `null`. The members of an object stand in the order they
are written in; readers go by their names.

A value read from JavaScript holds each number in the one way its double is held. On
such values `PartialEq`, which tells `7` from `7.0`, and RFC 8785, which does not, agree.
-/

namespace PeerBadge

/-- A double, finite or not. -/
inductive F64 where
  | finite (x : Binary64)
  | infinite (negative : Bool)
  | nan
deriving DecidableEq

/-- A JavaScript value with a JSON form. -/
abbrev JsValue := Json F64

/-! ## Numbers -/

namespace Binary64

/-- Zero is a whole number of the safe range. -/
theorem safeInteger_of_zero {x : Binary64} (h : x.bits = 0) : x.safeInteger = some 0 :=
  safeInteger_of_bits (by decide) (h.trans roundMagnitude_zero.symm)

theorem dropNegativeZero_of_bits {x : Binary64} (h : x.bits ≠ 0) : x.dropNegativeZero = x := by
  rw [dropNegativeZero, if_neg h]

end Binary64

namespace Number

/-- A finite number as it arrives from JavaScript. -/
def ofDouble (x : Binary64) : Number :=
  match x.safeInteger with
  | none => .float x
  | some m => ofSafeInteger x.negative m

theorem throughDouble_eq_ofDouble (n : Number) : n.throughDouble = ofDouble n.toBinary64 := rfl

/-- An integer is never written as a negative zero. -/
theorem dropNegativeZero_toBinary64 {n : Number} (h : ∀ x, n ≠ .float x) :
    n.toBinary64.dropNegativeZero = n.toBinary64 := by
  cases n with
  | float x => exact absurd rfl (h x)
  | posInt k =>
      rw [Binary64.dropNegativeZero]
      split <;> rfl
  | negInt k neg =>
      have hint : k.toInt < 0 := Int64.lt_iff_toInt_lt.mp neg
      have hpos : 0 < k.toInt.natAbs := by omega
      apply Binary64.dropNegativeZero_of_bits
      rw [(toBinary64_negInt k neg).2]
      exact Binary64.roundMagnitude_natCast_ne_zero hpos

theorem ofSafeInteger_ne_float (negative : Bool) (m : Nat) (x : Binary64) :
    ofSafeInteger negative m ≠ .float x := by
  unfold ofSafeInteger
  split <;> intro h <;> cases h

/-- Back in JavaScript the number is the same one, up to the sign of zero. -/
theorem toBinary64_ofDouble (x : Binary64) : (ofDouble x).toBinary64 = x.dropNegativeZero := by
  unfold ofDouble
  cases hsafe : x.safeInteger with
  | none =>
      have hbits : x.bits ≠ 0 := by
        intro hzero
        rw [Binary64.safeInteger_of_zero hzero] at hsafe
        cases hsafe
      exact (Binary64.dropNegativeZero_of_bits hbits).symm
  | some m =>
      rcases Binary64.safeInteger_eq_some hsafe with ⟨hm, hbits⟩
      have hdouble := double_ofSafeInteger hm hbits
      rwa [double, dropNegativeZero_toBinary64 (ofSafeInteger_ne_float _ m)] at hdouble

/-- The sign of zero does not arrive. -/
theorem ofDouble_dropNegativeZero (x : Binary64) : ofDouble x.dropNegativeZero = ofDouble x := by
  by_cases hbits : x.bits = 0
  · have hzero : ∀ negative, ofSafeInteger negative 0 = posInt 0 := by decide
    have hdrop : x.dropNegativeZero.bits = 0 := (Binary64.dropNegativeZero_bits x).trans hbits
    simp only [ofDouble, Binary64.safeInteger_of_zero hbits, Binary64.safeInteger_of_zero hdrop,
      hzero]
  · rw [Binary64.dropNegativeZero_of_bits hbits]

/-- What arrives depends on how the number is written, and on nothing else. -/
theorem throughDouble_eq_double (n : Number) : n.throughDouble = ofDouble n.double := by
  rw [throughDouble_eq_ofDouble, double, ofDouble_dropNegativeZero]

theorem throughDouble_ofDouble (x : Binary64) : (ofDouble x).throughDouble = ofDouble x := by
  rw [throughDouble_eq_ofDouble, toBinary64_ofDouble, ofDouble_dropNegativeZero]

/-- An integer JavaScript has a number for. -/
def Safe : Number → Prop
  | .posInt n => n.toNat < 2 ^ 53
  | .negInt n _ => n.toInt.natAbs < 2 ^ 53
  | .float _ => True

instance : DecidablePred Safe := fun n =>
  match n with
  | .posInt n => inferInstanceAs (Decidable (n.toNat < 2 ^ 53))
  | .negInt n _ => inferInstanceAs (Decidable (n.toInt.natAbs < 2 ^ 53))
  | .float _ => inferInstanceAs (Decidable True)

theorem safe_ofDouble (x : Binary64) : (ofDouble x).Safe := by
  unfold ofDouble
  cases hsafe : x.safeInteger with
  | none => trivial
  | some m =>
      have hm := (Binary64.safeInteger_eq_some hsafe).1
      have hint := toInt_ofInt_neg hm
      simp only [ofSafeInteger]
      split
      · simp only [Safe]
        omega
      · have hnat : (UInt64.ofNat m).toNat = m := UInt64.toNat_ofNat_of_lt' (by
          have hsize : UInt64.size = 2 ^ 64 := rfl
          omega)
        simp only [Safe, hnat]
        exact hm

/-- A safe integer arrives as itself. -/
theorem throughDouble_posInt {n : UInt64} (h : n.toNat < 2 ^ 53) :
    (posInt n).throughDouble = posInt n := by
  rw [throughDouble_of_some (Binary64.safeInteger_of_bits h (toBinary64_posInt n).2),
    (toBinary64_posInt n).1, ofSafeInteger_false, UInt64.ofNat_toNat]

end Number

/-! ## Trees -/

namespace JsValue

/-- What a reader sees of a JavaScript value. -/
def document : JsValue → Json Number :=
  Json.fold
    { null := .null, bool := .bool
      num := fun x =>
        match x with
        | .finite x => .num (.ofDouble x)
        -- `serde_json` has no number for these
        | _ => .null
      str := .str, arr := .arr, obj := .obj }

@[simp] theorem document_arr (xs : List JsValue) : document (.arr xs) = .arr (xs.map document) := by
  simp [document]

@[simp] theorem document_obj (ms : List (String × JsValue)) :
    document (.obj ms) = .obj (ms.map fun m => (m.1, document m.2)) := by
  simp [document]

/-- Another trip through JavaScript changes nothing. -/
theorem mapNum_document (js : Json F64) :
    (document js).mapNum Number.throughDouble = document js := by
  induction js with
  | num x =>
      cases x with
      | finite x => exact congrArg Json.num (Number.throughDouble_ofDouble x)
      | _ => rfl
  | arr xs ih =>
      simp only [document_arr, Json.mapNum_arr, List.map_map, Json.arr.injEq]
      exact List.map_congr_left ih
  | obj ms ih =>
      simp only [document_obj, Json.mapNum_obj, List.map_map, Json.obj.injEq]
      apply List.map_congr_left
      intro m hm
      simp only [Function.comp_apply, ih m hm]
  | _ => rfl

theorem document_mapNum (f : Number → Binary64) (tree : Json Number) :
    document (tree.mapNum fun n => .finite (f n)) = tree.mapNum fun n => .ofDouble (f n) := by
  induction tree with
  | arr xs ih =>
      simp only [document_arr, Json.mapNum_arr, List.map_map, Json.arr.injEq]
      exact List.map_congr_left ih
  | obj ms ih =>
      simp only [document_obj, Json.mapNum_obj, List.map_map, Json.obj.injEq]
      apply List.map_congr_left
      intro m hm
      simp only [Function.comp_apply, ih m hm]
  | _ => rfl

end JsValue

namespace Value

/-- A JavaScript value, read as a `serde_json::Value`. -/
def ofJs (js : JsValue) : Value := .ofDocument (JsValue.document js)

/-- The JavaScript value `JSON.parse` makes of the text of a value. -/
def parsed (v : Value) : JsValue := v.tree.mapNum fun n => .finite n.toBinary64

/-- Every number is held the way it arrives from JavaScript. -/
def IsJs (v : Value) : Prop := v.throughDoubles = v

/-- What arrives depends on what RFC 8785 sees, and on nothing else. -/
theorem throughDoubles_tree (v : Value) :
    v.throughDoubles.tree = v.rfc8785.mapNum Number.ofDouble := by
  have hnumber : Number.throughDouble = Number.ofDouble ∘ Number.double := by
    funext n
    exact Number.throughDouble_eq_double n
  rw [rfc8785, Json.mapNum_mapNum, ← hnumber]
  rfl

theorem throughDoubles_eq_iff {v w : Value} :
    v.throughDoubles = w.throughDoubles ↔ v.rfc8785 = w.rfc8785 := by
  constructor
  · intro h
    rw [← rfc8785_throughDoubles v, h, rfc8785_throughDoubles]
  · intro h
    apply Value.ext
    rw [throughDoubles_tree, throughDoubles_tree, h]

theorem isJs_throughDoubles (v : Value) : v.throughDoubles.IsJs :=
  throughDoubles_eq_iff.mpr (rfc8785_throughDoubles v)

theorem isJs_ofJs (js : JsValue) : (ofJs js).IsJs := by
  apply Value.ext
  have hsorted := Json.toSorted_mapNum Number.throughDouble (JsValue.document js)
  rw [JsValue.mapNum_document] at hsorted
  exact hsorted.symm

/-- On values from JavaScript equality and RFC 8785 agree. -/
theorem IsJs.eq_iff {v w : Value} (hv : v.IsJs) (hw : w.IsJs) :
    v = w ↔ v.rfc8785 = w.rfc8785 := by
  rw [← throughDoubles_eq_iff, hv, hw]

theorem IsJs.eqv_iff {v w : Value} (hv : v.IsJs) (hw : w.IsJs) :
    v.eq w ↔ v.rfc8785 = w.rfc8785 := by
  constructor
  · exact rfc8785_eq_of_eq
  · intro h
    rw [(hv.eq_iff hw).mpr h, eq_self]

/-- What JavaScript parses is read as the value that went through doubles. -/
theorem document_parsed (v : Value) : JsValue.document v.parsed = v.throughDoubles.tree :=
  JsValue.document_mapNum Number.toBinary64 v.tree

theorem ofJs_parsed (v : Value) : ofJs v.parsed = v.throughDoubles := by
  rw [ofJs, document_parsed, ofDocument_tree]

/-- JavaScript has a number for every integer that came from there. -/
theorem IsJs.safe {v : Value} (h : v.IsJs) {n : Number} (hn : n ∈ v.tree.nums) : n.Safe := by
  have hnums : v.tree.nums = v.tree.nums.map Number.throughDouble := by
    rw [← Json.nums_mapNum]
    exact congrArg (fun w : Value => w.tree.nums) h.symm
  rw [hnums] at hn
  rcases List.mem_map.mp hn with ⟨k, -, rfl⟩
  exact Number.safe_ofDouble _

/-! ## Forms -/

@[simp] theorem throughDoubles_string (s : String) : (string s).throughDoubles = string s := rfl

@[simp] theorem throughDoubles_array (xs : List Value) :
    (array xs).throughDoubles = array (xs.map throughDoubles) := by
  apply Value.ext
  simp only [throughDoubles, array, Json.mapNum_arr, List.map_map]
  rfl

@[simp] theorem throughDoubles_object (ms : List (String × Value)) :
    (object ms).throughDoubles = object (ms.map fun m => (m.1, m.2.throughDoubles)) := by
  apply Value.ext
  have hmap := Json.ofMembers_map (Json.mapNum Number.throughDouble)
    (ms.map fun m => (m.1, m.2.tree))
  simp only [List.map_map, Function.comp_def] at hmap
  simp only [throughDoubles, object, Json.mapNum_obj, hmap, List.map_map, Function.comp_def]

end Value

end PeerBadge
