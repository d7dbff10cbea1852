import PeerBadge.Jcs

/-! # serde_json values

`serde_json::Number` without arbitrary precision, `serde_json::Value` with its
sorted map of object members, and the equality both have. A document that has been
read but not yet collected into maps is a bare `Json Number`.

`Value.rfc8785` is what RFC 8785 makes of a value: every number is its double.
`Value.canonical_eq_iff` says that canonical bytes stand for exactly that.
`Value.throughDoubles` is what JavaScript makes of one, and RFC 8785 does not see it.
-/

namespace PeerBadge

/-- A number is held as a `u64`, as a negative `i64` or as a finite `f64`. -/
inductive Number where
  | posInt (n : UInt64)
  | negInt (n : Int64) (neg : n < 0)
  | float (x : Binary64)
deriving DecidableEq

namespace Number

/-- `PartialEq` of numbers: the same form, and floats compared as IEEE 754 does. -/
def eq : Number → Number → Bool
  | .posInt m, .posInt n => m == n
  | .negInt m _, .negInt n _ => m == n
  | .float x, .float y => x.dropNegativeZero == y.dropNegativeZero
  -- `7` and `7.0` are different
  | _, _ => false

/-- Forget the sign of a zero held as a float. -/
def dropNegativeZero : Number → Number
  | .float x => .float x.dropNegativeZero
  | n => n

/-- Equality is equality up to the sign of zero. -/
theorem eq_iff (m n : Number) : m.eq n ↔ m.dropNegativeZero = n.dropNegativeZero := by
  cases m <;> cases n <;> simp [eq, dropNegativeZero]

theorem natAbs_lt (n : Int64) : n.toInt.natAbs < 2 ^ 64 := by
  have hlow : -2 ^ 63 ≤ n.toInt := Int64.le_toInt n
  have hhigh : n.toInt < 2 ^ 63 := Int64.toInt_lt n
  omega

/-- The double a number is written as: integers are rounded to the nearest one. -/
def toBinary64 : Number → Binary64
  | .posInt n => Binary64.ofNat false n.toNat n.toNat_lt
  | .negInt n _ => Binary64.ofNat true n.toInt.natAbs (natAbs_lt n)
  | .float x => x

/-- The double up to the sign of zero. -/
def double (n : Number) : Binary64 := n.toBinary64.dropNegativeZero

/-- Equal numbers are written alike. -/
theorem double_dropNegativeZero (n : Number) : n.dropNegativeZero.double = n.double := by
  cases n <;> simp [double, dropNegativeZero, toBinary64]

/-- Held differently: an integer against a float, or two integers. -/
def HeldApart : Number → Number → Prop
  | .posInt m, .posInt n => m ≠ n
  | .negInt m _, .negInt n _ => m ≠ n
  | .float _, .float _ => False
  | _, _ => True

/-- Numbers written alike are equal unless they are held differently. -/
theorem dropNegativeZero_eq_iff {m n : Number} (h : m.double = n.double) :
    m.dropNegativeZero = n.dropNegativeZero ↔ ¬m.HeldApart n := by
  cases m <;> cases n <;> simp [dropNegativeZero, HeldApart]
  -- two floats: what they are written as is what they are
  exact h

/-- `Number::as_u64`. -/
def asU64 : Number → Option UInt64
  | .posInt n => some n
  | _ => none

/-- A whole number below `2^53` as JavaScript hands it over: `-0` arrives as `0`. -/
def ofSafeInteger (negative : Bool) (m : Nat) : Number :=
  if h : negative ∧ Int64.ofInt (-m) < 0 then .negInt (Int64.ofInt (-m)) h.2
  else .posInt (UInt64.ofNat m)

/-- A number that has been a JavaScript number: its double, which arrives as an integer
when it is a whole number of the safe range. -/
def throughDouble (n : Number) : Number :=
  match n.toBinary64.safeInteger with
  | none => .float n.toBinary64
  | some m => ofSafeInteger n.toBinary64.negative m

/-- Integers up to `2^53` have doubles of their own. -/
theorem double_posInt_inj {m n : UInt64} (hm : m.toNat ≤ 2 ^ 53) (hn : n.toNat ≤ 2 ^ 53)
    (h : (posInt m).double = (posInt n).double) : m = n := by
  have hbits := congrArg Binary64.bits h
  simp only [double, toBinary64, Binary64.dropNegativeZero_bits, Binary64.ofNat] at hbits
  exact UInt64.toNat_inj.mp (Binary64.roundMagnitude_natCast_inj hm hn hbits)

/-- The bits and the sign of the double of a number. -/
theorem double_eq_iff {m n : Number} :
    m.double = n.double ↔ m.toBinary64.bits = n.toBinary64.bits ∧
      (m.toBinary64.bits ≠ 0 → m.toBinary64.negative = n.toBinary64.negative) :=
  Binary64.dropNegativeZero_eq_iff

@[simp] theorem toBinary64_posInt (n : UInt64) :
    (posInt n).toBinary64.negative = false ∧
      (posInt n).toBinary64.bits = Binary64.roundMagnitude n.toNat :=
  ⟨rfl, rfl⟩

@[simp] theorem toBinary64_negInt (n : Int64) (neg : n < 0) :
    (negInt n neg).toBinary64.negative = true ∧
      (negInt n neg).toBinary64.bits = Binary64.roundMagnitude n.toInt.natAbs :=
  ⟨rfl, rfl⟩

/-- A positive integer below `2^53` shares its double with floats only. -/
theorem eq_posInt_or_float {m : Number} {n : UInt64} (hpos : 0 < n) (hn : n.toNat < 2 ^ 53)
    (h : m.double = (posInt n).double) : m = .posInt n ∨ ∃ x, m = .float x := by
  rcases double_eq_iff.mp h with ⟨hbits, hsign⟩
  rw [(toBinary64_posInt n).1, (toBinary64_posInt n).2] at *
  cases m with
  | float x => exact Or.inr ⟨x, rfl⟩
  | posInt k =>
      rw [(toBinary64_posInt k).2] at hbits
      have hk := Binary64.roundMagnitude_natCast_inj_left hn hbits.symm
      rw [UInt64.toNat_inj.mp hk]
      exact Or.inl rfl
  | negInt k neg =>
      -- the double is not zero, so it has the sign of the integer
      have hzero := Binary64.roundMagnitude_natCast_ne_zero (UInt64.lt_iff_toNat_lt.mp hpos)
      have hneg := hsign (hbits ▸ hzero)
      rw [(toBinary64_negInt k neg).1] at hneg
      cases hneg

theorem toInt_ofInt_neg {m : Nat} (h : m < 2 ^ 53) : (Int64.ofInt (-m)).toInt = -m := by
  apply Int64.toInt_ofInt_of_le <;> omega

/-- The integer of a given sign has the double of that sign. -/
theorem double_ofSafeInteger {x : Binary64} {m : Nat} (hm : m < 2 ^ 53)
    (hbits : Binary64.roundMagnitude m = x.bits) :
    (ofSafeInteger x.negative m).double = x.dropNegativeZero := by
  have hint := toInt_ofInt_neg hm
  apply Binary64.dropNegativeZero_eq_iff.mpr
  unfold ofSafeInteger
  by_cases hneg : x.negative ∧ Int64.ofInt (-m) < 0
  · have habs : (Int64.ofInt (-m)).toInt.natAbs = m := by omega
    rw [dif_pos hneg, (toBinary64_negInt _ _).1, (toBinary64_negInt _ _).2, habs, hneg.1]
    exact ⟨hbits, fun _ => rfl⟩
  · have hnat : (UInt64.ofNat m).toNat = m := UInt64.toNat_ofNat_of_lt' (by
      have hsize : UInt64.size = 2 ^ 64 := rfl
      omega)
    rw [dif_neg hneg, (toBinary64_posInt _).1, (toBinary64_posInt _).2, hnat]
    refine ⟨hbits, ?_⟩
    intro hzero
    -- a negative whole number that is not zero would have arrived as one
    rw [Eq.comm, Bool.eq_false_iff]
    intro hnegative
    apply hneg
    refine ⟨hnegative, Int64.lt_iff_toInt_lt.mpr ?_⟩
    have hm0 : m ≠ 0 := by
      rintro rfl
      exact hzero Binary64.roundMagnitude_zero
    rw [hint, Int64.toInt_zero]
    omega

theorem throughDouble_of_none {n : Number} (h : n.toBinary64.safeInteger = none) :
    n.throughDouble = float n.toBinary64 := by
  simp only [throughDouble, h]

theorem throughDouble_of_some {n : Number} {m : Nat} (h : n.toBinary64.safeInteger = some m) :
    n.throughDouble = ofSafeInteger n.toBinary64.negative m := by
  simp only [throughDouble, h]

/-- The way through JavaScript keeps the double. -/
theorem double_throughDouble (n : Number) : n.throughDouble.double = n.double := by
  cases hsafe : n.toBinary64.safeInteger with
  | none =>
      rw [throughDouble_of_none hsafe]
      rfl
  | some m =>
      rcases Binary64.safeInteger_eq_some hsafe with ⟨hm, hbits⟩
      rw [throughDouble_of_some hsafe]
      exact double_ofSafeInteger hm hbits

theorem ofSafeInteger_false (m : Nat) : ofSafeInteger false m = posInt (UInt64.ofNat m) := by
  rw [ofSafeInteger, dif_neg]
  intro h
  exact Bool.false_ne_true h.1

/-- Whatever is written like a positive integer of the safe range arrives as it. -/
theorem throughDouble_of_double_eq {m : Number} {n : UInt64} (hpos : 0 < n)
    (hn : n.toNat < 2 ^ 53) (h : m.double = (posInt n).double) : m.throughDouble = posInt n := by
  rcases double_eq_iff.mp h with ⟨hbits, hsign⟩
  rw [(toBinary64_posInt n).1, (toBinary64_posInt n).2] at *
  -- the double is not zero, so it has the sign of the integer
  have hzero := Binary64.roundMagnitude_natCast_ne_zero (UInt64.lt_iff_toNat_lt.mp hpos)
  have hneg := hsign (hbits ▸ hzero)
  rw [throughDouble_of_some (Binary64.safeInteger_of_bits hn hbits), hneg, ofSafeInteger_false,
    UInt64.ofNat_toNat]

end Number

/-- A JSON value: a tree whose objects are all sorted maps. -/
@[ext] structure Value where
  tree : Json Number
  sorted : tree.Sorted
deriving DecidableEq

namespace Value

/-- A document as a value: of members with one name the last stays. -/
def ofDocument (doc : Json Number) : Value := ⟨doc.toSorted, Json.sorted_toSorted doc⟩

theorem ofDocument_tree (v : Value) : ofDocument v.tree = v :=
  Value.ext (Json.toSorted_of_sorted v.sorted)

def string (s : String) : Value := ⟨.str s, .str s⟩

def number (n : Number) : Value := ⟨.num n, .num n⟩

def array (xs : List Value) : Value :=
  ⟨.arr (xs.map tree), by
    rw [Json.sorted_arr_iff]
    intro x hx
    rcases List.mem_map.mp hx with ⟨v, -, rfl⟩
    exact v.sorted⟩

/-- An object built member by member, as `json!` and a derived `Serialize` do. -/
def object (ms : List (String × Value)) : Value :=
  ⟨.obj (Json.ofMembers (ms.map fun m => (m.1, m.2.tree))), by
    rw [Json.sorted_obj_iff]
    constructor
    · exact Json.keysSorted_ofMembers _
    · intro m hm
      rcases List.mem_map.mp (Json.mem_ofMembers hm) with ⟨n, -, rfl⟩
      exact n.2.sorted⟩

/-- `Value::as_str`. -/
def asStr (v : Value) : Option String :=
  match v.tree with
  | .str s => some s
  | _ => none

/-- `Value::as_u64`. -/
def asU64 (v : Value) : Option UInt64 :=
  match v.tree with
  | .num n => n.asU64
  | _ => none

/-- `Value::as_object`: the members by name. -/
def asObject (v : Value) : Option (List (String × Value)) :=
  v.tree.members.map (List.map fun m => (m.1, ofDocument m.2))

theorem asStr_eq_some_iff {v : Value} {s : String} : v.asStr = some s ↔ v = .string s := by
  rcases v with ⟨tree, sorted⟩
  cases tree <;> simp [asStr, string]

theorem asU64_eq_some_iff {v : Value} {n : UInt64} :
    v.asU64 = some n ↔ v = .number (.posInt n) := by
  rcases v with ⟨tree, sorted⟩
  cases tree with
  | num m => cases m <;> simp [asU64, Number.asU64, number]
  | _ => simp [asU64, number]

/-- The members of an object are values again. -/
theorem asObject_eq_some_iff {v : Value} {ms : List (String × Value)} :
    v.asObject = some ms ↔ v.tree = .obj (ms.map fun m => (m.1, m.2.tree)) := by
  rcases v with ⟨tree, sorted⟩
  cases tree with
  | obj ns =>
      have hsub := ((Json.sorted_obj_iff ns).mp sorted).2
      simp only [asObject, Json.members, Option.map_some, Option.some.injEq, Json.obj.injEq]
      constructor
      · rintro rfl
        rw [List.map_map]
        refine ((List.map_congr_left ?_).trans (List.map_id ns)).symm
        intro m hm
        simp only [Function.comp_apply, ofDocument, Json.toSorted_of_sorted (hsub m hm), id_eq]
      · rintro rfl
        rw [List.map_map]
        refine (List.map_congr_left ?_).trans (List.map_id ms)
        intro m _
        simp only [Function.comp_apply, ofDocument_tree, id_eq]
  | _ => simp [asObject, Json.members]

@[simp] theorem asObject_object (ms : List (String × Value)) :
    (object ms).asObject = some (Json.ofMembers ms) := by
  rw [asObject_eq_some_iff, ← Json.ofMembers_map]
  rfl

/-- `PartialEq` of values. -/
def eq (v w : Value) : Bool := Json.eqBy Number.eq v.tree w.tree

/-- Values are equal when their trees are, up to the sign of zeros held as floats. -/
theorem eq_iff (v w : Value) :
    v.eq w ↔ v.tree.mapNum Number.dropNegativeZero = w.tree.mapNum Number.dropNegativeZero :=
  Json.eqBy_iff Number.eq_iff v.tree w.tree

@[simp] theorem eq_self (v : Value) : v.eq v = true := (eq_iff v v).mpr rfl

theorem eq_string_iff {v : Value} {s : String} : v.eq (.string s) ↔ v = .string s := by
  rcases v with ⟨tree, sorted⟩
  rw [eq_iff]
  cases tree <;> simp [string]

/-- Among the numbers only an integer equals an integer. -/
theorem eq_posInt_iff {v : Value} {n : UInt64} :
    v.eq (.number (.posInt n)) ↔ v = .number (.posInt n) := by
  rcases v with ⟨tree, sorted⟩
  rw [eq_iff]
  cases tree with
  | num m => cases m <;> simp [number, Number.dropNegativeZero]
  | _ => simp [number]

/-- The value is an object with all members of another one, and maybe more. -/
def Contains (v w : Value) : Prop :=
  ∃ ms ns, v.asObject = some ms ∧ w.asObject = some ns ∧
    ∀ n ∈ ns, ∃ x, ms.lookup n.1 = some x ∧ x.eq n.2

theorem contains_object_iff {v : Value} {ns : List (String × Value)}
    (h : (ns.map Prod.fst).Nodup) :
    v.Contains (object ns) ↔ ∃ ms, v.asObject = some ms ∧
      ∀ n ∈ ns, ∃ x, ms.lookup n.1 = some x ∧ x.eq n.2 := by
  simp only [Contains, asObject_object, Option.some.injEq, exists_and_left, exists_eq_left',
    (Json.ofMembers_perm h).mem_iff]

/-! ## RFC 8785 -/

/-- The value as RFC 8785 sees it: a tree of doubles. -/
def rfc8785 (v : Value) : Json Binary64 := v.tree.mapNum Number.double

/-- The canonical bytes of RFC 8785. -/
def canonical (v : Value) : Bytes := Jcs.bytes (v.tree.mapNum Number.toBinary64)

/-- Canonical bytes are equal exactly for values RFC 8785 does not tell apart. -/
theorem canonical_eq_iff (v w : Value) : v.canonical = w.canonical ↔ v.rfc8785 = w.rfc8785 := by
  unfold canonical
  rw [Jcs.bytes_eq_iff (Json.sorted_mapNum _ v.sorted) (Json.sorted_mapNum _ w.sorted),
    Json.mapNum_mapNum, Json.mapNum_mapNum]
  rfl

/-- Equality of values is finer than RFC 8785. -/
theorem rfc8785_eq_of_eq {v w : Value} (h : v.eq w) : v.rfc8785 = w.rfc8785 := by
  -- the sign of a zero is dropped by RFC 8785 anyway
  have hdouble : Number.double ∘ Number.dropNegativeZero = Number.double := by
    funext n
    exact Number.double_dropNegativeZero n
  have hmap := congrArg (Json.mapNum Number.double) ((eq_iff v w).mp h)
  rwa [Json.mapNum_mapNum, Json.mapNum_mapNum, hdouble] at hmap

/-- Written alike, but with a number that the two values hold differently. -/
def Confused (v w : Value) : Prop :=
  v.rfc8785 = w.rfc8785 ∧ ∃ pair ∈ v.tree.nums.zip w.tree.nums, pair.1.HeldApart pair.2

/-- Values written alike are equal unless a number is held differently. -/
theorem eq_iff_not_confused {v w : Value} (h : v.rfc8785 = w.rfc8785) :
    v.eq w ↔ ¬Confused v w := by
  have hdouble := (Json.mapNum_eq_iff_nums h).mp h
  rw [eq_iff, Json.mapNum_eq_iff_nums h, Confused, not_and, not_exists]
  constructor
  · intro heq _ pair hpair
    exact (Number.dropNegativeZero_eq_iff (hdouble pair hpair.1)).mp (heq pair hpair.1) hpair.2
  · intro hnot pair hpair
    apply (Number.dropNegativeZero_eq_iff (hdouble pair hpair)).mpr
    intro hapart
    exact hnot h pair ⟨hpair, hapart⟩

theorem not_confused_self (v : Value) : ¬Confused v v :=
  (eq_iff_not_confused rfl).mp (eq_self v)

@[simp] theorem rfc8785_string (s : String) : (string s).rfc8785 = .str s := rfl

@[simp] theorem rfc8785_number (n : Number) : (number n).rfc8785 = .num n.double := rfl

@[simp] theorem rfc8785_array (xs : List Value) :
    (array xs).rfc8785 = .arr (xs.map rfc8785) := by
  simp only [rfc8785, array, Json.mapNum_arr, List.map_map]
  rfl

/-- RFC 8785 sees the members of an object, by name. -/
@[simp] theorem rfc8785_object (ms : List (String × Value)) :
    (object ms).rfc8785 = .obj (Json.ofMembers (ms.map fun m => (m.1, m.2.rfc8785))) := by
  have hmap := Json.ofMembers_map (Json.mapNum Number.double)
    (ms.map fun m => (m.1, m.2.tree))
  simp only [List.map_map, Function.comp_def] at hmap
  simp only [rfc8785, object, Json.mapNum_obj, hmap]

theorem eq_string_of_rfc8785 {v : Value} {s : String} (h : v.rfc8785 = (string s).rfc8785) :
    v = .string s := by
  rcases v with ⟨tree, sorted⟩
  cases tree <;> simp [rfc8785, string] at h ⊢
  exact h

theorem eq_number_of_rfc8785 {v : Value} {n : Number} (h : v.rfc8785 = (number n).rfc8785) :
    ∃ m, v = .number m ∧ m.double = n.double := by
  rcases v with ⟨tree, sorted⟩
  cases tree <;> simp [rfc8785, number] at h ⊢
  exact h

/-- Members of one name are written alike. -/
theorem lookup_rfc8785 {v w : Value} {ms : List (String × Value)} (h : v.rfc8785 = w.rfc8785)
    (hv : v.asObject = some ms) :
    ∃ ns, w.asObject = some ns ∧
      ∀ k, (ms.lookup k).map rfc8785 = (ns.lookup k).map rfc8785 := by
  rw [asObject_eq_some_iff] at hv
  have hobj : w.rfc8785 = .obj (ms.map fun m => (m.1, m.2.rfc8785)) := by
    rw [← h, rfc8785, hv, Json.mapNum_obj, List.map_map]
    rfl
  cases hw : w.asObject with
  | none =>
      rcases w with ⟨tree, sorted⟩
      cases tree <;> simp [rfc8785, asObject, Json.members] at hobj hw
  | some ns =>
      refine ⟨ns, rfl, ?_⟩
      rw [rfc8785, asObject_eq_some_iff.mp hw, Json.mapNum_obj, List.map_map,
        Json.obj.injEq] at hobj
      intro k
      rw [← Json.lookup_map, ← Json.lookup_map, ← hobj]
      rfl

/-! ## JavaScript -/

/-- The value as it arrives from JavaScript. -/
def throughDoubles (v : Value) : Value :=
  ⟨v.tree.mapNum Number.throughDouble, Json.sorted_mapNum _ v.sorted⟩

theorem rfc8785_throughDoubles (v : Value) : v.throughDoubles.rfc8785 = v.rfc8785 := by
  have hdouble : Number.double ∘ Number.throughDouble = Number.double := by
    funext n
    exact Number.double_throughDouble n
  rw [rfc8785, throughDoubles, Json.mapNum_mapNum, hdouble]
  rfl

@[simp] theorem throughDoubles_number (n : Number) :
    (number n).throughDoubles = number n.throughDouble := rfl

theorem lookup_throughDoubles {v : Value} {ms : List (String × Value)}
    (h : v.asObject = some ms) :
    ∃ ns, v.throughDoubles.asObject = some ns ∧
      ∀ k, ns.lookup k = (ms.lookup k).map throughDoubles := by
  refine ⟨ms.map fun m => (m.1, m.2.throughDoubles), ?_, ?_⟩
  · rw [asObject_eq_some_iff] at h ⊢
    simp only [throughDoubles, h, Json.mapNum_obj, List.map_map]
    rfl
  · exact Json.lookup_map throughDoubles ms

end Value

end PeerBadge
