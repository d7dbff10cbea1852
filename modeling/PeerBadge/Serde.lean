import PeerBadge.Outcome
import PeerBadge.Value

/-! # Derived deserialization

What `serde`'s derived `Deserialize` makes of a document: structs from objects by
member name or from arrays by position, unit variants by name, and the errors of
both. The order in which several errors of one document would be met is left open.

`Transports` is the law of a writer and its reader; any number of hops keeps it.
-/

namespace PeerBadge

/-- What a document that is valid JSON can have wrong with it. -/
inductive DeError where
  | invalidType
  | missingField (field : String)
  | duplicateField (field : String)
  | unknownField (field : String)
  | unknownVariant (variant : String)
  | trailingElements
  | custom (message : String)
deriving DecidableEq, Repr

namespace Serde

/-- The members of a struct with `deny_unknown_fields`, as a lookup by field name. -/
def structFields (fields : List String) :
    Json Number → Except DeError (String → Option (Json Number))
  | .obj ms =>
      match ms.find? fun m => decide (m.1 ∉ fields) with
      | some m => .error (.unknownField m.1)
      | none =>
          match fields.find? fun f => decide (1 < ms.countP fun m => m.1 == f) with
          | some f => .error (.duplicateField f)
          | none => .ok fun f => ms.lookup f
  | .arr xs =>
      -- elements are fields in order; missing ones are the reader's business
      if fields.length < xs.length then .error .trailingElements
      else .ok fun f => (fields.zip xs).lookup f
  | _ => .error .invalidType

/-- A member that has to be there. -/
def required (lookup : String → Option (Json Number)) (field : String) :
    Except DeError (Json Number) :=
  match lookup field with
  | some doc => .ok doc
  | none => .error (.missingField field)

def string : Json Number → Except DeError String
  | .str s => .ok s
  | _ => .error .invalidType

/-- The name of a unit variant, alone or with a `null` behind it. -/
def unitVariant : Json Number → Except DeError String
  | .str s => .ok s
  -- `{"name": null}` is the same variant
  | .obj [(s, .null)] => .ok s
  | _ => .error .invalidType

/-- A `u16`: an unsigned integer that fits. -/
def u16 : Json Number → Except DeError UInt16
  | .num (.posInt n) =>
      if n.toNat < 2 ^ 16 then .ok n.toUInt16 else .error (.custom "integer out of range")
  | .num (.negInt _ _) => .error (.custom "integer out of range")
  | _ => .error .invalidType

/-- A byte field in base64. -/
def bytes (doc : Json Number) : Except DeError Bytes := do
  let s ← string doc
  match Encoding.ofBase64 s.toList with
  | some bytes => .ok bytes
  | none => .error (.custom "invalid base64")

/-- `Option`: `null` or the thing itself. -/
def option {α : Type} (read : Json Number → Except DeError α) :
    Json Number → Except DeError (Option α)
  | .null => .ok none
  | doc => (read doc).map some

/-- A `u64`: any unsigned integer. -/
def u64 : Json Number → Except DeError UInt64
  | .num (.posInt n) => .ok n
  | .num (.negInt _ _) => .error (.custom "integer out of range")
  | _ => .error .invalidType

/-- A byte field of a fixed length. -/
def byteVector (n : Nat) (wrongLength : Nat → DeError) (doc : Json Number) :
    Except DeError (Vector UInt8 n) := do
  let bytes ← bytes doc
  if h : bytes.length = n then .ok ⟨bytes.toArray, h⟩ else .error (wrongLength bytes.length)

/-- `serde_json::Value`: anything, and of members with one name the last. -/
def value (doc : Json Number) : Except DeError Value := .ok (.ofDocument doc)

def list {α : Type} (read : Json Number → Except DeError α) :
    Json Number → Except DeError (List α)
  | .arr xs => xs.mapM read
  | _ => .error .invalidType

/-! ## Structs that ignore unknown members -/

/-- A field of a struct: the member of that name, or the element in its place. -/
def member (fields : List String) (doc : Json Number) (field : String) : Option (Json Number) :=
  match doc with
  | .obj ms => ms.lookup field
  | .arr xs => (fields.zip xs).lookup field
  | _ => none

/-- What is wrong with a struct apart from its fields. -/
def checkStruct (fields : List String) : Json Number → Except DeError Unit
  | .obj ms =>
      -- a member no field is named after may come twice
      match fields.find? fun f => decide (1 < ms.countP fun m => m.1 == f) with
      | some f => .error (.duplicateField f)
      | none => .ok ()
  | .arr xs => if fields.length < xs.length then .error .trailingElements else .ok ()
  | _ => .error .invalidType

/-- The shape of a struct: an object that repeats no field, or an array with no more elements
than there are fields. -/
def StructShaped (fields : List String) : Json Number → Prop
  | .obj ms => ∀ f ∈ fields, (ms.countP fun m => m.1 == f) ≤ 1
  | .arr xs => xs.length ≤ fields.length
  | _ => False

/-- A repeated field, surplus elements and what is no struct are refused, and nothing else. -/
theorem checkStruct_eq_ok {fields : List String} {doc : Json Number} :
    checkStruct fields doc = .ok () ↔ StructShaped fields doc := by
  cases doc with
  | obj ms =>
      rw [checkStruct, StructShaped]
      cases hrepeated : fields.find? fun f => decide (1 < ms.countP fun m => m.1 == f) with
      | none =>
          rw [List.find?_eq_none] at hrepeated
          simpa using hrepeated
      | some f =>
          have hmem := List.mem_of_find?_eq_some hrepeated
          have htwice : 1 < ms.countP fun m => m.1 == f := by
            simpa using List.find?_some hrepeated
          simp only [reduceCtorEq, false_iff]
          intro hshaped
          exact absurd (hshaped f hmem) (by omega)
  | arr xs =>
      rw [checkStruct, StructShaped]
      by_cases h : fields.length < xs.length
      · simp [h]
      · rw [if_neg h]
        exact iff_of_true rfl (Nat.le_of_not_lt h)
  | _ => simp [checkStruct, StructShaped]

/-- All that is read has the shape of the struct. -/
def ReadsStruct {α : Type} (fields : List String) (read : Json Number → Except DeError α) : Prop :=
  ∀ doc x, read doc = .ok x → StructShaped fields doc

theorem readsStruct_checkStruct {α : Type} (fields : List String)
    (read : Json Number → Except DeError α) :
    ReadsStruct fields fun doc => (do
      checkStruct fields doc
      read doc) := by
  intro doc x h
  rcases Outcome.bind_eq_ok.mp h with ⟨_, hcheck, -⟩
  exact checkStruct_eq_ok.mp hcheck

/-- A field that has to be there, read as what it holds. -/
def field {α : Type} (fields : List String) (doc : Json Number) (name : String)
    (read : Json Number → Except DeError α) : Except DeError α := do
  let doc ← required (member fields doc) name
  read doc

/-! ## Transport -/

section Transport

variable {α ε : Type}

/-- A document is read, and what was read is written again. -/
def hop (write : α → Except ε Value) (read : Json Number → Except DeError α) (doc : Json Number) :
    Option (Json Number) :=
  match read doc with
  | .error _ => none
  | .ok x =>
      match write x with
      | .error _ => none
      | .ok v => some v.tree

/-- The document after so many hops. -/
def hops (write : α → Except ε Value) (read : Json Number → Except DeError α) :
    Nat → Json Number → Option (Json Number)
  | 0, doc => some doc
  | n + 1, doc => (hop write read doc).bind (hops write read n)

/-- A form that every object has. -/
def infallible (write : α → Value) (x : α) : Except Empty Value := .ok (write x)

/-- What is written is read back as it was, and what is read can be written. -/
structure Transports (write : α → Except ε Value) (read : Json Number → Except DeError α) :
    Prop where
  read_write : ∀ x v, write x = .ok v → read v.tree = .ok x
  rewrites : ∀ doc x, read doc = .ok x → ∃ v, write x = .ok v

theorem transports_infallible {write : α → Value} {read : Json Number → Except DeError α}
    (h : ∀ x, read (write x).tree = .ok x) : Transports (infallible write) read := by
  constructor
  · intro x v hv
    rw [← Except.ok.inj hv]
    exact h x
  · intro doc x _
    exact ⟨write x, rfl⟩

/-- Any number of hops leaves what is read. -/
theorem Transports.read_hops {write : α → Except ε Value} {read : Json Number → Except DeError α}
    (h : Transports write read) {doc : Json Number} {x : α} (hread : read doc = .ok x) (n : Nat) :
    ∃ doc', hops write read n doc = some doc' ∧ read doc' = .ok x := by
  induction n generalizing doc with
  | zero => exact ⟨doc, rfl, hread⟩
  | succ n ih =>
      rcases h.rewrites doc x hread with ⟨v, hv⟩
      rcases ih (h.read_write x v hv) with ⟨doc', hhops, hread'⟩
      refine ⟨doc', ?_, hread'⟩
      simp only [hops, hop, hread, hv, Option.bind_some, hhops]

end Transport

/-! ## Reading what was written -/

theorem required_eq_ok {lookup : String → Option (Json Number)} {name : String}
    {doc : Json Number} : required lookup name = .ok doc ↔ lookup name = some doc := by
  unfold required
  cases lookup name with
  | none => simp
  | some d => simp

theorem field_eq_ok {α : Type} {fields : List String} {doc : Json Number} {name : String}
    {read : Json Number → Except DeError α} {x : α} :
    field fields doc name read = .ok x ↔
      ∃ d, member fields doc name = some d ∧ read d = .ok x := by
  simp only [field, Outcome.bind_eq_ok, required_eq_ok]

/-- Members with distinct names repeat no field. -/
theorem find_duplicate_eq_none {fields : List String} {ms : List (String × Json Number)}
    (h : (ms.map Prod.fst).Nodup) :
    (fields.find? fun f => decide (1 < ms.countP fun m => m.1 == f)) = none := by
  rw [List.find?_eq_none]
  intro f _
  -- a name occurs among the members as often as among their names
  have hcount : (ms.countP fun m => m.1 == f) = (ms.map Prod.fst).count f := by
    rw [List.count, List.countP_map]
    rfl
  have hle : (ms.map Prod.fst).count f ≤ 1 := List.nodup_iff_count_le_one.mp h f
  simp only [hcount, decide_eq_true_eq]
  omega

/-- A sorted object has no member twice. -/
theorem checkStruct_object (fields : List String) (ms : List (String × Value)) :
    checkStruct fields (Value.object ms).tree = .ok () := by
  have honce : (fields.find? fun f => decide (1 <
      (Json.ofMembers (ms.map fun m => (m.1, m.2.tree))).countP fun m => m.1 == f)) = none :=
    find_duplicate_eq_none (Json.nodup_of_keysSorted (Json.keysSorted_ofMembers _))
  simp only [Value.object, checkStruct, honce]

theorem member_object {fields : List String} {ms : List (String × Value)}
    (h : (ms.map Prod.fst).Nodup) (name : String) :
    member fields (Value.object ms).tree name = (ms.lookup name).map Value.tree := by
  have hnodup : ((ms.map fun m => (m.1, m.2.tree)).map Prod.fst).Nodup := by
    rw [List.map_map]
    exact h
  simp only [Value.object, member, Json.lookup_ofMembers hnodup, Json.lookup_map]

/-- A field of an object is read off the members it was written with. -/
theorem field_object {α : Type} {fields : List String} {ms : List (String × Value)}
    (h : (ms.map Prod.fst).Nodup) (name : String) (read : Json Number → Except DeError α) :
    field fields (Value.object ms).tree name read =
      match ms.lookup name with
      | some v => read v.tree
      | none => .error (.missingField name) := by
  rw [field, required, member_object h]
  cases ms.lookup name <;> rfl

/-- A list that was written is read back element by element. -/
theorem list_array {α : Type} {read : Json Number → Except DeError α} {write : α → Value}
    (h : ∀ x, read (write x).tree = .ok x) (xs : List α) :
    list read (Value.array (xs.map write)).tree = .ok xs := by
  have hmap : ((xs.map write).map Value.tree).mapM read = .ok xs := by
    induction xs with
    | nil => rfl
    | cons x xs ih =>
        simp only [List.map_cons, List.mapM_cons, h x, ih, Outcome.ok_bind]
        rfl
  exact hmap

/-- An object with each field once is a lookup in its members. -/
theorem structFields_obj {fields : List String} {ms : List (String × Json Number)}
    (h : ms.map Prod.fst = fields) (hnodup : fields.Nodup) :
    structFields fields (.obj ms) = .ok fun f => ms.lookup f := by
  have hknown : (ms.find? fun m => decide (m.1 ∉ fields)) = none := by
    rw [List.find?_eq_none]
    intro m hm
    have hmem : m.1 ∈ fields := h ▸ List.mem_map_of_mem hm
    simpa using hmem
  have honce : (fields.find? fun f => decide (1 < ms.countP fun m => m.1 == f)) = none :=
    find_duplicate_eq_none (h.symm ▸ hnodup)
  rw [structFields]
  simp only [hknown, honce]

theorem bytes_base64 (bs : Bytes) :
    bytes (.str (String.ofList (Encoding.base64 bs))) = .ok bs := by
  simp only [bytes, string, Outcome.ok_bind, String.toList_ofList, Encoding.ofBase64_base64]

/-! ## What is accepted -/

/-- The document has the field, and it holds something of the kind. -/
def FieldIs (fields : List String) (doc : Json Number) (name : String) (P : Json Number → Prop) :
    Prop :=
  ∃ d, member fields doc name = some d ∧ P d

theorem fieldIs_of_field {α : Type} {fields : List String} {doc : Json Number} {name : String}
    {read : Json Number → Except DeError α} {x : α} {P : Json Number → Prop}
    (h : field fields doc name read = .ok x) (hP : ∀ d, read d = .ok x → P d) :
    FieldIs fields doc name P := by
  rcases field_eq_ok.mp h with ⟨d, hd, hread⟩
  exact ⟨d, hd, hP d hread⟩

/-- Base64 of so many bytes. -/
def Base64Of (n : Nat) (doc : Json Number) : Prop :=
  ∃ text bs, doc = .str text ∧ Encoding.ofBase64 text.toList = some bs ∧ bs.length = n

/-- A `u16` is read from an integer that is this number. -/
theorem u16_eq_ok {doc : Json Number} {n : UInt16} :
    u16 doc = .ok n ↔ ∃ m : UInt64, doc = .num (.posInt m) ∧ m.toNat = n.toNat := by
  have hn : n.toNat < 2 ^ 16 := n.toNat_lt
  constructor
  · intro h
    cases doc with
    | num k =>
        cases k with
        | posInt m =>
            simp only [u16] at h
            split at h
            · rename_i hm
              refine ⟨m, rfl, ?_⟩
              rw [← Except.ok.inj h, UInt64.toNat_toUInt16, Nat.mod_eq_of_lt hm]
            · cases h
        | negInt m neg => cases h
        | float x => cases h
    | _ => cases h
  · intro h
    rcases h with ⟨m, rfl, hm⟩
    simp only [u16, hm, if_pos hn, Except.ok.injEq]
    apply UInt16.toNat_inj.mp
    rw [UInt64.toNat_toUInt16, hm, Nat.mod_eq_of_lt hn]

theorem bytes_eq_ok {doc : Json Number} {bs : Bytes} :
    bytes doc = .ok bs ↔ ∃ text, doc = .str text ∧ Encoding.ofBase64 text.toList = some bs := by
  cases doc with
  | str text =>
      cases hbs : Encoding.ofBase64 text.toList with
      | none => simp [bytes, string, hbs]
      | some bs' => simp [bytes, string, hbs]
  | _ => simp [bytes, string]

theorem byteVector_eq_ok {n : Nat} {wrongLength : Nat → DeError} {doc : Json Number}
    {v : Vector UInt8 n} : byteVector n wrongLength doc = .ok v ↔ bytes doc = .ok v.toList := by
  unfold byteVector
  rw [Outcome.bind_eq_ok]
  constructor
  · intro h
    rcases h with ⟨bs, hbs, hv⟩
    split at hv
    · cases hv
      exact hbs
    · cases hv
  · intro h
    have hlen : v.toList.length = n := Vector.length_toList
    refine ⟨v.toList, h, ?_⟩
    rw [dif_pos hlen]
    congr 1

theorem base64Of_byteVector {n : Nat} {wrongLength : Nat → DeError} {doc : Json Number}
    {v : Vector UInt8 n} (h : byteVector n wrongLength doc = .ok v) : Base64Of n doc := by
  rcases bytes_eq_ok.mp (byteVector_eq_ok.mp h) with ⟨text, rfl, hbs⟩
  exact ⟨text, v.toList, rfl, hbs, Vector.length_toList⟩

end Serde

end PeerBadge
