import Mathlib.Data.List.Forall2
import Mathlib.Data.List.Sort
import Mathlib.Data.String.Basic

/-! # JSON trees

A JSON tree over an arbitrary type `ν` of numbers. Object members are a list, so
that the same type serves for a document (members in the order of the text,
repeated names possible) and for a parsed value, whose objects are sorted maps.

Everything recursive is an instance of one fold; `Json.ind` is the matching
induction principle.
-/

namespace PeerBadge

/-- A JSON tree whose numbers are drawn from `ν`. -/
inductive Json (ν : Type) where
  | null
  | bool (b : Bool)
  | num (n : ν)
  | str (s : String)
  | arr (xs : List (Json ν))
  | obj (ms : List (String × Json ν))
deriving Inhabited

namespace Json

variable {ν μ β : Type}

/-- Induction on a tree: arrays and objects come with the hypothesis for every
element and every member value. -/
@[elab_as_elim, induction_eliminator]
theorem ind {P : Json ν → Prop} (null : P .null) (bool : ∀ b, P (.bool b))
    (num : ∀ n, P (.num n)) (str : ∀ s, P (.str s))
    (arr : ∀ xs, (∀ x ∈ xs, P x) → P (.arr xs))
    (obj : ∀ ms, (∀ m ∈ ms, P m.2) → P (.obj ms)) (v : Json ν) : P v :=
  @Json.rec ν P (fun xs => ∀ x ∈ xs, P x) (fun ms => ∀ m ∈ ms, P m.2) (fun m => P m.2)
    null bool num str arr obj
    (by simp) (by simpa using fun _ _ h hs => ⟨h, hs⟩)
    (by simp) (fun m ms h hs => by simpa using ⟨h, fun k v hm => hs (k, v) hm⟩)
    (fun _ _ h => h) v

/-! ## The fold -/

/-- One case per constructor: what a fold does at each node. -/
structure Alg (ν β : Type) where
  null : β
  bool : Bool → β
  num : ν → β
  str : String → β
  arr : List β → β
  obj : List (String × β) → β

mutual

/-- Fold an algebra over a tree. -/
def fold (a : Alg ν β) : Json ν → β
  | .null => a.null
  | .bool b => a.bool b
  | .num n => a.num n
  | .str s => a.str s
  | .arr xs => a.arr (foldElems a xs)
  | .obj ms => a.obj (foldMembers a ms)

def foldElems (a : Alg ν β) : List (Json ν) → List β
  | [] => []
  | x :: xs => fold a x :: foldElems a xs

def foldMembers (a : Alg ν β) : List (String × Json ν) → List (String × β)
  | [] => []
  | (k, x) :: ms => (k, fold a x) :: foldMembers a ms

end

theorem foldElems_eq (a : Alg ν β) (xs : List (Json ν)) :
    foldElems a xs = xs.map (fold a) := by
  induction xs with
  | nil => rfl
  | cons x xs ih => simp [foldElems, ih]

theorem foldMembers_eq (a : Alg ν β) (ms : List (String × Json ν)) :
    foldMembers a ms = ms.map fun m => (m.1, fold a m.2) := by
  induction ms with
  | nil => rfl
  | cons m ms ih => simp [foldMembers, ih]

@[simp] theorem fold_null (a : Alg ν β) : fold a .null = a.null := rfl
@[simp] theorem fold_bool (a : Alg ν β) (b : Bool) : fold a (.bool b) = a.bool b := rfl
@[simp] theorem fold_num (a : Alg ν β) (n : ν) : fold a (.num n) = a.num n := rfl
@[simp] theorem fold_str (a : Alg ν β) (s : String) : fold a (.str s) = a.str s := rfl

@[simp] theorem fold_arr (a : Alg ν β) (xs : List (Json ν)) :
    fold a (.arr xs) = a.arr (xs.map (fold a)) := by
  rw [fold, foldElems_eq]

@[simp] theorem fold_obj (a : Alg ν β) (ms : List (String × Json ν)) :
    fold a (.obj ms) = a.obj (ms.map fun m => (m.1, fold a m.2)) := by
  rw [fold, foldMembers_eq]

/-! ## Depth -/

/-- How many arrays and objects are open at the deepest point of the tree. -/
def depth : Json ν → Nat :=
  fold
    { null := 0, bool := fun _ => 0, num := fun _ => 0, str := fun _ => 0
      arr := fun ds => ds.foldr max 0 + 1
      obj := fun ds => (ds.map Prod.snd).foldr max 0 + 1 }

@[simp] theorem depth_null : (null : Json ν).depth = 0 := rfl
@[simp] theorem depth_bool (b : Bool) : (bool b : Json ν).depth = 0 := rfl
@[simp] theorem depth_num (n : ν) : (num n).depth = 0 := rfl
@[simp] theorem depth_str (s : String) : (str s : Json ν).depth = 0 := rfl

theorem foldr_max_lt_iff (ds : List Nat) (k : Nat) :
    ds.foldr max 0 < k ↔ 0 < k ∧ ∀ d ∈ ds, d < k := by
  induction ds with
  | nil => simp
  | cons d ds ih => simp [ih]; tauto

theorem depth_arr (xs : List (Json ν)) :
    (arr xs).depth = (xs.map depth).foldr max 0 + 1 := by
  simp [depth]

theorem depth_obj (ms : List (String × Json ν)) :
    (obj ms).depth = (ms.map fun m => m.2.depth).foldr max 0 + 1 := by
  simp [depth, Function.comp_def]

/-- An array fits below `k + 1` exactly when each element fits below `k`. -/
theorem depth_arr_lt_iff (xs : List (Json ν)) (k : Nat) :
    (arr xs).depth < k + 1 ↔ 0 < k ∧ ∀ x ∈ xs, x.depth < k := by
  simp only [depth_arr, Nat.add_lt_add_iff_right, foldr_max_lt_iff, List.forall_mem_map]

theorem depth_obj_lt_iff (ms : List (String × Json ν)) (k : Nat) :
    (obj ms).depth < k + 1 ↔ 0 < k ∧ ∀ m ∈ ms, m.2.depth < k := by
  simp only [depth_obj, Nat.add_lt_add_iff_right, foldr_max_lt_iff, List.forall_mem_map]

/-! ## Members -/

/-- The members of an object. -/
def members : Json ν → Option (List (String × Json ν))
  | .obj ms => some ms
  | _ => none

/-! ## Mapping the numbers -/

/-- Replace every number, keeping the shape. -/
def mapNum (f : ν → μ) : Json ν → Json μ :=
  fold
    { null := .null, bool := .bool, num := fun n => .num (f n), str := .str
      arr := .arr, obj := .obj }

@[simp] theorem mapNum_null (f : ν → μ) : (null : Json ν).mapNum f = .null := rfl
@[simp] theorem mapNum_bool (f : ν → μ) (b : Bool) : (bool b).mapNum f = .bool b := rfl
@[simp] theorem mapNum_num (f : ν → μ) (n : ν) : (num n).mapNum f = .num (f n) := rfl
@[simp] theorem mapNum_str (f : ν → μ) (s : String) : (str s).mapNum f = .str s := rfl

@[simp] theorem mapNum_arr (f : ν → μ) (xs : List (Json ν)) :
    (arr xs).mapNum f = .arr (xs.map (mapNum f)) := by
  simp [mapNum]

@[simp] theorem mapNum_obj (f : ν → μ) (ms : List (String × Json ν)) :
    (obj ms).mapNum f = .obj (ms.map fun m => (m.1, m.2.mapNum f)) := by
  simp [mapNum]

/-- Mapping twice is mapping once. -/
theorem mapNum_mapNum {κ : Type} (f : ν → μ) (g : μ → κ) (v : Json ν) :
    (v.mapNum f).mapNum g = v.mapNum (g ∘ f) := by
  induction v with
  | arr xs ih => simpa using ih
  | obj ms ih => simpa using fun k x hm => ih (k, x) hm
  | _ => rfl

/-- Mapping with a function that changes no number changes no tree. -/
theorem mapNum_id (v : Json ν) : v.mapNum id = v := by
  induction v with
  | arr xs ih => simpa using List.map_congr_left (g := id) ih
  | obj ms ih =>
      have h : (ms.map fun m => (m.1, m.2.mapNum id)) = ms.map id :=
        List.map_congr_left fun m hm => by simp [ih m hm]
      simpa using h
  | _ => rfl

/-! ## Equality -/

mutual

/-- Structural equality with a given test for numbers. -/
def eqBy (eq : ν → ν → Bool) : Json ν → Json ν → Bool
  | .null, .null => true
  | .bool a, .bool b => a == b
  | .num m, .num n => eq m n
  | .str s, .str t => s == t
  | .arr xs, .arr ys => eqElemsBy eq xs ys
  | .obj ms, .obj ns => eqMembersBy eq ms ns
  | _, _ => false

def eqElemsBy (eq : ν → ν → Bool) : List (Json ν) → List (Json ν) → Bool
  | [], [] => true
  | x :: xs, y :: ys => eqBy eq x y && eqElemsBy eq xs ys
  | _, _ => false

def eqMembersBy (eq : ν → ν → Bool) : List (String × Json ν) → List (String × Json ν) → Bool
  | [], [] => true
  | (k, x) :: ms, (l, y) :: ns => k == l && eqBy eq x y && eqMembersBy eq ms ns
  | _, _ => false

end

section Equality

variable {eq : ν → ν → Bool} {f : ν → μ}

theorem eqElemsBy_iff {xs : List (Json ν)}
    (ih : ∀ x ∈ xs, ∀ y, eqBy eq x y ↔ x.mapNum f = y.mapNum f) (ys : List (Json ν)) :
    eqElemsBy eq xs ys ↔ xs.map (mapNum f) = ys.map (mapNum f) := by
  induction xs generalizing ys with
  | nil => cases ys <;> simp [eqElemsBy]
  | cons x xs ihxs =>
      cases ys with
      | nil => simp [eqElemsBy]
      | cons y ys =>
          have hx := ih x (by simp) y
          have hxs := ihxs (fun z hz => ih z (List.mem_cons_of_mem _ hz)) ys
          simp [eqElemsBy, hx, hxs]

theorem eqMembersBy_iff {ms : List (String × Json ν)}
    (ih : ∀ m ∈ ms, ∀ y, eqBy eq m.2 y ↔ m.2.mapNum f = y.mapNum f)
    (ns : List (String × Json ν)) :
    eqMembersBy eq ms ns ↔
      (ms.map fun m => (m.1, m.2.mapNum f)) = ns.map fun n => (n.1, n.2.mapNum f) := by
  induction ms generalizing ns with
  | nil => cases ns <;> simp [eqMembersBy]
  | cons m ms ihms =>
      cases ns with
      | nil => simp [eqMembersBy]
      | cons n ns =>
          have hm := ih m (by simp) n.2
          have hms := ihms (fun z hz => ih z (List.mem_cons_of_mem _ hz)) ns
          simp [eqMembersBy, hm, hms, and_assoc]

/-- A number test that compares images under `f` makes a tree test that does. -/
theorem eqBy_iff (h : ∀ m n, eq m n ↔ f m = f n) (v w : Json ν) :
    eqBy eq v w ↔ v.mapNum f = w.mapNum f := by
  induction v generalizing w with
  | null => cases w <;> simp [eqBy]
  | bool a => cases w <;> simp [eqBy]
  | num m => cases w <;> simp [eqBy, h]
  | str s => cases w <;> simp [eqBy]
  | arr xs ih =>
      cases w with
      | arr ys => simpa [eqBy] using eqElemsBy_iff ih ys
      | _ => simp [eqBy]
  | obj ms ih =>
      cases w with
      | obj ns => simpa [eqBy] using eqMembersBy_iff ih ns
      | _ => simp [eqBy]

end Equality

/-! ## The numbers and the names of a tree -/

/-- The numbers of a tree, in the order of the text. -/
def nums : Json ν → List ν :=
  fold
    { null := [], bool := fun _ => [], num := fun n => [n], str := fun _ => []
      arr := List.flatten, obj := fun ns => (ns.map Prod.snd).flatten }

@[simp] theorem nums_null : (null : Json ν).nums = [] := rfl
@[simp] theorem nums_bool (b : Bool) : (bool b : Json ν).nums = [] := rfl
@[simp] theorem nums_num (n : ν) : (num n).nums = [n] := rfl
@[simp] theorem nums_str (s : String) : (str s : Json ν).nums = [] := rfl

@[simp] theorem nums_arr (xs : List (Json ν)) : (arr xs).nums = (xs.map nums).flatten := by
  simp [nums]

@[simp] theorem nums_obj (ms : List (String × Json ν)) :
    (obj ms).nums = (ms.map fun m => m.2.nums).flatten := by
  simp [nums, Function.comp_def]

/-- Mapping the numbers maps the numbers. -/
theorem nums_mapNum (f : ν → μ) (v : Json ν) : (v.mapNum f).nums = v.nums.map f := by
  induction v with
  | arr xs ih =>
      have h : (xs.map fun x => (x.mapNum f).nums) = xs.map fun x => x.nums.map f :=
        List.map_congr_left ih
      simp [Function.comp_def, h]
  | obj ms ih =>
      have h : (ms.map fun m => (m.2.mapNum f).nums) = ms.map fun m => m.2.nums.map f :=
        List.map_congr_left ih
      simp [Function.comp_def, h]
  | _ => rfl

/-- The member names in a tree, at any depth. -/
def names : Json ν → List String :=
  fold
    { null := [], bool := fun _ => [], num := fun _ => [], str := fun _ => []
      arr := List.flatten, obj := fun ns => ns.map Prod.fst ++ (ns.map Prod.snd).flatten }

@[simp] theorem names_null : (null : Json ν).names = [] := rfl
@[simp] theorem names_bool (b : Bool) : (bool b : Json ν).names = [] := rfl
@[simp] theorem names_num (n : ν) : (num n).names = [] := rfl
@[simp] theorem names_str (s : String) : (str s : Json ν).names = [] := rfl

@[simp] theorem names_arr (xs : List (Json ν)) : (arr xs).names = (xs.map names).flatten := by
  simp [names]

@[simp] theorem names_obj (ms : List (String × Json ν)) :
    (obj ms).names = ms.map Prod.fst ++ (ms.map fun m => m.2.names).flatten := by
  simp [names, Function.comp_def]

/-- Mapping the numbers leaves the names. -/
theorem names_mapNum (f : ν → μ) (v : Json ν) : (v.mapNum f).names = v.names := by
  induction v with
  | arr xs ih =>
      have h : (xs.map fun x => (x.mapNum f).names) = xs.map names := List.map_congr_left ih
      simp [Function.comp_def, h]
  | obj ms ih =>
      have h : (ms.map fun m => (m.2.mapNum f).names) = ms.map fun m => m.2.names :=
        List.map_congr_left ih
      simp [Function.comp_def, h]
  | _ => rfl

section Shape

variable {f : ν → μ} {g : ν → β}

theorem map_mapNum_of_nums {xs : List (Json ν)}
    (ih : ∀ x ∈ xs, ∀ y : Json ν, x.mapNum f = y.mapNum f → x.nums.map g = y.nums.map g →
      x.mapNum g = y.mapNum g) {ys : List (Json ν)}
    (hshape : xs.map (mapNum f) = ys.map (mapNum f))
    (hnums : ((xs.map nums).flatten).map g = ((ys.map nums).flatten).map g) :
    xs.map (mapNum g) = ys.map (mapNum g) := by
  induction xs generalizing ys with
  | nil =>
      cases ys with
      | nil => rfl
      | cons y ys => simp at hshape
  | cons x xs ihxs =>
      cases ys with
      | nil => simp at hshape
      | cons y ys =>
          rcases List.cons.inj hshape with ⟨hx, hxs⟩
          -- elements of one shape have equally many numbers
          have hlen : (x.nums.map g).length = (y.nums.map g).length := by
            have hcount := congrArg (fun v => v.nums.length) hx
            simpa [nums_mapNum] using hcount
          simp only [List.map_cons, List.flatten_cons, List.map_append] at hnums
          rcases List.append_inj hnums hlen with ⟨hhead, htail⟩
          have hrest := ihxs (fun z hz => ih z (List.mem_cons_of_mem _ hz)) hxs htail
          rw [List.map_cons, List.map_cons, ih x (by simp) y hx hhead, hrest]

/-- Lists of one length have the same images when corresponding elements do. -/
theorem map_eq_map_iff_zip {as bs : List ν} (h : as.length = bs.length) :
    as.map g = bs.map g ↔ ∀ pair ∈ as.zip bs, g pair.1 = g pair.2 := by
  rw [← List.forall₂_eq_eq_eq, List.forall₂_map_left_iff, List.forall₂_map_right_iff,
    List.forall₂_iff_zip]
  constructor
  · intro hall pair hpair
    exact hall.2 hpair
  · intro hall
    exact ⟨h, fun hpair => hall _ hpair⟩

/-- Of two trees with one shape, all that counts are the numbers. -/
theorem mapNum_eq_iff_nums {v w : Json ν} (hshape : v.mapNum f = w.mapNum f) :
    v.mapNum g = w.mapNum g ↔ ∀ pair ∈ v.nums.zip w.nums, g pair.1 = g pair.2 := by
  have hlen : v.nums.length = w.nums.length := by
    have hcount := congrArg (fun u => u.nums.length) hshape
    simpa [nums_mapNum] using hcount
  rw [← map_eq_map_iff_zip hlen]
  constructor
  · intro h
    rw [← nums_mapNum, ← nums_mapNum, h]
  · -- the shape decides which constructors meet
    intro hnums
    clear hlen
    induction v generalizing w with
    | null => cases w <;> simp at hshape ⊢
    | bool a => cases w <;> simp at hshape ⊢; exact hshape
    | num n => cases w <;> simp at hshape hnums ⊢; exact hnums
    | str s => cases w <;> simp at hshape ⊢; exact hshape
    | arr xs ih =>
        cases w with
        | arr ys =>
            simp only [mapNum_arr, arr.injEq, nums_arr] at hshape hnums ⊢
            exact map_mapNum_of_nums (fun x hx y hx' hy => ih x hx hx' hy) hshape hnums
        | _ => simp at hshape
    | obj ms ih =>
        cases w with
        | obj ns =>
            simp only [mapNum_obj, obj.injEq, nums_obj] at hshape hnums ⊢
            -- the names agree by shape, the values as the elements of an array do
            have hnames := congrArg (List.map Prod.fst) hshape
            have hvalues := congrArg (List.map Prod.snd) hshape
            simp only [List.map_map, Function.comp_def] at hnames hvalues
            have hrest : (ms.map Prod.snd).map (mapNum g) = (ns.map Prod.snd).map (mapNum g) := by
              apply map_mapNum_of_nums (f := f)
              · intro x hx y
                rcases List.mem_map.mp hx with ⟨m, hm, rfl⟩
                exact ih m hm
              · simpa only [List.map_map, Function.comp_def] using hvalues
              · simpa only [List.map_map, Function.comp_def] using hnums
            simp only [List.map_map, Function.comp_def] at hrest
            rw [← List.zip_map', ← List.zip_map', hnames, hrest]
        | _ => simp at hshape

end Shape

instance [DecidableEq ν] : DecidableEq (Json ν) := fun v w =>
  decidable_of_iff (eqBy (fun m n => decide (m = n)) v w = true) <| by
    rw [eqBy_iff (f := id) (by simp), mapNum_id, mapNum_id]

/-! ## Objects as sorted maps -/

variable {α : Type}

/-- The names of a member list are strictly increasing, as in a sorted map. -/
def KeysSorted (ms : List (String × α)) : Prop :=
  (ms.map Prod.fst).Pairwise (· < ·)

@[simp] theorem keysSorted_nil : KeysSorted ([] : List (String × α)) := by
  simp [KeysSorted]

@[simp] theorem keysSorted_cons (m : String × α) (ms : List (String × α)) :
    KeysSorted (m :: ms) ↔ (∀ n ∈ ms, m.1 < n.1) ∧ KeysSorted ms := by
  simp [KeysSorted]

/-- Mapping the values leaves the names alone. -/
theorem keysSorted_map_iff {γ : Type} (f : α → γ) (ms : List (String × α)) :
    KeysSorted (ms.map fun m => (m.1, f m.2)) ↔ KeysSorted ms := by
  simp [KeysSorted, Function.comp_def]

/-- Insert a member into a sorted map; an existing member of that name is
replaced. -/
def insertMember (k : String) (x : α) : List (String × α) → List (String × α)
  | [] => [(k, x)]
  | (k', x') :: ms =>
      if k < k' then (k, x) :: (k', x') :: ms
      -- the old member of that name goes
      else if k = k' then (k, x) :: ms
      else (k', x') :: insertMember k x ms

/-- Every member after an insertion is the new one or an old one. -/
theorem mem_insertMember {k : String} {x : α} {ms : List (String × α)} {n : String × α}
    (h : n ∈ insertMember k x ms) : n = (k, x) ∨ n ∈ ms := by
  induction ms with
  | nil => simpa [insertMember] using h
  | cons m ms ih =>
      unfold insertMember at h
      split at h
      · simpa using h
      · split at h
        · rcases List.mem_cons.mp h with h | h
          · exact Or.inl h
          · exact Or.inr (List.mem_cons_of_mem _ h)
        · rcases List.mem_cons.mp h with h | h
          · exact Or.inr (by simp [h])
          · exact (ih h).imp_right (List.mem_cons_of_mem _)

theorem keysSorted_insertMember (k : String) (x : α) {ms : List (String × α)}
    (h : KeysSorted ms) : KeysSorted (insertMember k x ms) := by
  induction ms with
  | nil => simp [insertMember]
  | cons m ms ih =>
      obtain ⟨hm, hms⟩ := (keysSorted_cons m ms).mp h
      unfold insertMember
      split
      · rename_i hlt
        refine (keysSorted_cons _ _).mpr ⟨?_, h⟩
        intro n hn
        rcases List.mem_cons.mp hn with rfl | hn
        · exact hlt
        · exact lt_trans hlt (hm n hn)
      · rename_i hge
        split
        · rename_i heq
          subst heq
          exact (keysSorted_cons _ _).mpr ⟨hm, hms⟩
        · rename_i hne
          refine (keysSorted_cons _ _).mpr ⟨?_, ih hms⟩
          intro n hn
          rcases mem_insertMember hn with rfl | hn
          · exact lt_of_le_of_ne (not_lt.mp hge) (Ne.symm hne)
          · exact hm n hn

/-- A name above all others is appended. -/
theorem insertMember_of_forall_lt (k : String) (x : α) (ms : List (String × α))
    (h : ∀ m ∈ ms, m.1 < k) : insertMember k x ms = ms ++ [(k, x)] := by
  induction ms with
  | nil => rfl
  | cons m ms ih =>
      have hlt : m.1 < k := h m (by simp)
      have hih := ih fun n hn => h n (List.mem_cons_of_mem _ hn)
      simp [insertMember, not_lt_of_gt hlt, hlt.ne', hih]

/-- Collect a member list into a sorted map; of repeated names the last wins. -/
def ofMembers (ms : List (String × α)) : List (String × α) :=
  ms.foldl (fun acc m => insertMember m.1 m.2 acc) []

/-- Inserting looks at names only. -/
theorem insertMember_map {γ : Type} (f : α → γ) (k : String) (x : α) (ms : List (String × α)) :
    insertMember k (f x) (ms.map fun m => (m.1, f m.2))
      = (insertMember k x ms).map fun m => (m.1, f m.2) := by
  induction ms with
  | nil => rfl
  | cons m ms ih =>
      simp only [List.map_cons, insertMember, ih]
      split
      · rfl
      · split <;> rfl

/-- Collecting looks at names only. -/
theorem ofMembers_map {γ : Type} (f : α → γ) (ms : List (String × α)) :
    ofMembers (ms.map fun m => (m.1, f m.2)) = (ofMembers ms).map fun m => (m.1, f m.2) := by
  have hfold : ∀ acc : List (String × α),
      (ms.map fun m => (m.1, f m.2)).foldl (fun acc m => insertMember m.1 m.2 acc)
          (acc.map fun m => (m.1, f m.2))
        = (ms.foldl (fun acc m => insertMember m.1 m.2 acc) acc).map fun m => (m.1, f m.2) := by
    induction ms with
    | nil => exact fun acc => rfl
    | cons m ms ih =>
        intro acc
        simp only [List.map_cons, List.foldl_cons, insertMember_map]
        exact ih _
  exact hfold []

theorem keysSorted_ofMembers (ms : List (String × α)) : KeysSorted (ofMembers ms) := by
  have hfold : ∀ acc, KeysSorted acc →
      KeysSorted (ms.foldl (fun acc m => insertMember m.1 m.2 acc) acc) := by
    induction ms with
    | nil => exact fun acc h => h
    | cons m ms ih => exact fun acc h => ih _ (keysSorted_insertMember m.1 m.2 h)
  exact hfold [] keysSorted_nil

theorem nodup_of_keysSorted {ms : List (String × α)} (h : KeysSorted ms) :
    (ms.map Prod.fst).Nodup := by
  rw [List.nodup_iff_pairwise_ne]
  exact h.imp fun hlt => ne_of_lt hlt

theorem mem_ofMembers {ms : List (String × α)} {n : String × α} (h : n ∈ ofMembers ms) :
    n ∈ ms := by
  have hfold : ∀ acc, n ∈ ms.foldl (fun acc m => insertMember m.1 m.2 acc) acc →
      n ∈ acc ∨ n ∈ ms := by
    clear h
    induction ms with
    | nil => exact fun acc h => Or.inl h
    | cons m ms ih =>
        intro acc h
        rcases ih _ h with h | h
        · rcases mem_insertMember h with rfl | h
          · exact Or.inr (by simp)
          · exact Or.inl h
        · exact Or.inr (List.mem_cons_of_mem _ h)
  rcases hfold [] h with h | h
  · simp at h
  · exact h

/-- A list that is sorted already is its own map. -/
theorem ofMembers_of_keysSorted {ms : List (String × α)} (h : KeysSorted ms) :
    ofMembers ms = ms := by
  have hfold : ∀ acc, KeysSorted (acc ++ ms) →
      ms.foldl (fun acc m => insertMember m.1 m.2 acc) acc = acc ++ ms := by
    clear h
    induction ms with
    | nil => simp
    | cons m ms ih =>
        -- the next member goes behind all that were collected
        intro acc h
        have hlt : ∀ n ∈ acc, n.1 < m.1 := by
          intro n hn
          have hpair : (acc.map Prod.fst ++ (m :: ms).map Prod.fst).Pairwise (· < ·) := by
            simpa [KeysSorted] using h
          exact (List.pairwise_append.mp hpair).2.2 _ (List.mem_map_of_mem hn) _ (by simp)
        have hih := ih (acc ++ [m]) (by simpa using h)
        simpa [insertMember_of_forall_lt m.1 m.2 acc hlt] using hih
  exact hfold [] h

/-- Inserting under a new name adds one member. -/
theorem insertMember_perm (k : String) (x : α) {ms : List (String × α)}
    (h : ∀ m ∈ ms, m.1 ≠ k) : (insertMember k x ms).Perm ((k, x) :: ms) := by
  induction ms with
  | nil => simp [insertMember]
  | cons m ms ih =>
      have hne : k ≠ m.1 := (h m (by simp)).symm
      have hih := ih fun n hn => h n (List.mem_cons_of_mem _ hn)
      unfold insertMember
      split
      · exact List.Perm.refl _
      · exact (hih.cons m).trans (List.Perm.swap _ _ _)

/-- Collecting distinct members only reorders them. -/
theorem ofMembers_perm {ms : List (String × α)} (h : (ms.map Prod.fst).Nodup) :
    (ofMembers ms).Perm ms := by
  -- what is collected so far takes part in the induction
  have hfold : ∀ acc : List (String × α), ((acc ++ ms).map Prod.fst).Nodup →
      (ms.foldl (fun acc m => insertMember m.1 m.2 acc) acc).Perm (acc ++ ms) := by
    clear h
    induction ms with
    | nil => simp
    | cons m ms ih =>
        intro acc hnodup
        have hmove : (m :: acc ++ ms).Perm (acc ++ m :: ms) := List.perm_middle.symm
        have hnodup' : ((m :: acc ++ ms).map Prod.fst).Nodup :=
          ((hmove.map Prod.fst).nodup_iff).mpr hnodup
        have hnew : ∀ n ∈ acc, n.1 ≠ m.1 := by
          intro n hn heq
          have hnot : m.1 ∉ (acc ++ ms).map Prod.fst := (List.nodup_cons.mp hnodup').1
          exact hnot (heq ▸ List.mem_map_of_mem (List.mem_append_left _ hn))
        have hins : (insertMember m.1 m.2 acc).Perm (m :: acc) := insertMember_perm m.1 m.2 hnew
        have happ : (insertMember m.1 m.2 acc ++ ms).Perm (m :: acc ++ ms) := hins.append_right ms
        have hstep := ih (insertMember m.1 m.2 acc)
          (((happ.map Prod.fst).nodup_iff).mpr hnodup')
        exact hstep.trans (happ.trans hmove)
  exact hfold [] (by simpa using h)

/-- Two orders of one member list are the same map. -/
theorem ofMembers_eq_of_perm {ms ns : List (String × α)} (h : ms.Perm ns) (hs : KeysSorted ns) :
    ofMembers ms = ns := by
  have hpair : ∀ {l : List (String × α)}, KeysSorted l → l.Pairwise (fun m n => m.1 < n.1) := by
    intro l hl
    exact List.pairwise_map.mp hl
  have hnodup : (ms.map Prod.fst).Nodup :=
    (h.map Prod.fst).nodup_iff.mpr (nodup_of_keysSorted hs)
  exact List.Perm.eq_of_pairwise (fun m n _ _ hmn hnm => absurd (lt_trans hmn hnm) (lt_irrefl _))
    (hpair (keysSorted_ofMembers ms)) (hpair hs) ((ofMembers_perm hnodup).trans h)

/-! ## Looking members up -/

/-- Mapping the values maps what is found. -/
theorem lookup_map {γ : Type} (f : α → γ) (ms : List (String × α)) (k : String) :
    (ms.map fun m => (m.1, f m.2)).lookup k = (ms.lookup k).map f := by
  induction ms with
  | nil => rfl
  | cons m ms ih =>
      rw [List.map_cons, List.lookup_cons, List.lookup_cons, ih]
      cases k == m.1 <;> rfl

/-- With distinct names the member that is found is the one that is there. -/
theorem lookup_eq_some_iff {ms : List (String × α)} (h : (ms.map Prod.fst).Nodup) {k : String}
    {x : α} : ms.lookup k = some x ↔ (k, x) ∈ ms := by
  induction ms with
  | nil => simp
  | cons m ms ih =>
      rcases m with ⟨name, y⟩
      rw [List.map_cons, List.nodup_cons] at h
      rw [List.lookup_cons, List.mem_cons, Prod.mk.injEq, ← ih h.2]
      by_cases hname : k = name
      · -- a second member of this name cannot be there
        have hnone : ms.lookup k ≠ some x := by
          intro hsome
          have hmem : k ∈ ms.map Prod.fst := List.mem_map_of_mem ((ih h.2).mp hsome)
          exact h.1 (hname ▸ hmem)
        simp only [hname, beq_self_eq_true, true_and]
        rw [hname] at hnone
        simp only [hnone, or_false, Option.some.injEq, eq_comm]
      · simp only [beq_eq_false_iff_ne.mpr hname, hname, false_and, false_or]

/-- The order of members with distinct names does not matter. -/
theorem lookup_eq_of_perm {ms ns : List (String × α)} (h : ms.Perm ns)
    (hnodup : (ms.map Prod.fst).Nodup) (k : String) : ms.lookup k = ns.lookup k := by
  apply Option.ext
  intro x
  have hnodup' : (ns.map Prod.fst).Nodup := (h.map Prod.fst).nodup_iff.mp hnodup
  rw [lookup_eq_some_iff hnodup, lookup_eq_some_iff hnodup', h.mem_iff]

theorem lookup_ofMembers {ms : List (String × α)} (h : (ms.map Prod.fst).Nodup) (k : String) :
    (ofMembers ms).lookup k = ms.lookup k := by
  have hperm := ofMembers_perm h
  exact lookup_eq_of_perm hperm ((hperm.map Prod.fst).nodup_iff.mpr h) k

/-- Every object of the tree is a sorted map. -/
inductive Sorted : Json ν → Prop where
  | null : Sorted .null
  | bool (b : Bool) : Sorted (.bool b)
  | num (n : ν) : Sorted (.num n)
  | str (s : String) : Sorted (.str s)
  | arr {xs : List (Json ν)} : (∀ x ∈ xs, Sorted x) → Sorted (.arr xs)
  | obj {ms : List (String × Json ν)} : KeysSorted ms → (∀ m ∈ ms, Sorted m.2) → Sorted (.obj ms)

@[simp] theorem sorted_null : Sorted (.null : Json ν) := .null
@[simp] theorem sorted_bool (b : Bool) : Sorted (.bool b : Json ν) := .bool b
@[simp] theorem sorted_num (n : ν) : Sorted (.num n) := .num n
@[simp] theorem sorted_str (s : String) : Sorted (.str s : Json ν) := .str s

@[simp] theorem sorted_arr_iff (xs : List (Json ν)) : Sorted (.arr xs) ↔ ∀ x ∈ xs, Sorted x :=
  ⟨fun h => by cases h; assumption, .arr⟩

@[simp] theorem sorted_obj_iff (ms : List (String × Json ν)) :
    Sorted (.obj ms) ↔ KeysSorted ms ∧ ∀ m ∈ ms, Sorted m.2 :=
  ⟨fun h => by cases h; exact ⟨by assumption, by assumption⟩, fun h => .obj h.1 h.2⟩

theorem sorted_mapNum (f : ν → μ) {v : Json ν} (h : v.Sorted) : (v.mapNum f).Sorted := by
  induction v with
  | arr xs ih =>
      rw [sorted_arr_iff] at h
      simpa using fun x hx => ih x hx (h x hx)
  | obj ms ih =>
      rw [sorted_obj_iff] at h
      simp only [mapNum_obj, sorted_obj_iff, keysSorted_map_iff]
      refine ⟨h.1, ?_⟩
      intro m hm
      obtain ⟨n, hn, rfl⟩ := List.mem_map.mp hm
      exact ih n hn (h.2 n hn)
  | _ => simp

/-- Read every object into a sorted map: the value a document denotes. -/
def toSorted : Json ν → Json ν :=
  fold
    { null := .null, bool := .bool, num := .num, str := .str, arr := .arr
      obj := fun ms => .obj (ofMembers ms) }

@[simp] theorem toSorted_null : (null : Json ν).toSorted = .null := rfl
@[simp] theorem toSorted_bool (b : Bool) : (bool b : Json ν).toSorted = .bool b := rfl
@[simp] theorem toSorted_num (n : ν) : (num n).toSorted = .num n := rfl
@[simp] theorem toSorted_str (s : String) : (str s : Json ν).toSorted = .str s := rfl

@[simp] theorem toSorted_arr (xs : List (Json ν)) :
    (arr xs).toSorted = .arr (xs.map toSorted) := by
  simp [toSorted]

@[simp] theorem toSorted_obj (ms : List (String × Json ν)) :
    (obj ms).toSorted = .obj (ofMembers (ms.map fun m => (m.1, m.2.toSorted))) := by
  simp [toSorted]

theorem sorted_toSorted (v : Json ν) : v.toSorted.Sorted := by
  induction v with
  | arr xs ih => simpa using ih
  | obj ms ih =>
      rw [toSorted_obj, sorted_obj_iff]
      refine ⟨keysSorted_ofMembers _, ?_⟩
      intro m hm
      obtain ⟨n, hn, rfl⟩ := List.mem_map.mp (mem_ofMembers hm)
      exact ih n hn
  | _ => simp

/-- A sorted tree denotes itself. -/
theorem toSorted_of_sorted {v : Json ν} (h : v.Sorted) : v.toSorted = v := by
  induction v with
  | arr xs ih =>
      rw [sorted_arr_iff] at h
      simpa using List.map_congr_left (g := id) fun x hx => ih x hx (h x hx)
  | obj ms ih =>
      rw [sorted_obj_iff] at h
      have hmap : (ms.map fun m => (m.1, m.2.toSorted)) = ms := by
        simpa using List.map_congr_left (g := id) fun m hm => by
          simp [ih m hm (h.2 m hm)]
      rw [toSorted_obj, hmap, ofMembers_of_keysSorted h.1]
  | _ => rfl

/-- Numbers have no part in the sorting. -/
theorem toSorted_mapNum (f : ν → μ) (v : Json ν) :
    (v.mapNum f).toSorted = v.toSorted.mapNum f := by
  induction v with
  | arr xs ih =>
      simp only [mapNum_arr, toSorted_arr, List.map_map, arr.injEq]
      exact List.map_congr_left ih
  | obj ms ih =>
      have hmap : (ms.map fun m => (m.1, (m.2.mapNum f).toSorted))
          = ms.map fun m => (m.1, m.2.toSorted.mapNum f) := by
        apply List.map_congr_left
        intro m hm
        rw [ih m hm]
      have hsorted := ofMembers_map (mapNum f) (ms.map fun m => (m.1, m.2.toSorted))
      simp only [List.map_map, Function.comp_def] at hsorted
      simp only [mapNum_obj, toSorted_obj, List.map_map, Function.comp_def, hmap, hsorted]
  | _ => rfl

end Json

end PeerBadge
