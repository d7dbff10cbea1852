import PeerBadge.Decimal
import PeerBadge.Encoding
import PeerBadge.Json

/-! # JSON text

The compact writer and a recursive-descent reader with a limit on nesting, both
over an arbitrary type of numbers with its own writer and reader.

`readValue_render` is the result: with `remaining` levels left, the reader gives
back what was written when the tree is less than `remaining` deep, and reports the
recursion limit otherwise. That the text determines the tree
(`mapNum_eq_of_render_eq`) is a corollary.
-/

namespace PeerBadge

namespace Json

variable {ν μ : Type}

/-! ## Strings -/

/-- The escapes of JSON: two-character ones where JSON has them, `\u00xx` for the
other control characters, and every other character as it is. -/
def escapeChar (c : Char) : List Char :=
  if c = '"' then ['\\', '"']
  else if c = '\\' then ['\\', '\\']
  else if c.toNat = 8 then ['\\', 'b']
  else if c.toNat = 9 then ['\\', 't']
  else if c.toNat = 10 then ['\\', 'n']
  else if c.toNat = 12 then ['\\', 'f']
  else if c.toNat = 13 then ['\\', 'r']
  else if c.toNat < 32 then
    ['\\', 'u', '0', '0', Nat.digitChar (c.toNat / 16), Nat.digitChar (c.toNat % 16)]
  else [c]

/-- A string between its quotes. -/
def stringText (s : String) : List Char :=
  '"' :: (s.toList.flatMap escapeChar ++ ['"'])

/-- Why a text is not read. -/
inductive ReadError where
  | outOfFuel
  | eof
  | recursionLimitExceeded
  | expectedSomeValue
  | expectedSomeIdent
  | invalidNumber
  | invalidEscape
  | loneSurrogate
  | controlCharacter
  | keyMustBeAString
  | expectedColon
  | expectedListCommaOrEnd
  | expectedObjectCommaOrEnd
  | trailingCharacters
deriving DecidableEq, Repr

/-- Four hexadecimal digits. -/
def hexValue4 (a b c d : Char) : Option Nat := do
  let a ← Encoding.hexValue a
  let b ← Encoding.hexValue b
  let c ← Encoding.hexValue c
  let d ← Encoding.hexValue d
  some (((a * 16 + b) * 16 + c) * 16 + d)

/-- A `\u` escape; a leading surrogate must be followed by a trailing one. -/
def readUnicode (n : Nat) (cs : List Char) : Except ReadError (Char × List Char) :=
  if 0xD800 ≤ n ∧ n ≤ 0xDBFF then
    match cs with
    | '\\' :: 'u' :: a :: b :: c :: d :: cs =>
        match hexValue4 a b c d with
        | none => .error .invalidEscape
        | some m =>
            if 0xDC00 ≤ m ∧ m ≤ 0xDFFF then
              .ok (Char.ofNat (0x10000 + (n - 0xD800) * 0x400 + (m - 0xDC00)), cs)
            else .error .loneSurrogate
    | _ => .error .loneSurrogate
  else if 0xDC00 ≤ n ∧ n ≤ 0xDFFF then .error .loneSurrogate
  else .ok (Char.ofNat n, cs)

/-- What follows a backslash. -/
def readEscape : List Char → Except ReadError (Char × List Char)
  | '"' :: cs => .ok ('"', cs)
  | '\\' :: cs => .ok ('\\', cs)
  | '/' :: cs => .ok ('/', cs)
  | 'b' :: cs => .ok (Char.ofNat 8, cs)
  | 't' :: cs => .ok (Char.ofNat 9, cs)
  | 'n' :: cs => .ok (Char.ofNat 10, cs)
  | 'f' :: cs => .ok (Char.ofNat 12, cs)
  | 'r' :: cs => .ok (Char.ofNat 13, cs)
  | 'u' :: a :: b :: c :: d :: cs =>
      match hexValue4 a b c d with
      | none => .error .invalidEscape
      | some n => readUnicode n cs
  | [] => .error .eof
  -- also a `\u` with fewer than four characters behind it
  | _ => .error .invalidEscape

/-- The characters up to the closing quote, and what follows it. -/
def readString : Nat → List Char → Except ReadError (List Char × List Char)
  | 0, _ => .error .outOfFuel
  | _ + 1, [] => .error .eof
  | fuel + 1, c :: cs =>
      if c = '"' then .ok ([], cs)
      else if c = '\\' then
        -- an escape uses up several characters of text and one of fuel
        match readEscape cs with
        | .error e => .error e
        | .ok (c, cs) =>
            match readString fuel cs with
            | .error e => .error e
            | .ok (s, cs) => .ok (c :: s, cs)
      else if c.toNat < 32 then .error .controlCharacter
      else
        match readString fuel cs with
        | .error e => .error e
        | .ok (s, cs) => .ok (c :: s, cs)

/-- Below 32 the two hexadecimal digits of an escape give the character back. -/
theorem readEscape_control (n : Nat) (h : n < 32) (cs : List Char) :
    readEscape ('u' :: '0' :: '0' :: Nat.digitChar (n / 16) :: Nat.digitChar (n % 16) :: cs)
      = .ok (Char.ofNat n, cs) := by
  have hdigits : hexValue4 '0' '0' (Nat.digitChar (n / 16)) (Nat.digitChar (n % 16)) = some n := by
    revert n
    decide
  simp only [readEscape, hdigits, readUnicode]
  rw [if_neg (by omega), if_neg (by omega)]

/-- One escaped character is read back as that character. -/
theorem readString_escapeChar (c : Char) (fuel : Nat) (cs : List Char) :
    readString (fuel + 1) (escapeChar c ++ cs) =
      match readString fuel cs with
      | .error e => .error e
      | .ok (s, cs) => .ok (c :: s, cs) := by
  have hofNat : ∀ n, c.toNat = n → Char.ofNat n = c := by
    intro n hn
    rw [← hn, Char.ofNat_toNat]
  unfold escapeChar
  by_cases hquote : c = '"'
  · subst hquote
    simp [readString, readEscape]
  by_cases hback : c = '\\'
  · subst hback
    simp [readString, readEscape]
  rw [if_neg hquote, if_neg hback]
  -- the five short escapes, then `\u00xx`, then the character itself
  by_cases h8 : c.toNat = 8
  · rw [← hofNat 8 h8]
    simp [readString, readEscape]
  by_cases h9 : c.toNat = 9
  · rw [← hofNat 9 h9]
    simp [readString, readEscape]
  by_cases h10 : c.toNat = 10
  · rw [← hofNat 10 h10]
    simp [readString, readEscape]
  by_cases h12 : c.toNat = 12
  · rw [← hofNat 12 h12]
    simp [readString, readEscape]
  by_cases h13 : c.toNat = 13
  · rw [← hofNat 13 h13]
    simp [readString, readEscape]
  rw [if_neg h8, if_neg h9, if_neg h10, if_neg h12, if_neg h13]
  by_cases h32 : c.toNat < 32
  · have hread := readEscape_control c.toNat h32 cs
    rw [if_pos h32]
    simp only [List.cons_append, List.nil_append, readString, hread, hofNat c.toNat rfl]
    simp
  · rw [if_neg h32]
    simp [readString, hquote, hback, h32]

/-- An escaped string is read back up to its closing quote. -/
theorem readString_escape (s : List Char) (fuel : Nat) (h : s.length < fuel) (rest : List Char) :
    readString fuel (s.flatMap escapeChar ++ '"' :: rest) = .ok (s, rest) := by
  induction s generalizing fuel with
  | nil =>
      obtain ⟨fuel, rfl⟩ : ∃ k, fuel = k + 1 := ⟨fuel - 1, by simp at h; omega⟩
      simp [readString]
  | cons c s ih =>
      obtain ⟨fuel, rfl⟩ : ∃ k, fuel = k + 1 := ⟨fuel - 1, by simp at h; omega⟩
      have hs : s.length < fuel := by simpa using h
      rw [List.flatMap_cons, List.append_assoc, readString_escapeChar, ih fuel hs]

theorem escapeChar_length_pos (c : Char) : 0 < (escapeChar c).length := by
  unfold escapeChar
  split_ifs <;> simp

theorem length_le_flatMap_escapeChar (s : List Char) :
    s.length ≤ (s.flatMap escapeChar).length := by
  induction s with
  | nil => simp
  | cons c s ih =>
      have hc := escapeChar_length_pos c
      rw [List.flatMap_cons, List.length_append, List.length_cons]
      omega

/-- A string token, from behind its opening quote. -/
def readStringToken (cs : List Char) : Except ReadError (String × List Char) :=
  match readString (cs.length + 1) cs with
  | .error e => .error e
  | .ok (s, cs) => .ok (String.ofList s, cs)

theorem readStringToken_escape (s : String) (rest : List Char) :
    readStringToken (s.toList.flatMap escapeChar ++ '"' :: rest) = .ok (s, rest) := by
  have hlen : s.toList.length < (s.toList.flatMap escapeChar ++ '"' :: rest).length + 1 := by
    have := length_le_flatMap_escapeChar s.toList
    rw [List.length_append]
    omega
  simp only [readStringToken, readString_escape s.toList _ hlen rest, String.ofList_toList]

/-! ## Writer -/

/-- Texts with commas between them. -/
def commaSep : List (List Char) → List Char
  | [] => []
  | [t] => t
  | t :: u :: ts => t ++ ',' :: commaSep (u :: ts)

def memberText (m : String × List Char) : List Char :=
  stringText m.1 ++ ':' :: m.2

/-- The compact text of a tree. -/
def render (num : ν → List Char) : Json ν → List Char :=
  fold
    { null := ['n', 'u', 'l', 'l']
      bool := fun b => if b then ['t', 'r', 'u', 'e'] else ['f', 'a', 'l', 's', 'e']
      num := num
      str := stringText
      arr := fun ts => '[' :: (commaSep ts ++ [']'])
      obj := fun ms => '{' :: (commaSep (ms.map memberText) ++ ['}']) }

@[simp] theorem render_arr (num : ν → List Char) (xs : List (Json ν)) :
    (arr xs).render num = '[' :: (commaSep (xs.map (render num)) ++ [']']) := by
  simp [render]

@[simp] theorem render_obj (num : ν → List Char) (ms : List (String × Json ν)) :
    (obj ms).render num =
      '{' :: (commaSep (ms.map fun m => memberText (m.1, m.2.render num)) ++ ['}']) := by
  simp [render, Function.comp_def]

/-- Writing mapped numbers is writing with another number writer. -/
theorem render_mapNum (num : μ → List Char) (g : ν → μ) (v : Json ν) :
    (v.mapNum g).render num = v.render (num ∘ g) := by
  induction v with
  | arr xs ih =>
      have hxs : xs.map (fun x => (x.mapNum g).render num) = xs.map (render (num ∘ g)) :=
        List.map_congr_left ih
      simp only [mapNum_arr, render_arr, List.map_map, Function.comp_def] at hxs ⊢
      rw [hxs]
  | obj ms ih =>
      have hms : ms.map (fun m => memberText (m.1, (m.2.mapNum g).render num))
          = ms.map fun m => memberText (m.1, m.2.render (num ∘ g)) :=
        List.map_congr_left fun m hm => by rw [ih m hm]
      simp only [mapNum_obj, render_obj, List.map_map, Function.comp_def] at hms ⊢
      rw [hms]
  | _ => rfl

/-- A text with nothing behind its first comma is the text itself. -/
theorem commaSep_cons (t : List Char) (ts : List (List Char)) :
    commaSep (t :: ts) = t ++ (if ts = [] then [] else ',' :: commaSep ts) := by
  cases ts with
  | nil => simp [commaSep]
  | cons u ts => simp [commaSep]

/-! ## Reader -/

def isWhitespace (c : Char) : Bool :=
  c = ' ' || c = '\n' || c = '\t' || c = '\r'

def skipWhitespace (cs : List Char) : List Char := cs.dropWhile isWhitespace

/-- The three words of JSON. -/
def readIdent : List Char → Except ReadError (Json μ × List Char)
  | 'n' :: 'u' :: 'l' :: 'l' :: cs => .ok (.null, cs)
  | 't' :: 'r' :: 'u' :: 'e' :: cs => .ok (.bool true, cs)
  | 'f' :: 'a' :: 'l' :: 's' :: 'e' :: cs => .ok (.bool false, cs)
  | c :: _ => if c = 'n' ∨ c = 't' ∨ c = 'f' then .error .expectedSomeIdent
      else .error .expectedSomeValue
  | [] => .error .eof

/-- A number is the longest run of number characters. -/
def readNum (num : List Char → Option μ) (cs : List Char) : Except ReadError (Json μ × List Char) :=
  match num (cs.takeWhile Decimal.isNumberChar) with
  | none => .error .invalidNumber
  | some n => .ok (.num n, cs.dropWhile Decimal.isNumberChar)

mutual

/-- Read one value. `remaining` counts down at every array and object entered, and
reaching zero is an error; `fuel` bounds the depth of calls. -/
def readValue (num : List Char → Option μ) :
    Nat → Nat → List Char → Except ReadError (Json μ × List Char)
  | 0, _, _ => .error .outOfFuel
  | fuel + 1, remaining, cs =>
      match skipWhitespace cs with
      | [] => .error .eof
      | c :: cs =>
          if c = '"' then
            match readStringToken cs with
            | .error e => .error e
            | .ok (s, cs) => .ok (.str s, cs)
          else if c = '[' then
            -- the level is taken before the array is looked at, so `[]` needs one too
            if remaining ≤ 1 then .error .recursionLimitExceeded
            else if (skipWhitespace cs).head? = some ']' then
              .ok (.arr [], (skipWhitespace cs).tail)
            else
              match readElems num fuel (remaining - 1) cs with
              | .error e => .error e
              | .ok (xs, cs) => .ok (.arr xs, cs)
          else if c = '{' then
            if remaining ≤ 1 then .error .recursionLimitExceeded
            else if (skipWhitespace cs).head? = some '}' then
              .ok (.obj [], (skipWhitespace cs).tail)
            else
              match readMembers num fuel (remaining - 1) cs with
              | .error e => .error e
              | .ok (ms, cs) => .ok (.obj ms, cs)
          else if Decimal.isNumberChar c then readNum num (c :: cs)
          else readIdent (c :: cs)

/-- Elements up to the closing bracket. -/
def readElems (num : List Char → Option μ) :
    Nat → Nat → List Char → Except ReadError (List (Json μ) × List Char)
  | 0, _, _ => .error .outOfFuel
  | fuel + 1, remaining, cs =>
      match readValue num fuel remaining cs with
      | .error e => .error e
      | .ok (x, cs) =>
          match skipWhitespace cs with
          | ',' :: cs =>
              match readElems num fuel remaining cs with
              | .error e => .error e
              | .ok (xs, cs) => .ok (x :: xs, cs)
          | ']' :: cs => .ok ([x], cs)
          | [] => .error .eof
          | _ => .error .expectedListCommaOrEnd

/-- Members up to the closing brace. -/
def readMembers (num : List Char → Option μ) :
    Nat → Nat → List Char → Except ReadError (List (String × Json μ) × List Char)
  | 0, _, _ => .error .outOfFuel
  | fuel + 1, remaining, cs =>
      match skipWhitespace cs with
      | '"' :: cs =>
          match readStringToken cs with
          | .error e => .error e
          | .ok (k, cs) =>
              match skipWhitespace cs with
              | ':' :: cs =>
                  match readValue num fuel remaining cs with
                  | .error e => .error e
                  | .ok (x, cs) =>
                      match skipWhitespace cs with
                      | ',' :: cs =>
                          match readMembers num fuel remaining cs with
                          | .error e => .error e
                          | .ok (ms, cs) => .ok ((k, x) :: ms, cs)
                      | '}' :: cs => .ok ([(k, x)], cs)
                      | [] => .error .eof
                      | _ => .error .expectedObjectCommaOrEnd
              | [] => .error .eof
              | _ => .error .expectedColon
      | [] => .error .eof
      | _ => .error .keyMustBeAString

end

/-- Read a whole text: one value with only whitespace around it. -/
def readDocument (num : List Char → Option μ) (remaining : Nat) (cs : List Char) :
    Except ReadError (Json μ) :=
  match readValue num (2 * cs.length + 2) remaining cs with
  | .error e => .error e
  | .ok (v, cs) => if skipWhitespace cs = [] then .ok v else .error .trailingCharacters

/-! ## Round trip -/

/-- A number writer and a number reader that fit together: every text is a token
the reader takes whole, and it reads the number `f` makes of the written one. -/
structure NumberText (num : ν → List Char) (readN : List Char → Option μ) (f : ν → μ) : Prop where
  ne_nil : ∀ n, num n ≠ []
  chars : ∀ n, ∀ c ∈ num n, Decimal.isNumberChar c
  read : ∀ n, readN (num n) = some (f n)

/-- The text behind a number does not continue it. -/
def Stops (rest : List Char) : Prop := ∀ c ∈ rest.head?, Decimal.isNumberChar c = false

/-- Every value starts with a character that is neither whitespace nor a closing
bracket. -/
theorem render_head {num : ν → List Char} {readN : List Char → Option μ} {f : ν → μ}
    (h : NumberText num readN f) (v : Json ν) :
    ∃ c cs, v.render num = c :: cs ∧ isWhitespace c = false ∧ c ≠ ']' ∧ c ≠ '}' := by
  cases v with
  | null => exact ⟨'n', _, rfl, by decide⟩
  | bool b =>
      cases b with
      | true => exact ⟨'t', _, rfl, by decide⟩
      | false => exact ⟨'f', _, rfl, by decide⟩
  | num n =>
      obtain ⟨c, cs, hc⟩ := List.exists_cons_of_ne_nil (h.ne_nil n)
      have hnum : Decimal.isNumberChar c = true := h.chars n c (by simp [hc])
      refine ⟨c, cs, hc, ?_, ?_, ?_⟩
      · cases hws : isWhitespace c with
        | false => rfl
        | true =>
            simp only [isWhitespace, Bool.or_eq_true, decide_eq_true_eq] at hws
            rcases hws with ((rfl | rfl) | rfl) | rfl <;> simp [Decimal.isNumberChar] at hnum
      · intro h
        rcases h with rfl
        exact absurd hnum (by decide)
      · intro h
        rcases h with rfl
        exact absurd hnum (by decide)
  | str s => exact ⟨'"', _, rfl, by decide⟩
  | arr xs => exact ⟨'[', _, render_arr num xs, by decide⟩
  | obj ms => exact ⟨'{', _, render_obj num ms, by decide⟩

theorem skipWhitespace_cons {c : Char} (h : isWhitespace c = false) (cs : List Char) :
    skipWhitespace (c :: cs) = c :: cs := by
  simp [skipWhitespace, h]

/-- A number token is read whole. -/
theorem readNum_append {num : ν → List Char} {readN : List Char → Option μ} {f : ν → μ}
    (h : NumberText num readN f) (n : ν) {rest : List Char} (hrest : Stops rest) :
    readNum readN (num n ++ rest) = .ok (.num (f n), rest) := by
  obtain ⟨htake, hdrop⟩ := Decimal.takeWhile_append_stop (h.chars n) hrest
  simp only [readNum, htake, hdrop, h.read n]

section RoundTrip

variable {num : ν → List Char} {readN : List Char → Option μ} {f : ν → μ}

/-- What reading a written value gives: the value if it is not too deep. -/
def Reads (num : ν → List Char) (readN : List Char → Option μ) (f : ν → μ) (v : Json ν) : Prop :=
  ∀ fuel remaining rest, 2 * (v.render num).length ≤ fuel → 0 < remaining → Stops rest →
    readValue readN fuel remaining (v.render num ++ rest) =
      if v.depth < remaining then .ok (v.mapNum f, rest) else .error .recursionLimitExceeded

theorem stops_comma (rest : List Char) : Stops (',' :: rest) := by
  intro c hc
  simp at hc
  subst hc
  rfl

theorem stops_bracket (rest : List Char) : Stops (']' :: rest) := by
  intro c hc
  simp at hc
  subst hc
  rfl

theorem stops_brace (rest : List Char) : Stops ('}' :: rest) := by
  intro c hc
  simp at hc
  subst hc
  rfl

/-- Elements are read one by one; the first that is too deep ends the reading. -/
theorem readElems_commaSep {x : Json ν} {xs : List (Json ν)}
    (ih : ∀ y ∈ x :: xs, Reads num readN f y) (fuel remaining : Nat) (rest : List Char)
    (hfuel : 2 * (commaSep ((x :: xs).map (render num))).length + 1 ≤ fuel)
    (hrem : 0 < remaining) :
    readElems readN fuel remaining (commaSep ((x :: xs).map (render num)) ++ ']' :: rest) =
      if ∀ y ∈ x :: xs, y.depth < remaining then .ok ((x :: xs).map (mapNum f), rest)
      else .error .recursionLimitExceeded := by
  induction xs generalizing x fuel with
  | nil =>
      obtain ⟨fuel, rfl⟩ : ∃ k, fuel = k + 1 := ⟨fuel - 1, by omega⟩
      have hx := ih x (by simp) fuel remaining (']' :: rest)
        (by simp only [List.map_cons, List.map_nil, commaSep] at hfuel; omega) hrem
        (stops_bracket rest)
      simp only [List.map_cons, List.map_nil, commaSep, readElems, hx]
      by_cases hdepth : x.depth < remaining
      · simp [hdepth, skipWhitespace_cons (show isWhitespace ']' = false from rfl)]
      · simp [hdepth]
  | cons y ys ihys =>
      obtain ⟨fuel, rfl⟩ : ∃ k, fuel = k + 1 := ⟨fuel - 1, by omega⟩
      simp only [List.map_cons, commaSep, List.length_append, List.length_cons] at hfuel
      have hx := ih x (by simp) fuel remaining
        (',' :: (commaSep ((y :: ys).map (render num)) ++ ']' :: rest)) (by omega) hrem
        (stops_comma _)
      have htail := ihys (x := y) (fun z hz => ih z (List.mem_cons_of_mem _ hz)) fuel
        (by simp only [List.map_cons]; omega)
      simp only [List.map_cons, commaSep, List.append_assoc, List.cons_append, readElems]
      simp only [List.map_cons] at hx htail
      rw [hx]
      have hall : (∀ z ∈ x :: y :: ys, z.depth < remaining) ↔
          x.depth < remaining ∧ ∀ z ∈ y :: ys, z.depth < remaining := List.forall_mem_cons
      by_cases hdepth : x.depth < remaining
      · -- behind the comma are the other elements
        rw [if_pos hdepth]
        simp only [skipWhitespace_cons (show isWhitespace ',' = false from rfl), htail]
        by_cases hys : ∀ z ∈ y :: ys, z.depth < remaining
        · rw [if_pos hys, if_pos (hall.mpr ⟨hdepth, hys⟩)]
        · rw [if_neg hys, if_neg (fun h => hys (hall.mp h).2)]
      · rw [if_neg hdepth, if_neg (fun h => hdepth (hall.mp h).1)]

/-- Members are read one by one, as elements are. -/
theorem readMembers_commaSep {m : String × Json ν} {ms : List (String × Json ν)}
    (ih : ∀ n ∈ m :: ms, Reads num readN f n.2) (fuel remaining : Nat) (rest : List Char)
    (hfuel : 2 * (commaSep ((m :: ms).map fun n => memberText (n.1, n.2.render num))).length + 1
      ≤ fuel)
    (hrem : 0 < remaining) :
    readMembers readN fuel remaining
        (commaSep ((m :: ms).map fun n => memberText (n.1, n.2.render num)) ++ '}' :: rest) =
      if ∀ n ∈ m :: ms, n.2.depth < remaining then
        .ok ((m :: ms).map fun n => (n.1, n.2.mapNum f), rest)
      else .error .recursionLimitExceeded := by
  have hws : ∀ cs, skipWhitespace ('"' :: cs) = '"' :: cs := skipWhitespace_cons rfl
  have hcolon : ∀ cs, skipWhitespace (':' :: cs) = ':' :: cs := skipWhitespace_cons rfl
  induction ms generalizing m fuel with
  | nil =>
      obtain ⟨fuel, rfl⟩ : ∃ k, fuel = k + 1 := ⟨fuel - 1, by omega⟩
      simp only [List.map_cons, List.map_nil, commaSep, memberText, stringText,
        List.length_append, List.length_cons] at hfuel
      have hx := ih m (by simp) fuel remaining ('}' :: rest) (by omega) hrem (stops_brace rest)
      simp only [List.map_cons, List.map_nil, commaSep, memberText, stringText, readMembers,
        List.cons_append, List.append_assoc, List.nil_append, hws, readStringToken_escape,
        hcolon, hx]
      by_cases hdepth : m.2.depth < remaining
      · simp [hdepth, skipWhitespace_cons (show isWhitespace '}' = false from rfl)]
      · simp [hdepth]
  | cons n ns ihns =>
      obtain ⟨fuel, rfl⟩ : ∃ k, fuel = k + 1 := ⟨fuel - 1, by omega⟩
      simp only [List.map_cons, commaSep, List.length_append, List.length_cons] at hfuel
      have hm : 2 * (m.2.render num).length ≤ fuel := by
        simp only [memberText, stringText, List.length_append, List.length_cons] at hfuel
        omega
      have hx := ih m (by simp) fuel remaining
        (',' :: (commaSep ((n :: ns).map fun n => memberText (n.1, n.2.render num))
          ++ '}' :: rest)) hm hrem (stops_comma _)
      have htail := ihns (m := n) (fun z hz => ih z (List.mem_cons_of_mem _ hz)) fuel
        (by simp only [List.map_cons]; omega)
      simp only [List.map_cons] at hx htail
      simp only [List.map_cons, commaSep, readMembers]
      simp only [memberText, stringText, List.cons_append, List.append_assoc, List.nil_append,
        hws, readStringToken_escape, hcolon] at hx htail ⊢
      rw [hx]
      have hall : (∀ z ∈ m :: n :: ns, z.2.depth < remaining) ↔
          m.2.depth < remaining ∧ ∀ z ∈ n :: ns, z.2.depth < remaining := List.forall_mem_cons
      by_cases hdepth : m.2.depth < remaining
      · -- behind the comma are the other members
        rw [if_pos hdepth]
        simp only [skipWhitespace_cons (show isWhitespace ',' = false from rfl), htail]
        by_cases hns : ∀ z ∈ n :: ns, z.2.depth < remaining
        · rw [if_pos hns, if_pos (hall.mpr ⟨hdepth, hns⟩)]
        · rw [if_neg hns, if_neg (fun h => hns (hall.mp h).2)]
      · rw [if_neg hdepth, if_neg (fun h => hdepth (hall.mp h).1)]

/-- Something that is not whitespace is left where it is, also under more text. -/
theorem skipWhitespace_append {c : Char} {cs : List Char} (h : isWhitespace c = false)
    (rest : List Char) : skipWhitespace ((c :: cs) ++ rest) = c :: (cs ++ rest) := by
  rw [List.cons_append, skipWhitespace_cons h]

/-- The elements of a nonempty array do not look like its end. -/
theorem head_commaSep_ne (h : NumberText num readN f) (x : Json ν) (ts : List (List Char))
    (rest : List Char) :
    (skipWhitespace (commaSep (x.render num :: ts) ++ rest)).head? ≠ some ']' := by
  obtain ⟨c, cs, hc, hws, hend, -⟩ := render_head h x
  rw [commaSep_cons, hc, List.append_assoc, skipWhitespace_append hws]
  simpa using hend

/-- Read what was written: the value comes back when it is less deep than the
levels that remain, and the recursion limit is reported when it is not. -/
theorem readValue_render (h : NumberText num readN f) (v : Json ν) : Reads num readN f v := by
  induction v with
  | null =>
      -- the text is not empty, so there is fuel for one call
      intro fuel remaining rest hfuel hrem hrest
      obtain ⟨fuel, rfl⟩ : ∃ k, fuel = k + 1 := ⟨fuel - 1, by simp [render] at hfuel; omega⟩
      simp [render, readValue, skipWhitespace, isWhitespace, Decimal.isNumberChar, readIdent, hrem]
  | bool b =>
      intro fuel remaining rest hfuel hrem hrest
      obtain ⟨fuel, rfl⟩ : ∃ k, fuel = k + 1 := by
        refine ⟨fuel - 1, ?_⟩
        cases b <;> simp [render] at hfuel <;> omega
      cases b <;>
        simp [render, readValue, skipWhitespace, isWhitespace, Decimal.isNumberChar, readIdent,
          hrem]
  | num n =>
      intro fuel remaining rest hfuel hrem hrest
      have hread := readNum_append h n hrest
      obtain ⟨c, cs, hc, hws, -, -⟩ := render_head h (.num n)
      replace hc : num n = c :: cs := hc
      have hnum : Decimal.isNumberChar c = true := h.chars n c (by simp [hc])
      -- a number token is not taken for a string, an array or an object
      have hquote : c ≠ '"' := by rintro rfl; exact absurd hnum (by decide)
      have hbracket : c ≠ '[' := by rintro rfl; exact absurd hnum (by decide)
      have hbrace : c ≠ '{' := by rintro rfl; exact absurd hnum (by decide)
      have htext : (Json.num n).render num = c :: cs := hc
      rw [htext] at hfuel ⊢
      obtain ⟨fuel, rfl⟩ : ∃ k, fuel = k + 1 := ⟨fuel - 1, by simp at hfuel; omega⟩
      rw [hc] at hread
      rw [readValue, skipWhitespace_append hws]
      simp only [hquote, hbracket, hbrace, hnum, if_true, if_false, depth_num, hrem, mapNum_num]
      exact hread
  | str s =>
      intro fuel remaining rest hfuel hrem hrest
      obtain ⟨fuel, rfl⟩ : ∃ k, fuel = k + 1 :=
        ⟨fuel - 1, by simp [render, stringText] at hfuel; omega⟩
      have htext : (str s : Json ν).render num ++ rest =
          '"' :: (s.toList.flatMap escapeChar ++ '"' :: rest) := by
        simp [render, stringText]
      have hws : isWhitespace '"' = false := rfl
      rw [htext, readValue, skipWhitespace_cons hws]
      simp only [readStringToken_escape, depth_str, hrem, mapNum_str, if_true]
  | arr xs ih =>
      intro fuel remaining rest hfuel hrem hrest
      have hws : isWhitespace '[' = false := rfl
      obtain ⟨k, rfl⟩ : ∃ k, remaining = k + 1 := ⟨remaining - 1, by omega⟩
      obtain ⟨fuel, rfl⟩ : ∃ k, fuel = k + 1 := ⟨fuel - 1, by simp at hfuel; omega⟩
      simp only [depth_arr_lt_iff]
      rw [render_arr, readValue, skipWhitespace_append hws]
      -- entering the array takes one of the `k + 1` levels that remain
      by_cases hk : 0 < k
      · have hlimit : ¬k + 1 ≤ 1 := by omega
        cases xs with
        | nil => simp [commaSep, skipWhitespace, isWhitespace, hk, hlimit]
        | cons x xs =>
            have hlen : 2 * (commaSep ((x :: xs).map (render num))).length + 1 ≤ fuel := by
              simp only [render_arr, List.length_cons, List.length_append] at hfuel
              omega
            have helems := readElems_commaSep ih fuel k rest hlen hk
            have hhead := head_commaSep_ne h x (xs.map (render num)) (']' :: rest)
            simp only [List.map_cons, List.append_assoc, List.cons_append, List.nil_append]
              at helems hhead ⊢
            simp only [hlimit, hhead, Nat.add_sub_cancel, helems, hk, true_and, mapNum_arr]
            by_cases hdepth : ∀ y ∈ x :: xs, y.depth < k
            · simp only [if_pos hdepth]
              rfl
            · simp only [if_neg hdepth]
              rfl
      · have hlimit : k + 1 ≤ 1 := by omega
        simp [hk, hlimit]
  | obj ms ih =>
      intro fuel remaining rest hfuel hrem hrest
      have hws : isWhitespace '{' = false := rfl
      obtain ⟨k, rfl⟩ : ∃ k, remaining = k + 1 := ⟨remaining - 1, by omega⟩
      obtain ⟨fuel, rfl⟩ : ∃ k, fuel = k + 1 := ⟨fuel - 1, by simp at hfuel; omega⟩
      simp only [depth_obj_lt_iff]
      rw [render_obj, readValue, skipWhitespace_append hws]
      by_cases hk : 0 < k
      · have hlimit : ¬k + 1 ≤ 1 := by omega
        cases ms with
        | nil => simp [commaSep, skipWhitespace, isWhitespace, hk, hlimit]
        | cons m ms =>
            have hlen : 2 * (commaSep ((m :: ms).map fun n =>
                memberText (n.1, n.2.render num))).length + 1 ≤ fuel := by
              simp only [render_obj, List.length_cons, List.length_append] at hfuel
              omega
            have hmembers := readMembers_commaSep ih fuel k rest hlen hk
            have hhead : (skipWhitespace (commaSep ((m :: ms).map fun n =>
                memberText (n.1, n.2.render num)) ++ '}' :: rest)).head? ≠ some '}' := by
              rw [List.map_cons, commaSep_cons, memberText, stringText]
              simp [skipWhitespace_cons (show isWhitespace '"' = false from rfl)]
            simp only [List.append_assoc, List.cons_append, List.nil_append] at hmembers hhead ⊢
            simp only [hlimit, hhead, Nat.add_sub_cancel, hmembers, hk, true_and, mapNum_obj]
            by_cases hdepth : ∀ y ∈ m :: ms, y.2.depth < k
            · simp only [if_pos hdepth]
              rfl
            · simp only [if_neg hdepth]
              rfl
      · have hlimit : k + 1 ≤ 1 := by omega
        simp [hk, hlimit]

/-- A whole document: the text of a tree is read back as that tree when it is less
than `remaining` deep, and refused for its depth when it is not. -/
theorem readDocument_render (h : NumberText num readN f) (v : Json ν) {remaining : Nat}
    (hrem : 0 < remaining) :
    readDocument readN remaining (v.render num) =
      if v.depth < remaining then .ok (v.mapNum f) else .error .recursionLimitExceeded := by
  -- nothing follows the value
  have hstop : Stops [] := by intro c hc; simp at hc
  have hread := readValue_render h v (2 * (v.render num).length + 2) remaining [] (by omega)
    hrem hstop
  rw [List.append_nil] at hread
  rw [readDocument, hread]
  by_cases hdepth : v.depth < remaining
  · simp [hdepth, skipWhitespace]
  · simp [hdepth]

/-- The text determines the tree, up to what the numbers are read as. -/
theorem mapNum_eq_of_render_eq (h : NumberText num readN f) {v w : Json ν}
    (heq : v.render num = w.render num) : v.mapNum f = w.mapNum f := by
  -- read both with a limit neither reaches
  have hv := readDocument_render h v (Nat.succ_pos (max v.depth w.depth))
  have hw := readDocument_render h w (Nat.succ_pos (max v.depth w.depth))
  rw [if_pos (by omega)] at hv hw
  rw [heq, hw] at hv
  exact (Except.ok.inj hv).symm

end RoundTrip

end Json

end PeerBadge
