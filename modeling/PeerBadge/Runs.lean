import Mathlib.Data.List.Induction

/-! # Runs

A machine is a step function on states; a run applies a list of calls. What every
call preserves, every run preserves; a statement about the history and the state is
proved by adding one call at the end; two runs are compared call by call, or by the
calls of one kind that both have (`noninterference`).

Runs that hide their input from an observer are `Exchangeable`.

`Last` and `After` are the two questions a history is asked here: which call was the
last of its kind, and whether one kind of call came after another kind. `Answered` is a
correspondence: what a call claims, an earlier call answers for.

A `trace` is what can be seen of a run. One machine refines another one when the trace of
each of its runs is `Permitted` there.
-/

namespace PeerBadge

namespace Runs

variable {σ τ α ω : Type}

/-- The state after a list of calls. -/
def run (step : σ → α → σ) (s : σ) (calls : List α) : σ := calls.foldl step s

variable {step : σ → α → σ}

@[simp] theorem run_nil (s : σ) : run step s [] = s := rfl

@[simp] theorem run_cons (s : σ) (call : α) (calls : List α) :
    run step s (call :: calls) = run step (step s call) calls := rfl

theorem run_append (s : σ) (calls later : List α) :
    run step s (calls ++ later) = run step (run step s calls) later :=
  List.foldl_append

theorem run_concat (s : σ) (calls : List α) (call : α) :
    run step s (calls ++ [call]) = step (run step s calls) call := by
  rw [run_append]
  rfl

/-- Induction over the history: a relation between history and state that holds at the
start and is kept by one more call holds always. -/
theorem history {P : List α → σ → Prop} {s : σ} (init : P [] s)
    (next : ∀ calls t call, P calls t → P (calls ++ [call]) (step t call)) (calls : List α) :
    P calls (run step s calls) := by
  induction calls using List.reverseRecOn with
  | nil => exact init
  | append_singleton calls call ih =>
      rw [run_concat]
      exact next calls _ call ih

/-- What one call preserves, a run preserves. -/
theorem invariant {I : σ → Prop} (next : ∀ t call, I t → I (step t call)) {s : σ} (init : I s)
    (calls : List α) : I (run step s calls) := by
  induction calls generalizing s with
  | nil => exact init
  | cons call calls ih => exact ih (next s call init)

/-- Two runs of the same calls stay related. -/
theorem related {step' : τ → α → τ} {R : σ → τ → Prop}
    (next : ∀ s t call, R s t → R (step s call) (step' t call)) {s : σ} {t : τ} (init : R s t)
    (calls : List α) : R (run step s calls) (run step' t calls) := by
  induction calls generalizing s t with
  | nil => exact init
  | cons call calls ih => exact ih (next s t call init)

/-! ## Two runs that share the calls of one kind -/

/-- The calls of a kind and what they returned, in order. -/
def observed (step : σ → α → σ) (result : σ → α → ω) (low : α → Bool) : σ → List α → List (α × ω)
  | _, [] => []
  | s, call :: calls =>
      if low call then (call, result s call) :: observed step result low (step s call) calls
      else observed step result low (step s call) calls

/-- Unwinding: calls of the kind return the same in related states and leave related
states behind, other calls do not leave the relation. Then a run looks like the run of
its calls of the kind alone. -/
theorem purge {result : σ → α → ω} {low : α → Bool} {R : σ → σ → Prop}
    (same : ∀ s t call, low call → R s t → result s call = result t call)
    (kept : ∀ s t call, low call → R s t → R (step s call) (step t call))
    (unseen : ∀ s t call, ¬low call → R s t → R (step s call) t) {s t : σ} (init : R s t)
    (calls : List α) :
    observed step result low s calls = observed step result low t (calls.filter low) ∧
      R (run step s calls) (run step t (calls.filter low)) := by
  induction calls generalizing s t with
  | nil => exact ⟨rfl, init⟩
  | cons call calls ih =>
      by_cases hlow : low call
      · rw [List.filter_cons_of_pos hlow]
        rcases ih (kept s t call hlow init) with ⟨hobserved, hrun⟩
        refine ⟨?_, hrun⟩
        simp only [observed, hlow, if_true, same s t call hlow init, hobserved]
      · rw [List.filter_cons_of_neg hlow]
        rcases ih (unseen s t call hlow init) with ⟨hobserved, hrun⟩
        refine ⟨?_, hrun⟩
        simp only [observed, hlow, if_false, hobserved, Bool.false_eq_true]

/-- Two runs with the same calls of the kind cannot be told apart by them. -/
theorem noninterference {result : σ → α → ω} {low : α → Bool} {R : σ → σ → Prop}
    (same : ∀ s t call, low call → R s t → result s call = result t call)
    (kept : ∀ s t call, low call → R s t → R (step s call) (step t call))
    (unseen : ∀ s t call, ¬low call → R s t → R (step s call) t) {s : σ} (init : R s s)
    {calls calls' : List α} (h : calls.filter low = calls'.filter low) :
    observed step result low s calls = observed step result low s calls' ∧
      ∃ t, R (run step s calls) t ∧ R (run step s calls') t := by
  rcases purge same kept unseen init calls with ⟨hobserved, hrun⟩
  rcases purge same kept unseen init calls' with ⟨hobserved', hrun'⟩
  rw [← h] at hobserved' hrun'
  exact ⟨hobserved.trans hobserved'.symm, _, hrun, hrun'⟩

/-! ## Questions about histories -/

/-- The last call of a kind. -/
def Last (P : α → Prop) (calls : List α) (call : α) : Prop :=
  ∃ pre post, calls = pre ++ call :: post ∧ P call ∧ ∀ other ∈ post, ¬P other

/-- A call of one kind that comes after a call of another kind. -/
def After (P Q : α → Prop) (calls : List α) : Prop :=
  ∃ pre call post, calls = pre ++ call :: post ∧ Q call ∧ ∃ other ∈ pre, P other

theorem not_last_nil (P : α → Prop) (call : α) : ¬Last P [] call := by
  intro h
  rcases h with ⟨pre, post, h, -, -⟩
  simp at h

theorem not_after_nil (P Q : α → Prop) : ¬After P Q [] := by
  intro h
  rcases h with ⟨pre, call, post, h, -, -⟩
  simp at h

/-- A split of a history with one more call is at that call or before it. -/
theorem concat_eq_split {calls pre post : List α} {new call : α} :
    calls ++ [new] = pre ++ call :: post ↔
      (post = [] ∧ calls = pre ∧ new = call) ∨
      ∃ post', post = post' ++ [new] ∧ calls = pre ++ call :: post' := by
  rcases List.eq_nil_or_concat post with rfl | ⟨post', last, hpost⟩
  · simp
  · rw [List.concat_eq_append] at hpost
    subst hpost
    constructor
    · intro h
      have hsplit : calls ++ [new] = (pre ++ call :: post') ++ [last] := by simpa using h
      rcases List.append_inj' hsplit rfl with ⟨hcalls, hlast⟩
      exact Or.inr ⟨post', by rw [List.singleton_inj.mp hlast], hcalls⟩
    · intro h
      rcases h with ⟨h, -, -⟩ | ⟨post'', h, rfl⟩
      · simp at h
      · rcases List.append_inj' h rfl with ⟨rfl, hlast⟩
        rw [List.singleton_inj.mp hlast]
        simp

/-- One more call is the last of its kind, or leaves the last one what it was. -/
theorem last_concat {P : α → Prop} {calls : List α} {new call : α} :
    Last P (calls ++ [new]) call ↔ (P new ∧ new = call) ∨ (¬P new ∧ Last P calls call) := by
  constructor
  · intro h
    rcases h with ⟨pre, post, hsplit, hcall, hpost⟩
    rcases concat_eq_split.mp hsplit with ⟨rfl, rfl, rfl⟩ | ⟨post', rfl, rfl⟩
    · exact Or.inl ⟨hcall, rfl⟩
    · refine Or.inr ⟨hpost new (by simp), pre, post', rfl, hcall, ?_⟩
      intro other hother
      exact hpost other (List.mem_append_left _ hother)
  · intro h
    rcases h with ⟨hnew, rfl⟩ | ⟨hnew, pre, post, rfl, hcall, hpost⟩
    · exact ⟨calls, [], rfl, hnew, by simp⟩
    · refine ⟨pre, post ++ [new], by simp, hcall, ?_⟩
      intro other hother
      rcases List.mem_append.mp hother with hother | hother
      · exact hpost other hother
      · rw [List.mem_singleton.mp hother]
        exact hnew

/-- Some call is the last of its kind when there is one at all. -/
theorem exists_last_iff {P : α → Prop} {calls : List α} :
    (∃ call, Last P calls call) ↔ ∃ call ∈ calls, P call := by
  induction calls using List.reverseRecOn with
  | nil => simp [not_last_nil]
  | append_singleton calls new ih =>
      simp only [last_concat, List.mem_append, List.mem_singleton]
      by_cases hnew : P new
      · simp only [hnew, true_and, not_true, false_and, or_false, exists_eq', true_iff]
        exact ⟨new, Or.inr rfl, hnew⟩
      · simp only [hnew, false_and, not_false_iff, true_and, false_or, ih]
        constructor
        · intro h
          rcases h with ⟨call, hmem, hcall⟩
          exact ⟨call, Or.inl hmem, hcall⟩
        · intro h
          rcases h with ⟨call, hmem | rfl, hcall⟩
          · exact ⟨call, hmem, hcall⟩
          · exact absurd hcall hnew

/-- One more call comes after what was there. -/
theorem after_concat {P Q : α → Prop} {calls : List α} {new : α} :
    After P Q (calls ++ [new]) ↔ After P Q calls ∨ (Q new ∧ ∃ other ∈ calls, P other) := by
  constructor
  · intro h
    rcases h with ⟨pre, call, post, hsplit, hcall, hpre⟩
    rcases concat_eq_split.mp hsplit with ⟨rfl, rfl, rfl⟩ | ⟨post', rfl, rfl⟩
    · exact Or.inr ⟨hcall, hpre⟩
    · exact Or.inl ⟨pre, call, post', rfl, hcall, hpre⟩
  · intro h
    rcases h with ⟨pre, call, post, rfl, hcall, hpre⟩ | ⟨hnew, hpre⟩
    · exact ⟨pre, call, post ++ [new], by simp, hcall, hpre⟩
    · exact ⟨calls, new, [], rfl, hnew, hpre⟩

theorem After.exists_mem {P Q : α → Prop} {calls : List α} (h : After P Q calls) :
    (∃ call ∈ calls, P call) ∧ ∃ call ∈ calls, Q call := by
  rcases h with ⟨pre, call, post, rfl, hcall, other, hother, hP⟩
  exact ⟨⟨other, by simp [hother], hP⟩, ⟨call, by simp, hcall⟩⟩

theorem After.append {P Q : α → Prop} {calls : List α} (h : After P Q calls) (later : List α) :
    After P Q (calls ++ later) := by
  rcases h with ⟨pre, call, post, rfl, hcall, hpre⟩
  exact ⟨pre, call, post ++ later, by simp, hcall, hpre⟩

theorem after_append_of_mem {P Q : α → Prop} {calls later : List α}
    (hP : ∃ call ∈ calls, P call) (hQ : ∃ call ∈ later, Q call) : After P Q (calls ++ later) := by
  rcases hP with ⟨other, hother, hP⟩
  rcases hQ with ⟨call, hcall, hQ⟩
  rcases List.append_of_mem hcall with ⟨pre, post, rfl⟩
  exact ⟨calls ++ pre, call, post, by simp, hQ, other, List.mem_append_left _ hother, hP⟩

/-- The order does not matter once everything has been repeated. -/
theorem after_append_iff {P Q : α → Prop} {calls later : List α}
    (hsame : ∀ call, call ∈ later ↔ call ∈ calls) :
    After P Q (calls ++ later) ↔ (∃ call ∈ calls, P call) ∧ ∃ call ∈ calls, Q call := by
  constructor
  · intro h
    simpa only [List.mem_append, hsame, or_self] using h.exists_mem
  · intro h
    refine after_append_of_mem h.1 ?_
    simpa only [hsame] using h.2

/-- The last call of a kind is among the later ones when there is one of the kind. -/
theorem last_append_of_mem {P : α → Prop} {calls later : List α} (h : ∃ call ∈ later, P call)
    {call : α} : Last P (calls ++ later) call ↔ Last P later call := by
  induction later using List.reverseRecOn with
  | nil => simp at h
  | append_singleton later new ih =>
      rw [← List.append_assoc, last_concat, last_concat]
      by_cases hnew : P new
      · simp only [hnew, not_true, false_and]
      · -- the new call does not count, so an earlier one does
        have hlater : ∃ call ∈ later, P call := by
          rcases h with ⟨other, hother, hP⟩
          rcases List.mem_append.mp hother with hother | hother
          · exact ⟨other, hother, hP⟩
          · rw [List.mem_singleton.mp hother] at hP
            exact absurd hP hnew
        rw [ih hlater]

/-! ## Correspondence -/

section Correspondence

variable {γ δ : Type}

/-- Whenever a call claims something, an earlier call answers for it. -/
def Answered (claims answers : α → γ → Prop) (calls : List α) : Prop :=
  ∀ pre call post c, calls = pre ++ call :: post → claims call c →
    ∃ earlier ∈ pre, answers earlier c

/-- From claims of one kind to claims of another kind, which have to be claims of the
first kind and to be answered for when those are. -/
theorem Answered.imp {claims answers : α → γ → Prop} {claims' answers' : α → δ → Prop}
    {calls : List α} (h : Answered claims answers calls)
    (next : ∀ call ∈ calls, ∀ d, claims' call d →
      ∃ c, claims call c ∧ ∀ earlier ∈ calls, answers earlier c → answers' earlier d) :
    Answered claims' answers' calls := by
  intro pre call post d hsplit hclaim
  have hcall : call ∈ calls := by rw [hsplit]; simp
  rcases next call hcall d hclaim with ⟨c, hc, hnext⟩
  rcases h pre call post c hsplit hc with ⟨earlier, hearlier, hanswer⟩
  have hmem : earlier ∈ calls := by
    rw [hsplit]
    exact List.mem_append_left _ hearlier
  exact ⟨earlier, hearlier, hnext earlier hmem hanswer⟩

theorem answered_nil (claims answers : α → γ → Prop) : Answered claims answers [] := by
  intro pre call post c hsplit
  simp at hsplit

/-- One more call has to be answered for by what was there. -/
theorem answered_concat {claims answers : α → γ → Prop} {calls : List α} {new : α} :
    Answered claims answers (calls ++ [new]) ↔
      Answered claims answers calls ∧
        ∀ c, claims new c → ∃ earlier ∈ calls, answers earlier c := by
  constructor
  · intro h
    constructor
    · intro pre call post c hsplit
      exact h pre call (post ++ [new]) c (by simp [hsplit])
    · intro c
      exact h calls new [] c rfl
  · intro h pre call post c hsplit hclaim
    rcases concat_eq_split.mp hsplit with ⟨-, rfl, rfl⟩ | ⟨post', -, hcalls⟩
    · exact h.2 c hclaim
    · exact h.1 pre call post' c hcalls hclaim

/-- What some call of a history claims, another one answers for. -/
theorem Answered.exists_answer {claims answers : α → γ → Prop} {calls : List α}
    (h : Answered claims answers calls) {call : α} (hcall : call ∈ calls) {c : γ}
    (hclaim : claims call c) : ∃ earlier ∈ calls, answers earlier c := by
  rcases List.append_of_mem hcall with ⟨pre, post, hsplit⟩
  rcases h pre call post c hsplit hclaim with ⟨earlier, hearlier, hanswer⟩
  refine ⟨earlier, ?_, hanswer⟩
  rw [hsplit]
  exact List.mem_append_left _ hearlier

/-- The beginning of a history is answered for when all of it is. -/
theorem Answered.of_append {claims answers : α → γ → Prop} {calls later : List α}
    (h : Answered claims answers (calls ++ later)) : Answered claims answers calls := by
  intro pre call post c hsplit
  exact h pre call (post ++ later) c (by simp [hsplit])

end Correspondence

/-! ## What is permitted -/

section Permitted

variable {permits : σ → α → Prop} {s : σ}

/-- Every call is permitted in the state it meets. -/
def Permitted (permits : σ → α → Prop) (step : σ → α → σ) (s : σ) (calls : List α) : Prop :=
  ∀ pre call post, calls = pre ++ call :: post → permits (run step s pre) call

theorem permitted_nil : Permitted permits step s [] := by
  intro pre call post hsplit
  simp at hsplit

theorem permitted_concat {calls : List α} {new : α} :
    Permitted permits step s (calls ++ [new]) ↔
      Permitted permits step s calls ∧ permits (run step s calls) new := by
  constructor
  · intro h
    constructor
    · intro pre call post hsplit
      exact h pre call (post ++ [new]) (by simp [hsplit])
    · exact h calls new [] rfl
  · intro h pre call post hsplit
    rcases concat_eq_split.mp hsplit with ⟨-, rfl, rfl⟩ | ⟨post', -, hcalls⟩
    · exact h.2
    · exact h.1 pre call post' hcalls

/-- What every permitted call preserves, a run of permitted calls preserves. -/
theorem Permitted.invariant {I : σ → Prop}
    (next : ∀ t call, I t → permits t call → I (step t call)) (init : I s) {calls : List α}
    (h : Permitted permits step s calls) : I (run step s calls) := by
  induction calls using List.reverseRecOn with
  | nil => exact init
  | append_singleton calls call ih =>
      rcases permitted_concat.mp h with ⟨hcalls, hcall⟩
      rw [run_concat]
      exact next _ call (ih hcalls) hcall

/-- What can be seen of the calls, one after the other. -/
def trace (step : σ → α → σ) (see : σ → α → ω) : σ → List α → List ω
  | _, [] => []
  | s, call :: calls => see s call :: trace step see (step s call) calls

variable {see : σ → α → ω}

theorem trace_append (s : σ) (calls later : List α) :
    trace step see s (calls ++ later)
      = trace step see s calls ++ trace step see (run step s calls) later := by
  induction calls generalizing s with
  | nil => rfl
  | cons call calls ih =>
      rw [List.cons_append, trace, trace, run_cons, ih, List.cons_append]

theorem trace_concat (s : σ) (calls : List α) (call : α) :
    trace step see s (calls ++ [call]) = trace step see s calls ++ [see (run step s calls) call] :=
  trace_append s calls [call]

/-- Whatever is seen, is seen of some call. -/
theorem mem_trace_iff {calls : List α} {o : ω} :
    o ∈ trace step see s calls ↔
      ∃ pre call post, calls = pre ++ call :: post ∧ see (run step s pre) call = o := by
  constructor
  · intro h
    induction calls using List.reverseRecOn with
    | nil => cases h
    | append_singleton calls new ih =>
        rw [trace_concat, List.mem_append, List.mem_singleton] at h
        rcases h with h | rfl
        · rcases ih h with ⟨pre, call, post, rfl, hsee⟩
          exact ⟨pre, call, post ++ [new], by simp, hsee⟩
        · exact ⟨calls, new, [], rfl, rfl⟩
  · intro h
    rcases h with ⟨pre, call, post, rfl, rfl⟩
    rw [trace_append]
    exact List.mem_append_right _ List.mem_cons_self

/-- One machine does what another one permits, if it does so with every call that is added
to a history. -/
theorem permitted_trace {permits' : τ → ω → Prop} {step' : τ → ω → τ} {t : τ} {calls : List α}
    (next : ∀ pre call post, calls = pre ++ call :: post →
      permits' (run step' t (trace step see s pre)) (see (run step s pre) call)) :
    Permitted permits' step' t (trace step see s calls) := by
  induction calls using List.reverseRecOn with
  | nil => exact permitted_nil
  | append_singleton calls new ih =>
      rw [trace_concat]
      refine permitted_concat.mpr ⟨ih ?_, next calls new [] rfl⟩
      intro pre call post hsplit
      exact next pre call (post ++ [new]) (by simp [hsplit])

end Permitted

/-! ## Hidden inputs -/

section Hidden

variable {ι ρ ν κ : Type}

/-- Runs lead from an input and randomness to a view and an output. The view of one run
fits the input and the output of any other one, with other randomness. -/
def Exchangeable (R : ι → ρ → ν → ω → Prop) : Prop :=
  ∀ x r v o x' r' v' o', R x r v o → R x' r' v' o' → ∃ r'', R x' r'' v o'

/-- Inputs and outputs can be reordered under the views. -/
theorem Exchangeable.reorder {R : ι → ρ → ν → ω → Prop} (h : Exchangeable R) {x : κ → ι}
    {r : κ → ρ} {v : κ → ν} {o : κ → ω} (hruns : ∀ i, R (x i) (r i) (v i) (o i)) (π : κ → κ) :
    ∃ r' : κ → ρ, ∀ i, R (x (π i)) (r' i) (v i) (o (π i)) := by
  choose r' hr' using fun i => h _ _ _ _ _ _ _ _ (hruns i) (hruns (π i))
  exact ⟨r', hr'⟩

end Hidden

end Runs

end PeerBadge
