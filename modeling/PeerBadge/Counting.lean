import Mathlib.Algebra.BigOperators.Group.Finset.Piecewise
import Mathlib.Algebra.Order.BigOperators.Group.Finset
import PeerBadge.Runs

/-! # Counting in runs

Some calls of a history claim things, each in a class, and other calls each allow one
more thing to be claimed in a class. A history is `Backed` when at no time more things
have been claimed in a class than were allowed there.

`Backed.card_le` carries that over to coarser things: what can be told apart by class and
thing is at no time claimed more often than the calls of all its classes allow.
-/

namespace PeerBadge

namespace Runs

variable {α κ ι δ : Type}

open Classical in
/-- The number of calls of a kind. -/
noncomputable def count (P : α → Prop) (calls : List α) : Nat :=
  calls.countP fun call => decide (P call)

theorem count_cons (P : α → Prop) (call : α) (calls : List α) [Decidable (P call)] :
    count P (call :: calls) = count P calls + if P call then 1 else 0 := by
  simp only [count, List.countP_cons, decide_eq_true_eq]

theorem count_mono {P Q : α → Prop} {calls : List α} (h : ∀ call ∈ calls, P call → Q call) :
    count P calls ≤ count Q calls := by
  classical
  apply List.countP_mono_left
  intro call hcall hP
  exact decide_eq_true (h call hcall (of_decide_eq_true hP))

theorem count_append (P : α → Prop) (calls later : List α) :
    count P (calls ++ later) = count P calls + count P later :=
  List.countP_append

/-- All calls are of the kind. -/
theorem count_eq_length {P : α → Prop} {calls : List α} (h : ∀ call ∈ calls, P call) :
    count P calls = calls.length := by
  classical
  apply List.countP_eq_length.mpr
  intro call hcall
  exact decide_eq_true (h call hcall)

theorem count_concat_of_not {P : α → Prop} {call : α} (h : ¬P call) (calls : List α) :
    count P (calls ++ [call]) = count P calls := by
  simp [count, List.countP_append, h]

/-- What is seen of the calls of a kind, and of no others, is seen as often as there are such
calls. -/
theorem count_trace {σ ω : Type} [DecidableEq ω] {step : σ → α → σ} {see : σ → α → ω} {o : ω}
    {P : α → Prop} (h : ∀ s call, see s call = o ↔ P call) (s : σ) (calls : List α) :
    (trace step see s calls).count o = count P calls := by
  classical
  induction calls generalizing s with
  | nil => simp [trace, count]
  | cons call calls ih =>
      rw [trace, List.count_cons, ih, count_cons]
      simp only [beq_iff_eq, h]

/-- Calls of one class each are counted once when the classes are counted together. -/
theorem sum_count_le {grants : α → κ → Prop}
    (hone : ∀ call c c', grants call c → grants call c' → c = c') (classes : Finset κ)
    (calls : List α) :
    ∑ c ∈ classes, count (fun call => grants call c) calls
      ≤ count (fun call => ∃ c ∈ classes, grants call c) calls := by
  classical
  induction calls with
  | nil => simp [count]
  | cons call calls ih =>
      have hcall : ∑ c ∈ classes, (if grants call c then 1 else 0)
          ≤ if ∃ c ∈ classes, grants call c then 1 else 0 := by
        rw [← Finset.card_filter]
        by_cases hany : ∃ c ∈ classes, grants call c
        · rw [if_pos hany, Finset.card_le_one]
          intro c hc c' hc'
          exact hone call c c' (Finset.mem_filter.mp hc).2 (Finset.mem_filter.mp hc').2
        · rw [if_neg hany, Finset.filter_false_of_mem fun c hc hgrant => hany ⟨c, hc, hgrant⟩,
            Finset.card_empty]
      simp only [count_cons, Finset.sum_add_distrib]
      exact Nat.add_le_add ih hcall

/-- At no time more is claimed in a class than calls of that class allow. -/
def Backed (claims : α → κ → ι → Prop) (grants : α → κ → Prop) (calls : List α) : Prop :=
  ∀ pre post, calls = pre ++ post → ∀ c (things : Finset ι),
    (∀ i ∈ things, ∃ call ∈ pre, claims call c i) →
    things.card ≤ count (fun call => grants call c) pre

/-- The beginning of a history is backed when all of it is. -/
theorem Backed.of_append {claims : α → κ → ι → Prop} {grants : α → κ → Prop} {calls later : List α}
    (h : Backed claims grants (calls ++ later)) : Backed claims grants calls := by
  intro pre post hsplit
  exact h pre (post ++ later) (by simp [hsplit])

/-- What was allowed at first backs what is claimed later, if no more is claimed than that. -/
theorem Backed.of_first {claims : α → κ → ι → Prop} {grants : α → κ → Prop} {first later : List α}
    (hfirst : ∀ call ∈ first, ∀ c i, ¬claims call c i) (allowed : κ → Finset ι)
    (hlater : ∀ call ∈ later, ∀ c i, claims call c i →
      i ∈ allowed c ∧ (allowed c).card ≤ count (fun call => grants call c) first) :
    Backed claims grants (first ++ later) := by
  intro pre post hsplit c things hthings
  rcases things.eq_empty_or_nonempty with rfl | ⟨i, hi⟩
  · simp
  rcases List.append_eq_append_iff.mp hsplit.symm with ⟨rest, hrest, -⟩ | ⟨rest, rfl, hrest⟩
  · -- nothing is claimed before all is allowed
    rcases hthings i hi with ⟨call, hcall, hclaim⟩
    exact absurd hclaim (hfirst call (hrest ▸ List.mem_append_left _ hcall) c i)
  · have hallowed : ∀ i ∈ things,
        i ∈ allowed c ∧ (allowed c).card ≤ count (fun call => grants call c) first := by
      intro i hi
      rcases hthings i hi with ⟨call, hcall, hclaim⟩
      rcases List.mem_append.mp hcall with hcall | hcall
      · exact absurd hclaim (hfirst call hcall c i)
      · exact hlater call (hrest ▸ List.mem_append_left _ hcall) c i hclaim
    calc things.card
        ≤ (allowed c).card := Finset.card_le_card fun i hi => (hallowed i hi).1
      _ ≤ count (fun call => grants call c) first := (hallowed i hi).2
      _ ≤ count (fun call => grants call c) (first ++ rest) := by
          rw [count_append]
          exact Nat.le_add_right _ _

/-- Things of a new sort are claimed at most as often as calls of a kind, if class and old
thing determine the new one, and all that is granted in such a class is of the kind. -/
theorem Backed.card_le {claims : α → κ → ι → Prop} {grants : α → κ → Prop} {calls pre post : List α}
    (h : Backed claims grants calls) (hsplit : calls = pre ++ post)
    (hone : ∀ call c c', grants call c → grants call c' → c = c') {kind : α → Prop}
    (shows : κ → ι → δ → Prop) (hinj : ∀ c i d d', shows c i d → shows c i d' → d = d')
    (hkind : ∀ call ∈ pre, ∀ c i d, shows c i d → grants call c → kind call) {things : Finset δ}
    (hthings : ∀ d ∈ things, ∃ c i, shows c i d ∧ ∃ call ∈ pre, claims call c i) :
    things.card ≤ count kind pre := by
  classical
  rcases things.eq_empty_or_nonempty with rfl | ⟨d₀, hd₀⟩
  · simp
  -- a class and an old thing for every new one; outside of them it does not matter
  rcases hthings d₀ hd₀ with ⟨c₀, i₀, -⟩
  have hchoice : ∀ d, ∃ c i, d ∈ things → shows c i d ∧ ∃ call ∈ pre, claims call c i := by
    intro d
    by_cases hd : d ∈ things
    · rcases hthings d hd with ⟨c, i, hshows⟩
      exact ⟨c, i, fun _ => hshows⟩
    · exact ⟨c₀, i₀, fun h => absurd h hd⟩
  choose cls old hold using hchoice
  have hclass : ∀ c ∈ things.image cls,
      (things.filter fun d => cls d = c).card ≤ count (fun call => grants call c) pre := by
    intro c _
    have hinjOn : Set.InjOn old (things.filter fun d => cls d = c) := by
      intro d hd d' hd' hsame
      rcases Finset.mem_filter.mp hd with ⟨hd, hc⟩
      rcases Finset.mem_filter.mp hd' with ⟨hd', hc'⟩
      have hshows := (hold d hd).1
      have hshows' := (hold d' hd').1
      rw [hc, hsame] at hshows
      rw [hc'] at hshows'
      exact hinj c (old d') d d' hshows hshows'
    rw [← Finset.card_image_of_injOn hinjOn]
    apply h pre post hsplit c
    intro i hi
    rcases Finset.mem_image.mp hi with ⟨d, hd, rfl⟩
    rcases Finset.mem_filter.mp hd with ⟨hmem, rfl⟩
    exact (hold d hmem).2
  calc things.card
      = ∑ c ∈ things.image cls, (things.filter fun d => cls d = c).card :=
        Finset.card_eq_sum_card_image cls things
    _ ≤ ∑ c ∈ things.image cls, count (fun call => grants call c) pre :=
        Finset.sum_le_sum hclass
    _ ≤ count (fun call => ∃ c ∈ things.image cls, grants call c) pre := sum_count_le hone _ _
    _ ≤ count kind pre := by
        apply count_mono
        intro call hcall hgrant
        rcases hgrant with ⟨c, hc, hgrant⟩
        rcases Finset.mem_image.mp hc with ⟨d, hd, rfl⟩
        exact hkind call hcall (cls d) (old d) d (hold d hd).1 hgrant

end Runs

end PeerBadge
