import Mathlib.Data.List.Basic
import Mathlib.Logic.Basic

/-! # Clients of a source

A client asks a source one question after another and may end with a result, or never.
A source answers from a state of its own, or fails, which the client gets to see.

Two sources that answer alike are the same to every client (`draw_sim`). An observer
between the two passes everything through and takes notes: no client notices it, and
its notes are those of the transcript (`draw_observe`).
-/

namespace PeerBadge

/-- A program that asks questions `Q`, answered by `A` or with an error. -/
structure Client (Q : Type) (A : Q → Type) (ε α : Type) where
  State : Type
  start : State
  next : State → α ⊕ (q : Q) × (Except ε (A q) → State)

/-- Answers out of a state. -/
abbrev Source (Q : Type) (A : Q → Type) (ε σ : Type) : Type :=
  σ → (q : Q) → Except ε (A q) × σ

namespace Client

variable {Q : Type} {A : Q → Type} {ε α σ τ β : Type}

/-- Ask at most `fuel` questions: the result, if there is one by then, and the state the
source is left in. -/
def draw (client : Client Q A ε α) (source : Source Q A ε σ) :
    Nat → client.State → σ → Option α × σ
  | 0, state, s =>
      match client.next state with
      | .inl a => (some a, s)
      | .inr _ => (none, s)
  | fuel + 1, state, s =>
      match client.next state with
      | .inl a => (some a, s)
      | .inr ⟨q, resume⟩ =>
          let (answer, s) := source s q
          client.draw source fuel (resume answer) s

def run (client : Client Q A ε α) (source : Source Q A ε σ) (fuel : Nat) (s : σ) :
    Option α × σ :=
  client.draw source fuel client.start s

/-- The questions asked and what was answered, in order. -/
def transcript (client : Client Q A ε α) (source : Source Q A ε σ) :
    Nat → client.State → σ → List ((q : Q) × Except ε (A q))
  | 0, _, _ => []
  | fuel + 1, state, s =>
      match client.next state with
      | .inl _ => []
      | .inr ⟨q, resume⟩ =>
          let (answer, s) := source s q
          ⟨q, answer⟩ :: client.transcript source fuel (resume answer) s

/-- How many questions of a run were answered. -/
def answered (client : Client Q A ε α) (source : Source Q A ε σ) (fuel : Nat) (s : σ) : Nat :=
  (client.transcript source fuel client.start s).countP fun entry => entry.2.isOk

/-- Pass everything through and take notes. -/
def observe (note : β → (q : Q) × Except ε (A q) → β) (source : Source Q A ε σ) :
    Source Q A ε (σ × β) := fun s q =>
  let (answer, t) := source s.1 q
  (answer, t, note s.2 ⟨q, answer⟩)

variable {client : Client Q A ε α}

/-- Sources that answer alike in related states, and stay related, are the same to every
client. -/
theorem draw_sim {source : Source Q A ε σ} {source' : Source Q A ε τ} {R : σ → τ → Prop}
    (same : ∀ s t q, R s t → (source s q).1 = (source' t q).1)
    (kept : ∀ s t q, R s t → R (source s q).2 (source' t q).2) {s : σ} {t : τ} (init : R s t)
    (fuel : Nat) (state : client.State) :
    (client.draw source fuel state s).1 = (client.draw source' fuel state t).1 ∧
      R (client.draw source fuel state s).2 (client.draw source' fuel state t).2 := by
  induction fuel generalizing state s t with
  | zero =>
      cases hnext : client.next state with
      | inl a => simpa only [draw, hnext, true_and] using init
      | inr question => simpa only [draw, hnext, true_and] using init
  | succ fuel ih =>
      cases hnext : client.next state with
      | inl a => simpa only [draw, hnext, true_and] using init
      | inr question =>
          rcases question with ⟨q, resume⟩
          simp only [draw, hnext, ← same s t q init]
          exact ih (kept s t q init) _

/-- No client notices an observer, and the observer has seen the transcript. -/
theorem draw_observe (note : β → (q : Q) × Except ε (A q) → β) (source : Source Q A ε σ)
    (fuel : Nat) (state : client.State) (s : σ) (b : β) :
    client.draw (observe note source) fuel state (s, b) =
      ((client.draw source fuel state s).1, (client.draw source fuel state s).2,
        (client.transcript source fuel state s).foldl note b) := by
  induction fuel generalizing state s b with
  | zero =>
      cases hnext : client.next state with
      | inl a => simp only [draw, transcript, hnext, List.foldl_nil]
      | inr question => simp only [draw, transcript, hnext, List.foldl_nil]
  | succ fuel ih =>
      cases hnext : client.next state with
      | inl a => simp only [draw, transcript, hnext, List.foldl_nil]
      | inr question =>
          rcases question with ⟨q, resume⟩
          simp only [draw, transcript, hnext, List.foldl_cons]
          exact ih _ _ _

end Client

end PeerBadge
