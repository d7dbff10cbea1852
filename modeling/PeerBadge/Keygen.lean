import PeerBadge.Clients
import PeerBadge.Reference

/-! # Issuer key generation

RSA key generation draws random numbers until it has found its primes, which has no
bound. The issuer hands it a source of randomness that counts the draws and reports the
progress in the trace, before, during and after.

`keygen` is the key generation of the library, a client of the randomness. A run is cut
off after `fuel` draws and then has no result yet.
-/

namespace PeerBadge

variable {S : Suite} {ρ ε α : Type}

def issuerModulusBits : Nat := 2048

def keygenProgressRandomDraws : UInt64 := 100000

/-- What a source of randomness is asked for. -/
inductive Draw where
  | nextU32
  | nextU64
  | fillBytes (length : Nat)

def Draw.Value : Draw → Type
  | .nextU32 => UInt32
  | .nextU64 => UInt64
  | .fillBytes length => Vector UInt8 length

/-- A source of randomness that may fail. -/
structure TryRng (ρ ε : Type) where
  tryNextU32 : ρ → Except ε UInt32 × ρ
  tryNextU64 : ρ → Except ε UInt64 × ρ
  tryFillBytes : (length : Nat) → ρ → Except ε (Vector UInt8 length) × ρ

def TryRng.source (rng : TryRng ρ ε) : Source Draw Draw.Value ε ρ := fun state draw =>
  match draw with
  | .nextU32 => rng.tryNextU32 state
  | .nextU64 => rng.tryNextU64 state
  | .fillBytes length => rng.tryFillBytes length state

inductive TraceLevel where
  | info
  | warn

/-- An event of the trace. -/
structure TraceEvent (S : Suite) where
  level : TraceLevel
  message : String
  rngStrategy : String
  randomDraws : Option UInt64
  error : Option (CredentialsError S)

abbrev Trace (S : Suite) := List (TraceEvent S)

namespace TraceEvent

def started (rngStrategy : String) : TraceEvent S :=
  ⟨.info, "issuer RSA keygen started", rngStrategy, none, none⟩

def stillRunning (rngStrategy : String) (randomDraws : UInt64) : TraceEvent S :=
  ⟨.info, "issuer RSA keygen still running", rngStrategy, some randomDraws, none⟩

def finished (rngStrategy : String) (randomDraws : UInt64) : TraceEvent S :=
  ⟨.info, "issuer RSA keygen finished", rngStrategy, some randomDraws, none⟩

def failed (rngStrategy : String) (randomDraws : UInt64) (error : CredentialsError S) :
    TraceEvent S :=
  ⟨.warn, "issuer RSA keygen failed", rngStrategy, some randomDraws, some error⟩

end TraceEvent

/-- The source of randomness that reports progress. -/
structure KeygenProgressRng (ρ : Type) where
  inner : ρ
  rngStrategy : String
  randomDraws : UInt64
  nextProgressLogAt : UInt64

namespace KeygenProgressRng

def new (inner : ρ) (rngStrategy : String) (trace : Trace S) : KeygenProgressRng ρ × Trace S :=
  (⟨inner, rngStrategy, 0, keygenProgressRandomDraws⟩, trace ++ [.started rngStrategy])

def recordRandomDraw (state : KeygenProgressRng ρ × Trace S) : KeygenProgressRng ρ × Trace S :=
  let rng := { state.1 with randomDraws := state.1.randomDraws + 1 }
  if rng.nextProgressLogAt ≤ rng.randomDraws then
    ({ rng with nextProgressLogAt := rng.nextProgressLogAt + keygenProgressRandomDraws },
      state.2 ++ [.stillRunning rng.rngStrategy rng.randomDraws])
  else (rng, state.2)

/-- A draw from inside; one that fails is not recorded. -/
def counted (draw : ρ → Except ε α × ρ) (state : KeygenProgressRng ρ × Trace S) :
    Except ε α × KeygenProgressRng ρ × Trace S :=
  match draw state.1.inner with
  | (.error e, inner) => (.error e, { state.1 with inner := inner }, state.2)
  | (.ok value, inner) =>
      (.ok value, recordRandomDraw ({ state.1 with inner := inner }, state.2))

def tryNextU32 (rng : TryRng ρ ε) :
    KeygenProgressRng ρ × Trace S → Except ε UInt32 × KeygenProgressRng ρ × Trace S :=
  counted rng.tryNextU32

def tryNextU64 (rng : TryRng ρ ε) :
    KeygenProgressRng ρ × Trace S → Except ε UInt64 × KeygenProgressRng ρ × Trace S :=
  counted rng.tryNextU64

def tryFillBytes (rng : TryRng ρ ε) (length : Nat) :
    KeygenProgressRng ρ × Trace S →
      Except ε (Vector UInt8 length) × KeygenProgressRng ρ × Trace S :=
  counted (rng.tryFillBytes length)

def tryRng (S : Suite) (rng : TryRng ρ ε) : TryRng (KeygenProgressRng ρ × Trace S) ε :=
  ⟨tryNextU32 rng, tryNextU64 rng, tryFillBytes rng⟩

end KeygenProgressRng

namespace IssuerContext

/-- Key generation of the library for a modulus of so many bits. -/
abbrev Keygen (S : Suite) : Type 1 :=
  Nat → Client Draw Draw.Value Empty (Except S.PbrsaError (PbrsaKeyPair S))

variable (keygen : Keygen S) (rng : TryRng ρ Empty)

def generateWithRng (identityKeys : S.Keys) (fuel : Nat) (state : ρ) :
    Option (Except (CredentialsError S) (IssuerContext S)) × ρ :=
  let (keyPair, state) := (keygen issuerModulusBits).run rng.source fuel state
  (keyPair.map fun keyPair => (keyPair.mapError .blindRsa).map fun keyPair =>
    ⟨identityKeys, keyPair⟩, state)

/-- The line that closes the trace, once there is a result. -/
def closing (rngStrategy : String) (randomDraws : UInt64) :
    Option (Except (CredentialsError S) (IssuerContext S)) → Trace S
  | none => []
  | some (.ok _) => [.finished rngStrategy randomDraws]
  | some (.error error) => [.failed rngStrategy randomDraws error]

def generateWithRngSource (rngStrategy : String) (identityKeys : S.Keys) (fuel : Nat)
    (state : ρ) : Option (Except (CredentialsError S) (IssuerContext S)) × ρ × Trace S :=
  let start : KeygenProgressRng ρ × Trace S := KeygenProgressRng.new state rngStrategy []
  let (generated, rng, trace) :=
    generateWithRng keygen (KeygenProgressRng.tryRng S rng) identityKeys fuel start
  (generated, rng.inner, trace ++ closing rngStrategy rng.randomDraws generated)

def generateWithThreadRng (identityKeys : S.Keys) (fuel : Nat) (state : ρ) :
    Option (Except (CredentialsError S) (IssuerContext S)) × ρ × Trace S :=
  generateWithRngSource keygen rng "thread_rng" identityKeys fuel state

def generateWithSystemRng (identityKeys : S.Keys) (fuel : Nat) (state : ρ) :
    Option (Except (CredentialsError S) (IssuerContext S)) × ρ × Trace S :=
  generateWithRngSource keygen rng "system_rng" identityKeys fuel state

end IssuerContext

/-! ## Counting -/

namespace KeygenProgressRng

/-- What the wrapper notes of a draw, whatever is inside. -/
def note (state : KeygenProgressRng Unit × Trace S) (entry : (draw : Draw) × Except ε draw.Value) :
    KeygenProgressRng Unit × Trace S :=
  if entry.2.isOk then recordRandomDraw state else state

/-- Put a source inside. -/
def around (state : KeygenProgressRng Unit × Trace S) (inner : ρ) :
    KeygenProgressRng ρ × Trace S :=
  ({ state.1 with inner := inner }, state.2)

theorem recordRandomDraw_around (state : KeygenProgressRng Unit × Trace S) (inner : ρ) :
    recordRandomDraw (around state inner) = around (recordRandomDraw state) inner := by
  by_cases h : state.1.nextProgressLogAt ≤ state.1.randomDraws + 1
  · simp only [recordRandomDraw, around, h, if_true]
  · simp only [recordRandomDraw, around, h, if_false]

/-- A draw through the wrapper is a draw from inside and a note. -/
theorem tryRng_source (rng : TryRng ρ ε) (state : KeygenProgressRng Unit × Trace S) (inner : ρ)
    (draw : Draw) :
    (tryRng S rng).source (around state inner) draw =
      ((rng.source inner draw).1,
        around (note state ⟨draw, (rng.source inner draw).1⟩) (rng.source inner draw).2) := by
  have hcounted : (tryRng S rng).source (around state inner) draw
      = counted (fun inner => rng.source inner draw) (around state inner) := by
    cases draw with
    | nextU32 => rfl
    | nextU64 => rfl
    | fillBytes length => rfl
  rw [hcounted]
  unfold counted
  rcases hdraw : rng.source inner draw with ⟨_ | value, after⟩
  · simp only [around, hdraw]
    rfl
  · have hrecord := recordRandomDraw_around state after
    simp only [around, hdraw] at hrecord ⊢
    exact congrArg (Prod.mk (Except.ok value)) hrecord

/-- Every client draws the same from the wrapper as from inside, and each answered draw
is recorded. -/
theorem draw_tryRng {client : Client Draw Draw.Value ε α} (rng : TryRng ρ ε)
    (state : KeygenProgressRng Unit × Trace S) (fuel : Nat) (inner : ρ) :
    client.run (tryRng S rng).source fuel (around state inner) =
      ((client.run rng.source fuel inner).1,
        around (recordRandomDraw^[client.answered rng.source fuel inner] state)
          (client.run rng.source fuel inner).2) := by
  have hsame : ∀ s t draw, s = around t.2 t.1 →
      ((tryRng S rng).source s draw).1 = (Client.observe note rng.source t draw).1 := by
    intro s t draw h
    rw [h, tryRng_source]
    rfl
  have hkept : ∀ s t draw, s = around t.2 t.1 →
      ((tryRng S rng).source s draw).2 = around (Client.observe note rng.source t draw).2.2
        (Client.observe note rng.source t draw).2.1 := by
    intro s t draw h
    rw [h, tryRng_source]
    rfl
  have hstart : around state inner = around (inner, state).2 (inner, state).1 := rfl
  have hsim := Client.draw_sim
    (R := fun s (t : ρ × KeygenProgressRng Unit × Trace S) => s = around t.2 t.1) hsame hkept
    hstart fuel client.start
  rw [Client.draw_observe] at hsim
  have hnotes : (client.transcript rng.source fuel client.start inner).foldl note state
      = recordRandomDraw^[client.answered rng.source fuel inner] state := by
    unfold Client.answered note
    rw [← List.foldl_filter, List.foldl_const, List.countP_eq_length_filter]
  rw [hnotes] at hsim
  exact Prod.ext hsim.1 hsim.2

/-- The reports on so many draws. -/
def progress (S : Suite) (rngStrategy : String) (draws : Nat) : Trace S :=
  (List.range (draws / 100000)).map fun i =>
    .stillRunning rngStrategy (UInt64.ofNat ((i + 1) * 100000))

/-- The wrapper and the trace after so many recorded draws. -/
def after (rngStrategy : String) (trace : Trace S) (draws : Nat) :
    KeygenProgressRng Unit × Trace S :=
  (⟨(), rngStrategy, UInt64.ofNat draws, UInt64.ofNat ((draws / 100000 + 1) * 100000)⟩,
    trace ++ progress S rngStrategy draws)

theorem recordRandomDraw_due {state : KeygenProgressRng Unit × Trace S}
    (h : state.1.nextProgressLogAt ≤ state.1.randomDraws + 1) :
    recordRandomDraw state =
      (⟨(), state.1.rngStrategy, state.1.randomDraws + 1,
          state.1.nextProgressLogAt + keygenProgressRandomDraws⟩,
        state.2 ++ [.stillRunning state.1.rngStrategy (state.1.randomDraws + 1)]) :=
  if_pos h

theorem recordRandomDraw_not_due {state : KeygenProgressRng Unit × Trace S}
    (h : ¬state.1.nextProgressLogAt ≤ state.1.randomDraws + 1) :
    recordRandomDraw state =
      (⟨(), state.1.rngStrategy, state.1.randomDraws + 1, state.1.nextProgressLogAt⟩, state.2) :=
  if_neg h

theorem recordRandomDraw_after (rngStrategy : String) (trace : Trace S) {draws : Nat}
    (h : draws + 100000 < 2 ^ 64) :
    recordRandomDraw (after rngStrategy trace draws) = after rngStrategy trace (draws + 1) := by
  have hdraws : UInt64.ofNat draws + 1 = UInt64.ofNat (draws + 1) :=
    (UInt64.ofNat_add draws 1).symm
  have hle : UInt64.ofNat ((draws / 100000 + 1) * 100000) ≤ UInt64.ofNat draws + 1 ↔
      (draws / 100000 + 1) * 100000 ≤ draws + 1 := by
    rw [hdraws, UInt64.le_iff_toNat_le, UInt64.toNat_ofNat', UInt64.toNat_ofNat',
      Nat.mod_eq_of_lt (by omega), Nat.mod_eq_of_lt (by omega)]
  by_cases hdue : (draws / 100000 + 1) * 100000 ≤ draws + 1
  · -- the draw that completes another hundred thousand
    have hnext : (draws + 1) / 100000 = draws / 100000 + 1 := by omega
    have hthis : draws + 1 = (draws / 100000 + 1) * 100000 := by omega
    have hlater : UInt64.ofNat ((draws / 100000 + 1) * 100000) + keygenProgressRandomDraws
        = UInt64.ofNat ((draws / 100000 + 1 + 1) * 100000) := by
      rw [Nat.succ_mul (draws / 100000 + 1), UInt64.ofNat_add]
      rfl
    have hline : progress S rngStrategy (draws + 1) = progress S rngStrategy draws
        ++ [.stillRunning rngStrategy (UInt64.ofNat draws + 1)] := by
      rw [progress, hnext, List.range_succ, List.map_append, hdraws, hthis]
      rfl
    rw [recordRandomDraw_due (hle.mpr hdue)]
    simp only [after, hline, hnext, List.append_assoc]
    rw [hlater, hdraws]
  · have hnext : (draws + 1) / 100000 = draws / 100000 := by omega
    have hline : progress S rngStrategy (draws + 1) = progress S rngStrategy draws := by
      rw [progress, hnext, progress]
    rw [recordRandomDraw_not_due fun hrun => hdue (hle.mp hrun)]
    simp only [after, hline, hnext, hdraws]

theorem recordRandomDraw_iterate (rngStrategy : String) (trace : Trace S) {draws : Nat}
    (h : draws + 100000 < 2 ^ 64) :
    recordRandomDraw^[draws] (after rngStrategy trace 0) = after rngStrategy trace draws := by
  induction draws with
  | zero => rfl
  | succ draws ih =>
      rw [Function.iterate_succ_apply', ih (by omega)]
      exact recordRandomDraw_after rngStrategy trace (by omega)

end KeygenProgressRng

namespace IssuerContext

theorem generateWithRng_tryRng (keygen : Keygen S) (rng : TryRng ρ Empty) (identityKeys : S.Keys)
    (state : KeygenProgressRng Unit × Trace S) (fuel : Nat) (inner : ρ) :
    generateWithRng keygen (KeygenProgressRng.tryRng S rng) identityKeys fuel
        (KeygenProgressRng.around state inner) =
      ((generateWithRng keygen rng identityKeys fuel inner).1,
        KeygenProgressRng.around
          (KeygenProgressRng.recordRandomDraw^[(keygen issuerModulusBits).answered rng.source fuel
            inner] state)
          (generateWithRng keygen rng identityKeys fuel inner).2) := by
  simp only [generateWithRng, KeygenProgressRng.draw_tryRng]

/-- However far key generation has got, and if it never ends, the watched randomness
changes neither its result nor what is left of the randomness, and the trace says that it
started, one line for each hundred thousand draws made so far, and how it ended. -/
theorem generateWithRngSource_eq (keygen : Keygen S) (rng : TryRng ρ Empty)
    (rngStrategy : String) (identityKeys : S.Keys) (fuel : Nat) (state : ρ) :
    let generated := generateWithRng keygen rng identityKeys fuel state
    let watched := generateWithRngSource keygen rng rngStrategy identityKeys fuel state
    let draws := (keygen issuerModulusBits).answered rng.source fuel state
    watched.1 = generated.1 ∧ watched.2.1 = generated.2 ∧
      (draws + 100000 < 2 ^ 64 → watched.2.2 =
        [.started rngStrategy] ++ KeygenProgressRng.progress S rngStrategy draws
          ++ closing rngStrategy (UInt64.ofNat draws) generated.1) := by
  intro generated watched draws
  have hstart : KeygenProgressRng.new state rngStrategy ([] : Trace S)
      = KeygenProgressRng.around (KeygenProgressRng.after rngStrategy [.started rngStrategy] 0)
        state := rfl
  have hwatched := generateWithRng_tryRng keygen rng identityKeys
    (KeygenProgressRng.after rngStrategy [.started rngStrategy] 0) fuel state
  rw [← hstart] at hwatched
  refine ⟨?_, ?_, ?_⟩
  · simp only [watched, generateWithRngSource, hwatched, generated]
  · simp only [watched, generateWithRngSource, hwatched, generated, KeygenProgressRng.around]
  · intro hdraws
    have hcount := KeygenProgressRng.recordRandomDraw_iterate (S := S) rngStrategy
      [.started rngStrategy] hdraws
    simp only [watched, generateWithRngSource, hwatched, draws, generated] at hcount ⊢
    rw [hcount]
    rfl

end IssuerContext

namespace Reference

/-- Randomness that is only counted. -/
def zeros : TryRng Nat Empty where
  tryNextU32 drawn := (.ok 0, drawn + 1)
  tryNextU64 drawn := (.ok 0, drawn + 1)
  tryFillBytes length drawn := (.ok (Vector.replicate length 0), drawn + 1)

/-- Key generation that takes so many draws. -/
def keygen (draws : Nat) : IssuerContext.Keygen suite := fun _ =>
  { State := Nat
    start := draws
    next := fun
      | 0 => .inl (.ok keyPair)
      | left + 1 => .inr ⟨.nextU64, fun _ => left⟩ }

theorem keygen_draw (draws left drawn : Nat) :
    (keygen draws issuerModulusBits).draw zeros.source left left drawn
        = (some (.ok keyPair), drawn + left) ∧
      ((keygen draws issuerModulusBits).transcript zeros.source left left drawn).countP
        (fun entry => entry.2.isOk) = left := by
  induction left generalizing drawn with
  | zero => exact ⟨rfl, rfl⟩
  | succ left ih =>
      rcases ih (drawn + 1) with ⟨hdraw, hcount⟩
      refine ⟨?_, ?_⟩
      · rw [show drawn + (left + 1) = drawn + 1 + left by omega]
        exact hdraw
      · exact (List.countP_cons_of_pos rfl).trans (congrArg Nat.succ hcount)

theorem keygen_generated (draws : Nat) :
    IssuerContext.generateWithRng (keygen draws) zeros identityKeys draws 0
        = (some (.ok issuer), draws) ∧
      (keygen draws issuerModulusBits).answered zeros.source draws 0 = draws := by
  rcases keygen_draw draws draws 0 with ⟨hdraw, hcount⟩
  rw [Nat.zero_add] at hdraw
  have hrun : (keygen draws issuerModulusBits).run zeros.source draws 0
      = (some (.ok keyPair), draws) := hdraw
  refine ⟨?_, hcount⟩
  simp only [IssuerContext.generateWithRng, hrun]
  rfl

end Reference

/-- A key that takes a quarter of a million draws: two reports on the way. -/
theorem IssuerContext.generateWithRngSource_eq_reference :
    generateWithRngSource (Reference.keygen 250000) Reference.zeros "thread_rng"
        Reference.identityKeys 250000 0 =
      (some (.ok Reference.issuer), 250000,
        [.started "thread_rng", .stillRunning "thread_rng" 100000,
          .stillRunning "thread_rng" 200000, .finished "thread_rng" 250000]) := by
  rcases Reference.keygen_generated 250000 with ⟨hgenerated, hdraws⟩
  have hwatched := generateWithRngSource_eq (Reference.keygen 250000) Reference.zeros "thread_rng"
    Reference.identityKeys 250000 0
  rw [hgenerated, hdraws] at hwatched
  rcases hwatched with ⟨hresult, hrest, htrace⟩
  exact Prod.ext hresult (Prod.ext hrest (htrace (by decide)))

end PeerBadge
