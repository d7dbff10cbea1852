import PeerBadge.Js
import PeerBadge.Reference
import PeerBadge.Wire

/-! # The JavaScript border

`serde_wasm_bindgen` reads JavaScript values for the binding and writes them. It is not
part of the repository: a `Bindgen` holds its reader at the types the binding reads, and
its writer, and `Bindgen.Documented` names what is relied on.

The reader goes by member names: an object that looks like the written form of something
is read as `serde` reads that form. The writer sets the members of an object one by one,
and a member `__proto__` cannot be set so. What becomes of a value with one is left open.
-/

namespace PeerBadge

namespace Value

/-- No object in the value has a member that cannot be set. -/
def Plain (v : Value) : Prop := "__proto__" ∉ v.tree.names

instance : DecidablePred Plain := fun v =>
  inferInstanceAs (Decidable ("__proto__" ∉ v.tree.names))

/-- The JavaScript value is read as this form, sent through JavaScript. -/
def Arrives (form : Value) (js : JsValue) : Prop :=
  JsValue.document js = form.throughDoubles.tree

theorem arrives_parsed (form : Value) : form.Arrives form.parsed := form.document_parsed

@[simp] theorem plain_string (s : String) : (string s).Plain := List.not_mem_nil

@[simp] theorem plain_number (n : Number) : (number n).Plain := List.not_mem_nil

@[simp] theorem plain_array {xs : List Value} : (array xs).Plain ↔ ∀ x ∈ xs, x.Plain := by
  simp [Plain, array]

/-- An object is plain when its members are. -/
theorem plain_object {ms : List (String × Value)}
    (h : ∀ m ∈ ms, m.1 ≠ "__proto__" ∧ m.2.Plain) : (object ms).Plain := by
  intro hname
  rw [object, Json.names_obj, List.mem_append, List.mem_flatten] at hname
  rcases hname with hkey | ⟨names, hnames, hname⟩
  · rcases List.mem_map.mp hkey with ⟨member, hmember, heq⟩
    rcases List.mem_map.mp (Json.mem_ofMembers hmember) with ⟨m, hm, rfl⟩
    exact (h m hm).1 heq
  · rcases List.mem_map.mp hnames with ⟨member, hmember, rfl⟩
    rcases List.mem_map.mp (Json.mem_ofMembers hmember) with ⟨m, hm, rfl⟩
    exact (h m hm).2 hname

@[simp] theorem plain_throughDoubles {v : Value} : v.throughDoubles.Plain ↔ v.Plain := by
  rw [Plain, throughDoubles, Json.names_mapNum, Plain]

end Value

/-- `serde_wasm_bindgen`: `from_value` for each type, and `Serializer::json_compatible`.
Of its errors the binding passes on the texts. -/
structure Bindgen (S : Suite) where
  value : JsValue → Except String Value
  revocationLocations : JsValue → Except String (List RevocationLocation)
  issuerSecretKeys : JsValue → Except String IssuerSecretKeys
  issuerAuthority : JsValue → Except String (IssuerAuthority S)
  issuanceRequest : JsValue → Except String IssuanceRequest
  issuanceResponse : JsValue → Except String IssuanceResponse
  signedCredential : JsValue → Except String SignedCredential
  signedRevocation : JsValue → Except String SignedRevocation
  holderAuthorizationRequest : JsValue → Except String HolderAuthorizationRequest
  holderAuthorization : JsValue → Except String HolderAuthorization
  toValue : Value → Except String JsValue

namespace Bindgen

variable {S : Suite}

/-! ## Documented behaviour -/

/-- What looks like a written form is read as `serde` reads it; any other value may be
read, or not. -/
def Reads {α ε : Type} (fromValue : JsValue → Except String α) (write : α → Except ε Value)
    (read : Json Number → Except DeError α) : Prop :=
  ∀ x form js, write x = .ok form → form.Arrives js →
    (fromValue js).toOption = (read form.throughDoubles.tree).toOption

/-- Any JSON value is read, written forms are read as what they are, and plain values
whose integers JavaScript has numbers for are written. -/
structure Documented (B : Bindgen S) (fromDer : Bytes → Except S.PbrsaError S.PbrsaPublicKey) :
    Prop where
  value : ∀ js, B.value js = .ok (.ofJs js)
  revocationLocations : Reads B.revocationLocations
    (Serde.infallible fun locations => .array (locations.map RevocationLocation.toValue))
    (Serde.list RevocationLocation.ofDocument)
  issuerSecretKeys : Reads B.issuerSecretKeys (Serde.infallible IssuerSecretKeys.toValue)
    IssuerSecretKeys.ofDocument
  issuerAuthority : Reads B.issuerAuthority IssuerAuthority.toValue
    (IssuerAuthority.ofDocument fromDer)
  issuanceRequest : Reads B.issuanceRequest (Serde.infallible IssuanceRequest.toValue)
    IssuanceRequest.ofDocument
  issuanceResponse : Reads B.issuanceResponse (Serde.infallible IssuanceResponse.toValue)
    (IssuanceResponse.ofDocument S)
  signedCredential : Reads B.signedCredential (Serde.infallible SignedCredential.toValue)
    (SignedCredential.ofDocument S)
  signedRevocation : Reads B.signedRevocation (Serde.infallible SignedRevocation.toValue)
    (SignedRevocation.ofDocument S)
  holderAuthorizationRequest : Reads B.holderAuthorizationRequest
    (Serde.infallible HolderAuthorizationRequest.toValue) (HolderAuthorizationRequest.ofDocument S)
  holderAuthorization : Reads B.holderAuthorization (Serde.infallible HolderAuthorization.toValue)
    (HolderAuthorization.ofDocument S)
  writes : ∀ v : Value, v.Plain → (∀ n ∈ v.tree.nums, n.Safe) → B.toValue v = .ok v.parsed

/-! ## Reading and writing -/

section Reads

variable {α ε : Type} {fromValue : JsValue → Except String α} {write : α → Except ε Value}
  {read : Json Number → Except DeError α} {x : α} {form : Value}

/-- What arrived is read as what the form reads as. -/
theorem Reads.eq_ok_of_arrives (h : Reads fromValue write read) (hwrite : write x = .ok form)
    {js : JsValue} (harrives : form.Arrives js) {y : α}
    (hread : read form.throughDoubles.tree = .ok y) : fromValue js = .ok y := by
  have hsame := h x form js hwrite harrives
  rw [hread] at hsame
  cases hjs : fromValue js with
  | error text => rw [hjs] at hsame; cases hsame
  | ok z => rw [hjs] at hsame; rw [Option.some.inj hsame]

/-- A form that arrives as it is, is read as what it was written from. -/
theorem Reads.eq_ok (h : Reads fromValue write read) (hwrite : write x = .ok form)
    (hform : form.IsJs) (hread : read form.tree = .ok x) : fromValue form.parsed = .ok x :=
  h.eq_ok_of_arrives hwrite form.arrives_parsed
    ((congrArg (fun v => read v.tree) hform).trans hread)

/-- What is refused as a document is refused. -/
theorem Reads.eq_error (h : Reads fromValue write read) (hwrite : write x = .ok form) {e : DeError}
    (hread : read form.throughDoubles.tree = .error e) :
    ∃ text, fromValue form.parsed = .error text := by
  have hsame := h x form form.parsed hwrite form.arrives_parsed
  rw [hread] at hsame
  cases hjs : fromValue form.parsed with
  | error text => exact ⟨text, rfl⟩
  | ok y => rw [hjs] at hsame; cases hsame

end Reads

variable {B : Bindgen S} {fromDer : Bytes → Except S.PbrsaError S.PbrsaPublicKey}

theorem Documented.toValue_of_isJs (h : B.Documented fromDer) {form : Value} (hplain : form.Plain)
    (hform : form.IsJs) : B.toValue form = .ok form.parsed :=
  h.writes form hplain fun _ => hform.safe

end Bindgen

namespace Reference

/-- Reads what `serde_json` reads, and writes plain values. -/
def bindgen : Bindgen suite where
  value js := .ok (.ofJs js)
  revocationLocations := fromValue (Serde.list RevocationLocation.ofDocument)
  issuerSecretKeys := fromValue IssuerSecretKeys.ofDocument
  issuerAuthority := fromValue (IssuerAuthority.ofDocument fromDer)
  issuanceRequest := fromValue IssuanceRequest.ofDocument
  issuanceResponse := fromValue (IssuanceResponse.ofDocument suite)
  signedCredential := fromValue (SignedCredential.ofDocument suite)
  signedRevocation := fromValue (SignedRevocation.ofDocument suite)
  holderAuthorizationRequest := fromValue (HolderAuthorizationRequest.ofDocument suite)
  holderAuthorization := fromValue (HolderAuthorization.ofDocument suite)
  toValue v :=
    if v.Plain ∧ ∀ n ∈ v.tree.nums, n.Safe then .ok v.parsed
    else .error "not a JavaScript value"
where
  fromValue {α : Type} (read : Json Number → Except DeError α) (js : JsValue) : Except String α :=
    (read (JsValue.document js)).mapError fun _ => "unexpected value"

theorem reads_fromValue {α ε : Type} (write : α → Except ε Value)
    (read : Json Number → Except DeError α) :
    Bindgen.Reads (bindgen.fromValue read) write read := by
  intro x form js _ harrives
  rw [bindgen.fromValue, harrives]
  cases read form.throughDoubles.tree <;> rfl

theorem bindgen_documented : bindgen.Documented fromDer where
  value _ := rfl
  revocationLocations := reads_fromValue _ _
  issuerSecretKeys := reads_fromValue _ _
  issuerAuthority := reads_fromValue _ _
  issuanceRequest := reads_fromValue _ _
  issuanceResponse := reads_fromValue _ _
  signedCredential := reads_fromValue _ _
  signedRevocation := reads_fromValue _ _
  holderAuthorizationRequest := reads_fromValue _ _
  holderAuthorization := reads_fromValue _ _
  writes _ hplain hsafe := if_pos ⟨hplain, hsafe⟩

end Reference

end PeerBadge
