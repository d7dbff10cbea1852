import PeerBadge.Agreement
import PeerBadge.Runs

/-! # Secret keys

Issuer and holder keys can be exported and imported again, so that an application can be
stopped and started. An import computes the issuance public key from the secret key.

`Application` is an application that works, keeps backups, and is restarted from a
backup now and then. Its `Activity` list is arbitrary.
-/

namespace PeerBadge

variable {S : Suite}

/-- The forms the libraries give to secret keys. -/
structure SecretKeyForms (S : Suite) where
  /-- `nostr::Keys::parse`: hexadecimal and bech32. -/
  parse : String → Except S.NostrError S.Keys
  toSecretHex : S.Keys → String
  toDer : S.PbrsaSecretKey → Except S.PbrsaError Bytes
  fromDer : Bytes → Except S.PbrsaError S.PbrsaSecretKey

/-- The written forms are read as what they were written from. -/
structure SecretKeyForms.RoundTrips (forms : SecretKeyForms S) : Prop where
  parse : ∀ keys, forms.parse (forms.toSecretHex keys) = .ok keys
  fromDer : ∀ key der, forms.toDer key = .ok der → forms.fromDer der = .ok key

variable (B : Bindgen S) (forms : SecretKeyForms S)

namespace IssuerContext

def exportSecretKey (context : IssuerContext S) : Except (CredentialsError S) IssuerSecretKeys := do
  let issuanceSecretKey ← (forms.toDer context.keyPair.sk).mapError .blindRsa
  .ok
    { issuerIdSecretKey := forms.toSecretHex context.identityKeys
      issuanceSecretKey := issuanceSecretKey }

def importSecretKey (secretKey : IssuerSecretKeys) :
    Except (CredentialsError S) (IssuerContext S) := do
  let identityKeys ← (forms.parse secretKey.issuerIdSecretKey).mapError .nostrKey
  let sk ← (forms.fromDer secretKey.issuanceSecretKey).mapError .blindRsa
  match h : S.secretPublicKey sk with
  | .error e => .error (.blindRsa e)
  | .ok pk => .ok ⟨identityKeys, ⟨pk, sk, h⟩⟩

end IssuerContext

namespace HolderContext

def importSecretKey (secretKey : String) : Except (CredentialsError S) (HolderContext S) := do
  let identityKeys ← (forms.parse secretKey).mapError .nostrKey
  .ok ⟨identityKeys⟩

def exportSecretKey (context : HolderContext S) : String := forms.toSecretHex context.identityKeys

end HolderContext

namespace Wasm

def exportSecretKey (context : IssuerContext S) : Except (JsError S) JsValue := do
  let secretKey ← (context.exportSecretKey forms).mapError .protocol
  toJs B secretKey.toValue

def importSecretKey (secretKey : JsValue) : Except (JsError S) (IssuerContext S) := do
  let secretKey ← fromJs B.issuerSecretKeys secretKey
  (IssuerContext.importSecretKey forms secretKey).mapError .protocol

end Wasm

/-! ## An application -/

/-- Issuer keys in storage: the text of the export, or the JavaScript value. -/
inductive Backup where
  | text (stored : String)
  | js (value : JsValue)

/-- What runs, if it could be started, and what is stored. -/
structure Application (S : Suite) where
  issuer : Option (IssuerContext S)
  holder : Option (HolderContext S)
  issuerBackups : List Backup
  holderBackups : List String

inductive Activity (S : Suite) where
  | issuerAuthority (revocation : List RevocationLocation) (rng : S.NostrRng)
  | issueCredential (info : Value) (request : IssuanceRequest) (rng : S.PbrsaRng)
  | revokeCredential (credential : SignedCredential) (rng : S.NostrRng)
  | authorizeCredentialUse (request : HolderAuthorizationRequest) (credential : SignedCredential)
      (issuedAt : Timestamp) (rng : S.NostrRng)
  | backupIssuer (inJs : Bool)
  | restartIssuer (backup : Nat)
  | backupHolder
  | restartHolder (backup : Nat)

/-- Something others get to see. -/
def Activity.isWork : Activity S → Bool
  | .issuerAuthority .. | .issueCredential .. | .revokeCredential .. |
    .authorizeCredentialUse .. => true
  | _ => false

inductive Answer (S : Suite) where
  | none
  | authority (result : Except (Failure (CredentialsError S)) (IssuerAuthority S))
  | response (result : Except (CredentialsError S) IssuanceResponse)
  | revocation (result : Except (CredentialsError S) SignedRevocation)
  | authorization (result : Except (CredentialsError S) HolderAuthorization)

namespace Backup

/-- What is stored of an issuer, if it can be exported. -/
def make (context : IssuerContext S) : Bool → Option Backup
  | false =>
      match context.exportSecretKey forms with
      | .error _ => none
      | .ok secretKey =>
          match S.toString secretKey.toValue.tree with
          | .error _ => none
          | .ok stored => some (.text stored)
  | true =>
      match Wasm.exportSecretKey B forms context with
      | .error _ => none
      | .ok value => some (.js value)

/-- The issuer that starts from a backup. -/
def start : Backup → Option (IssuerContext S)
  | .text stored =>
      match S.fromStr stored with
      | .error _ => none
      | .ok doc =>
          match IssuerSecretKeys.ofDocument doc with
          | .error _ => none
          | .ok secretKey => (IssuerContext.importSecretKey forms secretKey).toOption
  | .js value => (Wasm.importSecretKey B forms value).toOption

end Backup

namespace Application

def started (issuer : IssuerContext S) (holder : HolderContext S) : Application S :=
  ⟨some issuer, some holder, [], []⟩

def answer (application : Application S) : Activity S → Answer S
  | .issuerAuthority revocation rng =>
      match application.issuer with
      | none => .none
      | some issuer => .authority (issuer.issuerAuthority revocation rng)
  | .issueCredential info request rng =>
      match application.issuer with
      | none => .none
      | some issuer => .response (issuer.issueCredential info request rng)
  | .revokeCredential credential rng =>
      match application.issuer with
      | none => .none
      | some issuer => .revocation (issuer.revokeCredential credential rng)
  | .authorizeCredentialUse request credential issuedAt rng =>
      match application.holder with
      | none => .none
      | some holder =>
          .authorization (holder.authorizeCredentialUseAtTime request credential issuedAt rng)
  | _ => .none

/-- A restart needs a backup; the running context is gone then. -/
def step (application : Application S) : Activity S → Application S
  | .backupIssuer inJs =>
      match application.issuer.bind fun issuer => Backup.make B forms issuer inJs with
      | none => application
      | some backup => { application with issuerBackups := application.issuerBackups ++ [backup] }
  | .restartIssuer backup =>
      match application.issuerBackups[backup]? with
      | none => application
      | some backup => { application with issuer := backup.start B forms }
  | .backupHolder =>
      match application.holder with
      | none => application
      | some holder =>
          { application with
            holderBackups := application.holderBackups ++ [holder.exportSecretKey forms] }
  | .restartHolder backup =>
      match application.holderBackups[backup]? with
      | none => application
      | some secretKey =>
          { application with
            holder := (HolderContext.importSecretKey forms secretKey).toOption }
  | _ => application

end Application

/-! ## Restarts -/

section RoundTrip

variable {B} {forms} {fromDer : Bytes → Except S.PbrsaError S.PbrsaPublicKey}

/-- The public key of the restored issuer is the one it had: a key pair fits together. -/
theorem IssuerContext.importSecretKey_of_export (h : forms.RoundTrips) {context : IssuerContext S}
    {secretKey : IssuerSecretKeys} (hexport : context.exportSecretKey forms = .ok secretKey) :
    importSecretKey forms secretKey = .ok context := by
  rcases Outcome.bind_eq_ok.mp hexport with ⟨der, hder, hsecret⟩
  have hder' := h.fromDer _ _ (Outcome.mapError_eq_ok.mp hder)
  cases hsecret
  simp only [importSecretKey, h.parse, hder', Outcome.mapError_ok, Outcome.ok_bind]
  split
  · next e herror =>
      rw [context.keyPair.fits] at herror
      cases herror
  · next pk hpk =>
      rcases context with ⟨identityKeys, ⟨key, sk, fits⟩⟩
      cases Except.ok.inj (fits.symm.trans hpk)
      rfl

theorem HolderContext.importSecretKey_export (h : forms.RoundTrips) (context : HolderContext S) :
    importSecretKey forms (context.exportSecretKey forms) = .ok context := by
  simp only [importSecretKey, exportSecretKey, h.parse, Outcome.mapError_ok, Outcome.ok_bind]

theorem IssuerSecretKeys.isJs_toValue (secretKey : IssuerSecretKeys) : secretKey.toValue.IsJs := by
  simp [Value.IsJs, IssuerSecretKeys.toValue]

theorem IssuerSecretKeys.plain_toValue (secretKey : IssuerSecretKeys) : secretKey.toValue.Plain :=
  Value.plain_object (by simp)

/-- An export is one object of strings. -/
theorem IssuerSecretKeys.depth_toValue (secretKey : IssuerSecretKeys) :
    secretKey.toValue.tree.depth = 1 := by
  simp only [toValue, Value.object, List.map, Json.ofMembers, List.foldl, Json.insertMember,
    String.reduceLT, String.reduceEq, if_true, if_false, Json.depth_obj, base64UrlUnpadded,
    Value.string, Json.depth_str, List.foldr, Nat.max_self]

/-- A backup, as text or in JavaScript, starts the issuer it was made of. -/
theorem Backup.start_of_make (hB : B.Documented fromDer) (h : forms.RoundTrips) {limit : Nat}
    (hjson : S.JsonRoundTrip limit) (hlimit : 0 < limit) {context : IssuerContext S} {inJs : Bool}
    {backup : Backup} (hmake : Backup.make B forms context inJs = some backup) :
    backup.start B forms = some context := by
  cases hexport : context.exportSecretKey forms with
  | error e => cases inJs <;> simp [make, Wasm.exportSecretKey, hexport] at hmake
  | ok secretKey =>
      have himport := IssuerContext.importSecretKey_of_export h hexport
      cases inJs with
      | false =>
          rcases hjson secretKey.toValue.tree with ⟨stored, hprint, hread, -⟩
          have hdoc := hread (by rw [secretKey.depth_toValue]; omega)
          simp only [make, hexport, hprint, Option.some.injEq] at hmake
          subst hmake
          simp only [start, hdoc, secretKey.ofDocument_toValue, himport]
          rfl
      | true =>
          have hform := secretKey.isJs_toValue
          have hread : (Wasm.fromJs B.issuerSecretKeys secretKey.toValue.parsed :
              Except (JsError S) IssuerSecretKeys) = .ok secretKey :=
            Wasm.fromJs_of_isJs hB.issuerSecretKeys rfl hform secretKey.ofDocument_toValue
          simp only [make, Wasm.exportSecretKey, hexport, Outcome.mapError_ok, Outcome.ok_bind,
            Wasm.toJs_of_isJs hB secretKey.plain_toValue hform, Option.some.injEq] at hmake
          subst hmake
          simp only [start, Wasm.importSecretKey, hread, Outcome.ok_bind, himport,
            Outcome.mapError_ok]
          rfl

namespace Application

/-- These two run, or will again after a restart from any backup. -/
structure Keeps (B : Bindgen S) (forms : SecretKeyForms S) (issuer : IssuerContext S)
    (holder : HolderContext S) (application : Application S) : Prop where
  issuing : application.issuer = some issuer
  holding : application.holder = some holder
  issuerStored : ∀ backup ∈ application.issuerBackups, backup.start B forms = some issuer
  holderStored : ∀ secretKey ∈ application.holderBackups,
    HolderContext.importSecretKey forms secretKey = .ok holder

variable {issuer : IssuerContext S} {holder : HolderContext S}

/-- Whatever an application does, a restart included, it keeps the two. -/
theorem Keeps.step (hB : B.Documented fromDer) (h : forms.RoundTrips) {limit : Nat}
    (hjson : S.JsonRoundTrip limit) (hlimit : 0 < limit) {application : Application S}
    (hkeeps : Keeps B forms issuer holder application) (activity : Activity S) :
    Keeps B forms issuer holder (application.step B forms activity) := by
  cases activity with
  | backupIssuer inJs =>
      cases hmake : Backup.make B forms issuer inJs with
      | none => simpa only [Application.step, hkeeps.issuing, Option.bind_some, hmake] using hkeeps
      | some backup =>
          simp only [Application.step, hkeeps.issuing, Option.bind_some, hmake]
          refine ⟨rfl, hkeeps.holding, ?_, hkeeps.holderStored⟩
          intro other hother
          rcases List.mem_append.mp hother with hold | hnew
          · exact hkeeps.issuerStored other hold
          · rw [List.mem_singleton.mp hnew]
            exact Backup.start_of_make hB h hjson hlimit hmake
  | restartIssuer backup =>
      cases hbackup : application.issuerBackups[backup]? with
      | none => simpa only [Application.step, hbackup] using hkeeps
      | some stored =>
          simp only [Application.step, hbackup]
          exact ⟨hkeeps.issuerStored stored (List.mem_of_getElem? hbackup), hkeeps.holding,
            hkeeps.issuerStored, hkeeps.holderStored⟩
  | backupHolder =>
      simp only [Application.step, hkeeps.holding]
      refine ⟨hkeeps.issuing, rfl, hkeeps.issuerStored, ?_⟩
      intro other hother
      rcases List.mem_append.mp hother with hold | hnew
      · exact hkeeps.holderStored other hold
      · rw [List.mem_singleton.mp hnew]
        exact HolderContext.importSecretKey_export h holder
  | restartHolder backup =>
      cases hbackup : application.holderBackups[backup]? with
      | none => simpa only [Application.step, hbackup] using hkeeps
      | some stored =>
          have himport := hkeeps.holderStored stored (List.mem_of_getElem? hbackup)
          simp only [Application.step, hbackup]
          exact ⟨hkeeps.issuing, by rw [himport]; rfl, hkeeps.issuerStored, hkeeps.holderStored⟩
  | _ => exact hkeeps

/-- An application that keeps its keys answers as it did at the start. -/
theorem Keeps.answer {application : Application S}
    (hkeeps : Keeps B forms issuer holder application) (activity : Activity S) :
    application.answer activity = (started issuer holder).answer activity := by
  cases activity <;> simp only [Application.answer, started, hkeeps.issuing, hkeeps.holding]

/-- Restarts in between, from any backups, native or in JavaScript, are not seen: every
authority, response, revocation and authorization is what it would have been. -/
theorem restarts_unseen (hB : B.Documented fromDer) (h : forms.RoundTrips) {limit : Nat}
    (hjson : S.JsonRoundTrip limit) (hlimit : 0 < limit) (issuer : IssuerContext S)
    (holder : HolderContext S) (activities : List (Activity S)) :
    Runs.observed (step B forms) answer Activity.isWork (started issuer holder) activities
        = Runs.observed (step B forms) answer Activity.isWork (started issuer holder)
          (activities.filter Activity.isWork) ∧
      (Runs.run (step B forms) (started issuer holder) activities).issuer = some issuer ∧
      (Runs.run (step B forms) (started issuer holder) activities).holder = some holder := by
  have hstart : Keeps B forms issuer holder (started issuer holder) :=
    ⟨rfl, rfl, fun _ hmem => absurd hmem List.not_mem_nil,
      fun _ hmem => absurd hmem List.not_mem_nil⟩
  have hnext : ∀ application activity, Keeps B forms issuer holder application →
      Keeps B forms issuer holder (application.step B forms activity) :=
    fun _ activity hkeeps => hkeeps.step hB h hjson hlimit activity
  have hrun := Runs.invariant hnext hstart activities
  have hsame : ∀ s t activity, Activity.isWork activity →
      Keeps B forms issuer holder s ∧ Keeps B forms issuer holder t →
      answer s activity = answer t activity :=
    fun _ _ activity _ hboth => (hboth.1.answer activity).trans (hboth.2.answer activity).symm
  have hpurge := Runs.purge
    (R := fun s t => Keeps B forms issuer holder s ∧ Keeps B forms issuer holder t) hsame
    (fun _ _ activity _ hboth => ⟨hnext _ activity hboth.1, hnext _ activity hboth.2⟩)
    (fun _ _ activity _ hboth => ⟨hnext _ activity hboth.1, hboth.2⟩) ⟨hstart, hstart⟩ activities
  exact ⟨hpurge.1, hrun.issuing, hrun.holding⟩

end Application

end RoundTrip

/-- Hexadecimal identity keys, and the root of an issuance key as its DER form. -/
def Reference.secretKeyForms : SecretKeyForms Reference.suite where
  parse := Reference.parsePublicKey
  toSecretHex := nostrHex
  toDer key := Reference.suite.toDer key
  fromDer der := .ok ⟨der, none⟩

theorem Reference.secretKeyForms_roundTrips : Reference.secretKeyForms.RoundTrips where
  parse := Reference.parsePublicKey_nostrHex
  fromDer := by
    rintro ⟨root, _ | metadata⟩ der hder
    · cases Except.ok.inj hder
      rfl
    · cases hder

/-- The issuer is restarted from a text and from a JavaScript value, and makes the same
authority. -/
theorem Application.restarts_unseen_reference :
    ∃ authority, Reference.issuer.issuerAuthority [] () = .ok authority ∧
      Runs.observed (step Reference.bindgen Reference.secretKeyForms) answer Activity.isWork
          (started Reference.issuer Reference.holder)
          [.issuerAuthority [] (), .backupIssuer false, .restartIssuer 0, .backupIssuer true,
            .restartIssuer 1, .issuerAuthority [] ()]
        = [(.issuerAuthority [] (), .authority (.ok authority)),
            (.issuerAuthority [] (), .authority (.ok authority))] := by
  rcases Reference.exists_authority [] with ⟨authority, hauthority⟩
  have hunseen := (restarts_unseen Reference.bindgen_documented Reference.secretKeyForms_roundTrips
    Reference.jsonRoundTrip (by decide) Reference.issuer Reference.holder
    [.issuerAuthority [] (), .backupIssuer false, .restartIssuer 0, .backupIssuer true,
      .restartIssuer 1, .issuerAuthority [] ()]).1
  refine ⟨authority, hauthority, hunseen.trans ?_⟩
  simp only [List.filter, Activity.isWork, Runs.observed, if_true, answer, started, step,
    hauthority]

end PeerBadge
