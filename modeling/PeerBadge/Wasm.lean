import PeerBadge.Bindgen
import PeerBadge.TrustScore

/-! # The JavaScript binding

The exported functions of the WebAssembly module. Each reads its arguments from
JavaScript values, calls the protocol, and writes the result as a JavaScript value. The
clock is the one of JavaScript, milliseconds in a double; requests are made for, and
responses finalized under, the issuance key of an authority.
-/

namespace PeerBadge

variable {S : Suite}

/-- What the text of a `JsError` is about. -/
inductive JsError (S : Suite) where
  | fromJs (text : String)
  | toJs (text : String)
  | toDer (e : S.PbrsaError)
  | protocol (e : CredentialsError S)
  | schema (e : TrustScoreSchemaError)
  | message (text : String)

namespace Binary64

/-- The magnitude without its fraction. -/
def whole (x : Binary64) : Nat := units x.bits / 2 ^ unitExponent

/-- `fract` is zero. -/
def IsWhole (x : Binary64) : Prop := units x.bits % 2 ^ unitExponent = 0

instance : DecidablePred IsWhole := fun x =>
  inferInstanceAs (Decidable (units x.bits % 2 ^ unitExponent = 0))

end Binary64

namespace Wasm

/-- A natural number cast to `u64`, which saturates. -/
def saturate (n : Nat) : UInt64 := UInt64.ofNat (min n (2 ^ 64 - 1))

/-- `fromValue` is the reader of the type asked for. -/
def fromJs {α : Type} (fromValue : JsValue → Except String α) (value : JsValue) :
    Except (JsError S) α :=
  (fromValue value).mapError .fromJs

def toJs (B : Bindgen S) (value : Value) : Except (JsError S) JsValue :=
  (B.toValue value).mapError .toJs

/-- Whole seconds of the JavaScript clock. -/
def currentUnixTimestamp (dateNow : F64) : Except (JsError S) Timestamp :=
  match dateNow with
  | .finite x =>
      let bits := Binary64.roundMagnitude (x.magnitude / 1000)
      -- only a zero stays non-negative under a minus
      if x.negative ∧ bits ≠ 0 then .error (.message "current time must be non-negative")
      else .ok ⟨saturate (Binary64.units bits / 2 ^ Binary64.unitExponent)⟩
  | _ => .error (.message "current time must be non-negative")

variable (B : Bindgen S)

/-! ## Issuer -/

def issuerAuthority (context : IssuerContext S) (revocation : JsValue) (rng : S.NostrRng) :
    Except (Failure (JsError S)) JsValue := do
  let revocation ← (fromJs B.revocationLocations revocation).mapError .error
  let authority ← (context.issuerAuthority revocation rng).mapError (.map .protocol)
  let value ← authority.toValue.mapError fun e => .error (.toDer e)
  (toJs B value).mapError .error

def issueCredential (context : IssuerContext S) (info request : JsValue) (rng : S.PbrsaRng) :
    Except (JsError S) JsValue := do
  let info ← fromJs B.value info
  let request ← fromJs B.issuanceRequest request
  let response ← (context.issueCredential info request rng).mapError .protocol
  toJs B response.toValue

def revokeCredential (context : IssuerContext S) (credential : JsValue) (rng : S.NostrRng) :
    Except (JsError S) JsValue := do
  let credential ← fromJs B.signedCredential credential
  let revocation ← (context.revokeCredential credential rng).mapError .protocol
  toJs B revocation.toValue

/-! ## Holder -/

def authorizeCredentialUse (context : HolderContext S) (request credential : JsValue)
    (dateNow : F64) (rng : S.NostrRng) : Except (JsError S) JsValue := do
  let request ← fromJs B.holderAuthorizationRequest request
  let credential ← fromJs B.signedCredential credential
  let issuedAt ← currentUnixTimestamp dateNow
  let authorization ←
    (context.authorizeCredentialUseAtTime request credential issuedAt rng).mapError .protocol
  toJs B authorization.toValue

/-- The request, and the pending state, which stays on this side. -/
def createRequest (issuerAuthority info blindMsg : JsValue) (rng : S.PbrsaRng) :
    Except (JsError S) (JsValue × PendingIssuance) := do
  let issuerAuthority ← fromJs B.issuerAuthority issuerAuthority
  let info ← fromJs B.value info
  let blindMsg ← fromJs B.value blindMsg
  -- the signature of the authority is not checked here
  let (request, pending) ← (PendingIssuance.createRequest issuerAuthority.issuer.issuanceKey
    issuerAuthority.issuer.issuerIdPubkey info blindMsg rng).mapError .protocol
  let request ← toJs B request.toValue
  .ok (request, pending)

def finalize (pending : PendingIssuance) (issuerAuthority response : JsValue) :
    Except (JsError S) JsValue := do
  let issuerAuthority ← fromJs B.issuerAuthority issuerAuthority
  let response ← fromJs B.issuanceResponse response
  let credential ← (pending.finalizeWasm issuerAuthority response).mapError .protocol
  toJs B credential.toValue

/-! ## Verifier -/

def addIssuerAuthority (context : VerificationContext S) (issuerAuthority : JsValue) :
    Except (Failure (JsError S)) Unit × VerificationContext S :=
  match fromJs B.issuerAuthority issuerAuthority with
  | .error e => (.error (.error e), context)
  | .ok issuerAuthority =>
      let (result, context) := context.addIssuerAuthority issuerAuthority
      (result.mapError (.map .protocol), context)

def addRevocation (context : VerificationContext S) (revocation : JsValue) :
    Except (JsError S) Unit × VerificationContext S :=
  match fromJs B.signedRevocation revocation with
  | .error e => (.error e, context)
  | .ok revocation =>
      let (result, context) := context.addRevocation revocation
      (result.mapError .protocol, context)

def verifyCredential (context : VerificationContext S) (credential : JsValue) :
    Except (JsError S) Bool := do
  let credential ← fromJs B.signedCredential credential
  (context.verifyCredential credential).mapError .protocol
  .ok true

def verifyCredentialAuthorization (context : VerificationContext S)
    (credential authorization : JsValue) (dateNow : F64) : Except (JsError S) Bool := do
  let credential ← fromJs B.signedCredential credential
  let authorization ← fromJs B.holderAuthorization authorization
  let now ← currentUnixTimestamp dateNow
  (context.verifyCredentialAuthorizationAtTime credential authorization now).mapError .protocol
  .ok true

/-! ## Trust-score badges -/

/-- The info of a badge; the level comes as a double. -/
def trustScoreInfoV1 (trustLevel : F64) : Except (JsError S) JsValue :=
  match trustLevel with
  | .finite x =>
      if ¬x.IsWhole ∨ (x.negative ∧ x.bits ≠ 0) then
        .error (.message "trust_level must be a non-negative integer")
      else do
        let info ← (PeerBadge.trustScoreInfoV1 (saturate x.whole)).mapError .schema
        toJs B info
  | _ => .error (.message "trust_level must be a non-negative integer")

def trustScoreBlindMsgV1 (holderPubkey : String) : Except (JsError S) JsValue :=
  match S.parsePublicKey holderPubkey with
  | .error _ => .error (.message "holder_pubkey is not a valid Nostr public key")
  | .ok holder => toJs B (PeerBadge.trustScoreBlindMsgV1 holder)

def parseTrustScoreBadgeV1 (credential : JsValue) : Except (JsError S) JsValue := do
  let credential ← fromJs B.signedCredential credential
  let badge ← (PeerBadge.parseTrustScoreBadgeV1 S credential.credential).mapError .schema
  toJs B (.object
    [("trust_level", .number (.posInt badge.trustLevel)),
      ("holder_pubkey", .string (nostrHex badge.holderPubkey))])

end Wasm

end PeerBadge
