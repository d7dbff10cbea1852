import PeerBadge.Encoding
import PeerBadge.Serde

/-! # Libraries

The crates the protocol is built on, as one parameter. `sha2`, `nostr` with
`secp256k1`, `blind_rsa_signatures`, `serde_json` and `serde_json_canonicalizer`
are not part of the repository: a `Suite` holds the functions the protocol calls,
and the section on documented behaviour names what is relied on where.

Randomness a call draws is an argument of the call.
-/

namespace PeerBadge

/-- `Output<Sha256>`. -/
abbrev Sha256Output := Vector UInt8 32

/-- `nostr::PublicKey`: 32 bytes, which need not be a point of the curve. -/
abbrev NostrPublicKey := Vector UInt8 32

/-- `secp256k1::schnorr::Signature`. -/
abbrev SchnorrSignature := Vector UInt8 64

/-- `blind_rsa_signatures::BlindingResult`. -/
structure BlindingResult where
  blindMessage : Bytes
  secret : Bytes
  msgRandomizer : Option (Vector UInt8 32)
deriving DecidableEq

/-- The functions the protocol takes from its libraries. -/
structure Suite where
  /-- SHA-256 of everything fed to the hasher. -/
  sha256 : Bytes → Sha256Output
  /-- `serde_json::Error`. -/
  JsonError : Type
  /-- Its `Display` text. -/
  jsonErrorText : JsonError → String
  /-- `serde_json_canonicalizer::to_vec`. -/
  toVec : Value → Except JsonError Bytes
  /-- `serde_json::to_string`, for a value that serializes as this document. -/
  toString : Json Number → Except JsonError String
  /-- The document `serde_json::from_str` reads. -/
  fromStr : String → Except JsonError (Json Number)
  /-- The text of the error `from_str` reports when a document is not of the type asked
  for; it also names the place in the text. -/
  deErrorText : String → DeError → String
  /-- `nostr::Keys`. -/
  Keys : Type
  NostrError : Type
  NostrRng : Type
  publicKey : Keys → NostrPublicKey
  /-- `nostr::PublicKey::parse`: hexadecimal, bech32 and `nostr:` forms. -/
  parsePublicKey : String → Except NostrError NostrPublicKey
  /-- `Deserialize` of a Nostr key, given the string. -/
  deserializePublicKey : String → Except NostrError NostrPublicKey
  /-- A point of the curve, for signature checks. -/
  XOnlyPublicKey : Type
  xonly : NostrPublicKey → Except NostrError XOnlyPublicKey
  signSchnorr : Keys → Sha256Output → NostrRng → SchnorrSignature
  verifySchnorr : SchnorrSignature → Sha256Output → XOnlyPublicKey → Bool
  /-- `blind_rsa_signatures::Error`. -/
  PbrsaError : Type
  PbrsaPublicKey : Type
  PbrsaSecretKey : Type
  PbrsaRng : Type
  toDer : PbrsaPublicKey → Except PbrsaError Bytes
  /-- The public key of a secret key. -/
  secretPublicKey : PbrsaSecretKey → Except PbrsaError PbrsaPublicKey
  derivePublicKeyForMetadata : PbrsaPublicKey → Bytes → Except PbrsaError PbrsaPublicKey
  /-- On a key pair: its public key and its secret key. -/
  deriveSecretKeyForMetadata :
    PbrsaPublicKey → PbrsaSecretKey → Bytes → Except PbrsaError PbrsaSecretKey
  blind : PbrsaPublicKey → PbrsaRng → Bytes → Option Bytes → Except PbrsaError BlindingResult
  blindSign : PbrsaSecretKey → PbrsaRng → Bytes → Except PbrsaError Bytes
  finalize :
    PbrsaPublicKey → Bytes → BlindingResult → Bytes → Option Bytes → Except PbrsaError Bytes
  verify :
    PbrsaPublicKey → Bytes → Option (Vector UInt8 32) → Bytes → Option Bytes →
      Except PbrsaError Unit

/-- `PartiallyBlindKeyPairSha384PSSDeterministic`: key generation and key import both
leave a public key that belongs to the secret key. -/
structure PbrsaKeyPair (S : Suite) where
  pk : S.PbrsaPublicKey
  sk : S.PbrsaSecretKey
  fits : S.secretPublicKey sk = .ok pk

/-- Lowercase hexadecimal, the serialized form of a Nostr key. -/
def nostrHex (key : NostrPublicKey) : String := String.ofList (Encoding.hex key.toList)

theorem nostrHex_injective : Function.Injective nostrHex := by
  intro a b h
  exact Vector.toList_inj.mp (Encoding.hex_injective (String.ofList_injective h))

/-! ## Documented behaviour -/

namespace Suite

variable (S : Suite)

/-- The canonicalizer implements RFC 8785 for every value. -/
def Rfc8785 : Prop := ∀ v, S.toVec v = .ok v.canonical

/-- Canonicalization succeeds. -/
def Canonicalizes : Prop := ∀ v, ∃ bytes, S.toVec v = .ok bytes

/-- The DER form of a PBRSA public key identifies it. -/
def DerInjective : Prop := ∀ a b der, S.toDer a = .ok der → S.toDer b = .ok der → a = b

/-- `PbrsaPublicKey::from_der`, which readers are given, decodes the DER form of a key to
that key. -/
def DerRoundTrip (fromDer : Bytes → Except S.PbrsaError S.PbrsaPublicKey) : Prop :=
  ∀ key der, S.toDer key = .ok der → fromDer der = .ok key

/-- A decoded public key has a DER form. -/
def DerExports (fromDer : Bytes → Except S.PbrsaError S.PbrsaPublicKey) : Prop :=
  ∀ der key, fromDer der = .ok key → ∃ der', S.toDer key = .ok der'

/-- A Schnorr check under a Nostr key: the key is a point and the signature fits. -/
def ValidSchnorr (key : NostrPublicKey) (signature : SchnorrSignature) (digest : Sha256Output) :
    Prop :=
  ∃ point, S.xonly key = .ok point ∧ S.verifySchnorr signature digest point = true

/-- What these keys sign verifies under their public key. -/
def SignVerifies (keys : S.Keys) : Prop :=
  ∀ digest rng, S.ValidSchnorr (S.publicKey keys) (S.signSchnorr keys digest rng) digest

/-- One signature under one key verifies for at most one digest. -/
def BindsDigest (key : NostrPublicKey) (signature : SchnorrSignature) : Prop :=
  ∀ digest digest', S.ValidSchnorr key signature digest → S.ValidSchnorr key signature digest' →
    digest = digest'

/-- Under these two keys one signature verifies for at most one of them and one digest. -/
def BindsSigner (key key' : NostrPublicKey) (signature : SchnorrSignature) : Prop :=
  ∀ digest digest', S.ValidSchnorr key signature digest → S.ValidSchnorr key' signature digest' →
    key = key' ∧ digest = digest'

/-- SHA-256 does not collide on these two inputs. -/
def CollisionFree (a b : Bytes) : Prop := S.sha256 a = S.sha256 b → a = b

theorem CollisionFree.append_inj {S : Suite} {separator a b : Bytes}
    (hfree : S.CollisionFree (separator ++ a) (separator ++ b))
    (h : S.sha256 (separator ++ a) = S.sha256 (separator ++ b)) : a = b :=
  List.append_cancel_left (hfree h)

/-- The serialized form of a Nostr key is read back. -/
def KeyRoundTrip : Prop := ∀ key, S.deserializePublicKey (nostrHex key) = .ok key

/-- `nostr::PublicKey::parse` reads the hexadecimal form back; it may read other forms too. -/
def ParsesHex : Prop := ∀ key, S.parsePublicKey (nostrHex key) = .ok key

/-- Under one key and one metadata string the three steps of a blind signature give
one that verifies, with the randomizer the blinding chose. -/
def PbrsaComplete : Prop :=
  ∀ (keyPair : PbrsaKeyPair S) metadata publicKey secretKey message rng rng' result signature,
    S.derivePublicKeyForMetadata keyPair.pk metadata = .ok publicKey →
    S.deriveSecretKeyForMetadata keyPair.pk keyPair.sk metadata = .ok secretKey →
    S.blind publicKey rng message (some metadata) = .ok result →
    S.blindSign secretKey rng' result.blindMessage = .ok signature →
    ∃ final, S.finalize publicKey signature result message (some metadata) = .ok final ∧
      S.verify publicKey final result.msgRandomizer message (some metadata) = .ok ()

/-- The deterministic suite chooses no message randomizer. -/
def PbrsaDeterministic : Prop :=
  ∀ publicKey rng message metadata result,
    S.blind publicKey rng message metadata = .ok result → result.msgRandomizer = none

/-- A blind signature made under one metadata-derived key does not finalize under
another. This is idealized: it is asked of every result, also of one with a secret that
no blinding has chosen. `MetadataBoundBlinded` asks it of blindings only. -/
def MetadataBound : Prop :=
  ∀ (keyPair : PbrsaKeyPair S) metadata metadata' secretKey publicKey rng blindMessage signature
    result message final,
    S.deriveSecretKeyForMetadata keyPair.pk keyPair.sk metadata = .ok secretKey →
    S.blindSign secretKey rng blindMessage = .ok signature →
    S.derivePublicKeyForMetadata keyPair.pk metadata' = .ok publicKey →
    S.finalize publicKey signature result message (some metadata') = .ok final →
    metadata = metadata'

/-- For one derived key, a blinded message and any message with any salt are linked by
some blinding randomness. -/
def BlindingLinks {Salt : Type} (salt : S.PbrsaRng → Salt) : Prop :=
  ∀ (keyPair : PbrsaKeyPair S) metadata publicKey rng message result,
    S.derivePublicKeyForMetadata keyPair.pk metadata = .ok publicKey →
    S.blind publicKey rng message (some metadata) = .ok result →
    ∀ message' s, ∃ rng' result', salt rng' = s ∧
      S.blind publicKey rng' message' (some metadata) = .ok result' ∧
      result'.blindMessage = result.blindMessage

/-- A blind signature depends on the derived key and the blinded message only. -/
def BlindSignDetermined : Prop :=
  ∀ (keyPair : PbrsaKeyPair S) metadata secretKey,
    S.deriveSecretKeyForMetadata keyPair.pk keyPair.sk metadata = .ok secretKey →
    ∀ rng rng' blindMessage,
      S.blindSign secretKey rng blindMessage = S.blindSign secretKey rng' blindMessage

/-- A finalized signature depends on the derived key, the message and the salt only: not
on how the message was blinded. -/
def FinalizeDetermined {Salt : Type} (salt : S.PbrsaRng → Salt) : Prop :=
  ∀ (keyPair : PbrsaKeyPair S) metadata publicKey secretKey message rng rng' result result'
    signRng signRng' signature signature',
    S.derivePublicKeyForMetadata keyPair.pk metadata = .ok publicKey →
    S.deriveSecretKeyForMetadata keyPair.pk keyPair.sk metadata = .ok secretKey →
    S.blind publicKey rng message (some metadata) = .ok result →
    S.blind publicKey rng' message (some metadata) = .ok result' →
    salt rng = salt rng' →
    S.blindSign secretKey signRng result.blindMessage = .ok signature →
    S.blindSign secretKey signRng' result'.blindMessage = .ok signature' →
    S.finalize publicKey signature result message (some metadata)
      = S.finalize publicKey signature' result' message (some metadata)

/-- `to_string` prints every document, and `from_str` reads what was printed back
unless it is nested more than `limit` deep. -/
def JsonRoundTrip (limit : Nat) : Prop :=
  ∀ doc, ∃ text, S.toString doc = .ok text ∧
    (doc.depth ≤ limit → S.fromStr text = .ok doc) ∧
    (limit < doc.depth → ∃ e, S.fromStr text = .error e)

end Suite

end PeerBadge
