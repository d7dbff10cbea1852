import PeerBadge.Holder
import PeerBadge.Issuer
import PeerBadge.SerdeJson
import PeerBadge.Sha256

/-! # A concrete suite

One suite that behaves as documented, to run the protocol on. SHA-256, the
canonical form, JSON text with 128 levels of nesting and hexadecimal keys are the
real ones; the two signature schemes are transparent stand-ins: a Schnorr signature
is the key and the digest, and a blind signature carries the name of the key it was
made with and the blinded hash of the message.
-/

namespace PeerBadge

namespace Reference

/-! ## Blind signatures -/

/-- A key and the metadata it was derived for, if any. -/
structure Key where
  root : Bytes
  metadata : Option Bytes
deriving DecidableEq

namespace Key

def derive (key : Key) (metadata : Bytes) : Key := { key with metadata := some metadata }

def name (key : Key) : Bytes := key.metadata.getD [] ++ key.root

end Key

/-- The hash a signature is about. -/
def encode (randomizer : Option (Vector UInt8 32)) (message : Bytes) : Bytes :=
  (Sha256.hash ((randomizer.map Vector.toList).getD [] ++ message)).toList

def add (a b : Bytes) : Bytes := List.zipWith (· + ·) a b

def sub (a b : Bytes) : Bytes := List.zipWith (· - ·) a b

def blind (randomness : Vector UInt8 32) (message : Bytes) : BlindingResult where
  blindMessage := add (encode none message) randomness.toList
  secret := randomness.toList
  msgRandomizer := none

/-- The name of the key and a body. -/
def sign (key : Key) (body : Bytes) : Bytes := key.name ++ body

/-- Blinded messages have the size of a hash. -/
def blindSign (key : Key) (blindMessage : Bytes) : Except Unit Bytes :=
  if blindMessage.length = 32 then .ok (sign key blindMessage) else .error ()

def verify (key : Key) (signature : Bytes) (randomizer : Option (Vector UInt8 32))
    (message : Bytes) : Except Unit Unit :=
  if signature = sign key (encode randomizer message) then .ok () else .error ()

/-- Unblind what was signed with this key, and check the result. -/
def finalize (key : Key) (blindSignature : Bytes) (result : BlindingResult) (message : Bytes) :
    Except Unit Bytes :=
  -- what another key signed does not start with the name of this one
  let body := blindSignature.drop key.name.length
  let signature := sign key (sub body result.secret)
  if body.length = 32 ∧ blindSignature = sign key body then do
    verify key signature result.msgRandomizer message
    .ok signature
  else .error ()

/-! ## The suite -/

/-- A hexadecimal key. -/
def parsePublicKey (text : String) : Except Unit NostrPublicKey :=
  match Encoding.ofHex text.toList with
  | none => .error ()
  | some bytes => if h : bytes.length = 32 then .ok ⟨bytes.toArray, h⟩ else .error ()

/-- The levels of nesting the JSON reader starts from. -/
def remainingDepth : Nat := 128

def suite : Suite where
  sha256 := Sha256.hash
  JsonError := Json.ReadError
  jsonErrorText e := toString (repr e)
  toVec value := .ok value.canonical
  toString doc := .ok (String.ofList (SerdeJson.write doc))
  fromStr text := SerdeJson.read remainingDepth text.toList
  deErrorText _ e := toString (repr e)
  Keys := NostrPublicKey
  NostrError := Unit
  NostrRng := Unit
  publicKey keys := keys
  parsePublicKey := parsePublicKey
  deserializePublicKey := parsePublicKey
  XOnlyPublicKey := NostrPublicKey
  xonly key := .ok key
  signSchnorr keys digest _ := keys ++ digest
  verifySchnorr signature digest point := decide (signature = point ++ digest)
  PbrsaError := Unit
  PbrsaPublicKey := Key
  PbrsaSecretKey := Key
  PbrsaRng := Vector UInt8 32
  toDer key := match key.metadata with
    | none => .ok key.root
    | some _ => .error ()
  secretPublicKey key := .ok key
  derivePublicKeyForMetadata key metadata := .ok (key.derive metadata)
  deriveSecretKeyForMetadata _ key metadata := .ok (key.derive metadata)
  blind _ randomness message _ := .ok (blind randomness message)
  blindSign key _ blindMessage := blindSign key blindMessage
  finalize key blindSignature result message _ := finalize key blindSignature result message
  verify key signature randomizer message _ := verify key signature randomizer message

/-- `7.0`. -/
def seven : Binary64 := ⟨false, 0x401C000000000000, by decide⟩

/-- A `7` inside `n` arrays. -/
def nested : Nat → Value
  | 0 => .number (.posInt 7)
  | n + 1 => .array [nested n]

theorem depth_nested (n : Nat) : (nested n).tree.depth = n := by
  induction n with
  | zero => rfl
  | succ n ih =>
      have hstep : (nested (n + 1)).tree.depth = max (nested n).tree.depth 0 + 1 :=
        Json.depth_arr _
      rw [hstep, ih, Nat.max_zero]

/-- RFC 8785 writes `7` and `7.0` alike. -/
theorem rfc8785_seven :
    (Value.number (.posInt 7)).rfc8785 = (Value.number (.float seven)).rfc8785 := by
  decide +kernel

/-! ## Documented behaviour -/

theorem rfc8785 : suite.Rfc8785 := fun _ => rfl

theorem canonicalizes : suite.Canonicalizes := fun v => ⟨v.canonical, rfl⟩

theorem derInjective : suite.DerInjective := by
  rintro ⟨a, ma⟩ ⟨b, mb⟩ der ha hb
  -- derived keys have no DER form here
  cases ma with
  | some m => cases ha
  | none =>
      cases mb with
      | some m => cases hb
      | none =>
          have hroot : a = b := (Except.ok.inj ha).trans (Except.ok.inj hb).symm
          rw [hroot]

/-- What is decoded is the root of a key. -/
def fromDer (der : Bytes) : Except suite.PbrsaError suite.PbrsaPublicKey :=
  .ok (⟨der, none⟩ : Key)

theorem derRoundTrip : suite.DerRoundTrip fromDer := by
  rintro ⟨root, metadata⟩ der h
  cases metadata with
  | none =>
      cases h
      rfl
  | some m => cases h

theorem derExports : suite.DerExports fromDer := by
  intro der key h
  cases h
  exact ⟨der, rfl⟩

theorem validSchnorr_iff (key : NostrPublicKey) (signature : SchnorrSignature)
    (digest : Sha256Output) :
    suite.ValidSchnorr key signature digest ↔ signature = key ++ digest := by
  constructor
  · intro h
    rcases h with ⟨point, hpoint, hverify⟩
    have hkey : key = point := Except.ok.inj hpoint
    subst hkey
    exact of_decide_eq_true hverify
  · intro h
    exact ⟨key, rfl, decide_eq_true h⟩

theorem signVerifies (keys : suite.Keys) : suite.SignVerifies keys := by
  intro digest rng
  exact (validSchnorr_iff _ _ _).mpr rfl

/-- A signature names its key and its digest. -/
theorem bindsSigner (key key' : NostrPublicKey) (signature : SchnorrSignature) :
    suite.BindsSigner key key' signature := by
  intro digest digest' h h'
  have heq := ((validSchnorr_iff _ _ _).mp h).symm.trans ((validSchnorr_iff _ _ _).mp h')
  have hlists := congrArg Vector.toList heq
  rw [Vector.toList_append, Vector.toList_append] at hlists
  have hlen : key.toList.length = key'.toList.length := by
    rw [Vector.length_toList, Vector.length_toList]
  rcases List.append_inj hlists hlen with ⟨hkey, hdigest⟩
  exact ⟨Vector.toList_inj.mp hkey, Vector.toList_inj.mp hdigest⟩

theorem bindsDigest (key : NostrPublicKey) (signature : SchnorrSignature) :
    suite.BindsDigest key signature :=
  fun digest digest' h h' => (bindsSigner key key signature digest digest' h h').2

theorem parsePublicKey_nostrHex (key : NostrPublicKey) : parsePublicKey (nostrHex key) = .ok key := by
  have hread : Encoding.ofHex (nostrHex key).toList = some key.toList := by
    rw [nostrHex, String.toList_ofList, Encoding.ofHex_hex]
  have hlen : key.toList.length = 32 := Vector.length_toList
  simp only [parsePublicKey, hread, dif_pos hlen]
  congr 1

theorem keyRoundTrip : suite.KeyRoundTrip := parsePublicKey_nostrHex

theorem parsesHex : suite.ParsesHex := parsePublicKey_nostrHex

theorem pbrsaDeterministic : suite.PbrsaDeterministic := by
  intro publicKey rng message metadata result h
  have hresult : blind rng message = result := Except.ok.inj h
  rw [← hresult]
  rfl

/-- Subtracting what was added leaves what was there. -/
theorem sub_add {a b : Bytes} (h : a.length ≤ b.length) : sub (add a b) b = a := by
  induction a generalizing b with
  | nil => simp [add, sub]
  | cons x a ih =>
      cases b with
      | nil => simp at h
      | cons y b =>
          have hab := ih (b := b) (by simpa using h)
          simp only [add, sub, List.zipWith_cons_cons] at hab ⊢
          rw [hab, UInt8.add_sub_cancel]

/-- Every sum of the right length is reached. -/
theorem add_sub {a b : Bytes} (h : a.length = b.length) : add a (sub b a) = b := by
  induction a generalizing b with
  | nil => simpa [add, sub] using h.symm
  | cons x a ih =>
      cases b with
      | nil => simp at h
      | cons y b =>
          have hab := ih (b := b) (by simpa using h)
          simp only [add, sub, List.zipWith_cons_cons] at hab ⊢
          rw [hab, UInt8.add_comm, UInt8.sub_add_cancel]

theorem drop_sign (key : Key) (body : Bytes) : (sign key body).drop key.name.length = body := by
  rw [sign, List.drop_left]

theorem blindSign_eq_ok {key : Key} {blindMessage signature : Bytes} :
    blindSign key blindMessage = .ok signature ↔
      blindMessage.length = 32 ∧ sign key blindMessage = signature := by
  unfold blindSign
  by_cases h : blindMessage.length = 32
  · simp [h]
  · simp [h]

theorem finalize_eq_ok {key : Key} {signature final : Bytes} {result : BlindingResult}
    {message : Bytes} :
    finalize key signature result message = .ok final ↔
      ∃ body, body.length = 32 ∧ sign key body = signature ∧
        sign key (sub body result.secret) = final ∧
        verify key final result.msgRandomizer message = .ok () := by
  unfold finalize
  constructor
  · intro h
    dsimp only at h
    split at h
    · rename_i hbody
      rcases Outcome.bind_eq_ok.mp h with ⟨u, hverify, hfinal⟩
      cases hfinal
      exact ⟨_, hbody.1, hbody.2.symm, rfl, hverify⟩
    · cases h
  · intro h
    rcases h with ⟨body, hlen, rfl, rfl, hverify⟩
    simp only [drop_sign, hlen, and_self, if_true, hverify, Outcome.ok_bind]

theorem length_blindMessage (rng : Vector UInt8 32) (message : Bytes) :
    (blind rng message).blindMessage.length = 32 := by
  simp only [blind, add, List.length_zipWith, encode, Vector.length_toList]
  rfl

/-- Blind, sign and unblind: the result is a signature of the message. -/
theorem finalize_sign_blind (key : Key) (rng : Vector UInt8 32) (message : Bytes) :
    finalize key (sign key (blind rng message).blindMessage) (blind rng message) message
      = .ok (sign key (encode none message)) := by
  have hlen : (encode none message).length ≤ rng.toList.length := by
    rw [encode, Vector.length_toList, Vector.length_toList]
  have hunblind : sub (blind rng message).blindMessage (blind rng message).secret
      = encode none message := sub_add hlen
  apply finalize_eq_ok.mpr
  refine ⟨_, length_blindMessage rng message, rfl, by rw [hunblind], ?_⟩
  exact if_pos rfl

/-- A signature of a message verifies for it. -/
theorem verify_sign (key : Key) (message metadata : Bytes) :
    suite.verify key (sign key (encode none message)) none message (some metadata) = .ok () :=
  if_pos rfl

/-- What verifies has been signed with the key. -/
theorem eq_sign_of_verify {key : suite.PbrsaPublicKey} {signature message metadata : Bytes}
    (h : suite.verify key signature none message (some metadata) = .ok ()) :
    signature = sign key (encode none message) := by
  by_contra hne
  have herror : suite.verify key signature none message (some metadata) = .error () := if_neg hne
  rw [h] at herror
  cases herror

theorem pbrsaComplete : suite.PbrsaComplete := by
  intro keyPair metadata publicKey secretKey message rng rng' result signature hpublic hsecret
    hblind hsign
  have hkey : keyPair.sk = keyPair.pk := Except.ok.inj keyPair.fits
  have hpublic' : keyPair.pk.derive metadata = publicKey := Except.ok.inj hpublic
  have hsecret' : keyPair.sk.derive metadata = secretKey := Except.ok.inj hsecret
  have hresult : blind rng message = result := Except.ok.inj hblind
  rcases blindSign_eq_ok.mp hsign with ⟨-, hsignature⟩
  rw [hkey, hpublic'] at hsecret'
  rw [← hsecret', ← hresult] at hsignature
  refine ⟨sign publicKey (encode none message), ?_, ?_⟩
  · rw [← hsignature, ← hresult]
    exact finalize_sign_blind publicKey rng message
  · rw [← hresult]
    exact verify_sign publicKey message metadata

/-- There is no salt here. -/
def salt (_ : suite.PbrsaRng) : Unit := ()

theorem blindingLinks : suite.BlindingLinks salt := by
  intro keyPair metadata publicKey rng message result hpublic hblind message' s
  have hresult : blind rng message = result := Except.ok.inj hblind
  have hblinded : result.blindMessage.length = 32 := hresult ▸ length_blindMessage rng message
  have hencoded : (encode none message').length = 32 := Vector.length_toList
  have hsize : (sub result.blindMessage (encode none message')).toArray.size = 32 := by
    rw [List.size_toArray, sub, List.length_zipWith, hblinded, hencoded, Nat.min_self]
  refine ⟨⟨_, hsize⟩, _, rfl, rfl, ?_⟩
  exact add_sub (hencoded.trans hblinded.symm)

theorem blindSignDetermined : suite.BlindSignDetermined :=
  fun _ _ _ _ _ _ _ => rfl

theorem finalizeDetermined : suite.FinalizeDetermined salt := by
  intro keyPair metadata publicKey secretKey message rng rng' result result' signRng signRng'
    signature signature' hpublic hsecret hblind hblind' hsalt hsign hsign'
  have hkey : keyPair.sk = keyPair.pk := Except.ok.inj keyPair.fits
  have hpublic' : keyPair.pk.derive metadata = publicKey := Except.ok.inj hpublic
  have hsecret' : keyPair.sk.derive metadata = secretKey := Except.ok.inj hsecret
  have hresult : blind rng message = result := Except.ok.inj hblind
  have hresult' : blind rng' message = result' := Except.ok.inj hblind'
  rcases blindSign_eq_ok.mp hsign with ⟨-, hsignature⟩
  rcases blindSign_eq_ok.mp hsign' with ⟨-, hsignature'⟩
  rw [hkey, hpublic'] at hsecret'
  rw [← hsecret', ← hresult] at hsignature
  rw [← hsecret', ← hresult'] at hsignature'
  rw [← hsignature, ← hsignature', ← hresult, ← hresult']
  exact (finalize_sign_blind publicKey rng message).trans
    (finalize_sign_blind publicKey rng' message).symm

theorem metadataBound : suite.MetadataBound := by
  intro keyPair metadata metadata' secretKey publicKey rng blindMessage signature result message
    final hsecret hsign hpublic hfinal
  have hkey : keyPair.sk = keyPair.pk := Except.ok.inj keyPair.fits
  have hsecret' : keyPair.sk.derive metadata = secretKey := Except.ok.inj hsecret
  have hpublic' : keyPair.pk.derive metadata' = publicKey := Except.ok.inj hpublic
  rcases blindSign_eq_ok.mp hsign with ⟨hlen, hsignature⟩
  rcases finalize_eq_ok.mp hfinal with ⟨body, hbody, hsignature', -⟩
  -- both sides put a 32-byte body behind the name of their key
  have heq : secretKey.name ++ blindMessage = publicKey.name ++ body :=
    hsignature.trans hsignature'.symm
  have hname := (List.append_inj' heq (hlen.trans hbody.symm)).1
  rw [← hsecret', ← hpublic', hkey] at hname
  exact List.append_cancel_right hname

theorem jsonRoundTrip : suite.JsonRoundTrip 127 := by
  intro doc
  have hread := SerdeJson.read_write (show 0 < remainingDepth by decide) doc
  refine ⟨String.ofList (SerdeJson.write doc), rfl, ?_, ?_⟩
  · intro hdepth
    show SerdeJson.read remainingDepth (String.ofList (SerdeJson.write doc)).toList = .ok doc
    rw [String.toList_ofList, hread, if_pos (by unfold remainingDepth; omega)]
  · intro hdepth
    refine ⟨.recursionLimitExceeded, ?_⟩
    show SerdeJson.read remainingDepth (String.ofList (SerdeJson.write doc)).toList = .error _
    rw [String.toList_ofList, hread, if_neg (by unfold remainingDepth; omega)]

/-! ## An issuer, its authority and a credential -/

def identityKeys : NostrPublicKey := Vector.replicate 32 1

def keyPair : PbrsaKeyPair suite := ⟨⟨[2], none⟩, ⟨[2], none⟩, rfl⟩

def issuer : IssuerContext suite := ⟨identityKeys, keyPair⟩

/-- A holder, and the blind message that binds a credential to it. -/
def holder : HolderContext suite := ⟨identityKeys⟩

def holderMsg : Value := .string (nostrHex identityKeys)

theorem parse_holderMsg : ∃ text, holderMsg.asStr = some text ∧
    suite.parsePublicKey text = .ok holder.holderId.key :=
  ⟨nostrHex identityKeys, rfl, parsePublicKey_nostrHex identityKeys⟩

/-- A key asks to present credentials. -/
def authorizationRequest : HolderAuthorizationRequest := ⟨⟨Vector.replicate 32 9⟩⟩

/-- Randomness for blinding. -/
def blindingRng : suite.PbrsaRng := Vector.replicate 32 5

/-- The credential of the issuer with a payload. -/
def credential (info blindMsg : Value) : SignedCredential where
  version := .v1
  credential := ⟨issuer.issuerId, info, blindMsg⟩
  proof :=
    ⟨sign (keyPair.pk.derive (pbrsaInfoPayload .v1 issuer.issuerId info).canonical)
      (encode none (pbrsaBlindMsgPayload .v1 blindMsg).canonical)⟩

theorem verifyCredentialWithKey_credential (info blindMsg : Value) :
    verifyCredentialWithKey issuer.keyPair.pk (credential info blindMsg) = .ok () := by
  apply verifyCredentialWithKey_eq_ok.mpr
  refine ⟨(pbrsaInfoPayload .v1 issuer.issuerId info).canonical,
    (pbrsaBlindMsgPayload .v1 blindMsg).canonical,
    keyPair.pk.derive (pbrsaInfoPayload .v1 issuer.issuerId info).canonical, rfl, rfl, rfl, ?_⟩
  exact verify_sign _ _ _

theorem exists_authority (locations : List RevocationLocation) :
    ∃ authority, issuer.issuerAuthority locations () = .ok authority :=
  ⟨_, rfl⟩

/-- The issuer answers every request made to it, with the info it chooses. -/
theorem exists_response (info info' blindMsg : Value) (rng rng' : suite.PbrsaRng) :
    ∃ request pending response,
      PendingIssuance.createRequest issuer.keyPair.pk issuer.issuerId info blindMsg rng
        = .ok (request, pending) ∧
      issuer.issueCredential info' request rng' = .ok response := by
  have hsign : ∀ request : IssuanceRequest, request.blindedMessage.length = 32 →
      ∃ response, issuer.issueCredential info' request rng' = .ok response := by
    intro request hlen
    exact ⟨_, IssuerContext.issueCredential_eq_ok.mpr
      ⟨_, _, _, rfl, rfl, blindSign_eq_ok.mpr ⟨hlen, rfl⟩, rfl⟩⟩
  have hrequest := PendingIssuance.createRequest_eq_ok (S := suite).mpr
    ⟨_, _, keyPair.pk.derive (pbrsaInfoPayload .v1 issuer.issuerId info).canonical,
      blind rng (pbrsaBlindMsgPayload .v1 blindMsg).canonical, rfl, rfl, rfl, rfl, rfl, rfl⟩
  rcases hsign ⟨.v1, (blind rng (pbrsaBlindMsgPayload .v1 blindMsg).canonical).blindMessage⟩
    (length_blindMessage _ _) with ⟨response, hresponse⟩
  exact ⟨_, _, response, hrequest, hresponse⟩

/-- Somebody else, with another identity key. -/
def otherIssuer : IssuerContext suite := ⟨Vector.replicate 32 2, keyPair⟩

/-- The issuer after it has changed its issuance key. -/
def rotatedIssuer : IssuerContext suite := ⟨identityKeys, ⟨⟨[3], none⟩, ⟨[3], none⟩, rfl⟩⟩

/-- The new key does not verify what the old one has signed. -/
theorem verifyCredentialWithKey_rotated (info blindMsg : Value) :
    verifyCredentialWithKey rotatedIssuer.keyPair.pk (credential info blindMsg) ≠ .ok () := by
  intro h
  rcases verifyCredentialWithKey_eq_ok.mp h with
    ⟨metadata, message, publicKey, hmetadata, hmessage, hpublic, hverify⟩
  have hmetadata' : (pbrsaInfoPayload .v1 issuer.issuerId info).canonical = metadata :=
    Except.ok.inj hmetadata
  have hmessage' : (pbrsaBlindMsgPayload .v1 blindMsg).canonical = message :=
    Except.ok.inj hmessage
  have hpublic' : (⟨[3], some metadata⟩ : Key) = publicKey := Except.ok.inj hpublic
  have hsame := eq_sign_of_verify hverify
  subst hmessage' hpublic' hmetadata'
  -- the names of the two keys end differently
  have hname := List.append_cancel_right hsame
  have hroot : ([2] : Bytes) = [3] := List.append_cancel_left hname
  cases hroot

/-- Two holders whose keys are not the issuer's. -/
def holderKeys : List NostrPublicKey := [Vector.replicate 32 2, Vector.replicate 32 3]

/-- The credential of the issuer that is bound to a holder key. -/
def held (info : Value) (key : NostrPublicKey) : SignedCredential :=
  credential info (.string (nostrHex key))

theorem exists_otherAuthority : ∃ authority, otherIssuer.issuerAuthority [] () = .ok authority :=
  ⟨_, rfl⟩

/-- Anybody can sign a revocation of any digest. -/
theorem exists_signedRevocation (digest : CredentialDigest) :
    ∃ signedRevocation : SignedRevocation, signedRevocation.Signed suite ∧
      signedRevocation.proof.issuerIdPubkey = otherIssuer.issuerId ∧
      signedRevocation.revocation.credentialDigest = digest := by
  have hdigest : Revocation.digest suite ⟨digest⟩ = .ok _ := rfl
  exact ⟨⟨.v1, ⟨digest⟩, ⟨otherIssuer.issuerId, otherIssuer.signIdentityDigest _ ()⟩⟩,
    ⟨_, hdigest, signVerifies otherIssuer.identityKeys _ ()⟩, rfl, rfl⟩

theorem exists_revocation (info blindMsg : Value) :
    ∃ revocation, issuer.revokeCredential (credential info blindMsg) () = .ok revocation :=
  ⟨_, IssuerContext.revokeCredential_eq_ok.mpr ⟨rfl, _, _, rfl, rfl, rfl⟩⟩

end Reference

end PeerBadge
