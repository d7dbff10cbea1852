import PeerBadge.Issuer
import PeerBadge.Preimages
import PeerBadge.Runs
import PeerBadge.Verifier

/-! # The verifier over whole runs

A verifier is fed authorities and revocations in any order, forged and repeated ones
included. `Tracks` is the invariant of every such run: the key held for an issuer is
the one of its last acceptable authority, and a digest is revoked when a signed
revocation came after an acceptable authority of its issuer. `verifyCredential_run`
reads verification off the history alone.

The second half is about one revocation in a run: nothing with the revoked content
is accepted afterwards, and nothing else is affected.
-/

namespace PeerBadge

variable {S : Suite}

/-- A call that changes a verifier. -/
inductive Call (S : Suite) where
  | addIssuerAuthority (authority : IssuerAuthority S)
  | addRevocation (signedRevocation : SignedRevocation)

namespace Call

/-- An acceptable authority for this issuer with this key. -/
def Authorizes (issuerId : IssuerId) (key : S.PbrsaPublicKey) : Call S → Prop
  | .addIssuerAuthority authority =>
      authority.Accepted ∧ authority.issuer.issuerIdPubkey = issuerId ∧
        authority.issuer.issuanceKey = key
  | .addRevocation _ => False

/-- An acceptable authority for this issuer. -/
def AuthorizesSome (issuerId : IssuerId) (call : Call S) : Prop :=
  ∃ key, call.Authorizes issuerId key

/-- A revocation of this digest, signed by this issuer. -/
def Revokes (issuerId : IssuerId) (digest : CredentialDigest) : Call S → Prop
  | .addIssuerAuthority _ => False
  | .addRevocation signedRevocation =>
      signedRevocation.Signed S ∧ signedRevocation.proof.issuerIdPubkey = issuerId ∧
        signedRevocation.revocation.credentialDigest = digest

/-- Adding an authority an issuer made authorizes its issuance key. -/
theorem authorizes_issuerAuthority {issuer : IssuerContext S}
    (hsign : S.SignVerifies issuer.identityKeys) {revocation : List RevocationLocation}
    {rng : S.NostrRng} {authority : IssuerAuthority S}
    (hlocations : ∀ location ∈ revocation, location.protocol ≠ "" ∧ location.location ≠ "")
    (h : issuer.issuerAuthority revocation rng = .ok authority) :
    (Call.addIssuerAuthority authority).Authorizes issuer.issuerId issuer.keyPair.pk := by
  have haccepted := IssuerContext.issuerAuthority_accepted hsign hlocations h
  rcases IssuerContext.issuerAuthority_eq_ok.mp h with ⟨digest, -, rfl⟩
  exact ⟨haccepted, rfl, rfl⟩

end Call

/-- The reference issuer has an authority, and it is acceptable. -/
theorem Reference.exists_authorizes :
    ∃ authority, Reference.issuer.issuerAuthority [] () = .ok authority ∧
      (Call.addIssuerAuthority authority).Authorizes Reference.issuer.issuerId
        Reference.issuer.keyPair.pk := by
  rcases Reference.exists_authority [] with ⟨authority, hauthority⟩
  have hsign := Reference.signVerifies Reference.identityKeys
  exact ⟨authority, hauthority, Call.authorizes_issuerAuthority hsign (by simp) hauthority⟩

/-- The key of the last acceptable authority for this issuer. -/
def LastKey (issuerId : IssuerId) (calls : List (Call S)) (key : S.PbrsaPublicKey) : Prop :=
  ∃ call, Runs.Last (Call.AuthorizesSome issuerId) calls call ∧ call.Authorizes issuerId key

/-- A signed revocation came after an acceptable authority of its issuer. -/
def Revoked (issuerId : IssuerId) (digest : CredentialDigest) (calls : List (Call S)) : Prop :=
  Runs.After (Call.AuthorizesSome issuerId) (Call.Revokes issuerId digest) calls

/-- There is a last key when there is an acceptable authority. -/
theorem exists_lastKey_iff {issuerId : IssuerId} {calls : List (Call S)} :
    (∃ key, LastKey issuerId calls key) ↔ ∃ call ∈ calls, call.AuthorizesSome issuerId := by
  rw [← Runs.exists_last_iff]
  constructor
  · intro h
    rcases h with ⟨key, call, hlast, -⟩
    exact ⟨call, hlast⟩
  · intro h
    rcases h with ⟨call, hlast⟩
    rcases hlast with ⟨pre, post, hsplit, ⟨key, hkey⟩, hpost⟩
    exact ⟨key, call, ⟨pre, post, hsplit, ⟨key, hkey⟩, hpost⟩, hkey⟩

theorem lastKey_concat {issuerId : IssuerId} {calls : List (Call S)} {call : Call S}
    {key : S.PbrsaPublicKey} :
    LastKey issuerId (calls ++ [call]) key ↔
      call.Authorizes issuerId key ∨
        (¬call.AuthorizesSome issuerId ∧ LastKey issuerId calls key) := by
  unfold LastKey
  simp only [Runs.last_concat]
  constructor
  · intro h
    rcases h with ⟨last, ⟨-, rfl⟩ | ⟨hnot, hlast⟩, hkey⟩
    · exact Or.inl hkey
    · exact Or.inr ⟨hnot, last, hlast, hkey⟩
  · intro h
    rcases h with hkey | ⟨hnot, last, hlast, hkey⟩
    · exact ⟨call, Or.inl ⟨⟨key, hkey⟩, rfl⟩, hkey⟩
    · exact ⟨last, Or.inr ⟨hnot, hlast⟩, hkey⟩

/-- After one authority its key is the last one, and nothing is revoked. -/
theorem lastKey_singleton {issuerId : IssuerId} {call : Call S} {key : S.PbrsaPublicKey}
    (h : call.Authorizes issuerId key) :
    LastKey issuerId [call] key ∧ ∀ digest, ¬Revoked issuerId digest [call] := by
  rw [← List.nil_append [call], lastKey_concat]
  refine ⟨Or.inl h, ?_⟩
  intro digest hrevoked
  rcases Runs.after_concat.mp hrevoked with hnone | ⟨-, other, hother, -⟩
  · exact Runs.not_after_nil _ _ hnone
  · cases hother

namespace VerificationContext

/-- The state after a call, whatever the call returned. -/
def step (context : VerificationContext S) : Call S → VerificationContext S
  | .addIssuerAuthority authority => (context.addIssuerAuthority authority).2
  | .addRevocation signedRevocation => (context.addRevocation signedRevocation).2

/-- The state after a list of calls on a new context. -/
def run (calls : List (Call S)) : VerificationContext S := Runs.run step new calls

/-! ## One call -/

theorem addIssuerAuthority_of_accepted {context : VerificationContext S}
    {authority : IssuerAuthority S} (h : authority.Accepted) :
    context.addIssuerAuthority authority =
      (.ok (),
        { context with
          issuers := context.issuers.insert authority.issuer.issuerIdPubkey
            authority.issuer.issuanceKey }) := by
  have hverify := IssuerAuthority.verify_eq_ok.mpr ⟨h, rfl⟩
  simp only [addIssuerAuthority, hverify]

theorem addIssuerAuthority_of_not_accepted {context : VerificationContext S}
    {authority : IssuerAuthority S} (h : ¬authority.Accepted) :
    (context.addIssuerAuthority authority).2 = context := by
  unfold addIssuerAuthority
  cases hverify : authority.verify with
  | error e => rfl
  | ok issuer => exact absurd (IssuerAuthority.verify_eq_ok.mp hverify).1 h

theorem addRevocation_of_signed {context : VerificationContext S}
    {signedRevocation : SignedRevocation} (h : signedRevocation.Signed S)
    (hissuer : signedRevocation.proof.issuerIdPubkey ∈ context.issuers) :
    context.addRevocation signedRevocation =
      (.ok (),
        { context with
          revocations := insert (signedRevocation.proof.issuerIdPubkey,
            signedRevocation.revocation) context.revocations }) := by
  have hverify := SignedRevocation.verify_eq_ok.mpr ⟨h, rfl⟩
  simp only [addRevocation, hverify, if_pos hissuer]

theorem addRevocation_of_not {context : VerificationContext S} {signedRevocation : SignedRevocation}
    (h : ¬(signedRevocation.Signed S ∧ signedRevocation.proof.issuerIdPubkey ∈ context.issuers)) :
    (context.addRevocation signedRevocation).2 = context := by
  unfold addRevocation
  cases hverify : signedRevocation.verify S with
  | error e => rfl
  | ok revocation =>
      have hsigned := (SignedRevocation.verify_eq_ok.mp hverify).1
      have hissuer : signedRevocation.proof.issuerIdPubkey ∉ context.issuers :=
        fun hmem => h ⟨hsigned, hmem⟩
      simp only [if_neg hissuer]

/-- Revocations change no key. -/
theorem issuers_step_addRevocation (context : VerificationContext S)
    (signedRevocation : SignedRevocation) :
    (context.step (.addRevocation signedRevocation)).issuers = context.issuers := by
  by_cases h : signedRevocation.Signed S ∧ signedRevocation.proof.issuerIdPubkey ∈ context.issuers
  · simp only [step, addRevocation_of_signed h.1 h.2]
  · simp only [step, addRevocation_of_not h]

/-- A call sets the key it authorizes and leaves the other keys alone. -/
theorem lookup_step {context : VerificationContext S} {call : Call S} {issuerId : IssuerId}
    {key : S.PbrsaPublicKey} :
    (context.step call).issuers.lookup issuerId = some key ↔
      call.Authorizes issuerId key ∨
        (¬call.AuthorizesSome issuerId ∧ context.issuers.lookup issuerId = some key) := by
  cases call with
  | addIssuerAuthority authority =>
      by_cases haccepted : authority.Accepted
      · -- an insertion: the key of this issuer changes and no other
        simp only [step, addIssuerAuthority_of_accepted haccepted, Call.AuthorizesSome,
          Call.Authorizes, haccepted, true_and]
        by_cases hid : authority.issuer.issuerIdPubkey = issuerId
        · subst hid
          simp
        · have hne : issuerId ≠ authority.issuer.issuerIdPubkey := Ne.symm hid
          simp [AList.lookup_insert_ne hne, hid]
      · simp only [step, addIssuerAuthority_of_not_accepted haccepted, Call.AuthorizesSome,
          Call.Authorizes, haccepted, false_and, exists_false, not_false_iff, true_and, false_or]
  | addRevocation signedRevocation =>
      simp only [issuers_step_addRevocation, Call.AuthorizesSome, Call.Authorizes, exists_false,
        not_false_iff, true_and, false_or]

/-- A call adds the digest it revokes, when its issuer is known. -/
theorem mem_revocations_step {context : VerificationContext S} {call : Call S}
    {issuerId : IssuerId} {digest : CredentialDigest} :
    (issuerId, (⟨digest⟩ : Revocation)) ∈ (context.step call).revocations ↔
      (issuerId, (⟨digest⟩ : Revocation)) ∈ context.revocations ∨
        (call.Revokes issuerId digest ∧ issuerId ∈ context.issuers) := by
  cases call with
  | addIssuerAuthority authority =>
      have hsame : (context.step (.addIssuerAuthority authority)).revocations
          = context.revocations := by
        by_cases h : authority.Accepted
        · simp only [step, addIssuerAuthority_of_accepted h]
        · simp only [step, addIssuerAuthority_of_not_accepted h]
      simp only [hsame, Call.Revokes, false_and, or_false]
  | addRevocation signedRevocation =>
      rcases signedRevocation with ⟨version, ⟨revokedDigest⟩, ⟨signer, signature⟩⟩
      by_cases h : (⟨version, ⟨revokedDigest⟩, ⟨signer, signature⟩⟩ : SignedRevocation).Signed S ∧
          signer ∈ context.issuers
      · simp only [step, addRevocation_of_signed h.1 h.2, Finset.mem_insert, Prod.mk.injEq,
          Revocation.mk.injEq, Call.Revokes, h.1, true_and]
        constructor
        · intro h
          rcases h with ⟨rfl, rfl⟩ | hold
          · exact Or.inr ⟨⟨rfl, rfl⟩, h.2⟩
          · exact Or.inl hold
        · intro h
          rcases h with hold | ⟨⟨rfl, rfl⟩, -⟩
          · exact Or.inr hold
          · exact Or.inl ⟨rfl, rfl⟩
      · -- refused: the call revokes nothing, or its issuer is not known
        simp only [step, addRevocation_of_not h, Call.Revokes]
        constructor
        · exact Or.inl
        · intro h
          rcases h with hold | ⟨⟨hsigned, rfl, -⟩, hissuer⟩
          · exact hold
          · exact absurd ⟨hsigned, hissuer⟩ h

/-! ## Every run -/

/-- The invariant: the state says what the history says. -/
structure Tracks (calls : List (Call S)) (context : VerificationContext S) : Prop where
  key : ∀ issuerId key, context.issuers.lookup issuerId = some key ↔ LastKey issuerId calls key
  revoked : ∀ issuerId digest,
    (issuerId, (⟨digest⟩ : Revocation)) ∈ context.revocations ↔ Revoked issuerId digest calls

theorem tracks_new : Tracks [] (new : VerificationContext S) where
  key issuerId key := by
    constructor
    · intro h
      cases h
    · intro h
      rcases h with ⟨call, hlast, -⟩
      exact absurd hlast (Runs.not_last_nil _ _)
  revoked issuerId digest := by
    constructor
    · intro h
      exact absurd h (Finset.notMem_empty _)
    · intro h
      exact absurd h (Runs.not_after_nil _ _)

/-- An issuer is known when it had an acceptable authority. -/
theorem Tracks.mem_issuers {calls : List (Call S)} {context : VerificationContext S}
    (h : Tracks calls context) (issuerId : IssuerId) :
    issuerId ∈ context.issuers ↔ ∃ call ∈ calls, call.AuthorizesSome issuerId := by
  rw [← exists_lastKey_iff, ← AList.lookup_isSome, Option.isSome_iff_exists]
  simp only [h.key issuerId]

/-- One more call keeps state and history in step. -/
theorem tracks_step {calls : List (Call S)} {context : VerificationContext S}
    (h : Tracks calls context) (call : Call S) : Tracks (calls ++ [call]) (context.step call) where
  key issuerId key := by rw [lookup_step, lastKey_concat, h.key issuerId key]
  revoked issuerId digest := by
    rw [mem_revocations_step, h.revoked issuerId digest, h.mem_issuers issuerId, Revoked, Revoked,
      Runs.after_concat]

/-- The state of every run is what its history says. -/
theorem tracks_run (calls : List (Call S)) : Tracks calls (run calls) :=
  Runs.history tracks_new (fun _ _ call h => tracks_step h call) calls

/-- Under the key of the last acceptable authority, a credential with a valid proof is
accepted unless its digest is revoked. -/
theorem verifyCredential_of_lastKey {calls : List (Call S)} {credential : SignedCredential}
    {key : S.PbrsaPublicKey} (hkey : LastKey credential.credential.issuerIdPubkey calls key)
    (hproof : verifyCredentialWithKey key credential = .ok ()) :
    (run calls).verifyCredential credential = .ok () ↔
      ∃ digest, credential.credential.digest S = .ok digest ∧
        ¬Revoked credential.credential.issuerIdPubkey ⟨digest⟩ calls := by
  have htracks := tracks_run calls
  have hlookup := (htracks.key _ key).mpr hkey
  rw [verifyCredential_eq_ok]
  simp only [htracks.revoked, hlookup, Option.some.injEq]
  constructor
  · intro h
    rcases h with ⟨_, digest, rfl, -, hdigest, hfree⟩
    exact ⟨digest, hdigest, hfree⟩
  · intro h
    rcases h with ⟨digest, hdigest, hfree⟩
    exact ⟨key, digest, rfl, hproof, hdigest, hfree⟩

/-- Verification after any run, read off the history: unknown issuers are those
without an acceptable authority; under the key of the last one a credential is
accepted when its blind signature verifies and its digest is not revoked. -/
theorem verifyCredential_run (calls : List (Call S)) (credential : SignedCredential) :
    ((run calls).verifyCredential credential = .error .unknownIssuer ↔
      ¬∃ key, LastKey credential.credential.issuerIdPubkey calls key) ∧
    ∀ key, LastKey credential.credential.issuerIdPubkey calls key →
      ∀ metadata message publicKey digest,
        canonicalizePbrsaInfo S .v1 credential.credential.issuerIdPubkey credential.credential.info
          = .ok metadata →
        canonicalizePbrsaBlindMsg S .v1 credential.credential.blindMsg = .ok message →
        S.derivePublicKeyForMetadata key metadata = .ok publicKey →
        credential.credential.digest S = .ok digest →
        ((run calls).verifyCredential credential = .ok () ↔
          S.verify publicKey credential.proof.signature none message (some metadata) = .ok () ∧
            ¬Revoked credential.credential.issuerIdPubkey ⟨digest⟩ calls) ∧
        ((run calls).verifyCredential credential = .error .credentialRevoked ↔
          S.verify publicKey credential.proof.signature none message (some metadata) = .ok () ∧
            Revoked credential.credential.issuerIdPubkey ⟨digest⟩ calls) := by
  have htracks := tracks_run calls
  constructor
  · rw [verifyCredential_eq_unknownIssuer]
    constructor
    · rintro hnone ⟨key, hkey⟩
      rw [(htracks.key _ key).mpr hkey] at hnone
      cases hnone
    · intro hnone
      rw [Option.eq_none_iff_forall_ne_some]
      intro key hkey
      exact hnone ⟨key, (htracks.key _ key).mp hkey⟩
  · intro key hkey metadata message publicKey digest hmetadata hmessage hpublic hdigest
    have hlookup := (htracks.key _ key).mpr hkey
    -- the steps of the check have one outcome each
    have hsig : verifyCredentialWithKey key credential = .ok () ↔
        S.verify publicKey credential.proof.signature none message (some metadata) = .ok () := by
      rw [verifyCredentialWithKey_eq_ok]
      constructor
      · intro h
        rcases h with ⟨metadata', message', publicKey', hmetadata', hmessage', hpublic', hverify⟩
        cases hmetadata.symm.trans hmetadata'
        cases hmessage.symm.trans hmessage'
        cases hpublic.symm.trans hpublic'
        exact hverify
      · intro hverify
        exact ⟨metadata, message, publicKey, hmetadata, hmessage, hpublic, hverify⟩
    rw [verifyCredential_eq_ok, verifyCredential_eq_revoked, ← hsig, ← htracks.revoked]
    simp only [hlookup, hdigest, Option.some.injEq, Except.ok.injEq]
    constructor
    · constructor
      · intro h
        rcases h with ⟨_, _, rfl, hok, rfl, hfree⟩
        exact ⟨hok, hfree⟩
      · intro h
        rcases h with ⟨hok, hfree⟩
        exact ⟨key, digest, rfl, hok, rfl, hfree⟩
    · constructor
      · intro h
        rcases h with ⟨_, _, rfl, hok, rfl, hrevoked⟩
        exact ⟨hok, hrevoked⟩
      · intro h
        rcases h with ⟨hok, hrevoked⟩
        exact ⟨key, digest, rfl, hok, rfl, hrevoked⟩

/-- A verifier that has seen the authority of the reference issuer accepts its
credential. -/
theorem verifyCredential_run_reference :
    ∃ authority, Reference.issuer.issuerAuthority [] () = .ok authority ∧
      (run [.addIssuerAuthority authority]).verifyCredential
        (Reference.credential (.number (.posInt 7)) (.string "holder")) = .ok () := by
  rcases Reference.exists_authorizes with ⟨authority, hauthority, hauthorizes⟩
  rcases lastKey_singleton hauthorizes with ⟨hkey, hfree⟩
  rcases (Reference.credential (.number (.posInt 7)) (.string "holder")).credential.exists_digest
    Reference.canonicalizes with ⟨digest, hdigest⟩
  have hspec := (verifyCredential_run [.addIssuerAuthority authority]
    (Reference.credential (.number (.posInt 7)) (.string "holder"))).2 _ hkey
    (pbrsaInfoPayload .v1 Reference.issuer.issuerId (.number (.posInt 7))).canonical
    (pbrsaBlindMsgPayload .v1 (.string "holder")).canonical _ digest rfl rfl rfl hdigest
  exact ⟨authority, hauthority, hspec.1.mpr ⟨Reference.verify_sign _ _ _, hfree _⟩⟩

/-- After its authority a verifier accepts every credential of the reference issuer. -/
theorem verifyCredential_of_authorizes {authority : IssuerAuthority Reference.suite}
    (h : (Call.addIssuerAuthority authority).Authorizes Reference.issuer.issuerId
      Reference.issuer.keyPair.pk) (info blindMsg : Value) :
    (run [.addIssuerAuthority authority]).verifyCredential (Reference.credential info blindMsg)
      = .ok () := by
  rcases lastKey_singleton h with ⟨hkey, hfree⟩
  rcases (Reference.credential info blindMsg).credential.exists_digest Reference.canonicalizes with
    ⟨digest, hdigest⟩
  apply (verifyCredential_of_lastKey hkey
    (Reference.verifyCredentialWithKey_credential info blindMsg)).mpr
  exact ⟨digest, hdigest, hfree _⟩

theorem exists_accepted (info blindMsg : Value) :
    ∃ verifier : VerificationContext Reference.suite,
      verifier.verifyCredential (Reference.credential info blindMsg) = .ok () := by
  rcases Reference.exists_authorizes with ⟨authority, -, hauthorizes⟩
  exact ⟨run [.addIssuerAuthority authority],
    verifyCredential_of_authorizes hauthorizes info blindMsg⟩

/-! ## One revocation in a run -/

/-- What has been revoked stays revoked. -/
theorem mem_revocations_run {context : VerificationContext S} {issuerId : IssuerId}
    {digest : CredentialDigest}
    (h : (issuerId, (⟨digest⟩ : Revocation)) ∈ context.revocations) (later : List (Call S)) :
    (issuerId, (⟨digest⟩ : Revocation)) ∈ (Runs.run step context later).revocations := by
  apply Runs.invariant (I := fun t : VerificationContext S =>
    (issuerId, (⟨digest⟩ : Revocation)) ∈ t.revocations)
  · intro t call hmem
    exact mem_revocations_step.mpr (Or.inl hmem)
  · exact h

/-- Two states that differ in one revocation at most. -/
structure AgreeExcept (issuerId : IssuerId) (digest : CredentialDigest)
    (s t : VerificationContext S) : Prop where
  issuers : s.issuers = t.issuers
  revocations : ∀ otherId otherDigest, (otherId, otherDigest) ≠ (issuerId, digest) →
    ((otherId, (⟨otherDigest⟩ : Revocation)) ∈ s.revocations ↔
      (otherId, (⟨otherDigest⟩ : Revocation)) ∈ t.revocations)

/-- The issuers after a call depend on the issuers before it. -/
theorem issuers_step_congr {s t : VerificationContext S} (h : s.issuers = t.issuers)
    (call : Call S) : (s.step call).issuers = (t.step call).issuers := by
  cases call with
  | addIssuerAuthority authority =>
      by_cases haccepted : authority.Accepted
      · simp only [step, addIssuerAuthority_of_accepted haccepted, h]
      · simp only [step, addIssuerAuthority_of_not_accepted haccepted, h]
  | addRevocation signedRevocation =>
      rw [issuers_step_addRevocation, issuers_step_addRevocation, h]

/-- One call keeps two contexts alike outside of the entry. -/
theorem AgreeExcept.step {issuerId : IssuerId} {digest : CredentialDigest}
    {s t : VerificationContext S} (call : Call S) (h : AgreeExcept issuerId digest s t) :
    AgreeExcept issuerId digest (s.step call) (t.step call) where
  issuers := issuers_step_congr h.issuers call
  revocations otherId otherDigest hne := by
    rw [mem_revocations_step, mem_revocations_step, h.revocations otherId otherDigest hne,
      h.issuers]

/-- So does a run. -/
theorem AgreeExcept.run {issuerId : IssuerId} {digest : CredentialDigest}
    {s t : VerificationContext S} (h : AgreeExcept issuerId digest s t) (later : List (Call S)) :
    AgreeExcept issuerId digest (Runs.run VerificationContext.step s later)
      (Runs.run VerificationContext.step t later) :=
  Runs.related (fun _ _ call hst => hst.step call) h later

/-- A revocation call changes at most the entry it is about. -/
theorem agreeExcept_addRevocation (context : VerificationContext S)
    (signedRevocation : SignedRevocation) :
    AgreeExcept signedRevocation.proof.issuerIdPubkey signedRevocation.revocation.credentialDigest
      (context.step (.addRevocation signedRevocation)) context where
  issuers := issuers_step_addRevocation context signedRevocation
  revocations otherId otherDigest hne := by
    rw [mem_revocations_step]
    constructor
    · intro h
      rcases h with hold | ⟨⟨-, rfl, rfl⟩, -⟩
      · exact hold
      · exact absurd rfl hne
    · exact Or.inl

/-- With the entry of its issuer and digest in the state, no credential is accepted. -/
theorem verifyCredential_ne_ok_of_mem {context : VerificationContext S}
    {credential : SignedCredential} {digest : Sha256Output}
    (hdigest : credential.credential.digest S = .ok digest)
    (hmem : (credential.credential.issuerIdPubkey, (⟨⟨digest⟩⟩ : Revocation))
      ∈ context.revocations) :
    context.verifyCredential credential ≠ .ok () := by
  intro hok
  rcases verifyCredential_eq_ok.mp hok with ⟨key, digest', -, -, hdigest', hfree⟩
  cases hdigest.symm.trans hdigest'
  exact hfree hmem

/-- A revocation its issuer made is accepted once the issuer is known. From then on no
credential with the revoked content is accepted, whatever the proof, and every other
credential is judged as if the revocation had not been added. -/
theorem revocation_permanent (hS : S.Rfc8785) (issuer : IssuerContext S)
    (hsign : S.SignVerifies issuer.identityKeys) {credential : SignedCredential} {rng : S.NostrRng}
    {revocation : SignedRevocation} (hrevoke : issuer.revokeCredential credential rng = .ok revocation)
    (calls : List (Call S)) (hknown : ∃ call ∈ calls, call.AuthorizesSome issuer.issuerId) :
    ((run calls).addRevocation revocation).1 = .ok () ∧
    ∀ later : List (Call S),
      (∀ other : SignedCredential,
        canonicalizeCredential S other.credential = canonicalizeCredential S credential.credential →
        (run (calls ++ .addRevocation revocation :: later)).verifyCredential other ≠ .ok () ∧
        ∀ authorization now,
          (run (calls ++ .addRevocation revocation :: later)).verifyCredentialAuthorizationAtTime
            other authorization now ≠ .ok ()) ∧
      (∀ other : SignedCredential,
        canonicalizeCredential S other.credential ≠ canonicalizeCredential S credential.credential →
        (∀ bytes bytes', canonicalizeCredential S credential.credential = .ok bytes →
          canonicalizeCredential S other.credential = .ok bytes' →
          S.CollisionFree (credentialDigestDomainSeparator ++ bytes)
            (credentialDigestDomainSeparator ++ bytes')) →
        (run (calls ++ .addRevocation revocation :: later)).verifyCredential other
          = (run (calls ++ later)).verifyCredential other ∧
        ∀ authorization now,
          (run (calls ++ .addRevocation revocation :: later)).verifyCredentialAuthorizationAtTime
              other authorization now
            = (run (calls ++ later)).verifyCredentialAuthorizationAtTime other authorization now) := by
  rcases issuer.revokeCredential_signed hsign hrevoke with ⟨hsigned, hsigner, hid, hdigest⟩
  -- the issuer signed it and is known, so it is taken in
  have hissuer : revocation.proof.issuerIdPubkey ∈ (run calls).issuers := by
    rw [hsigner]
    exact ((tracks_run calls).mem_issuers issuer.issuerId).mpr hknown
  refine ⟨by rw [addRevocation_of_signed hsigned hissuer], ?_⟩
  intro later
  have hsplit : ∀ rest : List (Call S), run (calls ++ rest) = Runs.run step (run calls) rest :=
    fun rest => Runs.run_append new calls rest
  rw [hsplit, hsplit, Runs.run_cons]
  constructor
  · intro other hsame
    -- same canonical form: same issuer and same digest, and that entry stays
    have hcontent := (Payload.credential_inj hS hsame).1
    have hotherDigest : other.credential.digest S
        = .ok revocation.revocation.credentialDigest.output := by
      rw [← hdigest, Credential.digest, Credential.digest, hsame]
    have hentry : (other.credential.issuerIdPubkey, revocation.revocation) ∈
        ((run calls).step (.addRevocation revocation)).revocations := by
      rw [hcontent, hid]
      exact mem_revocations_step.mpr (Or.inr ⟨⟨hsigned, hsigner, rfl⟩, hsigner ▸ hissuer⟩)
    have hnot := verifyCredential_ne_ok_of_mem hotherDigest (mem_revocations_run hentry later)
    refine ⟨hnot, ?_⟩
    intro authorization now hok
    exact hnot (verifyCredentialAuthorizationAtTime_eq_ok.mp hok).1
  · intro other hother hfree
    have hagree := (agreeExcept_addRevocation (run calls) revocation).run later
    have hverdict : (Runs.run step ((run calls).step (.addRevocation revocation)) later).verifyCredential
        other = (Runs.run step (run calls) later).verifyCredential other := by
      apply verifyCredential_congr
      · rw [hagree.issuers]
      · intro otherDigest hotherDigest
        apply hagree.revocations
        -- the revoked digest would make the canonical forms equal
        intro heq
        have hsame : otherDigest = revocation.revocation.credentialDigest.output :=
          congrArg CredentialDigest.output (Prod.mk.inj heq).2
        rw [hsame] at hotherDigest
        exact hother (Credential.canonical_eq_of_digest_eq hdigest hotherDigest hfree).symm
    exact ⟨hverdict, verifyCredentialAuthorizationAtTime_congr hverdict⟩

/-- The reference issuer revokes a credential: its verifier takes the revocation in and
refuses the credential from then on. -/
theorem revocation_permanent_reference :
    ∃ authority revocation, Reference.issuer.issuerAuthority [] () = .ok authority ∧
      Reference.issuer.revokeCredential
        (Reference.credential (.number (.posInt 7)) (.string "holder")) () = .ok revocation ∧
      ((run [.addIssuerAuthority authority]).addRevocation revocation).1 = .ok () ∧
      (run [.addIssuerAuthority authority, .addRevocation revocation]).verifyCredential
        (Reference.credential (.number (.posInt 7)) (.string "holder")) ≠ .ok () := by
  rcases Reference.exists_authorizes with ⟨authority, hauthority, hauthorizes⟩
  rcases Reference.exists_revocation (.number (.posInt 7)) (.string "holder") with
    ⟨revocation, hrevocation⟩
  have hspec := revocation_permanent Reference.rfc8785 Reference.issuer
    (Reference.signVerifies Reference.identityKeys) hrevocation [.addIssuerAuthority authority]
    ⟨_, List.mem_singleton_self _, _, hauthorizes⟩
  exact ⟨authority, revocation, hauthority, hrevocation, hspec.1, ((hspec.2 []).1 _ rfl).1⟩

/-! ## Authorities an issuer makes -/

/-- An authority with an empty protocol or location is refused before its signature is
looked at. -/
theorem verify_of_empty_location (authority : IssuerAuthority S)
    (h : ¬∀ location ∈ authority.issuer.revocation,
      location.protocol ≠ "" ∧ location.location ≠ "") :
    authority.verify = .error (.error .verificationFailed) := by
  have hvalidate : validateRevocationLocations S authority.issuer.revocation
      = .error .verificationFailed := by
    cases hresult : validateRevocationLocations S authority.issuer.revocation with
    | ok u => exact absurd (validateRevocationLocations_eq_ok.mp hresult) h
    | error e =>
        unfold validateRevocationLocations at hresult
        split at hresult
        · exact hresult.symm
        · cases hresult
  rw [IssuerAuthority.verify, hvalidate]
  rfl

/-- An authority that an issuer made verifies, with what the issuer put in, and gives
every verifier the issuance key, exactly when all its locations are filled in: making
it does not check them. -/
theorem authority_usable_iff (issuer : IssuerContext S)
    (hsign : S.SignVerifies issuer.identityKeys) {locations : List RevocationLocation}
    {rng : S.NostrRng} {authority : IssuerAuthority S}
    (h : issuer.issuerAuthority locations rng = .ok authority) :
    (authority.verify = .ok ⟨issuer.issuerId, issuer.keyPair.pk, locations⟩ ∧
      ∀ context : VerificationContext S,
        (context.addIssuerAuthority authority).1 = .ok () ∧
        (context.addIssuerAuthority authority).2.issuers.lookup issuer.issuerId
          = some issuer.keyPair.pk) ↔
      ∀ location ∈ locations, location.protocol ≠ "" ∧ location.location ≠ "" := by
  rcases IssuerContext.issuerAuthority_eq_ok.mp h with ⟨digest, hdigest, rfl⟩
  constructor
  · intro husable
    exact (IssuerAuthority.verify_eq_ok.mp husable.1).1.1
  · intro hlocations
    have haccepted := IssuerContext.issuerAuthority_accepted hsign hlocations h
    refine ⟨IssuerAuthority.verify_eq_ok.mpr ⟨haccepted, rfl⟩, ?_⟩
    intro context
    rw [addIssuerAuthority_of_accepted haccepted]
    exact ⟨rfl, AList.lookup_insert _⟩

/-- The reference issuer announces a relay, and a new verifier accepts it. -/
theorem authority_usable_iff_relay :
    ∃ authority, Reference.issuer.issuerAuthority [⟨"nostr", "wss://relay.example.com"⟩] ()
        = .ok authority ∧
      ((new : VerificationContext Reference.suite).addIssuerAuthority authority).1 = .ok () := by
  rcases Reference.exists_authority [⟨"nostr", "wss://relay.example.com"⟩] with
    ⟨authority, hauthority⟩
  have husable := (authority_usable_iff Reference.issuer
    (Reference.signVerifies Reference.identityKeys) hauthority).mpr (by simp)
  exact ⟨authority, hauthority, (husable.2 new).1⟩

/-- With an empty location the authority is made and signed, and no verifier takes it. -/
theorem authority_usable_counterexample :
    ∃ authority, Reference.issuer.issuerAuthority [⟨"nostr", ""⟩] () = .ok authority ∧
      authority.verify = .error (.error .verificationFailed) ∧
      ∀ context : VerificationContext Reference.suite,
        (context.addIssuerAuthority authority).1 = .error (.error .verificationFailed) := by
  rcases Reference.exists_authority [⟨"nostr", ""⟩] with ⟨authority, hauthority⟩
  rcases IssuerContext.issuerAuthority_eq_ok.mp hauthority with ⟨digest, -, rfl⟩
  have hverify := verify_of_empty_location (S := Reference.suite) ⟨.v1,
    ⟨Reference.issuer.issuerId, Reference.issuer.keyPair.pk, [⟨"nostr", ""⟩]⟩,
    ⟨Reference.issuer.signIdentityDigest digest ()⟩⟩ (by simp)
  refine ⟨_, hauthority, hverify, ?_⟩
  intro context
  simp only [addIssuerAuthority, hverify]

end VerificationContext

end PeerBadge
