import PeerBadge.Presentation

/-! # Who said what

A whole deployment: issuers and holders sign with identity keys, and any number of
verifiers are handed authorities, revocations, credentials and authorizations, by
anybody and in any order. One identity key may act as issuer and as holder.

Signatures are assumed to be unforgeable: a signature under an honest key that a
verifier is shown is on a digest the key has signed before. From digests to payloads
leads the unambiguity of preimages, and so whatever verifiers know of an honest issuer
the issuer has said, and what they accept for an honest holder the holder has signed.
-/

namespace PeerBadge

variable {S : Suite}

/-- Something that happens in a deployment: an identity key signs, or a verifier is
handed something. -/
inductive Action (S : Suite) where
  | issuerAuthority (issuer : IssuerContext S) (revocation : List RevocationLocation)
      (rng : S.NostrRng)
  | revokeCredential (issuer : IssuerContext S) (credential : SignedCredential) (rng : S.NostrRng)
  | authorizeCredentialUse (holder : HolderContext S) (request : HolderAuthorizationRequest)
      (credential : SignedCredential) (issuedAt : Timestamp) (rng : S.NostrRng)
  | deliver (verifier : Nat) (call : Call S)
  | verify (verifier : Nat) (credential : SignedCredential)
  | present (verifier : Nat) (credential : SignedCredential) (authorization : HolderAuthorization)
      (now : Timestamp)

namespace Action

/-- The key signs the payload. -/
def Signs (key : NostrPublicKey) (payload : Payload S) : Action S → Prop
  | .issuerAuthority issuer revocation rng =>
      issuer.issuerId.key = key ∧ ∃ authority,
        issuer.issuerAuthority revocation rng = .ok authority ∧ .issuer authority.issuer = payload
  | .revokeCredential issuer credential rng =>
      issuer.issuerId.key = key ∧ ∃ signedRevocation,
        issuer.revokeCredential credential rng = .ok signedRevocation ∧
          .revocation signedRevocation.revocation = payload
  | .authorizeCredentialUse holder request credential issuedAt rng =>
      holder.holderId.key = key ∧ ∃ authorization,
        holder.authorizeCredentialUseAtTime request credential issuedAt rng = .ok authorization ∧
          .authorization authorization.authorization = payload
  | _ => False

/-- The key, the payload and the signature a verifier is shown. -/
def shown : Action S → Option (NostrPublicKey × Payload S × SchnorrSignature)
  | .deliver _ (.addIssuerAuthority authority) =>
      some (authority.issuer.issuerIdPubkey.key, .issuer authority.issuer,
        authority.proof.signature)
  | .deliver _ (.addRevocation signedRevocation) =>
      some (signedRevocation.proof.issuerIdPubkey.key, .revocation signedRevocation.revocation,
        signedRevocation.proof.signature)
  | .present _ _ authorization _ =>
      some (authorization.authorization.holderIdPubkey.key,
        .authorization authorization.authorization, authorization.proof.signature)
  | _ => none

/-- A verifier is shown a valid signature of the key on this digest of the payload. -/
def Shows (key : NostrPublicKey) (payload : Payload S) (digest : Sha256Output)
    (action : Action S) : Prop :=
  ∃ signature, action.shown = some (key, payload, signature) ∧ payload.digest = .ok digest ∧
    S.ValidSchnorr key signature digest

/-- The credential that is digested. -/
def content : Action S → Option Credential
  | .revokeCredential _ credential _ => some credential.credential
  | .authorizeCredentialUse _ _ credential _ _ => some credential.credential
  | .verify _ credential => some credential.credential
  | .present _ credential _ _ => some credential.credential
  | _ => none

/-- The call a verifier gets. -/
def callTo (verifier : Nat) : Action S → Option (Call S)
  | .deliver other call => if other = verifier then some call else none
  | _ => none

end Action

namespace Deployment

/-! ## Verifiers -/

def step (verifiers : Nat → VerificationContext S) : Action S → Nat → VerificationContext S
  | .deliver verifier call =>
      Function.update verifiers verifier ((verifiers verifier).step call)
  | _ => verifiers

/-- The verifiers after a list of actions, all of them new at the start. -/
def run (actions : List (Action S)) : Nat → VerificationContext S :=
  Runs.run step (fun _ => .new) actions

/-- The calls a verifier gets. -/
def delivered (verifier : Nat) (actions : List (Action S)) : List (Call S) :=
  actions.filterMap (Action.callTo verifier)

/-- A verifier takes a step exactly when something is delivered to it. -/
theorem step_apply (verifiers : Nat → VerificationContext S) (action : Action S) (verifier : Nat) :
    step verifiers action verifier
      = Runs.run VerificationContext.step (verifiers verifier) (action.callTo verifier).toList := by
  cases action with
  | deliver other call =>
      by_cases h : other = verifier
      · subst h
        simp [step, Action.callTo]
      · simp [step, Action.callTo, h, Function.update_of_ne (Ne.symm h)]
  | _ => rfl

/-- A verifier only sees the calls it gets. -/
theorem run_apply (actions : List (Action S)) (verifier : Nat) :
    run actions verifier = VerificationContext.run (delivered verifier actions) := by
  refine Runs.history (P := fun actions (verifiers : Nat → VerificationContext S) =>
    verifiers verifier = VerificationContext.run (delivered verifier actions)) rfl ?_ actions
  intro actions verifiers action h
  have hdelivered : delivered verifier (actions ++ [action])
      = delivered verifier actions ++ (action.callTo verifier).toList := by
    rw [delivered, delivered, List.filterMap_append]
    cases hcall : action.callTo verifier <;> simp [hcall]
  rw [step_apply, h, hdelivered, VerificationContext.run, VerificationContext.run,
    Runs.run_append]

theorem mem_of_mem_delivered {actions : List (Action S)} {verifier : Nat} {call : Call S}
    (h : call ∈ delivered verifier actions) : .deliver verifier call ∈ actions := by
  rcases List.mem_filterMap.mp h with ⟨action, haction, hcall⟩
  cases action with
  | deliver other call' =>
      simp only [Action.callTo] at hcall
      split at hcall
      · rename_i heq
        subst heq
        cases hcall
        exact haction
      · cases hcall
  | _ => cases hcall

/-! ## What is assumed -/

/-- What is shown under an honest key, the key has signed before: its owner signed
something with that digest. -/
def Unforged (Honest : NostrPublicKey → Prop) (actions : List (Action S)) : Prop :=
  Runs.Answered
    (fun action (claim : NostrPublicKey × Sha256Output) =>
      Honest claim.1 ∧ ∃ payload, action.Shows claim.1 payload claim.2)
    (fun action claim => ∃ payload, action.Signs claim.1 payload ∧ payload.digest = .ok claim.2)
    actions

/-- SHA-256 tells the preimages of two payloads apart. -/
def Apart (p q : Payload S) : Prop :=
  ∀ bytes bytes', p.preimage = .ok bytes → q.preimage = .ok bytes' → S.CollisionFree bytes bytes'

/-- SHA-256 does not collide on what a key signs and what is shown under it, nor on the
credentials that are digested. -/
structure NoCollisions (actions : List (Action S)) : Prop where
  signed : ∀ action ∈ actions, ∀ action' ∈ actions, ∀ key p q digest,
    action.Signs key p → action'.Shows key q digest → Apart p q
  content : ∀ action ∈ actions, ∀ action' ∈ actions, ∀ p q,
    action.content = some p → action'.content = some q →
    Apart (S := S) (.credential p) (.credential q)

/-- The same preimage. -/
def Alike (p q : Payload S) : Prop := ∃ bytes, p.preimage = .ok bytes ∧ q.preimage = .ok bytes

theorem Apart.alike {p q : Payload S} (h : Apart p q) {digest : Sha256Output}
    (hp : p.digest = .ok digest) (hq : q.digest = .ok digest) : Alike p q := by
  rcases Payload.digest_eq_ok.mp hp with ⟨bytes, hbytes, hhash⟩
  rcases Payload.digest_eq_ok.mp hq with ⟨bytes', hbytes', hhash'⟩
  have hsame := h bytes bytes' hbytes hbytes' (hhash.trans hhash'.symm)
  exact ⟨bytes, hbytes, hsame ▸ hbytes'⟩

theorem apart_self (p : Payload S) : Apart p p := by
  intro bytes bytes' h h' _
  exact Except.ok.inj (h.symm.trans h')

/-- Payloads with different digests are told apart. -/
theorem Apart.of_digest_ne {p q : Payload S} (h : p.digest.toOption ≠ q.digest.toOption) :
    Apart p q := by
  intro bytes bytes' hbytes hbytes' hhash
  have hp := Payload.digest_eq_ok.mpr ⟨bytes, hbytes, rfl⟩
  have hq := Payload.digest_eq_ok.mpr ⟨bytes', hbytes', rfl⟩
  rw [hp, hq, hhash] at h
  exact absurd rfl h

/-- Nothing collides when there is one payload for each key, and the credentials are told
apart. -/
theorem NoCollisions.of_one {actions : List (Action S)} (payload : NostrPublicKey → Payload S)
    {credentials : List Credential}
    (hapart : ∀ p ∈ credentials, ∀ q ∈ credentials,
      Apart (S := S) (.credential p) (.credential q))
    (hsigns : ∀ action ∈ actions, ∀ key p, action.Signs key p → p = payload key)
    (hshows : ∀ action ∈ actions, ∀ key q digest, action.Shows key q digest → q = payload key)
    (hcontent : ∀ action ∈ actions, ∀ p, action.content = some p → p ∈ credentials) :
    NoCollisions actions where
  signed action haction action' haction' key p q digest hp hq := by
    rw [hsigns action haction key p hp, hshows action' haction' key q digest hq]
    exact apart_self _
  content action haction action' haction' p q hp hq :=
    hapart p (hcontent action haction p hp) q (hcontent action' haction' q hq)

/-- Passing on what was signed forges nothing. -/
theorem Unforged.concat {Honest : NostrPublicKey → Prop} {actions : List (Action S)}
    {action : Action S} (h : Unforged Honest actions)
    (hrelayed : ∀ key payload digest, action.Shows key payload digest →
      ∃ earlier ∈ actions, earlier.Signs key payload) :
    Unforged Honest (actions ++ [action]) := by
  refine Runs.answered_concat.mpr ⟨h, ?_⟩
  intro claim hclaim
  rcases hclaim with ⟨-, payload, hshows⟩
  rcases hrelayed claim.1 payload claim.2 hshows with ⟨earlier, hearlier, hsigns⟩
  rcases hshows with ⟨-, -, hdigest, -⟩
  exact ⟨earlier, hearlier, payload, hsigns, hdigest⟩

theorem Unforged.append {Honest : NostrPublicKey → Prop} {actions later : List (Action S)}
    (h : Unforged Honest actions)
    (hrelayed : ∀ action ∈ later, ∀ key payload digest, action.Shows key payload digest →
      ∃ earlier ∈ actions, earlier.Signs key payload) :
    Unforged Honest (actions ++ later) := by
  induction later using List.reverseRecOn with
  | nil => rwa [List.append_nil]
  | append_singleton later action ih =>
      rw [← List.append_assoc]
      refine (ih ?_).concat ?_
      · intro other hother
        exact hrelayed other (List.mem_append_left _ hother)
      · intro key payload digest hshows
        rcases hrelayed action (by simp) key payload digest hshows with
          ⟨earlier, hearlier, hsigns⟩
        exact ⟨earlier, List.mem_append_left _ hearlier, hsigns⟩

/-! ## From digests to payloads -/

variable {Honest : NostrPublicKey → Prop} {actions : List (Action S)}

/-- What is shown under an honest key, the key has signed before. -/
theorem answered (hunforged : Unforged Honest actions) (hfree : NoCollisions actions) :
    Runs.Answered
      (fun action (claim : NostrPublicKey × Payload S) =>
        Honest claim.1 ∧ ∃ digest, action.Shows claim.1 claim.2 digest)
      (fun action claim => ∃ payload, action.Signs claim.1 payload ∧ Alike payload claim.2)
      actions := by
  refine Runs.Answered.imp hunforged ?_
  intro action haction claim hclaim
  rcases hclaim with ⟨hhonest, digest, hshows⟩
  refine ⟨(claim.1, digest), ⟨hhonest, claim.2, hshows⟩, ?_⟩
  intro earlier hearlier hsigned
  rcases hsigned with ⟨payload, hsigns, hdigest⟩
  rcases hshows with ⟨signature, hshown, hclaimed, hvalid⟩
  have hapart := hfree.signed earlier hearlier action haction claim.1 payload claim.2 digest hsigns
    ⟨signature, hshown, hclaimed, hvalid⟩
  exact ⟨payload, hsigns, hapart.alike hdigest hclaimed⟩

/-- Only an authority is signed like an authority, and it says the same. -/
theorem signs_issuer (hS : S.Rfc8785) (hder : S.DerInjective) {action : Action S}
    {key : NostrPublicKey} {payload : Payload S} {issuer : Issuer S}
    (hsigns : action.Signs key payload) (halike : Alike payload (.issuer issuer)) :
    ∃ context rng authority, action = .issuerAuthority context issuer.revocation rng ∧
      context.issuerAuthority issuer.revocation rng = .ok authority ∧
      context.issuerId = issuer.issuerIdPubkey ∧ context.keyPair.pk = issuer.issuanceKey := by
  rcases halike with ⟨bytes, hp, hq⟩
  have hsame := Payload.same_of_preimage_eq hS hder hp hq
  cases action with
  | issuerAuthority context revocation rng =>
      rcases hsigns with ⟨-, authority, hauthority, rfl⟩
      rcases IssuerContext.issuerAuthority_eq_ok.mp hauthority with ⟨digest, -, rfl⟩
      rcases hsame with ⟨hid, hkey, rfl⟩
      exact ⟨context, rng, _, rfl, hauthority, hid, hkey⟩
  | revokeCredential context credential rng =>
      rcases hsigns with ⟨-, signedRevocation, -, rfl⟩
      exact absurd hsame id
  | authorizeCredentialUse holder request credential issuedAt rng =>
      rcases hsigns with ⟨-, authorization, -, rfl⟩
      exact absurd hsame id
  | _ => exact absurd hsigns id

/-- Only a revocation is signed like a revocation, and it revokes the same digest. -/
theorem signs_revocation (hS : S.Rfc8785) (hder : S.DerInjective) {action : Action S}
    {key : NostrPublicKey} {payload : Payload S} {revocation : Revocation}
    (hsigns : action.Signs key payload) (halike : Alike payload (.revocation revocation)) :
    ∃ context credential rng signedRevocation,
      action = .revokeCredential context credential rng ∧ context.issuerId.key = key ∧
      context.revokeCredential credential rng = .ok signedRevocation ∧
      credential.credential.digest S = .ok revocation.credentialDigest.output := by
  rcases halike with ⟨bytes, hp, hq⟩
  have hsame := Payload.same_of_preimage_eq hS hder hp hq
  cases action with
  | revokeCredential context credential rng =>
      rcases hsigns with ⟨hkey, signedRevocation, hrevoke, rfl⟩
      rcases IssuerContext.revokeCredential_eq_ok.mp hrevoke with
        ⟨-, credentialDigest, digest, hdigest, -, rfl⟩
      refine ⟨context, credential, rng, _, rfl, hkey, hrevoke, ?_⟩
      rw [hdigest]
      exact congrArg (fun d : CredentialDigest => Except.ok d.output) hsame
  | issuerAuthority context locations rng =>
      rcases hsigns with ⟨-, authority, -, rfl⟩
      exact absurd hsame id
  | authorizeCredentialUse holder request credential issuedAt rng =>
      rcases hsigns with ⟨-, authorization, -, rfl⟩
      exact absurd hsame id
  | _ => exact absurd hsigns id

/-- Only an authorization is signed like an authorization, and it has the same canonical
bytes. -/
theorem signs_authorization (hS : S.Rfc8785) (hder : S.DerInjective) {action : Action S}
    {key : NostrPublicKey} {payload : Payload S} {statement : HolderAuthorizationStatement}
    (hsigns : action.Signs key payload) (halike : Alike payload (.authorization statement)) :
    ∃ holder request credential issuedAt rng signed,
      action = .authorizeCredentialUse holder request credential issuedAt rng ∧
      holder.authorizeCredentialUseAtTime request credential issuedAt rng = .ok signed ∧
      canonicalizeHolderAuthorization S signed.authorization
        = canonicalizeHolderAuthorization S statement := by
  rcases halike with ⟨bytes, hp, hq⟩
  have hsame := Payload.same_of_preimage_eq hS hder hp hq
  cases action with
  | authorizeCredentialUse holder request credential issuedAt rng =>
      rcases hsigns with ⟨-, signed, hauthorize, rfl⟩
      rcases Payload.preimage_inj hp hq with ⟨-, canonical, hcp, hcq⟩
      simp only [Payload.canonical, Outcome.mapError_eq_ok] at hcp hcq
      exact ⟨holder, request, credential, issuedAt, rng, signed, rfl, hauthorize,
        hcp.trans hcq.symm⟩
  | issuerAuthority context locations rng =>
      rcases hsigns with ⟨-, authority, -, rfl⟩
      exact absurd hsame id
  | revokeCredential context credential rng =>
      rcases hsigns with ⟨-, signedRevocation, -, rfl⟩
      exact absurd hsame id
  | _ => exact absurd hsigns id

/-- Credentials with one digest have one canonical form. -/
theorem canonical_eq_of_digest {p q : Credential}
    (hapart : Apart (S := S) (.credential p) (.credential q))
    {digest : Sha256Output} (hp : p.digest S = .ok digest) (hq : q.digest S = .ok digest) :
    canonicalizeCredential S p = canonicalizeCredential S q := by
  have hdigest : ∀ c : Credential, c.digest S = .ok digest →
      (Payload.credential c : Payload S).digest = .ok digest := by
    intro c hc
    simp only [Payload.digest, hc, Outcome.mapError_ok]
  rcases hapart.alike (hdigest p hp) (hdigest q hq) with ⟨bytes, hbytes, hbytes'⟩
  rcases Payload.preimage_inj hbytes hbytes' with ⟨-, canonical, hcp, hcq⟩
  simp only [Payload.canonical, Outcome.mapError_eq_ok] at hcp hcq
  exact hcp.trans hcq.symm

/-! ## What verifiers know -/

/-- The key a verifier holds for an honest issuer is one the issuer has announced. -/
theorem lookup_answered (hS : S.Rfc8785) (hder : S.DerInjective)
    (hunforged : Unforged Honest actions) (hfree : NoCollisions actions) {verifier : Nat}
    {issuerId : IssuerId} {key : S.PbrsaPublicKey} (hhonest : Honest issuerId.key)
    (hkey : (run actions verifier).issuers.lookup issuerId = some key) :
    ∃ context revocation rng authority, .issuerAuthority context revocation rng ∈ actions ∧
      context.issuerAuthority revocation rng = .ok authority ∧
      context.issuerId = issuerId ∧ context.keyPair.pk = key := by
  rw [run_apply, (VerificationContext.tracks_run _).key] at hkey
  rcases hkey with ⟨call, ⟨pre, post, hsplit, -, -⟩, hauthorizes⟩
  have hmem : call ∈ delivered verifier actions := by rw [hsplit]; simp
  have haction := mem_of_mem_delivered hmem
  cases call with
  | addRevocation signedRevocation => exact absurd hauthorizes id
  | addIssuerAuthority authority =>
      -- the authority was shown with a valid signature, so the issuer signed one like it
      rcases hauthorizes with ⟨⟨-, digest, hdigest, hvalid⟩, rfl, rfl⟩
      have hshows : (Action.deliver verifier (.addIssuerAuthority authority)).Shows
          authority.issuer.issuerIdPubkey.key (.issuer authority.issuer) digest :=
        ⟨_, rfl, hdigest, hvalid⟩
      rcases (answered hunforged hfree).exists_answer haction
        (c := (_, .issuer authority.issuer)) ⟨hhonest, digest, hshows⟩ with
        ⟨earlier, hearlier, payload, hsigns, halike⟩
      rcases signs_issuer hS hder hsigns halike with
        ⟨context, rng, announced, rfl, hannounced, hid, hpk⟩
      exact ⟨context, _, rng, announced, hearlier, hannounced, hid, hpk⟩

/-- What a verifier holds as revoked by an honest issuer the issuer has revoked. -/
theorem revoked_answered (hS : S.Rfc8785) (hder : S.DerInjective)
    (hunforged : Unforged Honest actions) (hfree : NoCollisions actions) {verifier : Nat}
    {issuerId : IssuerId} {digest : CredentialDigest} (hhonest : Honest issuerId.key)
    (hmem : (issuerId, (⟨digest⟩ : Revocation)) ∈ (run actions verifier).revocations) :
    ∃ context credential rng signedRevocation,
      .revokeCredential context credential rng ∈ actions ∧ context.issuerId = issuerId ∧
      context.revokeCredential credential rng = .ok signedRevocation ∧
      credential.credential.digest S = .ok digest.output := by
  rw [run_apply, (VerificationContext.tracks_run _).revoked] at hmem
  rcases hmem with ⟨pre, call, post, hsplit, hrevokes, -⟩
  have hmem : call ∈ delivered verifier actions := by rw [hsplit]; simp
  have haction := mem_of_mem_delivered hmem
  cases call with
  | addIssuerAuthority authority => exact absurd hrevokes id
  | addRevocation signedRevocation =>
      rcases hrevokes with ⟨⟨output, hdigest, hvalid⟩, rfl, rfl⟩
      have hpayload : (Payload.revocation signedRevocation.revocation : Payload S).digest
          = .ok output := by
        simp only [Payload.digest, hdigest, Outcome.mapError_ok]
      rcases (answered hunforged hfree).exists_answer haction
        (c := (_, .revocation signedRevocation.revocation))
        ⟨hhonest, output, _, rfl, hpayload, hvalid⟩ with
        ⟨earlier, hearlier, payload, hsigns, halike⟩
      rcases signs_revocation hS hder hsigns halike with
        ⟨context, credential, rng, signed, rfl, hid, hrevoke, hcredential⟩
      exact ⟨context, credential, rng, signed, hearlier, congrArg IssuerId.mk hid, hrevoke,
        hcredential⟩

theorem NoCollisions.of_append {later : List (Action S)} (h : NoCollisions (actions ++ later)) :
    NoCollisions actions where
  signed action haction action' haction' :=
    h.signed action (List.mem_append_left _ haction) action' (List.mem_append_left _ haction')
  content action haction action' haction' :=
    h.content action (List.mem_append_left _ haction) action' (List.mem_append_left _ haction')

/-- A verifier accepts a credential of an honest issuer only under a key the issuer has
successfully announced, and refuses one as revoked only if the issuer has successfully
revoked it: nobody else can bring in a key or take a credential away. -/
theorem verify_answered (hS : S.Rfc8785) (hder : S.DerInjective)
    (hunforged : Unforged Honest actions) (hfree : NoCollisions actions)
    {pre post : List (Action S)} {verifier : Nat} {credential : SignedCredential}
    (hsplit : actions = pre ++ .verify verifier credential :: post)
    (hhonest : Honest credential.credential.issuerIdPubkey.key) :
    ((run pre verifier).verifyCredential credential = .ok () →
      ∃ issuer revocation rng authority, .issuerAuthority issuer revocation rng ∈ pre ∧
        issuer.issuerAuthority revocation rng = .ok authority ∧
        issuer.issuerId = credential.credential.issuerIdPubkey ∧
        verifyCredentialWithKey issuer.keyPair.pk credential = .ok ()) ∧
    ((run pre verifier).verifyCredential credential = .error .credentialRevoked →
      ∃ issuer revoked rng signedRevocation, .revokeCredential issuer revoked rng ∈ pre ∧
        issuer.revokeCredential revoked rng = .ok signedRevocation ∧
        issuer.issuerId = credential.credential.issuerIdPubkey ∧
        canonicalizeCredential S revoked.credential
          = canonicalizeCredential S credential.credential) := by
  subst hsplit
  have hbefore : Unforged Honest pre := Runs.Answered.of_append hunforged
  constructor
  · intro hok
    rcases VerificationContext.verifyCredential_eq_ok.mp hok with ⟨key, -, hkey, hproof, -, -⟩
    rcases lookup_answered hS hder hbefore hfree.of_append hhonest hkey with
      ⟨issuer, revocation, rng, authority, hmem, hauthority, hid, rfl⟩
    exact ⟨issuer, revocation, rng, authority, hmem, hauthority, hid, hproof⟩
  · intro hrevoked
    rcases VerificationContext.verifyCredential_eq_revoked.mp hrevoked with
      ⟨key, digest, -, -, hdigest, hentry⟩
    rcases revoked_answered hS hder hbefore hfree.of_append hhonest hentry with
      ⟨issuer, revoked, rng, signedRevocation, hmem, hid, hrevoke, hrevokedDigest⟩
    refine ⟨issuer, revoked, rng, signedRevocation, hmem, hrevoke, hid, ?_⟩
    have hapart := hfree.content (.revokeCredential issuer revoked rng)
      (List.mem_append_left _ hmem) (.verify verifier credential) (by simp) revoked.credential
      credential.credential rfl rfl
    exact canonical_eq_of_digest hapart hrevokedDigest hdigest

/-- The reference issuer announces its key, and a verifier takes it in. -/
def announced (authority : IssuerAuthority Reference.suite) : List (Action Reference.suite) :=
  [.issuerAuthority Reference.issuer [] (), .deliver 0 (.addIssuerAuthority authority)]

theorem unforged_announced {authority : IssuerAuthority Reference.suite}
    (h : Reference.issuer.issuerAuthority [] () = .ok authority) :
    Unforged (fun _ => True) (announced authority) := by
  have hnothing : Unforged (fun _ => True) ([] : List (Action Reference.suite)) :=
    Runs.answered_nil _ _
  have hsigned : Unforged (fun _ => True) [Action.issuerAuthority Reference.issuer [] ()] := by
    refine hnothing.concat ?_
    rintro key payload digest ⟨signature, hshown, -⟩
    cases hshown
  refine Unforged.concat hsigned ?_
  rintro key payload digest ⟨signature, hshown, -⟩
  cases hshown
  rcases IssuerContext.issuerAuthority_eq_ok.mp h with ⟨output, -, rfl⟩
  exact ⟨_, List.mem_singleton_self _, rfl, _, h, rfl⟩

theorem unforged_verified {authority : IssuerAuthority Reference.suite}
    (h : Reference.issuer.issuerAuthority [] () = .ok authority) (credential : SignedCredential) :
    Unforged (fun _ => True) (announced authority ++ [.verify 0 credential]) := by
  refine (unforged_announced h).concat ?_
  rintro key payload digest ⟨signature, hshown, -⟩
  cases hshown

theorem noCollisions_verified {authority : IssuerAuthority Reference.suite}
    (h : Reference.issuer.issuerAuthority [] () = .ok authority) (credential : SignedCredential) :
    NoCollisions (announced authority ++ [.verify 0 credential]) := by
  have hmem : ∀ {action}, action ∈ announced authority ++ [.verify 0 credential] →
      action = .issuerAuthority Reference.issuer [] () ∨
      action = .deliver 0 (.addIssuerAuthority authority) ∨ action = .verify 0 credential := by
    intro action haction
    simpa [announced] using haction
  have hself : ∀ p ∈ [credential.credential], ∀ q ∈ [credential.credential],
      Apart (S := Reference.suite) (.credential p) (.credential q) := by
    intro p hp q hq
    rw [List.mem_singleton.mp hp, List.mem_singleton.mp hq]
    exact apart_self _
  apply NoCollisions.of_one (fun _ => .issuer authority.issuer) hself
  · rintro action haction key p hsigns
    rcases hmem haction with rfl | rfl | rfl
    · rcases hsigns with ⟨-, signed, hsigned, rfl⟩
      rw [Except.ok.inj (h.symm.trans hsigned)]
    · exact absurd hsigns id
    · exact absurd hsigns id
  · rintro action haction key q digest ⟨signature, hshown, -⟩
    rcases hmem haction with rfl | rfl | rfl <;> cases hshown
    rfl
  · rintro action haction p hp
    rcases hmem haction with rfl | rfl | rfl <;> cases hp
    exact List.mem_singleton_self _

theorem verifyCredential_announced {authority : IssuerAuthority Reference.suite}
    (h : (Call.addIssuerAuthority authority).Authorizes Reference.issuer.issuerId
      Reference.issuer.keyPair.pk) (info blindMsg : Value) :
    (run (announced authority) 0).verifyCredential (Reference.credential info blindMsg)
      = .ok () := by
  rw [run_apply]
  exact VerificationContext.verifyCredential_of_authorizes h info blindMsg

/-- The credential of the reference issuer is accepted, and so the key was announced. -/
theorem verify_answered_reference :
    ∃ authority issuer revocation rng, Reference.issuer.issuerAuthority [] () = .ok authority ∧
      .issuerAuthority issuer revocation rng ∈ announced authority ∧
      (∃ announcement, issuer.issuerAuthority revocation rng = .ok announcement) ∧
      verifyCredentialWithKey issuer.keyPair.pk
        (Reference.credential (.number (.posInt 7)) (.string "holder")) = .ok () := by
  rcases Reference.exists_authorizes with ⟨authority, hauthority, hauthorizes⟩
  let credential := Reference.credential (.number (.posInt 7)) (.string "holder")
  have hsplit : announced authority ++ [.verify 0 credential]
      = announced authority ++ .verify 0 credential :: [] := rfl
  rcases (verify_answered Reference.rfc8785 Reference.derInjective
    (unforged_verified hauthority credential) (noCollisions_verified hauthority credential) hsplit
    trivial).1 (verifyCredential_announced hauthorizes _ _) with
    ⟨issuer, revocation, rng, announcement, hmem, hannouncement, -, hproof⟩
  exact ⟨authority, issuer, revocation, rng, hauthority, hmem, ⟨announcement, hannouncement⟩,
    hproof⟩

/-- What a verifier accepts as authorized by an honest holder, the holder has authorized: a
statement that is signed alike, for a credential with the same canonical bytes. -/
theorem authorization_answered (hS : S.Rfc8785) (hder : S.DerInjective)
    (hunforged : Unforged Honest actions) (hfree : NoCollisions actions)
    {pre post : List (Action S)} {verifier : Nat} {credential : SignedCredential}
    {authorization : HolderAuthorization} {now : Timestamp}
    (hsplit : actions = pre ++ .present verifier credential authorization now :: post)
    (hhonest : Honest authorization.authorization.holderIdPubkey.key)
    (haccepted : (run pre verifier).verifyCredentialAuthorizationAtTime credential authorization now
      = .ok ()) :
    ∃ holder request authorized issuedAt rng signed,
      .authorizeCredentialUse holder request authorized issuedAt rng ∈ pre ∧
      holder.authorizeCredentialUseAtTime request authorized issuedAt rng = .ok signed ∧
      signed.authorization.Alike authorization.authorization ∧
      canonicalizeCredential S authorized.credential
        = canonicalizeCredential S credential.credential := by
  rcases VerificationContext.verifyCredentialAuthorizationAtTime_eq_ok.mp haccepted with
    ⟨-, ⟨output, hdigest, hvalid⟩, -, -, hcredential⟩
  have hpayload : (Payload.authorization authorization.authorization : Payload S).digest
      = .ok output := by
    simp only [Payload.digest, hdigest, Outcome.mapError_ok]
  rcases answered hunforged hfree pre _ post (_, .authorization authorization.authorization) hsplit
    ⟨hhonest, output, _, rfl, hpayload, hvalid⟩ with ⟨earlier, hearlier, payload, hsigns, halike⟩
  rcases signs_authorization hS hder hsigns halike with
    ⟨holder, request, authorized, issuedAt, rng, signed, rfl, hauthorize, hcanonical⟩
  have hstatement := (HolderAuthorizationStatement.alike_iff_canonicalize_eq hS _ _).mpr hcanonical
  refine ⟨holder, request, authorized, issuedAt, rng, signed, hearlier, hauthorize, hstatement, ?_⟩
  have hapart := hfree.content (.authorizeCredentialUse holder request authorized issuedAt rng)
    (by rw [hsplit]; exact List.mem_append_left _ hearlier)
    (.present verifier credential authorization now) (by rw [hsplit]; simp) authorized.credential
    credential.credential rfl rfl
  rcases HolderContext.authorizeCredentialUseAtTime_eq_ok.mp hauthorize with
    ⟨-, credentialDigest, digest, hauthorized, -, rfl⟩
  refine canonical_eq_of_digest hapart hauthorized ?_
  rw [hcredential, ← hstatement.credentialDigest]

/-- A verifier accepts a presentation for an honest holder only if the holder has
successfully authorized that key to present that credential, by then. -/
theorem present_answered (hS : S.Rfc8785) (hder : S.DerInjective)
    (hunforged : Unforged Honest actions) (hfree : NoCollisions actions)
    {pre post : List (Action S)} {verifier : Nat} {credential : SignedCredential}
    {authorization : HolderAuthorization} {now : Timestamp}
    (hsplit : actions = pre ++ .present verifier credential authorization now :: post)
    (hhonest : Honest authorization.authorization.holderIdPubkey.key)
    (haccepted : (run pre verifier).verifyCredentialAuthorizationAtTime credential authorization now
      = .ok ()) :
    ∃ holder request authorized issuedAt rng signed,
      .authorizeCredentialUse holder request authorized issuedAt rng ∈ pre ∧
      holder.authorizeCredentialUseAtTime request authorized issuedAt rng = .ok signed ∧
      credentialHolderId S credential = .ok holder.holderId ∧
      request.subjectPubkey = authorization.authorization.subjectPubkey ∧
      canonicalizeCredential S authorized.credential
        = canonicalizeCredential S credential.credential ∧
      (now.Exact → issuedAt = authorization.authorization.issuedAt ∧ issuedAt.secs ≤ now.secs) := by
  rcases authorization_answered hS hder hunforged hfree hsplit hhonest haccepted with
    ⟨holder, request, authorized, issuedAt, rng, signed, hmem, hauthorize, hstatement, hsame⟩
  rcases VerificationContext.verifyCredentialAuthorizationAtTime_eq_ok.mp haccepted with
    ⟨-, -, hholder, htime, -⟩
  refine ⟨holder, request, authorized, issuedAt, rng, signed, hmem, hauthorize, ?_⟩
  rcases HolderContext.authorizeCredentialUseAtTime_eq_ok.mp hauthorize with
    ⟨-, credentialDigest, digest, -, -, rfl⟩
  refine ⟨?_, hstatement.subjectPubkey, hsame, ?_⟩
  · rw [hholder, ← hstatement.holderIdPubkey]
  · intro hnow
    -- an exact time has no other spelling
    have htimes : authorization.authorization.issuedAt = issuedAt :=
      congrArg HolderAuthorizationStatement.issuedAt (hstatement.eq_of_exact (hnow.of_le htime))
    exact ⟨htimes.symm, by rw [← htimes]; exact htime⟩

section Presented

/-- Holders authorize a key for their credentials. -/
def authorizing (info : Value) (keys : List NostrPublicKey) : List (Action Reference.suite) :=
  keys.map fun key =>
    .authorizeCredentialUse ⟨key⟩ Reference.authorizationRequest (Reference.held info key) ⟨5⟩ ()

/-- The credentials are presented with what the holders have signed. -/
def presenting (info : Value) (authorization : NostrPublicKey → HolderAuthorization)
    (keys : List NostrPublicKey) : List (Action Reference.suite) :=
  keys.map fun key => .present 0 (Reference.held info key) (authorization key) ⟨7⟩

variable {authority : IssuerAuthority Reference.suite} {info : Value}
  {authorization : NostrPublicKey → HolderAuthorization} {keys : List NostrPublicKey}

theorem callTo_presenting {action : Action Reference.suite}
    (h : action ∈ authorizing info keys ++ presenting info authorization keys) (verifier : Nat) :
    action.callTo verifier = none := by
  rcases List.mem_append.mp h with h | h
  · rcases List.mem_map.mp h with ⟨key, -, rfl⟩
    rfl
  · rcases List.mem_map.mp h with ⟨key, -, rfl⟩
    rfl

theorem mem_presented {action : Action Reference.suite}
    (h : action ∈ announced authority
      ++ (authorizing info keys ++ presenting info authorization keys)) :
    action = .issuerAuthority Reference.issuer [] () ∨
    action = .deliver 0 (.addIssuerAuthority authority) ∨
    ∃ key ∈ keys, action = .authorizeCredentialUse ⟨key⟩ Reference.authorizationRequest
        (Reference.held info key) ⟨5⟩ () ∨
      action = .present 0 (Reference.held info key) (authorization key) ⟨7⟩ := by
  rcases List.mem_append.mp h with h | h
  · simp only [announced, List.mem_cons, List.not_mem_nil, or_false] at h
    rcases h with rfl | rfl
    · exact Or.inl rfl
    · exact Or.inr (Or.inl rfl)
  · rcases List.mem_append.mp h with h | h
    · rcases List.mem_map.mp h with ⟨key, hkey, rfl⟩
      exact Or.inr (Or.inr ⟨key, hkey, Or.inl rfl⟩)
    · rcases List.mem_map.mp h with ⟨key, hkey, rfl⟩
      exact Or.inr (Or.inr ⟨key, hkey, Or.inr rfl⟩)

/-- Credentials whose digests are different do not collide. -/
theorem apart_held
    (h : (keys.map fun key => (Payload.credential (Reference.held info key).credential :
      Payload Reference.suite).digest.toOption).Nodup) :
    ∀ p ∈ keys.map fun key => (Reference.held info key).credential,
      ∀ q ∈ keys.map fun key => (Reference.held info key).credential,
        Apart (S := Reference.suite) (.credential p) (.credential q) := by
  intro p hp q hq
  rcases List.mem_map.mp hp with ⟨key, hkey, rfl⟩
  rcases List.mem_map.mp hq with ⟨key', hkey', rfl⟩
  by_cases hsame : key = key'
  · rw [hsame]
    exact apart_self _
  · apply Apart.of_digest_ne
    intro heq
    exact hsame (List.inj_on_of_nodup_map h hkey hkey' heq)

theorem exists_authorization (info : Value) (key : NostrPublicKey) :
    ∃ authorization, HolderContext.authorizeCredentialUseAtTime (S := Reference.suite) ⟨key⟩
      Reference.authorizationRequest (Reference.held info key) ⟨5⟩ () = .ok authorization :=
  (HolderContext.exists_authorizeCredentialUseAtTime_iff Reference.canonicalizes ⟨key⟩
    Reference.authorizationRequest (Reference.held info key) ⟨5⟩ ()).mpr
    ⟨nostrHex key, rfl, Reference.parsePublicKey_nostrHex key⟩

theorem holder_of_authorize {key : NostrPublicKey} {authorization : HolderAuthorization}
    (h : HolderContext.authorizeCredentialUseAtTime (S := Reference.suite) ⟨key⟩
      Reference.authorizationRequest (Reference.held info key) ⟨5⟩ () = .ok authorization) :
    authorization.authorization.holderIdPubkey = ⟨key⟩ := by
  rcases HolderContext.authorizeCredentialUseAtTime_eq_ok.mp h with ⟨-, _, _, -, -, rfl⟩
  rfl

variable (hauthorize : ∀ key, HolderContext.authorizeCredentialUseAtTime (S := Reference.suite)
  ⟨key⟩ Reference.authorizationRequest (Reference.held info key) ⟨5⟩ () = .ok (authorization key))

include hauthorize

/-- Every holder has signed what is shown under its key. -/
theorem unforged_presented (hauthority : Reference.issuer.issuerAuthority [] () = .ok authority) :
    Unforged (fun _ => True)
      (announced authority ++ (authorizing info keys ++ presenting info authorization keys)) := by
  rw [← List.append_assoc]
  refine ((unforged_announced hauthority).append ?_).append ?_
  · rintro action haction key payload digest ⟨signature, hshown, -⟩
    rcases List.mem_map.mp haction with ⟨holder, -, rfl⟩
    cases hshown
  · rintro action haction key payload digest ⟨signature, hshown, -⟩
    rcases List.mem_map.mp haction with ⟨holder, hholder, rfl⟩
    cases hshown
    refine ⟨_, List.mem_append_right _ (List.mem_map_of_mem hholder), ?_⟩
    exact ⟨congrArg HolderId.key (holder_of_authorize (hauthorize holder)).symm,
      authorization holder, hauthorize holder, rfl⟩

/-- With different digests of the credentials, and other keys than the issuer's, nothing
collides. -/
theorem noCollisions_presented (hauthority : Reference.issuer.issuerAuthority [] () = .ok authority)
    (hid : authority.issuer.issuerIdPubkey = Reference.issuer.issuerId)
    (hkeys : Reference.issuer.issuerId.key ∉ keys)
    (hdigests : (keys.map fun key => (Payload.credential (Reference.held info key).credential :
      Payload Reference.suite).digest.toOption).Nodup) :
    NoCollisions
      (announced authority ++ (authorizing info keys ++ presenting info authorization keys)) := by
  have hne : ∀ key ∈ keys, key ≠ Reference.issuer.issuerId.key := by
    rintro key hkey rfl
    exact hkeys hkey
  apply NoCollisions.of_one (fun key =>
    if key = Reference.issuer.issuerId.key then .issuer authority.issuer
    else .authorization (authorization key).authorization) (apart_held hdigests)
  · intro action haction key p hsigns
    rcases mem_presented haction with rfl | rfl | ⟨holder, hholder, rfl | rfl⟩
    · rcases hsigns with ⟨rfl, signed, hsigned, rfl⟩
      rw [if_pos rfl, Except.ok.inj (hauthority.symm.trans hsigned)]
    · exact absurd hsigns id
    · rcases hsigns with ⟨hkey, signed, hsigned, rfl⟩
      have hholderKey : holder = key := hkey
      subst hholderKey
      rw [if_neg (hne holder hholder), Except.ok.inj ((hauthorize holder).symm.trans hsigned)]
    · exact absurd hsigns id
  · rintro action haction key q digest ⟨signature, hshown, -⟩
    rcases mem_presented haction with rfl | rfl | ⟨holder, hholder, rfl | rfl⟩ <;> cases hshown
    · rw [if_pos (by rw [hid])]
    · rw [holder_of_authorize (hauthorize holder), if_neg (hne holder hholder)]
  · intro action haction p hp
    rcases mem_presented haction with rfl | rfl | ⟨holder, hholder, rfl | rfl⟩ <;> cases hp
    · exact List.mem_map_of_mem hholder
    · exact List.mem_map_of_mem hholder

/-- A presentation is accepted at any time after the announcement. -/
theorem verify_presented
    (hauthorizes : (Call.addIssuerAuthority authority).Authorizes Reference.issuer.issuerId
      Reference.issuer.keyPair.pk) {later : List (Action Reference.suite)}
    (hlater : ∀ action ∈ later, action.callTo 0 = none) (key : NostrPublicKey) :
    (run (announced authority ++ later) 0).verifyCredentialAuthorizationAtTime
      (Reference.held info key) (authorization key) ⟨7⟩ = .ok () := by
  have hdelivered : delivered 0 (announced authority ++ later)
      = [.addIssuerAuthority authority] := by
    rw [delivered, List.filterMap_append, List.filterMap_eq_nil_iff.mpr hlater]
    rfl
  apply (HolderContext.verify_authorizeCredentialUseAtTime (Reference.signVerifies _)
    (hauthorize key) _ ⟨7⟩).mpr
  refine ⟨?_, by decide⟩
  rw [run_apply, hdelivered]
  exact VerificationContext.verifyCredential_of_authorizes hauthorizes _ _

end Presented

/-- A holder authorizes a key for its credential of the reference issuer, the verifier
accepts the presentation, and so the holder has authorized it. -/
theorem present_answered_reference :
    ∃ (pre : List (Action Reference.suite)) (key : NostrPublicKey)
      (authorization : HolderAuthorization),
      (run pre 0).verifyCredentialAuthorizationAtTime
        (Reference.held (.number (.posInt 7)) key) authorization ⟨7⟩ = .ok () ∧
      ∃ holder request authorized issuedAt rng signed,
        .authorizeCredentialUse holder request authorized issuedAt rng ∈ pre ∧
        holder.authorizeCredentialUseAtTime request authorized issuedAt rng = .ok signed ∧
        request.subjectPubkey = authorization.authorization.subjectPubkey ∧
        issuedAt = authorization.authorization.issuedAt := by
  rcases Reference.exists_authorizes with ⟨authority, hauthority, hauthorizes⟩
  choose authorization hauthorize using exists_authorization (.number (.posInt 7))
  let key : NostrPublicKey := Vector.replicate 32 2
  have hsplit : announced authority ++ (authorizing (.number (.posInt 7)) [key]
        ++ presenting (.number (.posInt 7)) authorization [key])
      = (announced authority ++ authorizing (.number (.posInt 7)) [key])
        ++ .present 0 (Reference.held (.number (.posInt 7)) key) (authorization key) ⟨7⟩ :: [] :=
    rfl
  have hlater : ∀ action ∈ authorizing (.number (.posInt 7)) [key], action.callTo 0 = none := by
    intro action haction
    rw [List.mem_singleton.mp haction]
    rfl
  have hdigests : ([key].map fun key => (Payload.credential
      (Reference.held (.number (.posInt 7)) key).credential :
        Payload Reference.suite).digest.toOption).Nodup := List.nodup_singleton _
  have haccepted := verify_presented hauthorize hauthorizes hlater key
  rcases present_answered Reference.rfc8785 Reference.derInjective
    (unforged_presented hauthorize hauthority)
    (noCollisions_presented hauthorize hauthority hauthorizes.2.1 (by decide) hdigests) hsplit
    trivial haccepted with
    ⟨holder, request, authorized, issuedAt, rng, signed, hmem, hsigned, -, hsubject, -, htime⟩
  exact ⟨_, key, authorization key, haccepted, holder, request, authorized, issuedAt, rng, signed,
    hmem, hsigned, hsubject, (htime (by unfold Timestamp.Exact; decide)).1⟩

end Deployment

end PeerBadge
