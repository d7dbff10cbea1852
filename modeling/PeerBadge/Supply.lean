import PeerBadge.Badges
import PeerBadge.Counting
import PeerBadge.Deployment
import PeerBadge.Network

/-! # How many credentials there are

One history of everything: what happens to sessions and at issuers, and what is signed
and shown to verifiers.

Blind signatures are assumed to be one-more unforgeable: under a key that is kept, and for
one metadata string, verifiers are at no time shown valid signatures on more messages than
the key has made blind signatures. Messages and metadata are bytes; what they stand for is
carried over by their unambiguity, and keys by what verifiers know of an honest issuer.
-/

namespace PeerBadge

variable {S : Suite}

/-- Something that happens at a holder, at an issuer or at a verifier. -/
abbrev Happening (S : Suite) := Event S ⊕ Action S

namespace Happening

/-- The verifier and the credential it is shown. -/
def shown : Happening S → Option (Nat × SignedCredential)
  | .inr (.verify verifier credential) => some (verifier, credential)
  | .inr (.present verifier credential _ _) => some (verifier, credential)
  | _ => none

/-- A verifier is shown a credential with these canonical bytes, valid under the key. -/
def ShowsBlind (happening : Happening S) (under : S.PbrsaPublicKey × Bytes) (message : Bytes) :
    Prop :=
  ∃ verifier credential, happening.shown = some (verifier, credential) ∧
    canonicalizePbrsaInfo S .v1 credential.credential.issuerIdPubkey credential.credential.info
      = .ok under.2 ∧
    canonicalizePbrsaBlindMsg S .v1 credential.credential.blindMsg = .ok message ∧
    verifyCredentialWithKey under.1 credential = .ok ()

/-- The key makes a blind signature for the metadata. -/
def SignsBlind (happening : Happening S) (under : S.PbrsaPublicKey × Bytes) : Prop :=
  ∃ issuer info request rng response, happening = .inl (.issueCredential issuer info request rng) ∧
    issuer.issueCredential info request rng = .ok response ∧ issuer.keyPair.pk = under.1 ∧
    canonicalizePbrsaInfo S .v1 issuer.issuerId info = .ok under.2

/-- The issuer answers a request for an info of a kind. -/
def Issues (issuerId : IssuerId) (Kind : Value → Prop) (happening : Happening S) : Prop :=
  ∃ issuer info request rng response, happening = .inl (.issueCredential issuer info request rng) ∧
    issuer.issueCredential info request rng = .ok response ∧ issuer.issuerId = issuerId ∧ Kind info

/-- One blind signature is made with one key for one metadata string. -/
theorem SignsBlind.unique {happening : Happening S} {under under' : S.PbrsaPublicKey × Bytes}
    (h : happening.SignsBlind under) (h' : happening.SignsBlind under') : under = under' := by
  rcases h with ⟨issuer, info, request, rng, response, rfl, -, hkey, hmetadata⟩
  rcases h' with ⟨issuer', info', request', rng', response', heq, -, hkey', hmetadata'⟩
  cases heq
  exact Prod.ext (hkey.symm.trans hkey') (Except.ok.inj (hmetadata.symm.trans hmetadata'))

end Happening

namespace Deployment

/-- The part of a history that concerns identity keys and verifiers. -/
def actions (history : List (Happening S)) : List (Action S) := history.filterMap Sum.getRight?

theorem actions_append (history later : List (Happening S)) :
    actions (history ++ later) = actions history ++ actions later :=
  List.filterMap_append

/-- A verifier has been shown the credential and has accepted it. -/
def Accepted (history : List (Happening S)) (credential : SignedCredential) : Prop :=
  ∃ pre happening post verifier, history = pre ++ happening :: post ∧
    happening.shown = some (verifier, credential) ∧
    (run (actions pre) verifier).verifyCredential credential = .ok ()

/-! ## What is assumed -/

/-- Honest issuers announce keys that are kept. -/
def KeepsKeys (Honest : NostrPublicKey → Prop) (Kept : S.PbrsaPublicKey → Prop)
    (history : List (Happening S)) : Prop :=
  ∀ issuer revocation rng, .issuerAuthority issuer revocation rng ∈ actions history →
    Honest issuer.issuerId.key → Kept issuer.keyPair.pk

theorem KeepsKeys.of_append {Honest : NostrPublicKey → Prop} {Kept : S.PbrsaPublicKey → Prop}
    {history later : List (Happening S)} (h : KeepsKeys Honest Kept (history ++ later)) :
    KeepsKeys Honest Kept history := by
  intro issuer revocation rng hmem
  apply h issuer revocation rng
  rw [actions_append]
  exact List.mem_append_left _ hmem

/-- Under a kept key, and for one metadata string, at no time more messages have been shown
with valid signatures than blind signatures have been made. -/
def OneMoreUnforgeable (Kept : S.PbrsaPublicKey → Prop) (history : List (Happening S)) : Prop :=
  Runs.Backed (fun happening under message => Kept under.1 ∧ happening.ShowsBlind under message)
    Happening.SignsBlind history

/-- Nothing that is assumed is broken in a history. -/
structure Unbroken (Honest : NostrPublicKey → Prop) (Kept : S.PbrsaPublicKey → Prop)
    (history : List (Happening S)) : Prop where
  unforged : Unforged Honest (actions history)
  free : NoCollisions (actions history)
  keeps : KeepsKeys Honest Kept history
  oneMore : OneMoreUnforgeable Kept history

/-! ## Credentials -/

section Supply

variable {Honest : NostrPublicKey → Prop} {Kept : S.PbrsaPublicKey → Prop}
  {history pre post : List (Happening S)}

/-- What is accepted of an honest issuer is valid under a key that is kept. -/
theorem Accepted.kept (hS : S.Rfc8785) (hder : S.DerInjective)
    (hunforged : Unforged Honest (actions history)) (hfree : NoCollisions (actions history))
    (hkeeps : KeepsKeys Honest Kept history) {credential : SignedCredential}
    (h : Accepted history credential) (hhonest : Honest credential.credential.issuerIdPubkey.key) :
    ∃ key, Kept key ∧ verifyCredentialWithKey key credential = .ok () ∧
      ∃ happening ∈ history, ∃ verifier, happening.shown = some (verifier, credential) := by
  rcases h with ⟨pre, happening, post, verifier, rfl, hshown, hok⟩
  rw [actions_append] at hunforged hfree
  rcases VerificationContext.verifyCredential_eq_ok.mp hok with ⟨key, -, hkey, hproof, -, -⟩
  rcases lookup_answered hS hder hunforged.of_append hfree.of_append hhonest hkey with
    ⟨issuer, revocation, rng, -, hmem, -, hid, rfl⟩
  refine ⟨issuer.keyPair.pk, ?_, hproof, happening, by simp, verifier, hshown⟩
  apply hkeeps issuer revocation rng
  · rw [actions_append]
    exact List.mem_append_left _ hmem
  · rw [hid]
    exact hhonest

/-- A thing is named by a credential of an issuer, of a kind, with this metadata and this
message. -/
def NamedBy {δ : Type} (issuerId : IssuerId) (Kind : Value → Prop) (Names : Credential → δ → Prop)
    (under : S.PbrsaPublicKey × Bytes) (message : Bytes) (thing : δ) : Prop :=
  ∃ credential : Credential, credential.issuerIdPubkey = issuerId ∧ Kind credential.info ∧
    Names credential thing ∧
    canonicalizePbrsaInfo S .v1 credential.issuerIdPubkey credential.info = .ok under.2 ∧
    canonicalizePbrsaBlindMsg S .v1 credential.blindMsg = .ok message

variable {δ : Type} {issuerId : IssuerId} {Kind : Value → Prop} {Names : Credential → δ → Prop}

/-- Metadata and message determine what canonical bytes determine. -/
theorem NamedBy.unique (hS : S.Rfc8785)
    (hnames : ∀ p q d d', p.toValue.rfc8785 = q.toValue.rfc8785 → Names p d → Names q d' → d = d')
    {under : S.PbrsaPublicKey × Bytes} {message : Bytes} {d d' : δ}
    (h : NamedBy issuerId Kind Names under message d)
    (h' : NamedBy issuerId Kind Names under message d') : d = d' := by
  rcases h with ⟨p, -, -, hd, hinfo, hmessage⟩
  rcases h' with ⟨q, -, -, hd', hinfo', hmessage'⟩
  rcases (canonicalizePbrsaInfo_eq_iff hS .v1 _ _ _ _).mp (hinfo.trans hinfo'.symm) with
    ⟨hid, hsame⟩
  have hmsg : p.blindMsg.rfc8785 = q.blindMsg.rfc8785 :=
    (pbrsaBlindMsgPayload_inj .v1 _ _).mp
      ((canonicalizeJsonValue_eq_iff hS _ _).mp (hmessage.trans hmessage'.symm))
  exact hnames p q d d' ((Credential.toValue_inj p q).mpr ⟨hid, hsame, hmsg⟩) hd hd'

/-- A blind signature for the metadata of such a credential is an answer to a request for an
info of the kind. -/
theorem NamedBy.issues (hS : S.Rfc8785)
    (hkind : ∀ v w : Value, v.rfc8785 = w.rfc8785 → Kind v → Kind w)
    {under : S.PbrsaPublicKey × Bytes} {message : Bytes} {d : δ} {happening : Happening S}
    (h : NamedBy issuerId Kind Names under message d) (hsigns : happening.SignsBlind under) :
    happening.Issues issuerId Kind := by
  rcases h with ⟨p, hid, hp, -, hinfo, -⟩
  rcases hsigns with ⟨issuer, info, request, rng, response, rfl, hissue, -, hmetadata⟩
  rcases (canonicalizePbrsaInfo_eq_iff hS .v1 _ _ _ _).mp (hinfo.trans hmetadata.symm) with
    ⟨hissuer, hsame⟩
  exact ⟨issuer, info, request, rng, response, rfl, hissue, hissuer.symm.trans hid,
    hkind _ _ hsame hp⟩

variable (Names) in
/-- Whatever canonical bytes of credentials determine: at no time has more of it been
accepted of an honest issuer than the issuer has answered requests. -/
theorem accepted_card_le (hS : S.Rfc8785) (hder : S.DerInjective)
    (hunforged : Unforged Honest (actions history)) (hfree : NoCollisions (actions history))
    (hkeeps : KeepsKeys Honest Kept history) (honeMore : OneMoreUnforgeable Kept history)
    (hsplit : history = pre ++ post) (hhonest : Honest issuerId.key)
    (hkind : ∀ v w : Value, v.rfc8785 = w.rfc8785 → Kind v → Kind w)
    (hnames : ∀ p q d d', p.toValue.rfc8785 = q.toValue.rfc8785 → Names p d → Names q d' → d = d')
    {things : Finset δ}
    (hthings : ∀ d ∈ things, ∃ credential, Accepted pre credential ∧
      credential.credential.issuerIdPubkey = issuerId ∧ Kind credential.credential.info ∧
      Names credential.credential d) :
    things.card ≤ Runs.count (Happening.Issues issuerId Kind) pre := by
  refine honeMore.card_le hsplit (fun _ _ _ => Happening.SignsBlind.unique)
    (NamedBy issuerId Kind Names) (fun _ _ _ _ => NamedBy.unique hS hnames)
    (fun _ _ _ _ _ hnamed hsigns => hnamed.issues hS hkind hsigns) ?_
  intro d hd
  rcases hthings d hd with ⟨credential, haccepted, hid, hinfo, hname⟩
  subst hsplit
  rw [actions_append] at hunforged hfree
  rcases haccepted.kept hS hder hunforged.of_append hfree.of_append hkeeps.of_append
    (hid ▸ hhonest) with ⟨key, hkept, hproof, happening, hmem, verifier, hshown⟩
  rcases verifyCredentialWithKey_eq_ok.mp hproof with ⟨metadata, message, -, hmetadata, hmsg, -, -⟩
  exact ⟨(key, metadata), message, ⟨credential.credential, hid, hinfo, hname, hmetadata, hmsg⟩,
    happening, hmem, hkept, verifier, credential, hshown, hmetadata, hmsg, hproof⟩

section Reference

/-- The reference issuer announces its key and answers requests. -/
def issuing (authority : IssuerAuthority Reference.suite) (info : Value)
    (requests : List IssuanceRequest) : List (Happening Reference.suite) :=
  (announced authority).map .inr
    ++ requests.map fun request =>
        .inl (.issueCredential Reference.issuer info request Reference.blindingRng)

variable {authority : IssuerAuthority Reference.suite} {info : Value}
  {requests : List IssuanceRequest} {keys : List NostrPublicKey}

theorem actions_issuing (later : List (Action Reference.suite)) :
    actions (issuing authority info requests ++ later.map .inr) = announced authority ++ later := by
  simp [actions, issuing, List.filterMap_append, List.filterMap_map, Function.comp_def]

theorem shown_issuing {happening : Happening Reference.suite}
    (h : happening ∈ issuing authority info requests) : happening.shown = none := by
  rcases List.mem_append.mp h with h | h
  · simp only [announced, List.map_cons, List.map_nil, List.mem_cons, List.not_mem_nil,
      or_false] at h
    rcases h with rfl | rfl <;> rfl
  · rcases List.mem_map.mp h with ⟨request, -, rfl⟩
    rfl

/-- The bytes that a credential for a holder key is a signature of. -/
def heldMessage (key : NostrPublicKey) : Bytes :=
  (pbrsaBlindMsgPayload .v1 (.string (nostrHex key))).canonical

/-- As many requests are answered as there are keys whose credentials are shown later. -/
theorem oneMoreUnforgeable_issuing
    (hissue : ∀ request ∈ requests, ∃ response,
      Reference.issuer.issueCredential info request Reference.blindingRng = .ok response)
    (hlength : keys.length ≤ requests.length) {later : List (Happening Reference.suite)}
    (hlater : ∀ happening ∈ later, ∀ verifier credential,
      happening.shown = some (verifier, credential) →
        ∃ key ∈ keys, credential = Reference.held info key) :
    OneMoreUnforgeable (fun key => key = Reference.issuer.keyPair.pk)
      (issuing authority info requests ++ later) := by
  refine Runs.Backed.of_first ?_ (fun _ => (keys.map heldMessage).toFinset) ?_
  · rintro happening hmem under message ⟨-, verifier, credential, hshow, -⟩
    rw [shown_issuing hmem] at hshow
    cases hshow
  · rintro happening hmem under message
      ⟨hkept, verifier, credential, hshow, hmetadata, hmessage, -⟩
    rcases hlater happening hmem verifier credential hshow with ⟨key, hkey, rfl⟩
    constructor
    · rw [List.mem_toFinset, ← Except.ok.inj hmessage]
      exact List.mem_map_of_mem hkey
    · calc (keys.map heldMessage).toFinset.card
          ≤ keys.length := by
            rw [← List.length_map heldMessage]
            exact List.toFinset_card_le _
        _ ≤ requests.length := hlength
        _ = Runs.count (fun happening => Happening.SignsBlind happening under)
              (requests.map fun request =>
                .inl (.issueCredential Reference.issuer info request Reference.blindingRng)) := by
            rw [Runs.count_eq_length, List.length_map]
            intro happening hmem
            rcases List.mem_map.mp hmem with ⟨request, hrequest, rfl⟩
            rcases hissue request hrequest with ⟨response, hresponse⟩
            exact ⟨_, _, _, _, response, rfl, hresponse, hkept.symm, hmetadata⟩
        _ ≤ Runs.count (fun happening => Happening.SignsBlind happening under)
              (issuing authority info requests) := by
            rw [issuing, Runs.count_append]
            exact Nat.le_add_left _ _

/-- The one key that is announced is kept. -/
theorem keepsKeys_issuing {later : List (Action Reference.suite)}
    (hlater : ∀ issuer revocation rng, .issuerAuthority issuer revocation rng ∉ later) :
    KeepsKeys (fun _ => True) (fun key => key = Reference.issuer.keyPair.pk)
      (issuing authority info requests ++ later.map .inr) := by
  intro issuer revocation rng hmem _
  rw [actions_issuing] at hmem
  rcases List.mem_append.mp hmem with hmem | hmem
  · simp only [announced, List.mem_cons, List.not_mem_nil, or_false, reduceCtorEq] at hmem
    cases hmem
    rfl
  · exact absurd hmem (hlater issuer revocation rng)

/-- A history in which the reference issuer answers a request for every key, and all holders
present their credentials with success. -/
theorem exists_history (info : Value) (keys : List NostrPublicKey)
    (hissuer : Reference.issuer.issuerId.key ∉ keys)
    (hdigests : (keys.map fun key => (Payload.credential (Reference.held info key).credential :
      Payload Reference.suite).digest.toOption).Nodup) :
    ∃ history : List (Happening Reference.suite),
      Unbroken (fun _ => True) (fun key => key = Reference.issuer.keyPair.pk) history ∧
      ∀ key ∈ keys, ∃ pre authorization post,
        history = pre ++ .inr (.present 0 (Reference.held info key) authorization ⟨7⟩) :: post ∧
        (run (actions pre) 0).verifyCredentialAuthorizationAtTime (Reference.held info key)
          authorization ⟨7⟩ = .ok () ∧
        authorization.authorization.holderIdPubkey = ⟨key⟩ := by
  rcases Reference.exists_authorizes with ⟨authority, hauthority, hauthorizes⟩
  choose authorization hauthorize using exists_authorization info
  choose request pending response hrequest hresponse using fun key =>
    Reference.exists_response info info (.string (nostrHex key)) Reference.blindingRng
      Reference.blindingRng
  let later := authorizing info keys ++ presenting info authorization keys
  refine ⟨issuing authority info (keys.map request) ++ later.map .inr, ⟨?_, ?_, ?_, ?_⟩, ?_⟩
  · rw [actions_issuing]
    exact unforged_presented hauthorize hauthority
  · rw [actions_issuing]
    exact noCollisions_presented hauthorize hauthority hauthorizes.2.1 hissuer hdigests
  · apply keepsKeys_issuing
    intro issuer revocation rng hmem
    rcases List.mem_append.mp hmem with hmem | hmem <;>
      rcases List.mem_map.mp hmem with ⟨key, -, heq⟩ <;> cases heq
  · refine oneMoreUnforgeable_issuing ?_ (Nat.le_of_eq (List.length_map request).symm) ?_
    · intro answered hanswered
      rcases List.mem_map.mp hanswered with ⟨key, -, rfl⟩
      exact ⟨response key, hresponse key⟩
    · intro happening hmem verifier credential hshow
      rcases List.mem_map.mp hmem with ⟨action, haction, rfl⟩
      rcases List.mem_append.mp haction with haction | haction
      · rcases List.mem_map.mp haction with ⟨key, -, rfl⟩
        cases hshow
      · rcases List.mem_map.mp haction with ⟨key, hkey, rfl⟩
        cases hshow
        exact ⟨key, hkey, rfl⟩
  · intro key hkey
    have hmem : .present 0 (Reference.held info key) (authorization key) ⟨7⟩ ∈ later :=
      List.mem_append_right _ (List.mem_map_of_mem hkey)
    rcases List.append_of_mem hmem with ⟨before, after, hsplit⟩
    refine ⟨issuing authority info (keys.map request) ++ before.map .inr, authorization key,
      after.map .inr, by rw [hsplit]; simp, ?_, holder_of_authorize (hauthorize key)⟩
    rw [actions_issuing]
    refine verify_presented hauthorize hauthorizes ?_ key
    intro action haction
    exact callTo_presenting (hsplit ▸ List.mem_append_left _ haction) 0

/-- The info of a badge of level 7. -/
def sevenInfo : Value := (levelCredential (.posInt 7)).credential.info

/-- Two badges of level 7 are issued and presented. -/
theorem exists_history_seven :
    ∃ history : List (Happening Reference.suite),
      Unbroken (fun _ => True) (fun key => key = Reference.issuer.keyPair.pk) history ∧
      ∀ key ∈ Reference.holderKeys, ∃ pre authorization post,
        history = pre ++ .inr (.present 0 (Reference.held sevenInfo key) authorization ⟨7⟩) :: post ∧
        (run (actions pre) 0).verifyCredentialAuthorizationAtTime (Reference.held sevenInfo key)
          authorization ⟨7⟩ = .ok () ∧
        authorization.authorization.holderIdPubkey = ⟨key⟩ :=
  exists_history sevenInfo Reference.holderKeys (by decide) (by decide +kernel)

/-- Credentials for different holders have different canonical bytes. -/
theorem held_canonical_injective (info : Value) : Function.Injective fun key =>
    (Reference.held info key).credential.toValue.canonical := by
  intro key key' h
  have hsame := (canonicalizeJsonValue_eq_iff Reference.rfc8785 _ _).mp (congrArg Except.ok h)
  have hmessage := ((Credential.toValue_inj _ _).mp hsame).2.2
  exact nostrHex_injective (Json.str.inj hmessage)

/-- What is presented with success is accepted. -/
theorem Accepted.of_present {pre post : List (Happening S)} {verifier : Nat}
    {credential : SignedCredential} {authorization : HolderAuthorization} {now : Timestamp}
    (h : (run (actions pre) verifier).verifyCredentialAuthorizationAtTime credential authorization
      now = .ok ()) :
    Accepted (pre ++ .inr (.present verifier credential authorization now) :: post) credential :=
  ⟨pre, _, post, verifier, rfl, rfl,
    (VerificationContext.verifyCredentialAuthorizationAtTime_eq_ok.mp h).1⟩

theorem exists_accepted_seven :
    ∃ history : List (Happening Reference.suite),
      Unbroken (fun _ => True) (fun key => key = Reference.issuer.keyPair.pk) history ∧
      ∀ key ∈ Reference.holderKeys, Accepted history (Reference.held sevenInfo key) := by
  rcases exists_history_seven with ⟨history, h, hpresented⟩
  refine ⟨history, h, ?_⟩
  intro key hkey
  rcases hpresented key hkey with ⟨pre, authorization, post, rfl, hok, -⟩
  exact Accepted.of_present hok

end Reference

/-- At no time have more different credentials of an honest issuer been accepted, for infos
of any kind, than the issuer has answered requests for infos of that kind. -/
theorem credentials_card_le (hS : S.Rfc8785) (hder : S.DerInjective)
    (hunforged : Unforged Honest (actions history)) (hfree : NoCollisions (actions history))
    (hkeeps : KeepsKeys Honest Kept history) (honeMore : OneMoreUnforgeable Kept history)
    (hsplit : history = pre ++ post) (hhonest : Honest issuerId.key)
    (hkind : ∀ v w, canonicalizeJsonValue S v = canonicalizeJsonValue S w → Kind v → Kind w)
    {forms : Finset Bytes}
    (hforms : ∀ form ∈ forms, ∃ credential, Accepted pre credential ∧
      credential.credential.issuerIdPubkey = issuerId ∧ Kind credential.credential.info ∧
      canonicalizeCredential S credential.credential = .ok form) :
    forms.card ≤ Runs.count (Happening.Issues issuerId Kind) pre := by
  refine accepted_card_le (fun p form => canonicalizeCredential S p = .ok form) hS hder hunforged
    hfree hkeeps honeMore hsplit hhonest ?_ ?_ hforms
  · intro v w hsame
    exact hkind v w ((canonicalizeJsonValue_eq_iff hS v w).mpr hsame)
  · intro p q form form' hsame hp hq
    have hbytes : canonicalizeCredential S p = canonicalizeCredential S q :=
      (canonicalizeJsonValue_eq_iff hS _ _).mpr hsame
    exact Except.ok.inj (hp.symm.trans (hbytes.trans hq))

/-- Two credentials are accepted, so two requests have been answered. -/
theorem credentials_card_le_reference :
    ∃ history : List (Happening Reference.suite),
      (∀ key ∈ Reference.holderKeys, Accepted history (Reference.held sevenInfo key)) ∧
      2 ≤ Runs.count (Happening.Issues Reference.issuer.issuerId
        fun v => v.rfc8785 = sevenInfo.rfc8785) history := by
  rcases exists_accepted_seven with ⟨history, h, haccepted⟩
  refine ⟨history, haccepted, ?_⟩
  let kind : Value → Prop := fun v => v.rfc8785 = sevenInfo.rfc8785
  let forms := (Reference.holderKeys.map fun key =>
    (Reference.held sevenInfo key).credential.toValue.canonical).toFinset
  have hkind : ∀ v w, canonicalizeJsonValue Reference.suite v
      = canonicalizeJsonValue Reference.suite w → kind v → kind w := by
    intro v w hsame hv
    exact ((canonicalizeJsonValue_eq_iff Reference.rfc8785 v w).mp hsame).symm.trans hv
  have hforms : ∀ form ∈ forms, ∃ credential, Accepted history credential ∧
      credential.credential.issuerIdPubkey = Reference.issuer.issuerId ∧
      kind credential.credential.info ∧
      canonicalizeCredential Reference.suite credential.credential = .ok form := by
    intro form hform
    rcases List.mem_map.mp (List.mem_toFinset.mp hform) with ⟨key, hkey, rfl⟩
    exact ⟨_, haccepted key hkey, rfl, rfl, rfl⟩
  have htwo : forms.card = 2 := by
    have hnodup : Reference.holderKeys.Nodup := by decide
    exact List.toFinset_card_of_nodup (hnodup.map (held_canonical_injective sevenInfo))
  rw [← htwo]
  exact credentials_card_le Reference.rfc8785 Reference.derInjective h.unforged h.free h.keeps
    h.oneMore (List.append_nil history).symm trivial hkind hforms

/-! ## Badges -/

/-- The info names the schema and a number that is written like the level. -/
def NamesLevel (level : UInt64) (info : Value) : Prop :=
  ∃ members v, info.asObject = some members ∧
    members.lookup "schema" = some (.string trustScoreSchemaV1) ∧
    members.lookup "trust_level" = some v ∧ v.rfc8785 = (Value.number (.posInt level)).rfc8785

theorem NamesLevel.of_rfc8785 {level : UInt64} {v w : Value} (hsame : v.rfc8785 = w.rfc8785)
    (h : NamesLevel level v) : NamesLevel level w := by
  rcases h with ⟨members, x, hobject, hschema, hlevel, hx⟩
  rcases Value.lookup_rfc8785 hsame hobject with ⟨members', hobject', hlookup⟩
  have hschema' := hlookup "schema"
  have hlevel' := hlookup "trust_level"
  rw [hschema, Option.map_some, Eq.comm, Option.map_eq_some_iff] at hschema'
  rw [hlevel, Option.map_some, Eq.comm, Option.map_eq_some_iff] at hlevel'
  rcases hschema' with ⟨y, hy, hstring⟩
  rcases hlevel' with ⟨z, hz, hnumber⟩
  refine ⟨members', z, hobject', ?_, hz, hnumber.trans hx⟩
  rw [hy, Value.eq_string_of_rfc8785 hstring]

/-- The badge of a credential, read natively or in JavaScript. -/
def IsBadge (S : Suite) (credential : Credential) (badge : TrustScoreBadgeV1) : Prop :=
  parseTrustScoreBadgeV1 S credential = .ok badge ∨
    parseTrustScoreBadgeV1 S credential.throughDoubles = .ok badge

/-- A badge names its level and its holder in what is signed. -/
theorem IsBadge.names {credential : Credential} {badge : TrustScoreBadgeV1}
    (h : IsBadge S credential badge) :
    NamesLevel badge.trustLevel credential.info ∧
      credential.blindMsg.rfc8785 = .str (nostrHex badge.holderPubkey) := by
  have hparsed : ∀ c : Credential, parseTrustScoreBadgeV1 S c = .ok badge →
      NamesLevel badge.trustLevel c.info ∧
        c.blindMsg.rfc8785 = .str (nostrHex badge.holderPubkey) := by
    intro c hc
    rcases parseTrustScoreBadgeV1_eq_ok.mp hc with ⟨members, hbadge, hlevel, -⟩
    refine ⟨⟨members, _, hbadge.asObject, hbadge.schema, hlevel, rfl⟩, ?_⟩
    rw [hbadge.blindMsg]
    rfl
  rcases h with h | h
  · exact hparsed credential h
  · rcases hparsed _ h with ⟨hlevel, hholder⟩
    refine ⟨hlevel.of_rfc8785 (Value.rfc8785_throughDoubles credential.info), ?_⟩
    rw [← hholder]
    exact (Value.rfc8785_throughDoubles credential.blindMsg).symm

/-- At no time have more holders shown accepted badges of a level than the honest issuer has
answered requests for that level. -/
theorem badges_card_le (hS : S.Rfc8785) (hder : S.DerInjective)
    (hunforged : Unforged Honest (actions history)) (hfree : NoCollisions (actions history))
    (hkeeps : KeepsKeys Honest Kept history) (honeMore : OneMoreUnforgeable Kept history)
    (hsplit : history = pre ++ post) (hhonest : Honest issuerId.key) {level : UInt64}
    {holders : Finset NostrPublicKey}
    (hholders : ∀ holder ∈ holders, ∃ credential, Accepted pre credential ∧
      credential.credential.issuerIdPubkey = issuerId ∧
      IsBadge S credential.credential ⟨level, holder⟩) :
    holders.card ≤ Runs.count (Happening.Issues issuerId (NamesLevel level)) pre := by
  refine accepted_card_le (fun p holder => p.blindMsg.rfc8785 = .str (nostrHex holder)) hS hder
    hunforged hfree hkeeps honeMore hsplit hhonest (fun _ _ => NamesLevel.of_rfc8785) ?_ ?_
  · intro p q holder holder' hsame hp hq
    have hmsg := ((Credential.toValue_inj p q).mp hsame).2.2
    rw [hp, hq, Json.str.injEq] at hmsg
    exact nostrHex_injective hmsg
  · intro holder hholder
    rcases hholders holder hholder with ⟨credential, haccepted, hid, hbadge⟩
    exact ⟨credential, haccepted, hid, hbadge.names⟩

/-- Two holders have shown a badge of level 7, so the level has been given twice. -/
theorem badges_card_le_seven :
    ∃ history : List (Happening Reference.suite), trustScoreInfoV1 7 = .ok sevenInfo ∧
      (∀ key ∈ Reference.holderKeys, Accepted history (Reference.held sevenInfo key)) ∧
      2 ≤ Runs.count (Happening.Issues Reference.issuer.issuerId (NamesLevel 7)) history := by
  have hinfo : trustScoreInfoV1 7 = .ok sevenInfo :=
    trustScoreInfoV1_eq_ok.mpr ⟨⟨by decide, by decide⟩, rfl⟩
  rcases exists_accepted_seven with ⟨history, h, haccepted⟩
  refine ⟨history, hinfo, haccepted, ?_⟩
  have hholders : ∀ holder ∈ Reference.holderKeys.toFinset, ∃ credential,
      Accepted history credential ∧
      credential.credential.issuerIdPubkey = Reference.issuer.issuerId ∧
      IsBadge Reference.suite credential.credential ⟨7, holder⟩ := by
    intro holder hholder
    exact ⟨_, haccepted holder (List.mem_toFinset.mp hholder), rfl,
      Or.inl (parseTrustScoreBadgeV1_of_constructors Reference.parsesHex hinfo holder)⟩
  have htwo : Reference.holderKeys.toFinset.card = 2 := by decide
  rw [← htwo]
  exact badges_card_le Reference.rfc8785 Reference.derInjective h.unforged h.free h.keeps h.oneMore
    (List.append_nil history).symm trivial hholders

end Supply

end Deployment

end PeerBadge
