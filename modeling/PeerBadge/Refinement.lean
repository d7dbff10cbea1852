import PeerBadge.Registry
import PeerBadge.Supply

/-! # The deployment refines the registry

What can be seen of a deployment is what could be seen of the registry. Nobody keeps a
registry: issuers do not learn which credentials they have issued, verifiers know what they
have been handed and nothing of each other. Still nothing is seen that the registry does not
permit, as long as signatures are not forged, digests do not collide and honest issuers keep
their keys.

Credentials, infos and times are told apart as RFC 8785 tells them apart.
-/

namespace PeerBadge

variable {S : Suite}

/-- What a credential says, as RFC 8785 sees it. -/
def Credential.entry (credential : Credential) :
    Entry IssuerId (Json Binary64) (Json Binary64) where
  issuer := credential.issuerIdPubkey
  info := credential.info.rfc8785
  message := credential.blindMsg.rfc8785

theorem Credential.entry_eq_iff (hS : S.Rfc8785) {p q : Credential} :
    p.entry = q.entry ↔ canonicalizeCredential S p = canonicalizeCredential S q := by
  rw [canonicalizeCredential, canonicalizeCredential, canonicalizeJsonValue_eq_iff hS,
    Credential.toValue_inj, entry, entry, Entry.mk.injEq]

/-- Whom a holder lets present a credential, and from when on. -/
abbrev Use := SubjectPubkey × Json Binary64

/-- Something seen of a deployment. -/
abbrev Seen := Registry.Action IssuerId (Json Binary64) (Json Binary64) HolderId Use

/-- The use that a statement is for. -/
def HolderAuthorizationStatement.use (statement : HolderAuthorizationStatement) : Use :=
  (statement.subjectPubkey, statement.issuedAt.toValue.rfc8785)

/-- Who is honest, and whose key a message is. -/
def parties (S : Suite) (Honest : NostrPublicKey → Prop) :
    Registry.Parties IssuerId (Json Binary64) HolderId where
  HonestIssuer issuerId := Honest issuerId.key
  HonestHolder holderId := Honest holderId.key
  owner
    | .str text => (S.parsePublicKey text).toOption.map HolderId.mk
    | _ => none

/-- The holder of a credential is the owner of its message. -/
theorem parties_owner {Honest : NostrPublicKey → Prop} {credential : SignedCredential}
    {holderId : HolderId} (h : credentialHolderId S credential = .ok holderId) :
    (parties S Honest).owner credential.credential.entry.message = some holderId := by
  rcases credentialHolderId_eq_ok.mp h with ⟨text, htext, hkey⟩
  have hmessage : credential.credential.entry.message = .str text :=
    congrArg Value.rfc8785 (Value.asStr_eq_some_iff.mp htext)
  rw [hmessage]
  simp only [parties, hkey, Except.toOption, Option.map_some]

namespace Happening

/-- What can be seen of it: whether it succeeded, and whether something was refused because it
is revoked. -/
def see (verifiers : Nat → VerificationContext S) : Happening S → Seen
  | .inl (.issueCredential issuer info request rng) =>
      match issuer.issueCredential info request rng with
      | .ok _ => .issue issuer.issuerId info.rfc8785
      | .error _ => .nothing
  | .inr (.revokeCredential issuer credential rng) =>
      match issuer.revokeCredential credential rng with
      | .ok _ => .revoke issuer.issuerId credential.credential.entry
      | .error _ => .nothing
  | .inr (.authorizeCredentialUse holder request credential issuedAt rng) =>
      match holder.authorizeCredentialUseAtTime request credential issuedAt rng with
      | .ok authorization =>
          .authorize holder.holderId authorization.authorization.use credential.credential.entry
      | .error _ => .nothing
  | .inr (.verify verifier credential) =>
      match (verifiers verifier).verifyCredential credential with
      | .ok _ => .accept credential.credential.entry
      | .error .credentialRevoked => .refuse credential.credential.entry
      | .error _ => .nothing
  | .inr (.present verifier credential authorization now) =>
      match (verifiers verifier).verifyCredentialAuthorizationAtTime credential authorization
        now with
      | .ok _ =>
          .present authorization.authorization.holderIdPubkey authorization.authorization.use
            credential.credential.entry
      | .error .credentialRevoked => .refuse credential.credential.entry
      | .error _ => .nothing
  | _ => .nothing

/-- How something comes to be seen. -/
inductive Sees (verifiers : Nat → VerificationContext S) : Happening S → Seen → Prop where
  | issued {issuer : IssuerContext S} {info : Value} {request : IssuanceRequest}
      {rng : S.PbrsaRng} {response : IssuanceResponse}
      (ok : issuer.issueCredential info request rng = .ok response) :
      Sees verifiers (.inl (.issueCredential issuer info request rng))
        (.issue issuer.issuerId info.rfc8785)
  | revoked {issuer : IssuerContext S} {credential : SignedCredential} {rng : S.NostrRng}
      {revocation : SignedRevocation}
      (ok : issuer.revokeCredential credential rng = .ok revocation) :
      Sees verifiers (.inr (.revokeCredential issuer credential rng))
        (.revoke issuer.issuerId credential.credential.entry)
  | authorized {holder : HolderContext S} {request : HolderAuthorizationRequest}
      {credential : SignedCredential} {issuedAt : Timestamp} {rng : S.NostrRng}
      {authorization : HolderAuthorization}
      (ok : holder.authorizeCredentialUseAtTime request credential issuedAt rng
        = .ok authorization) :
      Sees verifiers (.inr (.authorizeCredentialUse holder request credential issuedAt rng))
        (.authorize holder.holderId authorization.authorization.use credential.credential.entry)
  | accepted {verifier : Nat} {credential : SignedCredential}
      (ok : (verifiers verifier).verifyCredential credential = .ok ()) :
      Sees verifiers (.inr (.verify verifier credential)) (.accept credential.credential.entry)
  | presented {verifier : Nat} {credential : SignedCredential}
      {authorization : HolderAuthorization} {now : Timestamp}
      (ok : (verifiers verifier).verifyCredentialAuthorizationAtTime credential authorization now
        = .ok ()) :
      Sees verifiers (.inr (.present verifier credential authorization now))
        (.present authorization.authorization.holderIdPubkey authorization.authorization.use
          credential.credential.entry)
  | refused {action : Action S} {verifier : Nat} {credential : SignedCredential}
      (content : action.content = some credential.credential)
      (revoked : (verifiers verifier).verifyCredential credential = .error .credentialRevoked) :
      Sees verifiers (.inr action) (.refuse credential.credential.entry)
  | nothing {happening : Happening S} : Sees verifiers happening .nothing

theorem sees_see (verifiers : Nat → VerificationContext S) (happening : Happening S) :
    Sees verifiers happening (happening.see verifiers) := by
  unfold see
  split
  · split
    · exact .issued ‹_›
    · exact .nothing
  · split
    · exact .revoked ‹_›
    · exact .nothing
  · split
    · exact .authorized ‹_›
    · exact .nothing
  · split
    · exact .accepted ‹_›
    · exact .refused rfl ‹_›
    · exact .nothing
  · split
    · exact .presented ‹_›
    · exact .refused rfl (VerificationContext.verifyCredential_of_authorization_eq_revoked ‹_›)
    · exact .nothing
  · exact .nothing

/-- What is seen as accepted a verifier has accepted. -/
theorem Sees.accepts {verifiers : Nat → VerificationContext S} {happening : Happening S}
    {seen : Seen} (h : happening.Sees verifiers seen)
    {entry : Entry IssuerId (Json Binary64) (Json Binary64)}
    (haccepts : seen.accepts = some entry) :
    ∃ verifier credential, happening.shown = some (verifier, credential) ∧
      (verifiers verifier).verifyCredential credential = .ok () ∧
      credential.credential.entry = entry := by
  cases h with
  | accepted ok => exact ⟨_, _, rfl, ok, Option.some.inj haccepts⟩
  | presented ok =>
      exact ⟨_, _, rfl, (VerificationContext.verifyCredentialAuthorizationAtTime_eq_ok.mp ok).1,
        Option.some.inj haccepts⟩
  | _ => cases haccepts

theorem see_eq_issue_iff {verifiers : Nat → VerificationContext S} {happening : Happening S}
    {issuerId : IssuerId} {info : Json Binary64} :
    happening.see verifiers = .issue issuerId info ↔
      happening.Issues issuerId fun v => v.rfc8785 = info := by
  constructor
  · intro h
    have hsees := happening.sees_see verifiers
    rw [h] at hsees
    cases hsees with
    | issued ok => exact ⟨_, _, _, _, _, rfl, ok, rfl, rfl⟩
  · rintro ⟨issuer, info, request, rng, response, rfl, hissue, rfl, rfl⟩
    simp only [see, hissue]

/-- Verifiers change when they are handed something. -/
def step (verifiers : Nat → VerificationContext S) :
    Happening S → Nat → VerificationContext S
  | .inl _ => verifiers
  | .inr action => Deployment.step verifiers action

end Happening

namespace Deployment

/-- What can be seen of a history. -/
def trace (history : List (Happening S)) : List Seen :=
  Runs.trace Happening.step Happening.see (fun _ => .new) history

/-- The verifiers of a history are those of its deliveries. -/
theorem run_step (history : List (Happening S)) :
    Runs.run Happening.step (fun _ => .new) history = run (actions history) := by
  refine Runs.history (P := fun history (verifiers : Nat → VerificationContext S) =>
    verifiers = run (actions history)) rfl ?_ history
  rintro history verifiers happening rfl
  rw [actions_append, run, run, Runs.run_append]
  cases happening <;> rfl

theorem mem_trace_iff {history : List (Happening S)} {seen : Seen} :
    seen ∈ trace history ↔ ∃ pre happening post, history = pre ++ happening :: post ∧
      happening.see (run (actions pre)) = seen := by
  simp only [trace, Runs.mem_trace_iff, run_step]

theorem mem_actions {history : List (Happening S)} {action : Action S}
    (h : action ∈ actions history) : ∃ before after, history = before ++ .inr action :: after := by
  rcases List.mem_filterMap.mp h with ⟨happening, hmem, hright⟩
  cases happening with
  | inl event => cases hright
  | inr other =>
      cases hright
      exact List.append_of_mem hmem

section Refinement

variable {Honest : NostrPublicKey → Prop} {Kept : S.PbrsaPublicKey → Prop}
  {pre post history : List (Happening S)} {happening : Happening S}

theorem Unbroken.of_append (h : Unbroken Honest Kept (pre ++ post)) : Unbroken Honest Kept pre where
  unforged := by
    have := h.unforged
    rw [actions_append] at this
    exact this.of_append
  free := by
    have := h.free
    rw [actions_append] at this
    exact this.of_append
  keeps := h.keeps.of_append
  oneMore := h.oneMore.of_append

theorem mem_accepted {entry : Entry IssuerId (Json Binary64) (Json Binary64)}
    (h : entry ∈ (Registry.run (trace history)).accepted) :
    ∃ credential, Accepted history credential ∧ credential.credential.entry = entry := by
  rcases Registry.mem_accepted_run.mp h with ⟨seen, hseen, haccepts⟩
  rcases mem_trace_iff.mp hseen with ⟨pre, happening, post, rfl, rfl⟩
  rcases (Happening.sees_see _ _).accepts haccepts with ⟨verifier, credential, hshown, hok, hentry⟩
  exact ⟨credential, ⟨pre, happening, post, verifier, rfl, hshown, hok⟩, hentry⟩

theorem count_issued (issuerId : IssuerId) (info : Json Binary64) :
    (trace history).count (.issue issuerId info)
      = Runs.count (Happening.Issues issuerId fun v => v.rfc8785 = info) history := by
  refine Runs.count_trace ?_ _ history
  intro verifiers happening
  exact Happening.see_eq_issue_iff

/-- The registry has a place for what is accepted. -/
theorem covers (hS : S.Rfc8785) (hder : S.DerInjective)
    (h : Unbroken Honest Kept (pre ++ [happening])) {verifier : Nat} {credential : SignedCredential}
    (hshown : happening.shown = some (verifier, credential))
    (hok : (run (actions pre) verifier).verifyCredential credential = .ok ())
    (hhonest : Honest credential.credential.issuerIdPubkey.key) :
    (Registry.run (trace pre)).Covers credential.credential.entry := by
  by_cases hknown : credential.credential.entry ∈ (Registry.run (trace pre)).accepted
  · exact Or.inl hknown
  right
  let entry := credential.credential.entry
  let accepted := (Registry.run (trace pre)).acceptedFor entry.issuer entry.info
  have hbound : (insert entry accepted).card
      ≤ Runs.count (Happening.Issues entry.issuer fun v => v.rfc8785 = entry.info)
        (pre ++ [happening]) := by
    refine accepted_card_le (fun p other => p.entry = other) hS hder h.unforged h.free h.keeps
      h.oneMore (List.append_nil _).symm hhonest (fun v w hsame hv => hsame.symm.trans hv) ?_ ?_
    · rintro p q _ _ hsame rfl rfl
      exact (Credential.entry_eq_iff hS).mpr ((canonicalizeJsonValue_eq_iff hS _ _).mpr hsame)
    · intro other hother
      rcases Finset.mem_insert.mp hother with rfl | hother
      · exact ⟨credential, ⟨pre, happening, [], verifier, rfl, hshown, hok⟩, rfl, rfl, rfl⟩
      · rcases Registry.mem_acceptedFor.mp hother with ⟨hmem, hid, hinfo⟩
        rcases mem_accepted hmem with ⟨shown, ⟨p, c, q, v, rfl, haccepted⟩, rfl⟩
        exact ⟨shown, ⟨p, c, q ++ [happening], v, by simp, haccepted⟩, hid, hinfo, rfl⟩
  have hnot : ¬happening.Issues entry.issuer fun v => v.rfc8785 = entry.info := by
    rintro ⟨issuer, info, request, rng, response, rfl, -⟩
    cases hshown
  rw [Runs.count_concat_of_not hnot, ← count_issued, ← Registry.count_issued_run] at hbound
  have hnew : entry ∉ accepted := by
    intro hmem
    exact hknown (Registry.mem_acceptedFor.mp hmem).1
  rw [Finset.card_insert_of_notMem hnew] at hbound
  exact hbound

/-- The registry knows what is refused as revoked. -/
theorem refused (hS : S.Rfc8785) (hder : S.DerInjective) {action : Action S}
    (h : Unbroken Honest Kept (pre ++ [.inr action])) {verifier : Nat}
    {credential : SignedCredential} (hcontent : action.content = some credential.credential)
    (hrevoked : (run (actions pre) verifier).verifyCredential credential
      = .error .credentialRevoked)
    (hhonest : Honest credential.credential.issuerIdPubkey.key) :
    credential.credential.entry ∈ (Registry.run (trace pre)).revoked := by
  rcases VerificationContext.verifyCredential_eq_revoked.mp hrevoked with
    ⟨key, digest, -, -, hdigest, hmem⟩
  rcases revoked_answered hS hder h.of_append.unforged h.of_append.free hhonest hmem with
    ⟨issuer, revoked, rng, signed, haction, hid, hrevoke, hsame⟩
  have hfree := h.free
  rw [actions_append] at hfree
  have hapart := hfree.content (.revokeCredential issuer revoked rng)
    (List.mem_append_left _ haction) action (by simp [actions]) revoked.credential
    credential.credential rfl hcontent
  rw [← (Credential.entry_eq_iff hS).mpr (canonical_eq_of_digest hapart hsame hdigest)]
  refine Registry.mem_revoked_run.mpr ⟨issuer.issuerId, mem_trace_iff.mpr ?_⟩
  rcases mem_actions haction with ⟨before, after, rfl⟩
  refine ⟨before, _, after, rfl, ?_⟩
  simp only [Happening.see, hrevoke]

/-- The registry knows what an honest holder is presented for. -/
theorem authorized (hS : S.Rfc8785) (hder : S.DerInjective) {verifier : Nat}
    {credential : SignedCredential} {authorization : HolderAuthorization} {now : Timestamp}
    (h : Unbroken Honest Kept (pre ++ [.inr (.present verifier credential authorization now)]))
    (hok : (run (actions pre) verifier).verifyCredentialAuthorizationAtTime credential authorization
      now = .ok ())
    (hhonest : Honest authorization.authorization.holderIdPubkey.key) :
    (authorization.authorization.holderIdPubkey, authorization.authorization.use,
      credential.credential.entry) ∈ (Registry.run (trace pre)).authorized := by
  rcases authorization_answered hS hder h.unforged h.free (actions_append _ _) hhonest hok with
    ⟨holder, request, authorized, issuedAt, rng, signed, haction, hauthorize, hstatement, hsame⟩
  have hholder : signed.authorization.holderIdPubkey = holder.holderId := by
    rcases HolderContext.authorizeCredentialUseAtTime_eq_ok.mp hauthorize with
      ⟨-, _, _, -, -, rfl⟩
    rfl
  have huse : signed.authorization.use = authorization.authorization.use :=
    Prod.ext hstatement.subjectPubkey hstatement.issuedAt
  rw [← hstatement.holderIdPubkey, hholder, ← huse, ← (Credential.entry_eq_iff hS).mpr hsame]
  refine Registry.mem_authorized_run.mpr (mem_trace_iff.mpr ?_)
  rcases mem_actions haction with ⟨before, after, rfl⟩
  refine ⟨before, _, after, rfl, ?_⟩
  simp only [Happening.see, hauthorize]

/-- However something comes to be seen, the registry permits it. -/
theorem permits_sees (hS : S.Rfc8785) (hder : S.DerInjective)
    (h : Unbroken Honest Kept (pre ++ [happening])) {seen : Seen}
    (hsees : happening.Sees (run (actions pre)) seen) :
    (Registry.run (trace pre)).Permits (parties S Honest) seen := by
  cases hsees with
  | issued ok => trivial
  | revoked ok => exact (IssuerContext.revokeCredential_eq_ok.mp ok).1
  | authorized ok => exact parties_owner (HolderContext.authorizeCredentialUseAtTime_eq_ok.mp ok).1
  | accepted ok => exact covers hS hder h rfl ok
  | presented ok =>
      rcases VerificationContext.verifyCredentialAuthorizationAtTime_eq_ok.mp ok with
        ⟨hcredential, -, hholder, -, -⟩
      exact ⟨covers hS hder h rfl hcredential, parties_owner hholder, authorized hS hder h ok⟩
  | refused content revoked => exact refused hS hder h content revoked
  | nothing => trivial

/-- After any beginning, the registry permits what is seen next. -/
theorem permits_see (hS : S.Rfc8785) (hder : S.DerInjective) (h : Unbroken Honest Kept history)
    (pre : List (Happening S)) (happening : Happening S) (post : List (Happening S))
    (hsplit : history = pre ++ happening :: post) :
    (Registry.run (trace pre)).Permits (parties S Honest)
      (happening.see (Runs.run Happening.step (fun _ => .new) pre)) := by
  have hcalls : history = (pre ++ [happening]) ++ post := by rw [hsplit]; simp
  rw [run_step]
  exact permits_sees hS hder (hcalls ▸ h).of_append (happening.sees_see _)

/-- Whatever is seen of the deployment, the registry permits. -/
theorem registry_allows (hS : S.Rfc8785) (hder : S.DerInjective)
    (h : Unbroken Honest Kept history) : Registry.Allows (parties S Honest) (trace history) :=
  Runs.permitted_trace (permits_see hS hder h)

/-- Two credentials are issued, authorized and presented, and the registry permits all of it. -/
theorem registry_allows_reference :
    ∃ history : List (Happening Reference.suite),
      Registry.Allows (parties Reference.suite fun _ => True) (trace history) ∧
      ∀ key ∈ Reference.holderKeys, ∃ use,
        .present ⟨key⟩ use (Reference.held sevenInfo key).credential.entry
          ∈ trace history := by
  rcases exists_history_seven with ⟨history, h, hpresented⟩
  refine ⟨history, registry_allows Reference.rfc8785 Reference.derInjective h, ?_⟩
  intro key hkey
  rcases hpresented key hkey with ⟨pre, authorization, post, hsplit, hok, hholder⟩
  refine ⟨authorization.authorization.use, mem_trace_iff.mpr ⟨pre, _, post, hsplit, ?_⟩⟩
  simp only [Happening.see, hok, hholder]

/-- At no time have credentials of an honest issuer been presented for more holders than the
issuer has answered requests for their info. -/
theorem holders_card_le (hS : S.Rfc8785) (hder : S.DerInjective)
    (h : Unbroken Honest Kept history) {issuerId : IssuerId} (hhonest : Honest issuerId.key)
    {info : Value} {holders : Finset HolderId}
    (hholders : ∀ holder ∈ holders, ∃ pre verifier credential authorization now post,
      history = pre ++ .inr (.present verifier credential authorization now) :: post ∧
      (run (actions pre) verifier).verifyCredentialAuthorizationAtTime credential authorization now
        = .ok () ∧
      authorization.authorization.holderIdPubkey = holder ∧
      credential.credential.issuerIdPubkey = issuerId ∧
      canonicalizeJsonValue S credential.credential.info = canonicalizeJsonValue S info) :
    holders.card ≤ Runs.count (Happening.Issues issuerId fun v =>
      canonicalizeJsonValue S v = canonicalizeJsonValue S info) history := by
  have hseen : ∀ holder ∈ holders, ∃ use entry, .present holder use entry ∈ trace history ∧
      entry.issuer = issuerId ∧ entry.info = info.rfc8785 := by
    intro holder hholder
    rcases hholders holder hholder with
      ⟨pre, verifier, credential, authorization, now, post, hsplit, hok, rfl, hid, hinfo⟩
    refine ⟨authorization.authorization.use, credential.credential.entry,
      mem_trace_iff.mpr ⟨pre, _, post, hsplit, ?_⟩, hid,
      (canonicalizeJsonValue_eq_iff hS _ _).mp hinfo⟩
    simp only [Happening.see, hok]
  have hallows : Registry.Allows (parties S Honest) (trace history) :=
    Runs.permitted_trace (permits_see hS hder h)
  have hbound := hallows.presenters_card_le hhonest hseen
  simp only [canonicalizeJsonValue_eq_iff hS]
  rwa [count_issued] at hbound

/-- Two holders have presented credentials, so two requests have been answered. -/
theorem holders_card_le_reference :
    ∃ history : List (Happening Reference.suite),
      2 ≤ Runs.count (Happening.Issues Reference.issuer.issuerId fun v =>
        canonicalizeJsonValue Reference.suite v = canonicalizeJsonValue Reference.suite sevenInfo)
        history := by
  rcases exists_history_seven with ⟨history, h, hpresented⟩
  let holders := (Reference.holderKeys.map HolderId.mk).toFinset
  have hholders : ∀ holder ∈ holders, ∃ pre verifier credential authorization now post,
      history = pre ++ .inr (.present verifier credential authorization now) :: post ∧
      (run (actions pre) verifier).verifyCredentialAuthorizationAtTime credential authorization now
        = .ok () ∧
      authorization.authorization.holderIdPubkey = holder ∧
      credential.credential.issuerIdPubkey = Reference.issuer.issuerId ∧
      canonicalizeJsonValue Reference.suite credential.credential.info
        = canonicalizeJsonValue Reference.suite sevenInfo := by
    intro holder hholder
    rcases List.mem_map.mp (List.mem_toFinset.mp hholder) with ⟨key, hkey, rfl⟩
    rcases hpresented key hkey with ⟨pre, authorization, post, hsplit, hok, hkeyOf⟩
    exact ⟨pre, 0, _, authorization, _, post, hsplit, hok, hkeyOf, rfl, rfl⟩
  have htwo : holders.card = 2 := by decide
  refine ⟨history, ?_⟩
  rw [← htwo]
  exact holders_card_le Reference.rfc8785 Reference.derInjective h trivial hholders

end Refinement

end Deployment

end PeerBadge
