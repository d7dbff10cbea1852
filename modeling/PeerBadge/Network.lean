import PeerBadge.Issuance

/-! # Issuance over an untrusted network

Any number of holder sessions and issuers. Nothing is assumed about transport or
storage: every request, response, key, authority and stored state is an argument of
the event that receives it, so it may be lost, repeated, reordered, sent to another
session or made up.

The network remembers what honest issuers signed and what holders finalized.
`Consistent` is the invariant of every run; `finalized_safe` says what a finalized
credential is worth, and `finalized_bound` what its metadata are worth to a holder that
keeps its states.
-/

namespace PeerBadge

variable {S : Suite}

/-- Something that happens at a holder or at an issuer. -/
inductive Event (S : Suite) where
  | createRequest (issuerPublicKey : S.PbrsaPublicKey) (issuerId : IssuerId)
      (info blindMsg : Value) (rng : S.PbrsaRng)
  | importState (state : String)
  | issueCredential (issuer : IssuerContext S) (info : Value) (request : IssuanceRequest)
      (rng : S.PbrsaRng)
  | finalize (session : Nat) (issuerPublicKey : S.PbrsaPublicKey) (response : IssuanceResponse)
  | finalizeWasm (session : Nat) (issuerAuthority : IssuerAuthority S)
      (response : IssuanceResponse)

/-- A response an issuer made for a request. -/
structure Issued (S : Suite) where
  issuer : IssuerContext S
  info : Value
  request : IssuanceRequest
  response : IssuanceResponse

/-- A credential and what it was finalized from; the authority is the one given to the
JavaScript binding, if that was used. -/
structure Finalized (S : Suite) where
  session : Nat
  pending : PendingIssuance
  issuerAuthority : Option (IssuerAuthority S)
  issuerPublicKey : S.PbrsaPublicKey
  response : IssuanceResponse
  credential : SignedCredential

/-- Open sessions by number, and the two records. -/
structure Network (S : Suite) where
  sessions : AList fun _ : Nat => PendingIssuance
  nextSession : Nat
  issued : List (Issued S)
  finalized : List (Finalized S)

/-- The event leaves this state behind. -/
def Event.Starts (pending : PendingIssuance) : Event S → Prop
  | .createRequest issuerPublicKey issuerId info blindMsg rng =>
      ∃ request, PendingIssuance.createRequest issuerPublicKey issuerId info blindMsg rng
        = .ok (request, pending)
  | .importState state => PendingIssuance.importState S state = .ok pending
  | _ => False

/-- The issuer did sign. -/
def Issued.Honest (record : Issued S) : Prop :=
  ∃ rng, record.issuer.issueCredential record.info record.request rng = .ok record.response

/-- The credential is what the state, the key and the response give; an authority was
one of the issuer of the response. -/
structure Finalized.Sound (record : Finalized S) : Prop where
  credential :
    record.pending.finalize record.issuerPublicKey record.response = .ok record.credential
  authority : ∀ authority, record.issuerAuthority = some authority →
    authority.issuer.issuerIdPubkey = record.response.issuerId ∧
      authority.issuer.issuanceKey = record.issuerPublicKey

namespace Network

def empty : Network S := ⟨∅, 0, [], []⟩

/-- Open a session. -/
def start (network : Network S) (pending : PendingIssuance) : Network S :=
  { network with
    sessions := network.sessions.insert network.nextSession pending
    nextSession := network.nextSession + 1 }

/-- Use a session up. -/
def close (network : Network S) (session : Nat) : Network S :=
  { network with sessions := network.sessions.erase session }

def recordIssued (network : Network S) (record : Issued S) : Network S :=
  { network with issued := record :: network.issued }

def recordFinalized (network : Network S) (record : Finalized S) : Network S :=
  { network with finalized := record :: network.finalized }

/-- Finalizing uses the session up, whether it succeeds or not. -/
def complete (network : Network S) (session : Nat) (issuerAuthority : Option (IssuerAuthority S))
    (issuerPublicKey : S.PbrsaPublicKey) (response : IssuanceResponse)
    (result : PendingIssuance → Except (CredentialsError S) SignedCredential) : Network S :=
  match network.sessions.lookup session with
  | none => network
  | some pending =>
      match result pending with
      | .error _ => network.close session
      | .ok credential =>
          (network.close session).recordFinalized
            ⟨session, pending, issuerAuthority, issuerPublicKey, response, credential⟩

def step (network : Network S) : Event S → Network S
  | .createRequest issuerPublicKey issuerId info blindMsg rng =>
      match PendingIssuance.createRequest issuerPublicKey issuerId info blindMsg rng with
      | .error _ => network
      | .ok (_, pending) => network.start pending
  | .importState state =>
      match PendingIssuance.importState S state with
      | .error _ => network
      | .ok pending => network.start pending
  | .issueCredential issuer info request rng =>
      match issuer.issueCredential info request rng with
      | .error _ => network
      | .ok response => network.recordIssued ⟨issuer, info, request, response⟩
  | .finalize session issuerPublicKey response =>
      network.complete session none issuerPublicKey response fun pending =>
        pending.finalize issuerPublicKey response
  -- the binding takes the key from the authority and compares the issuer ids first
  | .finalizeWasm session issuerAuthority response =>
      network.complete session (some issuerAuthority) issuerAuthority.issuer.issuanceKey response
        fun pending => pending.finalizeWasm issuerAuthority response

/-- The network after a list of events. -/
def run (events : List (Event S)) : Network S := Runs.run step empty events

/-! ## One event -/

/-- What an event can do to a network. -/
inductive Effect (event : Event S) (network : Network S) : Network S → Prop where
  | nothing : Effect event network network
  | opened (pending : PendingIssuance) (starts : event.Starts pending) :
      Effect event network (network.start pending)
  | signed (record : Issued S) (honest : record.Honest) :
      Effect event network (network.recordIssued record)
  | closed (session : Nat) : Effect event network (network.close session)
  | finalized (record : Finalized S)
      (isOpen : network.sessions.lookup record.session = some record.pending)
      (sound : record.Sound) :
      Effect event network ((network.close record.session).recordFinalized record)

theorem complete_effect {event : Event S} (network : Network S) (session : Nat)
    (issuerAuthority : Option (IssuerAuthority S)) (issuerPublicKey : S.PbrsaPublicKey)
    (response : IssuanceResponse)
    (result : PendingIssuance → Except (CredentialsError S) SignedCredential)
    (hsound : ∀ pending credential, result pending = .ok credential →
      (⟨session, pending, issuerAuthority, issuerPublicKey, response, credential⟩
        : Finalized S).Sound) :
    Effect event network
      (network.complete session issuerAuthority issuerPublicKey response result) := by
  cases hopen : network.sessions.lookup session with
  | none =>
      simp only [complete, hopen]
      exact Effect.nothing
  | some pending =>
      cases hresult : result pending with
      | error e =>
          simp only [complete, hopen, hresult]
          exact Effect.closed session
      | ok credential =>
          simp only [complete, hopen, hresult]
          exact Effect.finalized
            ⟨session, pending, issuerAuthority, issuerPublicKey, response, credential⟩ hopen
            (hsound pending credential hresult)

/-- All that an event can do, guards included. -/
theorem step_effect (event : Event S) (network : Network S) :
    Effect event network (network.step event) := by
  cases event with
  | createRequest issuerPublicKey issuerId info blindMsg rng =>
      cases hrequest : PendingIssuance.createRequest issuerPublicKey issuerId info blindMsg rng with
      | error e =>
          simp only [step, hrequest]
          exact Effect.nothing
      | ok made =>
          simp only [step, hrequest]
          exact Effect.opened made.2 ⟨made.1, hrequest⟩
  | importState state =>
      cases himport : PendingIssuance.importState S state with
      | error e =>
          simp only [step, himport]
          exact Effect.nothing
      | ok pending =>
          simp only [step, himport]
          exact Effect.opened pending himport
  | issueCredential issuer info request rng =>
      cases hissue : issuer.issueCredential info request rng with
      | error e =>
          simp only [step, hissue]
          exact Effect.nothing
      | ok response =>
          simp only [step, hissue]
          exact Effect.signed ⟨issuer, info, request, response⟩ ⟨rng, hissue⟩
  | finalize session issuerPublicKey response =>
      apply complete_effect
      intro pending credential hfinal
      exact ⟨hfinal, fun authority h => by cases h⟩
  | finalizeWasm session issuerAuthority response =>
      apply complete_effect
      intro pending credential hfinal
      rcases PendingIssuance.finalizeWasm_eq_ok.mp hfinal with ⟨hid, hfinal⟩
      refine ⟨hfinal, ?_⟩
      intro authority h
      cases h
      exact ⟨hid, rfl⟩

/-! ## Every run -/

/-- The invariant: sessions and records stem from the history, and a session that was
finalized is gone for good. -/
structure Consistent (events : List (Event S)) (network : Network S) : Prop where
  sessions : ∀ session pending, network.sessions.lookup session = some pending →
    session < network.nextSession ∧ ∃ event ∈ events, event.Starts pending
  issued : ∀ record ∈ network.issued, record.Honest
  sound : ∀ record ∈ network.finalized,
    record.Sound ∧ ∃ event ∈ events, event.Starts record.pending
  spent : ∀ record ∈ network.finalized,
    record.session < network.nextSession ∧ network.sessions.lookup record.session = none

/-- At the start there is nothing to account for. -/
theorem consistent_empty : Consistent [] (empty : Network S) where
  sessions session pending h := by cases h
  issued record h := by cases h
  sound record h := by cases h
  spent record h := by cases h

/-- One more event takes nothing from the history. -/
theorem Consistent.concat {events : List (Event S)} {network : Network S} (event : Event S)
    (h : Consistent events network) : Consistent (events ++ [event]) network := by
  have hlater : ∀ pending : PendingIssuance, (∃ e ∈ events, e.Starts pending) →
      ∃ e ∈ events ++ [event], e.Starts pending := by
    intro pending hstarts
    rcases hstarts with ⟨e, he, hstarts⟩
    exact ⟨e, List.mem_append_left _ he, hstarts⟩
  exact
    { h with
      sessions := fun session pending hopen =>
        ⟨(h.sessions session pending hopen).1, hlater _ (h.sessions session pending hopen).2⟩
      sound := fun record hrecord =>
        ⟨(h.sound record hrecord).1, hlater _ (h.sound record hrecord).2⟩ }

/-- A session that is looked up after closing another was open before. -/
theorem lookup_close {network : Network S} {session other : Nat} {pending : PendingIssuance}
    (h : (network.close session).sessions.lookup other = some pending) :
    network.sessions.lookup other = some pending := by
  unfold close at h
  by_cases heq : other = session
  · subst heq
    rw [AList.lookup_erase] at h
    cases h
  · rwa [AList.lookup_erase_ne heq] at h

theorem Consistent.start {events : List (Event S)} {network : Network S}
    (h : Consistent events network) {pending : PendingIssuance}
    (hstarts : ∃ event ∈ events, event.Starts pending) :
    Consistent events (network.start pending) where
  sessions session other hopen := by
    by_cases heq : session = network.nextSession
    · subst heq
      rw [Network.start, AList.lookup_insert] at hopen
      cases hopen
      exact ⟨Nat.lt_succ_self _, hstarts⟩
    · rw [Network.start, AList.lookup_insert_ne heq] at hopen
      rcases h.sessions session other hopen with ⟨hlt, hother⟩
      exact ⟨Nat.lt_succ_of_lt hlt, hother⟩
  issued := h.issued
  sound := h.sound
  spent record hrecord := by
    rcases h.spent record hrecord with ⟨hlt, hgone⟩
    refine ⟨Nat.lt_succ_of_lt hlt, ?_⟩
    -- the new session has a number no record has
    rw [Network.start, AList.lookup_insert_ne (Nat.ne_of_lt hlt)]
    exact hgone

theorem Consistent.close {events : List (Event S)} {network : Network S}
    (h : Consistent events network) (session : Nat) :
    Consistent events (network.close session) where
  sessions other pending hopen := h.sessions other pending (lookup_close hopen)
  issued := h.issued
  sound := h.sound
  spent record hrecord := by
    rcases h.spent record hrecord with ⟨hlt, hgone⟩
    refine ⟨hlt, Option.eq_none_iff_forall_ne_some.mpr ?_⟩
    intro pending hopen
    rw [lookup_close hopen] at hgone
    cases hgone

theorem Consistent.recordFinalized {events : List (Event S)} {network : Network S}
    (h : Consistent events network) {record : Finalized S}
    (hopen : network.sessions.lookup record.session = some record.pending)
    (hsound : record.Sound) :
    Consistent events ((network.close record.session).recordFinalized record) where
  sessions := (h.close record.session).sessions
  issued := h.issued
  sound other hother := by
    rcases List.mem_cons.mp hother with rfl | hold
    · exact ⟨hsound, (h.sessions _ _ hopen).2⟩
    · exact h.sound other hold
  spent other hother := by
    rcases List.mem_cons.mp hother with rfl | hold
    · exact ⟨(h.sessions _ _ hopen).1, AList.lookup_erase _ _⟩
    · exact (h.close record.session).spent other hold

/-- What an event does is in the history with it. -/
theorem consistent_step {events : List (Event S)} {network : Network S} (event : Event S)
    (h : Consistent events network) : Consistent (events ++ [event]) (network.step event) := by
  have hnow : event ∈ events ++ [event] := List.mem_append_right _ (List.mem_singleton_self _)
  have hconcat := h.concat event
  have heffect := step_effect event network
  generalize network.step event = next at heffect
  cases heffect with
  | nothing => exact hconcat
  | opened pending starts => exact hconcat.start ⟨event, hnow, starts⟩
  | signed record honest =>
      refine { hconcat with issued := ?_ }
      intro other hother
      rcases List.mem_cons.mp hother with rfl | hold
      · exact honest
      · exact h.issued other hold
  | closed session => exact hconcat.close session
  | finalized record isOpen sound => exact hconcat.recordFinalized isOpen sound

/-- Every network that is reached is consistent with its history. -/
theorem consistent_run (events : List (Event S)) : Consistent events (run events) :=
  Runs.history consistent_empty (fun _ _ event h => consistent_step event h) events

/-! ## What a finalized credential is worth -/

/-- A blind signature of an issuer that finalizes, with all that went into the two. -/
theorem finalize_of_blindSignature {issuer : IssuerContext S} {info : Value}
    {request : IssuanceRequest} {rng : S.PbrsaRng} {issued : IssuanceResponse}
    (hissue : issuer.issueCredential info request rng = .ok issued) {pending : PendingIssuance}
    {response : IssuanceResponse} {credential : SignedCredential}
    (hfinal : pending.finalize issuer.keyPair.pk response = .ok credential)
    (hsame : response.blindSignature = issued.blindSignature) :
    ∃ metadata metadata' secretKey publicKey message result final,
      canonicalizePbrsaInfo S .v1 issuer.issuerId info = .ok metadata ∧
      canonicalizePbrsaInfo S .v1 pending.issuerId pending.info = .ok metadata' ∧
      canonicalizePbrsaBlindMsg S .v1 pending.blindMsg = .ok message ∧
      pending.blindingResult S = .ok result ∧
      S.deriveSecretKeyForMetadata issuer.keyPair.pk issuer.keyPair.sk metadata = .ok secretKey ∧
      S.blindSign secretKey rng request.blindedMessage = .ok issued.blindSignature ∧
      S.derivePublicKeyForMetadata issuer.keyPair.pk metadata' = .ok publicKey ∧
      S.finalize publicKey issued.blindSignature result message (some metadata') = .ok final := by
  rcases IssuerContext.issueCredential_eq_ok.mp hissue with
    ⟨metadata, secretKey, blindSignature, hmetadata, hsecret, hsign, rfl⟩
  rcases PendingIssuance.finalize_eq_ok.mp hfinal with
    ⟨-, -, metadata', message, publicKey, result, final, hmetadata', hmessage, hpublic, hresult,
      hunblind, -, -⟩
  rw [hsame] at hunblind
  exact ⟨metadata, metadata', secretKey, publicKey, message, result, final, hmetadata, hmetadata',
    hmessage, hresult, hsecret, hsign, hpublic, hunblind⟩

/-- Whatever the network does, a credential that some holder finalized has the payload
of a state that was requested or imported, the response was for that issuer and info,
and the credential is good at every verifier that last accepted the key, until it is
revoked. If the blind signature comes from the issuer with that key, the issuer signed
the metadata of this credential. -/
theorem finalized_safe (events : List (Event S)) {record : Finalized S}
    (h : record ∈ (run events).finalized) :
    (∃ event ∈ events, event.Starts record.pending) ∧
    record.pending.finalize record.issuerPublicKey record.response = .ok record.credential ∧
    record.credential.credential
      = ⟨record.pending.issuerId, record.pending.info, record.pending.blindMsg⟩ ∧
    record.response.issuerId = record.pending.issuerId ∧
    record.response.info.eq record.pending.info ∧
    (∀ authority, record.issuerAuthority = some authority →
      authority.issuer.issuerIdPubkey = record.credential.credential.issuerIdPubkey ∧
      authority.issuer.issuanceKey = record.issuerPublicKey) ∧
    (∀ calls : List (Call S),
      LastKey record.credential.credential.issuerIdPubkey calls record.issuerPublicKey →
      ((VerificationContext.run calls).verifyCredential record.credential = .ok () ↔
        ∃ digest, record.credential.credential.digest S = .ok digest ∧
          ¬Revoked record.credential.credential.issuerIdPubkey ⟨digest⟩ calls)) ∧
    (S.MetadataBound → ∀ issued ∈ (run events).issued,
      issued.issuer.keyPair.pk = record.issuerPublicKey →
      record.response.blindSignature = issued.response.blindSignature →
      canonicalizePbrsaInfo S .v1 issued.issuer.issuerId issued.info
        = canonicalizePbrsaInfo S .v1 record.credential.credential.issuerIdPubkey
          record.credential.credential.info) := by
  have hconsistent := consistent_run events
  rcases hconsistent.sound record h with ⟨hsound, hstarts⟩
  rcases PendingIssuance.finalize_eq_ok.mp hsound.credential with
    ⟨hid, hinfo, _, _, _, _, _, -, -, -, -, -, -, hproof⟩
  have hpayload := PendingIssuance.finalize_payload hsound.credential
  refine ⟨hstarts, hsound.credential, hpayload, hid, hinfo, ?_, ?_, ?_⟩
  · intro authority hauthority
    rcases hsound.authority authority hauthority with ⟨hauthorityId, hkey⟩
    rw [hpayload]
    exact ⟨hauthorityId.trans hid, hkey⟩
  · intro calls hkey
    exact VerificationContext.verifyCredential_of_lastKey hkey hproof
  · intro hbound issued hissued hkey hsame
    rcases hconsistent.issued issued hissued with ⟨rng, hissue⟩
    have hfinal := hsound.credential
    rw [← hkey] at hfinal
    rcases finalize_of_blindSignature hissue hfinal hsame with
      ⟨metadata, metadata', secretKey, publicKey, message, result, final, hmetadata, hmetadata', -,
        -, hsecret, hsign, hpublic, hunblind⟩
    rw [hpayload, hmetadata, hmetadata']
    exact congrArg Except.ok (hbound issued.issuer.keyPair metadata metadata' secretKey publicKey
      rng issued.request.blindedMessage _ result message final hsecret hsign hpublic hunblind)

/-- One round at the reference issuer, in a run. -/
theorem exists_round :
    ∃ (events : List (Event Reference.suite)) (record : Finalized Reference.suite)
      (request : IssuanceRequest) (issued : Issued Reference.suite),
      PendingIssuance.createRequest record.issuerPublicKey Reference.issuer.issuerId
        (.number (.posInt 7)) (.string "holder") Reference.blindingRng
          = .ok (request, record.pending) ∧
      record ∈ (run events).finalized ∧ issued ∈ (run events).issued ∧
      issued.issuer = Reference.issuer ∧ issued.info = .number (.posInt 7) ∧
      Reference.issuer.keyPair.pk = record.issuerPublicKey ∧
      record.response.blindSignature = issued.response.blindSignature := by
  rcases Reference.exists_response (.number (.posInt 7)) (.number (.posInt 7)) (.string "holder")
    Reference.blindingRng Reference.blindingRng with
    ⟨request, pending, response, hrequest, hresponse⟩
  rcases PendingIssuance.finalize_of_issueCredential Reference.pbrsaComplete
    Reference.pbrsaDeterministic hrequest hresponse with ⟨credential, hfinal, -, -⟩
  let key := Reference.issuer.keyPair.pk
  let events : List (Event Reference.suite) :=
    [.createRequest key Reference.issuer.issuerId (.number (.posInt 7)) (.string "holder")
        Reference.blindingRng,
      .issueCredential Reference.issuer (.number (.posInt 7)) request Reference.blindingRng,
      .finalize 0 key response]
  let record : Finalized Reference.suite := ⟨0, pending, none, key, response, credential⟩
  let issued : Issued Reference.suite :=
    ⟨Reference.issuer, .number (.posInt 7), request, response⟩
  have hrun : (run events).finalized = [record] ∧ (run events).issued = [issued] := by
    -- the first session is number zero
    have hopen : ((empty : Network Reference.suite).start pending).sessions.lookup 0
        = some pending := AList.lookup_insert _
    simp only [events, run, Runs.run_cons, Runs.run_nil, step, hrequest, hresponse, complete,
      recordIssued, hopen, key, hfinal]
    exact ⟨rfl, rfl⟩
  exact ⟨events, record, request, issued, hrequest, hrun.1 ▸ List.mem_singleton_self _,
    hrun.2 ▸ List.mem_singleton_self _, rfl, rfl, rfl, rfl⟩

/-- One round at the reference issuer: the credential has the payload that was asked
for, and the issuer signed its metadata. -/
theorem finalized_safe_reference :
    ∃ (events : List (Event Reference.suite)) (record : Finalized Reference.suite),
      record ∈ (run events).finalized ∧
      record.credential.credential
        = ⟨Reference.issuer.issuerId, .number (.posInt 7), .string "holder"⟩ ∧
      ∀ issued ∈ (run events).issued,
        issued.issuer.keyPair.pk = record.issuerPublicKey →
        record.response.blindSignature = issued.response.blindSignature →
        canonicalizePbrsaInfo Reference.suite .v1 issued.issuer.issuerId issued.info
          = canonicalizePbrsaInfo Reference.suite .v1 Reference.issuer.issuerId
            (.number (.posInt 7)) := by
  rcases exists_round with ⟨events, record, request, issued, hrequest, hmem, -⟩
  have hsafe := finalized_safe events hmem
  rcases PendingIssuance.createRequest_payload hrequest with ⟨hid, hinfo, hmsg⟩
  have hpayload := hsafe.2.2.1
  rw [hid, hinfo, hmsg] at hpayload
  have hbound := hsafe.2.2.2.2.2.2.2 Reference.metadataBound
  refine ⟨events, record, hmem, hpayload, ?_⟩
  intro other hother hkey hsame
  have hmetadata := hbound other hother hkey hsame
  rwa [hpayload] at hmetadata

end Network

end PeerBadge
