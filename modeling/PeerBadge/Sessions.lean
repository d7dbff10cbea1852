import PeerBadge.Network

/-! # One session of the network

Seen from one holder session, the network is a machine with two states: the session is
open with its pending state, or it is closed with what came of it. `session_run` says
that the network refines this machine, for each session, however many others there are:
a session moves when a response is delivered to it, and at nothing else.
-/

namespace PeerBadge

variable {S : Suite}

/-- A session that was started. -/
inductive Session (S : Suite) where
  | opened (pending : PendingIssuance)
  | closed (record : Option (Finalized S))

/-- The session a response is delivered to. -/
def Event.addressee : Event S → Option Nat
  | .finalize session _ _ => some session
  | .finalizeWasm session _ _ => some session
  | _ => none

/-- What a delivered response makes of a pending state. -/
def Event.outcome (pending : PendingIssuance) : Event S → Option (Finalized S)
  | .finalize session issuerPublicKey response =>
      (pending.finalize issuerPublicKey response).toOption.map fun credential =>
        ⟨session, pending, none, issuerPublicKey, response, credential⟩
  | .finalizeWasm session issuerAuthority response =>
      (pending.finalizeWasm issuerAuthority response).toOption.map fun credential =>
        ⟨session, pending, some issuerAuthority, issuerAuthority.issuer.issuanceKey, response,
          credential⟩
  | _ => none

namespace Session

/-- The first response closes the session. -/
def receive (n : Nat) (session : Session S) (event : Event S) : Session S :=
  match session with
  | .opened pending =>
      if event.addressee = some n then .closed (event.outcome pending) else .opened pending
  | .closed record => .closed record

/-- A closed session stays closed, with its record. -/
theorem run_closed (n : Nat) (record : Option (Finalized S)) (events : List (Event S)) :
    Runs.run (receive n) (.closed record) events = .closed record := by
  induction events with
  | nil => rfl
  | cons event events ih => exact ih

/-- A session that is not spoken to stays open. -/
theorem run_opened {n : Nat} (pending : PendingIssuance) {events : List (Event S)}
    (h : ∀ event ∈ events, event.addressee ≠ some n) :
    Runs.run (receive n) (.opened pending) events = .opened pending := by
  induction events with
  | nil => rfl
  | cons event events ih =>
      have hother := h event List.mem_cons_self
      rw [Runs.run_cons, receive, if_neg hother]
      exact ih fun later hlater => h later (List.mem_cons_of_mem _ hlater)

end Session

namespace Network

/-- A session of the network, once it was started. -/
def session (network : Network S) (n : Nat) : Session S :=
  match network.sessions.lookup n with
  | some pending => .opened pending
  | none => .closed (network.finalized.find? fun record => record.session == n)

/-! ## One event -/

variable {network : Network S} {n : Nat}

theorem session_start (hn : n < network.nextSession) (pending : PendingIssuance) :
    (network.start pending).session n = network.session n := by
  have hother : n ≠ network.nextSession := Nat.ne_of_lt hn
  simp only [session, start, AList.lookup_insert_ne hother]

theorem session_close_ne {m : Nat} (h : n ≠ m) :
    (network.close m).session n = network.session n := by
  simp only [session, close, AList.lookup_erase_ne h]

/-- An open session is in no record yet. -/
theorem find_eq_none {events : List (Event S)} (h : Consistent events network)
    {pending : PendingIssuance} (hopen : network.sessions.lookup n = some pending) :
    (network.finalized.find? fun record => record.session == n) = none := by
  apply List.find?_eq_none.mpr
  intro record hrecord heq
  have hgone := (h.spent record hrecord).2
  rw [beq_iff_eq.mp heq, hopen] at hgone
  cases hgone

theorem session_recordFinalized_ne (record : Finalized S) (h : n ≠ record.session) :
    (network.recordFinalized record).session n = network.session n := by
  have hother : (record.session == n) = false := beq_false_of_ne (Ne.symm h)
  simp only [session, recordFinalized, List.find?_cons, hother]

/-- Finalizing one session leaves the others. -/
theorem session_complete_ne {m : Nat} (h : n ≠ m) (issuerAuthority : Option (IssuerAuthority S))
    (issuerPublicKey : S.PbrsaPublicKey) (response : IssuanceResponse)
    (result : PendingIssuance → Except (CredentialsError S) SignedCredential) :
    (network.complete m issuerAuthority issuerPublicKey response result).session n
      = network.session n := by
  cases hopen : network.sessions.lookup m with
  | none => simp only [complete, hopen]
  | some pending =>
      cases hresult : result pending with
      | error e =>
          simp only [complete, hopen, hresult]
          exact session_close_ne h
      | ok credential =>
          simp only [complete, hopen, hresult]
          rw [session_recordFinalized_ne _ h]
          exact session_close_ne h

theorem session_complete_self {events : List (Event S)} (h : Consistent events network)
    (issuerAuthority : Option (IssuerAuthority S)) (issuerPublicKey : S.PbrsaPublicKey)
    (response : IssuanceResponse)
    (result : PendingIssuance → Except (CredentialsError S) SignedCredential) :
    (network.complete n issuerAuthority issuerPublicKey response result).session n =
      match network.session n with
      | .opened pending => .closed ((result pending).toOption.map fun credential =>
          ⟨n, pending, issuerAuthority, issuerPublicKey, response, credential⟩)
      | .closed record => .closed record := by
  cases hopen : network.sessions.lookup n with
  | none => simp only [complete, hopen, session]
  | some pending =>
      have hnone := find_eq_none h hopen
      cases hresult : result pending with
      | error e =>
          simp only [complete, hopen, hresult, session, close, AList.lookup_erase, hnone]
          rfl
      | ok credential =>
          simp only [complete, hopen, hresult, session, close, recordFinalized,
            AList.lookup_erase, List.find?_cons, beq_self_eq_true]
          rfl

/-- One event of the network is at most one event of the session. -/
theorem session_step {events : List (Event S)} (h : Consistent events network)
    (hn : n < network.nextSession) (event : Event S) :
    (network.step event).session n = (network.session n).receive n event := by
  have hreceive : event.addressee ≠ some n →
      (network.session n).receive n event = network.session n := by
    intro hother
    cases network.session n with
    | opened pending => exact if_neg hother
    | closed record => rfl
  cases event with
  | createRequest issuerPublicKey issuerId info blindMsg rng =>
      rw [hreceive (fun heq => by cases heq)]
      simp only [step]
      split
      · rfl
      · exact session_start hn _
  | importState state =>
      rw [hreceive (fun heq => by cases heq)]
      simp only [step]
      split
      · rfl
      · exact session_start hn _
  | issueCredential issuer info request rng =>
      rw [hreceive (fun heq => by cases heq)]
      simp only [step]
      split
      · rfl
      · rfl
  | finalize m issuerPublicKey response =>
      by_cases hm : n = m
      · subst hm
        rw [step, session_complete_self h]
        cases network.session n with
        | opened pending => exact (if_pos rfl).symm
        | closed record => rfl
      · rw [hreceive (fun heq => hm (Option.some.inj heq).symm)]
        exact session_complete_ne hm none issuerPublicKey response _
  | finalizeWasm m issuerAuthority response =>
      by_cases hm : n = m
      · subst hm
        rw [step, session_complete_self h]
        cases network.session n with
        | opened pending => exact (if_pos rfl).symm
        | closed record => rfl
      · rw [hreceive (fun heq => hm (Option.some.inj heq).symm)]
        exact session_complete_ne hm _ _ response _

/-- Numbers of sessions are not given again. -/
theorem nextSession_le_step (network : Network S) (event : Event S) :
    network.nextSession ≤ (network.step event).nextSession := by
  have heffect := step_effect event network
  generalize network.step event = next at heffect
  cases heffect with
  | opened pending starts => exact Nat.le_succ _
  | _ => exact Nat.le_refl _

/-! ## Every run -/

theorem step_of_starts {event : Event S} {pending : PendingIssuance} (h : event.Starts pending)
    (network : Network S) : network.step event = network.start pending := by
  cases event with
  | createRequest issuerPublicKey issuerId info blindMsg rng =>
      rcases h with ⟨request, hrequest⟩
      simp only [step, hrequest]
  | importState state =>
      have himport : PendingIssuance.importState S state = .ok pending := h
      simp only [step, himport]
  | _ => exact absurd h id

/-- A session of a network that some run leads to, and the machine it follows. -/
structure Follows (n : Nat) (network : Network S) (session : Session S) : Prop where
  consistent : ∃ events, Consistent events network
  started : n < network.nextSession
  session : network.session n = session

/-- A session that is followed is followed through one more event. -/
theorem Follows.step {session : Session S} (h : Follows n network session) (event : Event S) :
    Follows n (network.step event) (session.receive n event) := by
  rcases h.consistent with ⟨events, hconsistent⟩
  refine ⟨⟨_, consistent_step event hconsistent⟩, ?_, ?_⟩
  · exact Nat.lt_of_lt_of_le h.started (nextSession_le_step network event)
  · rw [session_step hconsistent h.started, h.session]

/-- A session that was just started is open. -/
theorem follows_start (before : List (Event S)) {start : Event S} {pending : PendingIssuance}
    (hstarts : start.Starts pending) :
    Follows (run before).nextSession (run (before ++ [start])) (.opened pending) := by
  have hrun : run (before ++ [start]) = (run before).start pending := by
    rw [run, Runs.run_concat, ← run, step_of_starts hstarts]
  refine ⟨⟨_, consistent_run _⟩, ?_, ?_⟩
  · rw [hrun]
    exact Nat.lt_succ_self _
  · simp only [hrun, Network.session, Network.start, AList.lookup_insert]

/-- The network refines the machine of each session. -/
theorem session_run (before : List (Event S)) {start : Event S} {pending : PendingIssuance}
    (hstarts : start.Starts pending) (later : List (Event S)) :
    (run (before ++ start :: later)).session (run before).nextSession =
      Runs.run (Session.receive (run before).nextSession) (.opened pending) later := by
  have hfollows := Runs.related (R := Follows (run before).nextSession)
    (fun _ _ event h => Follows.step h event) (follows_start before hstarts) later
  have hrun : run (before ++ start :: later)
      = Runs.run Network.step (run (before ++ [start])) later := by
    rw [List.append_cons, run, Runs.run_append, ← run]
  rw [hrun]
  exact hfollows.session

/-- The first response that is delivered decides, for good. -/
theorem session_closed (before between after : List (Event S)) {start response : Event S}
    {pending : PendingIssuance} (hstarts : start.Starts pending)
    (hbetween : ∀ event ∈ between, event.addressee ≠ some (run before).nextSession)
    (hresponse : response.addressee = some (run before).nextSession) :
    (run (before ++ start :: (between ++ response :: after))).session (run before).nextSession
      = .closed (response.outcome pending) := by
  rw [session_run before hstarts, Runs.run_append, Session.run_opened pending hbetween,
    Runs.run_cons, Session.receive, if_pos hresponse, Session.run_closed]

/-- Whatever the network does before, in between and after: a session stays as it was
started until a response is delivered to it, and the first one decides, for good. -/
theorem session_decided (before between after : List (Event S)) {start response : Event S}
    {pending : PendingIssuance} (hstarts : start.Starts pending)
    (hbetween : ∀ event ∈ between, event.addressee ≠ some (run before).nextSession)
    (hresponse : response.addressee = some (run before).nextSession) :
    (run (before ++ start :: between)).session (run before).nextSession = .opened pending ∧
    (run (before ++ start :: (between ++ response :: after))).session (run before).nextSession
      = .closed (response.outcome pending) := by
  refine ⟨?_, session_closed before between after hstarts hbetween hresponse⟩
  rw [session_run before hstarts, Session.run_opened pending hbetween]

/-- The first response decides also when it is not the issuer's: it uses the session up,
and the issuer's own response comes too late. -/
theorem session_decided_reference :
    ∃ (request : IssuanceRequest) (pending : PendingIssuance) (response : IssuanceResponse),
      PendingIssuance.createRequest Reference.issuer.keyPair.pk Reference.issuer.issuerId
        (.number (.posInt 7)) (.string "holder") Reference.blindingRng = .ok (request, pending) ∧
      Reference.issuer.issueCredential (.number (.posInt 7)) request Reference.blindingRng
        = .ok response ∧
      (run [.createRequest Reference.issuer.keyPair.pk Reference.issuer.issuerId
          (.number (.posInt 7)) (.string "holder") Reference.blindingRng,
        .finalize 0 Reference.issuer.keyPair.pk
          { response with issuerId := Reference.otherIssuer.issuerId },
        .finalize 0 Reference.issuer.keyPair.pk response]).session 0 = .closed none := by
  rcases Reference.exists_response (.number (.posInt 7)) (.number (.posInt 7)) (.string "holder")
    Reference.blindingRng Reference.blindingRng with
    ⟨request, pending, response, hrequest, hresponse⟩
  have hstarts : Event.Starts pending (.createRequest Reference.issuer.keyPair.pk
      Reference.issuer.issuerId (.number (.posInt 7)) (.string "holder") Reference.blindingRng) :=
    ⟨request, hrequest⟩
  have haddressee : Event.addressee (.finalize 0 Reference.issuer.keyPair.pk
      { response with issuerId := Reference.otherIssuer.issuerId } : Event Reference.suite)
      = some (run ([] : List (Event Reference.suite))).nextSession := rfl
  have hdecided := (session_decided [] [] [.finalize 0 Reference.issuer.keyPair.pk response] hstarts
    (fun _ hmem => absurd hmem List.not_mem_nil) haddressee).2
  refine ⟨request, pending, response, hrequest, hresponse, hdecided.trans ?_⟩
  have hid := (PendingIssuance.createRequest_payload hrequest).1
  have hother : Reference.otherIssuer.issuerId ≠ Reference.issuer.issuerId := by decide
  have hmismatch : pending.finalize Reference.issuer.keyPair.pk
      { response with issuerId := Reference.otherIssuer.issuerId } = .error .issuerIdMismatch := by
    rw [PendingIssuance.finalize, if_pos (by rw [hid]; exact hother)]
  rw [Event.outcome, hmismatch]
  rfl

/-- A holder that asks an honest issuer gets what it asked for, whatever the network
does before, in between and after, if only the issuer's response is the first one that
is delivered to the session; the credential is good at every verifier that last accepted
the key, until it is revoked. -/
theorem session_completes (hcomplete : S.PbrsaComplete) (hplain : S.PbrsaDeterministic)
    {issuer : IssuerContext S} {info blindMsg : Value} {rng rng' : S.PbrsaRng}
    {request : IssuanceRequest} {pending : PendingIssuance} {response : IssuanceResponse}
    (hrequest : PendingIssuance.createRequest issuer.keyPair.pk issuer.issuerId info blindMsg rng
      = .ok (request, pending))
    (hissue : issuer.issueCredential info request rng' = .ok response)
    (before between after : List (Event S))
    (hbetween : ∀ event ∈ between, event.addressee ≠ some (run before).nextSession) :
    ∃ record,
      (run (before ++ .createRequest issuer.keyPair.pk issuer.issuerId info blindMsg rng ::
        (between ++ .finalize (run before).nextSession issuer.keyPair.pk response :: after))).session
          (run before).nextSession = .closed (some record) ∧
      record.credential.credential = ⟨issuer.issuerId, info, blindMsg⟩ ∧
      ∀ calls : List (Call S), LastKey issuer.issuerId calls issuer.keyPair.pk →
        ((VerificationContext.run calls).verifyCredential record.credential = .ok () ↔
          ∃ digest, record.credential.credential.digest S = .ok digest ∧
            ¬Revoked issuer.issuerId ⟨digest⟩ calls) := by
  rcases PendingIssuance.finalize_of_issueCredential hcomplete hplain hrequest hissue with
    ⟨credential, hfinal, hpayload, hproof⟩
  have hstarts : Event.Starts pending
      (.createRequest issuer.keyPair.pk issuer.issuerId info blindMsg rng) := ⟨request, hrequest⟩
  have hdelivered : Event.addressee
      (.finalize (run before).nextSession issuer.keyPair.pk response : Event S)
        = some (run before).nextSession := rfl
  have hclosed := session_closed before between after hstarts hbetween hdelivered
  rw [Event.outcome, hfinal] at hclosed
  refine ⟨_, hclosed, hpayload, ?_⟩
  · intro calls hkey
    have hid : credential.credential.issuerIdPubkey = issuer.issuerId := by rw [hpayload]
    rw [← hid] at hkey ⊢
    exact VerificationContext.verifyCredential_of_lastKey hkey hproof

/-- Other sessions and a second delivery do no harm. -/
theorem session_completes_reference :
    ∃ authority request response record,
      Reference.issuer.issuerAuthority [] () = .ok authority ∧
      Reference.issuer.issueCredential (.number (.posInt 7)) request Reference.blindingRng
        = .ok response ∧
      (run [.createRequest Reference.issuer.keyPair.pk Reference.issuer.issuerId
          (.number (.posInt 7)) (.string "holder") Reference.blindingRng,
        .issueCredential Reference.issuer (.number (.posInt 7)) request Reference.blindingRng,
        .finalize 1 Reference.issuer.keyPair.pk response,
        .finalize 0 Reference.issuer.keyPair.pk response,
        .finalizeWasm 0 authority response]).session 0 = .closed (some record) ∧
      (VerificationContext.run [.addIssuerAuthority authority]).verifyCredential record.credential
        = .ok () := by
  rcases Reference.exists_authorizes with ⟨authority, hauthority, hauthorizes⟩
  rcases Reference.exists_response (.number (.posInt 7)) (.number (.posInt 7)) (.string "holder")
    Reference.blindingRng Reference.blindingRng with
    ⟨request, pending, response, hrequest, hresponse⟩
  rcases lastKey_singleton hauthorizes with ⟨hkey, hfree⟩
  rcases session_completes Reference.pbrsaComplete Reference.pbrsaDeterministic hrequest hresponse
    [] [.issueCredential Reference.issuer (.number (.posInt 7)) request Reference.blindingRng,
      .finalize 1 Reference.issuer.keyPair.pk response]
    [.finalizeWasm 0 authority response] (by simp [Event.addressee, run, empty]) with
    ⟨record, hclosed, -, hverify⟩
  rcases record.credential.credential.exists_digest Reference.canonicalizes with ⟨digest, hdigest⟩
  exact ⟨authority, request, response, record, hauthority, hresponse, hclosed,
    (hverify _ hkey).mpr ⟨digest, hdigest, hfree _⟩⟩

end Network

end PeerBadge
