import PeerBadge.Reference

/-! # Persisting a pending issuance

A state that is exported and imported again is the same state, provided it can be
imported at all: the reader of `serde_json` gives up on documents that are nested too
deeply, the writer does not, and the state adds one level to what the holder asked
for.
-/

namespace PeerBadge

variable {S : Suite}

namespace PendingIssuance

/-! ## The document -/

theorem bytes_base64Document (bytes : Bytes) : Serde.bytes (base64Document bytes) = .ok bytes :=
  Serde.bytes_base64 bytes

theorem readMsgRandomizer_document (msgRandomizer : Option Bytes) :
    readMsgRandomizer (some ((msgRandomizer.map base64Document).getD .null)) = .ok msgRandomizer := by
  cases msgRandomizer with
  | none => rfl
  | some bytes =>
      have hread := bytes_base64Document bytes
      show (Serde.bytes (base64Document bytes)).map some = .ok (some bytes)
      rw [hread]
      rfl

theorem readIssuerId_document (hkeys : S.KeyRoundTrip) (issuerId : IssuerId) :
    readIssuerId S (.str (nostrHex issuerId.key)) = .ok issuerId := by
  simp only [readIssuerId, Serde.string, Outcome.ok_bind, hkeys issuerId.key]

/-- The document of a state denotes that state. -/
theorem ofDocument_toDocument (hkeys : S.KeyRoundTrip) (pending : PendingIssuance) :
    ofDocument S pending.toDocument = .ok pending := by
  have hnames : fieldNames.Nodup := by decide
  have hfields : Serde.structFields fieldNames pending.toDocument = .ok _ :=
    Serde.structFields_obj rfl hnames
  -- version and step have one value each
  rcases pending with ⟨⟨⟩, ⟨⟩, issuerId, info, blindMsg, blindMessage, secret, msgRandomizer⟩
  have hversion : readVersion (.num (.posInt 1)) = .ok .v1 := by decide
  have hstep : readStep (.str stepName) = .ok .waitingForIssuerResponse := by decide
  unfold ofDocument
  rw [hfields]
  simp only [Outcome.ok_bind, Serde.required, List.lookup_cons, String.reduceBEq, hversion, hstep,
    readIssuerId_document hkeys, bytes_base64Document, readMsgRandomizer_document,
    Value.ofDocument_tree]

/-- A state is one level deeper than the deeper of info and blind message. -/
theorem depth_toDocument (pending : PendingIssuance) :
    pending.toDocument.depth = 1 + max pending.info.tree.depth pending.blindMsg.tree.depth := by
  have hrandomizer : ((pending.msgRandomizer.map base64Document).getD .null).depth = 0 := by
    cases pending.msgRandomizer <;> rfl
  rw [toDocument, Json.depth_obj]
  simp only [List.map_cons, List.map_nil, List.foldr_cons, List.foldr_nil, Json.depth_num,
    Json.depth_str, base64Document, hrandomizer]
  omega

/-! ## Export and import -/

/-- What was exported is imported again unless it is nested too deeply. -/
theorem importState_exportState (hkeys : S.KeyRoundTrip) {limit : Nat}
    (hjson : S.JsonRoundTrip limit) (pending : PendingIssuance) :
    ∃ state, pending.exportState S = .ok state ∧
      (pending.toDocument.depth ≤ limit → importState S state = .ok pending) ∧
      (limit < pending.toDocument.depth → ∃ e, importState S state = .error e) := by
  rcases hjson pending.toDocument with ⟨state, hprint, hread, hdeep⟩
  refine ⟨state, by rw [exportState, hprint]; rfl, ?_, ?_⟩
  · intro hle
    simp only [importState, hread hle, ofDocument_toDocument hkeys]
  · intro hlt
    rcases hdeep hlt with ⟨e, he⟩
    simp only [importState, he]
    exact ⟨_, rfl⟩

/-- A pending issuance survives export and import, and finalizes as before, exactly
when info and blind message are nested less deeply than the reader allows. -/
theorem persistence_transparent_iff (hkeys : S.KeyRoundTrip) {limit : Nat}
    (hjson : S.JsonRoundTrip limit) {issuerPublicKey : S.PbrsaPublicKey} {issuerId : IssuerId}
    {info blindMsg : Value} {rng : S.PbrsaRng} {request : IssuanceRequest}
    {pending : PendingIssuance}
    (hrequest : createRequest issuerPublicKey issuerId info blindMsg rng = .ok (request, pending)) :
    (∀ state, pending.exportState S = .ok state →
      ∃ pending', importState S state = .ok pending' ∧ pending' = pending ∧
        ∀ (key : S.PbrsaPublicKey) (response : IssuanceResponse),
          pending'.finalize key response = pending.finalize key response) ↔
    max info.tree.depth blindMsg.tree.depth < limit := by
  rcases createRequest_payload hrequest with ⟨-, hinfo, hmsg⟩
  have hdepth := depth_toDocument pending
  rw [hinfo, hmsg] at hdepth
  rcases importState_exportState hkeys hjson pending with ⟨state, hexport, himport, hfail⟩
  constructor
  · intro htransparent
    rcases htransparent state hexport with ⟨pending', hok, -, -⟩
    by_contra hdeep
    rcases hfail (by omega) with ⟨e, he⟩
    rw [he] at hok
    cases hok
  · intro hlt other hother
    cases hexport.symm.trans hother
    exact ⟨pending, himport (by omega), rfl, fun key response => rfl⟩

/-- A flat info and a flat blind message come back. -/
theorem persistence_transparent_iff_flat :
    ∃ request pending state,
      createRequest Reference.issuer.keyPair.pk Reference.issuer.issuerId (.number (.posInt 7))
        (.string "holder") Reference.blindingRng = .ok (request, pending) ∧
      pending.exportState Reference.suite = .ok state ∧
      importState Reference.suite state = .ok pending := by
  rcases Reference.exists_response (.number (.posInt 7)) (.number (.posInt 7)) (.string "holder")
    Reference.blindingRng Reference.blindingRng with ⟨request, pending, response, hrequest, -⟩
  rcases importState_exportState Reference.keyRoundTrip Reference.jsonRoundTrip pending with
    ⟨state, hexport, -, -⟩
  have hspec := (persistence_transparent_iff Reference.keyRoundTrip Reference.jsonRoundTrip
    hrequest).mpr (by decide)
  rcases hspec state hexport with ⟨pending', hok, rfl, -⟩
  exact ⟨request, pending', state, hrequest, hexport, hok⟩

/-- An info of 200 nested arrays: the state is exported, and nothing comes back. -/
theorem persistence_transparent_counterexample :
    ∃ request pending state,
      createRequest Reference.issuer.keyPair.pk Reference.issuer.issuerId (Reference.nested 200)
        (.string "holder") Reference.blindingRng = .ok (request, pending) ∧
      pending.exportState Reference.suite = .ok state ∧
      ¬∃ pending', importState Reference.suite state = .ok pending' := by
  rcases Reference.exists_response (Reference.nested 200) (Reference.nested 200) (.string "holder")
    Reference.blindingRng Reference.blindingRng with ⟨request, pending, response, hrequest, -⟩
  rcases createRequest_payload hrequest with ⟨-, hinfo, hmsg⟩
  have hdepth := depth_toDocument pending
  rw [hinfo, hmsg, Reference.depth_nested] at hdepth
  rcases importState_exportState Reference.keyRoundTrip Reference.jsonRoundTrip pending with
    ⟨state, hexport, -, hfail⟩
  rcases hfail (by omega) with ⟨e, he⟩
  refine ⟨request, pending, state, hrequest, hexport, ?_⟩
  intro himport
  rcases himport with ⟨pending', hok⟩
  rw [he] at hok
  cases hok

end PendingIssuance

end PeerBadge
