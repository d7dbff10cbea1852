import PeerBadge.Preimages
import PeerBadge.Store
import PeerBadge.TrustScore

/-! # Badges and their credentials

The parser of the schema against its constructors, and against the bytes that are
signed. It accepts what the constructors build, with more members in `info` if need be,
and it ties a badge to one holder and one digest.

Canonical bytes do not tell `7` from `7.0`, and the parser does: the badge is determined
by the signed bytes up to that.
-/

namespace PeerBadge

variable {S : Suite}

/-! ## Parser and constructors -/

/-- Holding every member the constructor writes is holding the schema and the level. -/
theorem contains_trustScoreInfoV1_iff {info : Value} {trustLevel : UInt64} :
    (∃ o, trustScoreInfoV1 trustLevel = .ok o ∧ info.Contains o) ↔
      LegalLevel trustLevel ∧ ∃ ms, info.asObject = some ms ∧
        ms.lookup "schema" = some (.string trustScoreSchemaV1) ∧
        ms.lookup "trust_level" = some (.number (.posInt trustLevel)) := by
  simp only [trustScoreInfoV1_eq_ok, and_assoc, exists_and_left, exists_eq_left']
  rw [Value.contains_object_iff (by simp)]
  simp only [List.mem_cons, List.not_mem_nil, or_false, forall_eq_or_imp, forall_eq,
    Value.eq_string_iff, Value.eq_posInt_iff, exists_eq_right]

/-- What the constructors build is a badge. -/
theorem parseTrustScoreBadgeV1_of_constructors (hhex : S.ParsesHex) {issuerId : IssuerId}
    {trustLevel : UInt64} {info : Value} (h : trustScoreInfoV1 trustLevel = .ok info)
    (holder : NostrPublicKey) :
    parseTrustScoreBadgeV1 S ⟨issuerId, info, trustScoreBlindMsgV1 holder⟩
      = .ok ⟨trustLevel, holder⟩ := by
  rcases trustScoreInfoV1_eq_ok.mp h with ⟨hlegal, rfl⟩
  apply parseTrustScoreBadgeV1_eq_ok.mpr
  refine ⟨_, ⟨Value.asObject_object _, ?_, rfl, hhex holder⟩, ?_, hlegal⟩
  · rw [Json.lookup_ofMembers (by simp), List.lookup_cons_self]
  · rw [Json.lookup_ofMembers (by simp), List.lookup_cons, List.lookup_cons]
    rfl

/-- A badge says who its holder is in the terms of the protocol. -/
theorem credentialHolderId_of_badge {credential : SignedCredential} {badge : TrustScoreBadgeV1}
    (h : parseTrustScoreBadgeV1 S credential.credential = .ok badge) :
    credentialHolderId S credential = .ok ⟨badge.holderPubkey⟩ := by
  rcases parseTrustScoreBadgeV1_eq_ok.mp h with ⟨info, hbadge, -, -⟩
  apply credentialHolderId_eq_ok.mpr
  exact ⟨nostrHex badge.holderPubkey, Value.asStr_eq_some_iff.mpr hbadge.blindMsg, hbadge.parses⟩

/-- A credential of the reference issuer with the schema, a level and a holder. -/
def levelCredential (level : Number) : SignedCredential :=
  Reference.credential
    (.object [("schema", .string trustScoreSchemaV1), ("trust_level", .number level)])
    Reference.holderMsg

theorem badgeOf_levelCredential (level : Number) :
    ∃ info, (levelCredential level).credential.BadgeOf Reference.suite info
        Reference.identityKeys ∧
      info.lookup "trust_level" = some (.number level) := by
  refine ⟨_, ⟨Value.asObject_object _, ?_, rfl, Reference.parsesHex _⟩, ?_⟩
  · rw [Json.lookup_ofMembers (by simp), List.lookup_cons_self]
  · rw [Json.lookup_ofMembers (by simp), List.lookup_cons, List.lookup_cons]
    rfl

/-- The parser accepts exactly what the constructors build, up to more members in `info`.
So whoever an accepted authorization names is the holder of the badge, and issuer, info
and holder of a badge leave one canonical form. -/
theorem badge_accepted_iff (hhex : S.ParsesHex) :
    (∀ (credential : Credential) (badge : TrustScoreBadgeV1),
      parseTrustScoreBadgeV1 S credential = .ok badge ↔
        (∃ o, trustScoreInfoV1 badge.trustLevel = .ok o ∧ credential.info.Contains o) ∧
        credential.blindMsg = trustScoreBlindMsgV1 badge.holderPubkey) ∧
    (∀ (credential : SignedCredential) (badge : TrustScoreBadgeV1),
      parseTrustScoreBadgeV1 S credential.credential = .ok badge →
      credentialHolderId S credential = .ok ⟨badge.holderPubkey⟩ ∧
      ∀ (context : VerificationContext S) (authorization : HolderAuthorization) (now : Timestamp),
        context.verifyCredentialAuthorizationAtTime credential authorization now = .ok () →
        authorization.authorization.holderIdPubkey = ⟨badge.holderPubkey⟩ ∧
          authorization.Signed S) ∧
    (S.Rfc8785 → ∀ (p q : Credential) (badge badge' : TrustScoreBadgeV1),
      parseTrustScoreBadgeV1 S p = .ok badge → parseTrustScoreBadgeV1 S q = .ok badge' →
      p.issuerIdPubkey = q.issuerIdPubkey →
      canonicalizeJsonValue S p.info = canonicalizeJsonValue S q.info →
      badge.holderPubkey = badge'.holderPubkey →
      canonicalizeCredential S p = canonicalizeCredential S q ∧ p.digest S = q.digest S) := by
  refine ⟨?_, ?_, ?_⟩
  · intro credential badge
    rw [parseTrustScoreBadgeV1_eq_ok, contains_trustScoreInfoV1_iff]
    constructor
    · intro h
      rcases h with ⟨ms, hbadge, hlevel, hlegal⟩
      exact ⟨⟨hlegal, ms, hbadge.asObject, hbadge.schema, hlevel⟩, hbadge.blindMsg⟩
    · intro h
      rcases h with ⟨⟨hlegal, ms, hobject, hschema, hlevel⟩, hmsg⟩
      exact ⟨ms, ⟨hobject, hschema, hmsg, hhex badge.holderPubkey⟩, hlevel, hlegal⟩
  · intro credential badge h
    have hholder := credentialHolderId_of_badge h
    refine ⟨hholder, ?_⟩
    intro context authorization now hok
    rcases VerificationContext.verifyCredentialAuthorizationAtTime_eq_ok.mp hok with
      ⟨-, hsigned, hbound, -, -⟩
    exact ⟨Except.ok.inj (hbound.symm.trans hholder), hsigned⟩
  · intro hS p q badge badge' hp hq hissuer hinfo hholder
    rcases parseTrustScoreBadgeV1_eq_ok.mp hp with ⟨ms, hbadge, -, -⟩
    rcases parseTrustScoreBadgeV1_eq_ok.mp hq with ⟨ms', hbadge', -, -⟩
    -- the blind message is spelled in one way
    have hmsg : p.blindMsg = q.blindMsg := by
      rw [hbadge.blindMsg, hbadge'.blindMsg, hholder]
    have hcanonical : canonicalizeCredential S p = canonicalizeCredential S q :=
      (canonicalizeJsonValue_eq_iff hS _ _).mpr ((Credential.toValue_inj p q).mpr
        ⟨hissuer, (canonicalizeJsonValue_eq_iff hS _ _).mp hinfo, congrArg Value.rfc8785 hmsg⟩)
    exact ⟨hcanonical, by rw [Credential.digest, hcanonical, Credential.digest]⟩

/-- Level 7 for the reference holder: built, parsed, and bound to that holder. -/
theorem badge_accepted_iff_seven :
    parseTrustScoreBadgeV1 Reference.suite (levelCredential (.posInt 7)).credential
        = .ok ⟨7, Reference.identityKeys⟩ ∧
      credentialHolderId Reference.suite (levelCredential (.posInt 7))
        = .ok ⟨Reference.identityKeys⟩ := by
  rcases badge_accepted_iff Reference.parsesHex with ⟨haccepted, hbound, -⟩
  have hparse := (haccepted (levelCredential (.posInt 7)).credential
    ⟨7, Reference.identityKeys⟩).mpr ⟨contains_trustScoreInfoV1_iff.mpr ?_, rfl⟩
  · exact ⟨hparse, (hbound _ _ hparse).1⟩
  · rcases badgeOf_levelCredential (.posInt 7) with ⟨info, hbadge, hlevel⟩
    exact ⟨⟨by decide, by decide⟩, info, hbadge.asObject, hbadge.schema, hlevel⟩

/-! ## Badges and signed bytes -/

/-- The level is held as an integer. -/
def Credential.IntegerLevel (credential : Credential) : Prop :=
  ∃ info trustLevel, credential.info.asObject = some info ∧
    info.lookup "trust_level" = some (.number (.posInt trustLevel)) ∧ LegalLevel trustLevel

/-- The level is held as a float, written like an integer. -/
def Credential.FloatLevel (credential : Credential) : Prop :=
  ∃ info x trustLevel, credential.info.asObject = some info ∧
    info.lookup "trust_level" = some (.number (.float x)) ∧ LegalLevel trustLevel ∧
    (Number.float x).double = (Number.posInt trustLevel).double

/-- Everything but the level is in order. -/
def Credential.CarriesSchema (S : Suite) (credential : Credential) : Prop :=
  ∃ info holder, credential.BadgeOf S info holder

/-- Both are the same badge, or neither is one. -/
def SameBadge (S : Suite) (p q : Credential) : Prop :=
  ∀ badge, parseTrustScoreBadgeV1 S p = .ok badge ↔ parseTrustScoreBadgeV1 S q = .ok badge

/-- The credential as a JavaScript verifier has it. -/
def Credential.throughDoubles (credential : Credential) : Credential :=
  { credential with
    info := credential.info.throughDoubles
    blindMsg := credential.blindMsg.throughDoubles }

/-- What a badge has besides the level survives any change of the numbers. -/
theorem Credential.BadgeOf.of_rfc8785 {p q : Credential} {info : List (String × Value)}
    {holder : NostrPublicKey} (h : p.BadgeOf S info holder)
    (hsame : p.toValue.rfc8785 = q.toValue.rfc8785) :
    ∃ info', q.BadgeOf S info' holder ∧
      (info.lookup "trust_level").map Value.rfc8785
        = (info'.lookup "trust_level").map Value.rfc8785 := by
  rcases (Credential.toValue_inj p q).mp hsame with ⟨-, hinfo, hmsg⟩
  rcases Value.lookup_rfc8785 hinfo h.asObject with ⟨info', hobject, hlookup⟩
  refine ⟨info', ⟨hobject, ?_, ?_, h.parses⟩, hlookup "trust_level"⟩
  · have hschema := hlookup "schema"
    rw [h.schema, Option.map_some, Eq.comm, Option.map_eq_some_iff] at hschema
    rcases hschema with ⟨v, hv, hstring⟩
    rw [hv, Value.eq_string_of_rfc8785 hstring]
  · rw [h.blindMsg] at hmsg
    exact Value.eq_string_of_rfc8785 hmsg.symm

/-- A legal level is written like itself and like a float, and like nothing else. -/
theorem eq_level_or_float {v : Value} {trustLevel : UInt64} (hlegal : LegalLevel trustLevel)
    (h : (Value.number (.posInt trustLevel)).rfc8785 = v.rfc8785) :
    v = .number (.posInt trustLevel) ∨ ∃ x, v = .number (.float x) ∧
      (Number.float x).double = (Number.posInt trustLevel).double := by
  rcases Value.eq_number_of_rfc8785 h.symm with ⟨n, rfl, hn⟩
  rcases Number.eq_posInt_or_float hlegal.pos hlegal.toNat_lt hn with rfl | ⟨x, rfl⟩
  · exact Or.inl rfl
  · exact Or.inr ⟨x, rfl, hn⟩

theorem not_floatLevel_of_integerLevel {credential : Credential} (h : credential.IntegerLevel) :
    ¬credential.FloatLevel := by
  rcases h with ⟨info, trustLevel, hobject, hlevel, -⟩
  rintro ⟨info', x, trustLevel', hobject', hfloat, -⟩
  rw [hobject, Option.some.injEq] at hobject'
  rw [← hobject', hlevel] at hfloat
  cases hfloat

/-- A credential is a badge when it carries the schema and holds its level as an integer. -/
theorem exists_badge_iff {credential : Credential} :
    (∃ badge, parseTrustScoreBadgeV1 S credential = .ok badge) ↔
      credential.CarriesSchema S ∧ credential.IntegerLevel := by
  constructor
  · intro h
    rcases h with ⟨badge, hparse⟩
    rcases parseTrustScoreBadgeV1_eq_ok.mp hparse with ⟨info, hbadge, hlevel, hlegal⟩
    exact ⟨⟨info, badge.holderPubkey, hbadge⟩,
      ⟨info, badge.trustLevel, hbadge.asObject, hlevel, hlegal⟩⟩
  · intro h
    rcases h with ⟨⟨info, holder, hbadge⟩, info', trustLevel, hobject, hlevel, hlegal⟩
    rw [hbadge.asObject, Option.some.injEq] at hobject
    rw [← hobject] at hlevel
    exact ⟨⟨trustLevel, holder⟩, parseTrustScoreBadgeV1_eq_ok.mpr ⟨info, hbadge, hlevel, hlegal⟩⟩

/-- An accepted level is no float. -/
theorem not_floatLevel_of_badge {credential : Credential} {badge : TrustScoreBadgeV1}
    (h : parseTrustScoreBadgeV1 S credential = .ok badge) : ¬credential.FloatLevel :=
  not_floatLevel_of_integerLevel (exists_badge_iff.mp ⟨badge, h⟩).2

/-- Credentials that are signed alike are the same badge unless one holds its level as a
float. -/
theorem badge_of_rfc8785 {p q : Credential} {badge : TrustScoreBadgeV1}
    (hsame : p.toValue.rfc8785 = q.toValue.rfc8785)
    (h : parseTrustScoreBadgeV1 S p = .ok badge) :
    parseTrustScoreBadgeV1 S q = .ok badge ∨ q.FloatLevel := by
  rcases parseTrustScoreBadgeV1_eq_ok.mp h with ⟨info, hbadge, hlevel, hlegal⟩
  rcases hbadge.of_rfc8785 hsame with ⟨info', hbadge', hlookup⟩
  rw [hlevel, Option.map_some, Eq.comm, Option.map_eq_some_iff] at hlookup
  rcases hlookup with ⟨v, hv, hnumber⟩
  rcases eq_level_or_float hlegal hnumber.symm with rfl | ⟨x, rfl, hx⟩
  · exact Or.inl (parseTrustScoreBadgeV1_eq_ok.mpr ⟨info', hbadge', hv, hlegal⟩)
  · exact Or.inr ⟨info', x, badge.trustLevel, hbadge'.asObject, hv, hlegal, hx⟩

theorem Credential.CarriesSchema.of_rfc8785 {p q : Credential} (h : p.CarriesSchema S)
    (hsame : p.toValue.rfc8785 = q.toValue.rfc8785) : q.CarriesSchema S := by
  rcases h with ⟨info, holder, hbadge⟩
  rcases hbadge.of_rfc8785 hsame with ⟨info', hbadge', -⟩
  exact ⟨info', holder, hbadge'⟩

/-- The level is an integer in one of two badges and a float in the other. -/
def LevelHeldApart (S : Suite) (p q : Credential) : Prop :=
  p.CarriesSchema S ∧ (p.IntegerLevel ∧ q.FloatLevel ∨ p.FloatLevel ∧ q.IntegerLevel)

theorem sameBadge_iff {p q : Credential} (hsame : p.toValue.rfc8785 = q.toValue.rfc8785) :
    SameBadge S p q ↔ ¬LevelHeldApart S p q := by
  constructor
  · intro h hapart
    rcases hapart with ⟨hcarries, ⟨hint, hfloat⟩ | ⟨hfloat, hint⟩⟩
    · rcases exists_badge_iff.mpr ⟨hcarries, hint⟩ with ⟨badge, hbadge⟩
      exact not_floatLevel_of_badge ((h badge).mp hbadge) hfloat
    · rcases exists_badge_iff.mpr ⟨hcarries.of_rfc8785 hsame, hint⟩ with ⟨badge, hbadge⟩
      exact not_floatLevel_of_badge ((h badge).mpr hbadge) hfloat
  · intro hapart badge
    constructor
    · intro hp
      refine (badge_of_rfc8785 hsame hp).resolve_right fun hfloat => hapart ?_
      rcases exists_badge_iff.mp ⟨badge, hp⟩ with ⟨hcarries, hint⟩
      exact ⟨hcarries, Or.inl ⟨hint, hfloat⟩⟩
    · intro hq
      refine (badge_of_rfc8785 hsame.symm hq).resolve_right fun hfloat => hapart ?_
      rcases exists_badge_iff.mp ⟨badge, hq⟩ with ⟨hcarries, hint⟩
      exact ⟨hcarries.of_rfc8785 hsame.symm, Or.inr ⟨hfloat, hint⟩⟩

theorem Credential.rfc8785_throughDoubles (credential : Credential) :
    credential.throughDoubles.toValue.rfc8785 = credential.toValue.rfc8785 :=
  (Credential.toValue_inj _ _).mpr ⟨rfl, Value.rfc8785_throughDoubles _,
    Value.rfc8785_throughDoubles _⟩

/-- In JavaScript every legal level is an integer. -/
theorem levelHeldApart_throughDoubles_iff {credential : Credential} :
    LevelHeldApart S credential credential.throughDoubles ↔
      credential.CarriesSchema S ∧ credential.FloatLevel := by
  constructor
  · intro h
    rcases h with ⟨hcarries, ⟨⟨info, n, hobject, hn, hlegal⟩, hfloat⟩ | ⟨hfloat, -⟩⟩
    · -- an integer stays one on the way through doubles
      rcases hfloat with ⟨info', x, trustLevel, hobject', hx, -⟩
      rcases Value.lookup_throughDoubles hobject with ⟨ns, hns, hlookup⟩
      rw [show credential.throughDoubles.info = credential.info.throughDoubles from rfl, hns,
        Option.some.injEq] at hobject'
      rw [← hobject', hlookup, hn, Option.map_some, Value.throughDoubles_number,
        Number.throughDouble_of_double_eq hlegal.pos hlegal.toNat_lt rfl] at hx
      cases hx
    · exact ⟨hcarries, hfloat⟩
  · intro h
    rcases h with ⟨hcarries, hfloat⟩
    rcases hfloat with ⟨info, x, trustLevel, hobject, hx, hlegal, hdouble⟩
    rcases Value.lookup_throughDoubles hobject with ⟨ns, hns, hlookup⟩
    refine ⟨hcarries, Or.inr ⟨⟨info, x, trustLevel, hobject, hx, hlegal, hdouble⟩,
      ⟨ns, trustLevel, hns, ?_, hlegal⟩⟩⟩
    rw [hlookup, hx, Option.map_some, Value.throughDoubles_number,
      Number.throughDouble_of_double_eq hlegal.pos hlegal.toNat_lt hdouble]

/-- The signed bytes determine the badge exactly when the level is held alike, and so a
native and a JavaScript verifier agree exactly on the credentials that do not spell a
level as a float. -/
theorem badge_determined_iff (hS : S.Rfc8785) :
    (∀ p q : Credential, canonicalizeCredential S p = canonicalizeCredential S q →
      (SameBadge S p q ↔ ¬LevelHeldApart S p q)) ∧
    ∀ credential : Credential, SameBadge S credential credential.throughDoubles ↔
      ¬(credential.CarriesSchema S ∧ credential.FloatLevel) := by
  constructor
  · intro p q hcanonical
    exact sameBadge_iff ((canonicalizeJsonValue_eq_iff hS _ _).mp hcanonical)
  · intro credential
    rw [sameBadge_iff credential.rfc8785_throughDoubles.symm, levelHeldApart_throughDoubles_iff]

theorem parse_levelCredential_seven :
    parseTrustScoreBadgeV1 Reference.suite (levelCredential (.posInt 7)).credential
      = .ok ⟨7, Reference.identityKeys⟩ := by
  rcases badgeOf_levelCredential (.posInt 7) with ⟨info, hbadge, hlevel⟩
  exact parseTrustScoreBadgeV1_eq_ok.mpr ⟨info, hbadge, hlevel, by decide, by decide⟩

theorem floatLevel_levelCredential_seven :
    (levelCredential (.float Reference.seven)).credential.FloatLevel := by
  rcases badgeOf_levelCredential (.float Reference.seven) with ⟨info, hbadge, hlevel⟩
  have hdouble := Json.num.inj Reference.rfc8785_seven
  exact ⟨info, _, 7, hbadge.asObject, hlevel, ⟨by decide, by decide⟩, hdouble.symm⟩

/-- A JavaScript verifier agrees on a badge of level `7`. -/
theorem badge_determined_iff_seven :
    SameBadge Reference.suite (levelCredential (.posInt 7)).credential
      (levelCredential (.posInt 7)).credential.throughDoubles := by
  apply ((badge_determined_iff Reference.rfc8785).2 _).mpr
  intro h
  exact not_floatLevel_of_badge parse_levelCredential_seven h.2

/-- Levels `7` and `7.0` are signed alike. The first is a badge; the second is none for
a native verifier and the same badge for a JavaScript one. -/
theorem badge_determined_counterexample :
    canonicalizeCredential Reference.suite (levelCredential (.posInt 7)).credential
        = canonicalizeCredential Reference.suite
          (levelCredential (.float Reference.seven)).credential ∧
      parseTrustScoreBadgeV1 Reference.suite (levelCredential (.posInt 7)).credential
        = .ok ⟨7, Reference.identityKeys⟩ ∧
      (¬∃ badge, parseTrustScoreBadgeV1 Reference.suite
        (levelCredential (.float Reference.seven)).credential = .ok badge) ∧
      ∃ badge, parseTrustScoreBadgeV1 Reference.suite
        (levelCredential (.float Reference.seven)).credential.throughDoubles = .ok badge := by
  have hinfo : (levelCredential (.posInt 7)).credential.info.rfc8785
      = (levelCredential (.float Reference.seven)).credential.info.rfc8785 := by
    simp only [levelCredential, Reference.credential, Value.rfc8785_object, List.map_cons,
      List.map_nil, Reference.rfc8785_seven]
  refine ⟨(canonicalizeJsonValue_eq_iff Reference.rfc8785 _ _).mpr
    ((Credential.toValue_inj _ _).mpr ⟨rfl, hinfo, rfl⟩), parse_levelCredential_seven, ?_, ?_⟩
  · rintro ⟨badge, hbadge⟩
    exact not_floatLevel_of_badge hbadge floatLevel_levelCredential_seven
  · -- on the way through doubles the level has become an integer
    rcases badgeOf_levelCredential (.float Reference.seven) with ⟨info, hbadge, -⟩
    rcases levelHeldApart_throughDoubles_iff.mpr
      ⟨⟨info, _, hbadge⟩, floatLevel_levelCredential_seven⟩ with ⟨-, h | h⟩
    · exact absurd floatLevel_levelCredential_seven (not_floatLevel_of_integerLevel h.1)
    · have hcarries : (levelCredential (.float Reference.seven)).credential.CarriesSchema
          Reference.suite := ⟨info, _, hbadge⟩
      exact exists_badge_iff.mpr
        ⟨hcarries.of_rfc8785 (Credential.rfc8785_throughDoubles _).symm, h.2⟩

end PeerBadge
