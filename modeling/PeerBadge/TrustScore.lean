import PeerBadge.Verifier

/-! # The trust-score badge

The schema `fedi-trust-score-v1.0`: what an issuer puts into `info`, what a holder puts
into the blind message, and how a verifier reads both back from a credential. A badge is
a level of the 12-level trust model and the key of its holder.

The parser works on the parsed JSON, not on canonical bytes: a level is an integer, and
nothing else is.
-/

namespace PeerBadge

/-- `info.schema` identifier for trust-score badges, revision v1.0. -/
def trustScoreSchemaV1 : String := "fedi-trust-score-v1.0"

/-- Lowest legal level. -/
def trustScoreLevelMin : UInt64 := 1

/-- Highest legal level. -/
def trustScoreLevelMax : UInt64 := 12

/-- Parsed payload of a badge. -/
structure TrustScoreBadgeV1 where
  trustLevel : UInt64
  holderPubkey : NostrPublicKey
deriving DecidableEq

/-- Why a credential is not a trust-score badge. -/
inductive TrustScoreSchemaError where
  | infoNotObject
  | wrongSchema
  | invalidTrustLevel
  | trustLevelOutOfRange
  | invalidHolderBinding
deriving DecidableEq

def validateTrustLevel (trustLevel : UInt64) : Except TrustScoreSchemaError Unit :=
  if trustScoreLevelMin ≤ trustLevel ∧ trustLevel ≤ trustScoreLevelMax then .ok ()
  else .error .trustLevelOutOfRange

/-- The issuance `info` of a badge. -/
def trustScoreInfoV1 (trustLevel : UInt64) : Except TrustScoreSchemaError Value := do
  validateTrustLevel trustLevel
  .ok (.object
    [("schema", .string trustScoreSchemaV1), ("trust_level", .number (.posInt trustLevel))])

/-- The blind message that binds a badge to a holder. -/
def trustScoreBlindMsgV1 (holderPubkey : NostrPublicKey) : Value := .string (nostrHex holderPubkey)

/-- Parse a verified credential as a badge. -/
def parseTrustScoreBadgeV1 (S : Suite) (credential : Credential) :
    Except TrustScoreSchemaError TrustScoreBadgeV1 := do
  let info ← Outcome.okOr credential.info.asObject .infoNotObject
  if (info.lookup "schema").bind Value.asStr ≠ some trustScoreSchemaV1 then .error .wrongSchema
  else do
    let trustLevel ← Outcome.okOr ((info.lookup "trust_level").bind Value.asU64) .invalidTrustLevel
    validateTrustLevel trustLevel
    let holderHex ← Outcome.okOr credential.blindMsg.asStr .invalidHolderBinding
    let holderPubkey ← (S.parsePublicKey holderHex).mapError fun _ => .invalidHolderBinding
    -- other spellings of a key would give one holder several digests
    if nostrHex holderPubkey ≠ holderHex then .error .invalidHolderBinding
    else .ok ⟨trustLevel, holderPubkey⟩

/-! ## What is accepted -/

/-- A level of the trust model. -/
def LegalLevel (trustLevel : UInt64) : Prop :=
  trustScoreLevelMin ≤ trustLevel ∧ trustLevel ≤ trustScoreLevelMax

theorem validateTrustLevel_eq_ok {trustLevel : UInt64} {u : Unit} :
    validateTrustLevel trustLevel = .ok u ↔ LegalLevel trustLevel := by
  unfold validateTrustLevel LegalLevel
  split
  · rename_i h
    simp only [h, and_self]
  · rename_i h
    simp only [h, reduceCtorEq]

theorem LegalLevel.pos {trustLevel : UInt64} (h : LegalLevel trustLevel) : 0 < trustLevel :=
  UInt64.lt_of_lt_of_le (by decide) h.1

/-- Levels are exact as doubles. -/
theorem LegalLevel.toNat_lt {trustLevel : UInt64} (h : LegalLevel trustLevel) :
    trustLevel.toNat < 2 ^ 53 := by
  have hmax : trustLevel.toNat ≤ trustScoreLevelMax.toNat := UInt64.le_iff_toNat_le.mp h.2
  have hbound : trustScoreLevelMax.toNat = 12 := rfl
  omega

theorem trustScoreInfoV1_eq_ok {trustLevel : UInt64} {info : Value} :
    trustScoreInfoV1 trustLevel = .ok info ↔ LegalLevel trustLevel ∧
      Value.object
        [("schema", .string trustScoreSchemaV1), ("trust_level", .number (.posInt trustLevel))]
        = info := by
  simp only [trustScoreInfoV1, Outcome.bind_eq_ok, validateTrustLevel_eq_ok, exists_const,
    Except.ok.injEq]

/-- The schema and the holder binding are in order: what a badge has besides a level. -/
structure Credential.BadgeOf (S : Suite) (credential : Credential) (info : List (String × Value))
    (holder : NostrPublicKey) : Prop where
  asObject : credential.info.asObject = some info
  schema : info.lookup "schema" = some (.string trustScoreSchemaV1)
  blindMsg : credential.blindMsg = trustScoreBlindMsgV1 holder
  parses : S.parsePublicKey (nostrHex holder) = .ok holder

/-- A badge is parsed from a credential that names the schema, holds a legal level as an
integer and is bound to the key by its hexadecimal form. -/
theorem parseTrustScoreBadgeV1_eq_ok {S : Suite} {credential : Credential}
    {badge : TrustScoreBadgeV1} :
    parseTrustScoreBadgeV1 S credential = .ok badge ↔
      ∃ info, credential.BadgeOf S info badge.holderPubkey ∧
        info.lookup "trust_level" = some (.number (.posInt badge.trustLevel)) ∧
        LegalLevel badge.trustLevel := by
  simp only [parseTrustScoreBadgeV1, Outcome.bind_eq_ok, Outcome.okOr_eq_ok, Outcome.guard_eq_ok,
    Outcome.mapError_eq_ok, validateTrustLevel_eq_ok, Option.bind_eq_some_iff, not_not,
    Value.asStr_eq_some_iff, Value.asU64_eq_some_iff, Except.ok.injEq]
  constructor
  · intro h
    rcases h with ⟨info, hobject, ⟨_, hschema, rfl⟩, trustLevel, ⟨_, hlevel, rfl⟩, _, hlegal,
      holderHex, hmsg, holder, hparse, rfl, rfl⟩
    exact ⟨info, ⟨hobject, hschema, hmsg, hparse⟩, hlevel, hlegal⟩
  · intro h
    rcases h with ⟨info, ⟨hobject, hschema, hmsg, hparse⟩, hlevel, hlegal⟩
    exact ⟨info, hobject, ⟨_, hschema, rfl⟩, _, ⟨_, hlevel, rfl⟩, (), hlegal, _, hmsg, _, hparse,
      rfl, rfl⟩

end PeerBadge
