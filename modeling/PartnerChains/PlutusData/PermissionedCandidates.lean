-- The datum of the permissioned candidates (plutus-data permissioned_candidates.rs).
-- Candidates whose keys are exactly an Aura and a Grandpa key are written in
-- the V0 schema, as `[partner chain key, key, key]` with the keys in the order
-- of the candidate's list; V0 is read back by position, the second item as
-- the Aura key and the third as the Grandpa key. Any other set of keys is
-- written in the V1 schema, which keeps every key with its type.
import PartnerChains.PlutusData.Core

namespace partner_chains_plutus_data.permissioned_candidates

open cardano_serialization_lib sidechain_domain partner_chains.codec

/-- `PermissionedCandidateDatumV0` -/
structure PermissionedCandidateDatumV0 where
  sidechain_public_key : SidechainPublicKey
  aura_public_key : AuraPublicKey
  grandpa_public_key : GrandpaPublicKey
  deriving DecidableEq

/-- `PermissionedCandidateDatumV1` -/
structure PermissionedCandidateDatumV1 where
  partner_chains_key : SidechainPublicKey
  keys : CandidateKeys
  deriving DecidableEq

/-- `PermissionedCandidateDatums` -/
inductive PermissionedCandidateDatums where
  | V0 (datums : List PermissionedCandidateDatumV0)
  | V1 (datums : List PermissionedCandidateDatumV1)
  deriving DecidableEq

/-- `From<PermissionedCandidateDatumV0> for PermissionedCandidateData` -/
def PermissionedCandidateDatumV0.into (value : PermissionedCandidateDatumV0) :
    PermissionedCandidateData :=
  ⟨value.sidechain_public_key, ⟨[value.aura_public_key.into, value.grandpa_public_key.into]⟩⟩

/-- `From<PermissionedCandidateDatumV1> for PermissionedCandidateData` -/
def PermissionedCandidateDatumV1.into (value : PermissionedCandidateDatumV1) :
    PermissionedCandidateData :=
  ⟨value.partner_chains_key, value.keys⟩

/-- `From<PermissionedCandidateDatums> for Vec<PermissionedCandidateData>` -/
def PermissionedCandidateDatums.into : PermissionedCandidateDatums → List PermissionedCandidateData
  | .V0 v => v.map PermissionedCandidateDatumV0.into
  | .V1 v => v.map PermissionedCandidateDatumV1.into

/-! ## Encoding -/

/-- One turn of the loop of `candidates_to_plutus_data_v0`: the partner chain key, then the
bytes of each key, in the candidate's order. -/
def candidate_to_plutus_data_v0 (candidate : PermissionedCandidateData) : PlutusData :=
  PlutusData.new_list (PlutusData.new_bytes candidate.sidechain_public_key.val ::
    candidate.keys.val.map fun key => PlutusData.new_bytes key.bytes)

/-- One turn of the loop of `candidates_to_plutus_data_v1`: the partner chain key and the
keys with their types. -/
def candidate_to_plutus_data_v1 (candidate : PermissionedCandidateData) : PlutusData :=
  PlutusData.new_list
    [PlutusData.new_bytes candidate.sidechain_public_key.val, candidate_keys_to_plutus candidate.keys]

/-- `candidates_to_plutus_data_v0` -/
def candidates_to_plutus_data_v0 (candidates : List PermissionedCandidateData) : PlutusData :=
  let appendix := PlutusData.new_list (candidates.map candidate_to_plutus_data_v0)
  VersionedGenericDatum.into ⟨PlutusData.new_empty_constr_plutus_data 0, appendix, 0⟩

/-- `candidates_to_plutus_data_v1` -/
def candidates_to_plutus_data_v1 (candidates : List PermissionedCandidateData) : PlutusData :=
  VersionedGenericDatum.into ⟨PlutusData.new_empty_constr_plutus_data 0,
    PlutusData.new_list (candidates.map candidate_to_plutus_data_v1), 1⟩

/-- `permissioned_candidates_to_plutus_data`: V0 when every candidate has only an Aura and a
Grandpa key, V1 otherwise. -/
def permissioned_candidates_to_plutus_data (candidates : List PermissionedCandidateData) :
    PlutusData :=
  if candidates.all fun c => c.keys.has_only_aura_and_grandpa_keys then
    candidates_to_plutus_data_v0 candidates
  else candidates_to_plutus_data_v1 candidates

/-! ## Decoding -/

/-- `decode_legacy_candidate_datum`: three byte strings, read by position. -/
def decode_legacy_candidate_datum (datum : PlutusData) : Option PermissionedCandidateDatumV0 := do
  let datums ← datum.as_list.filter fun datums => datums.length == 3
  let sc ← (← PlutusList.get datums 0).as_bytes
  let aura ← (← PlutusList.get datums 1).as_bytes
  let grandpa ← (← PlutusList.get datums 2).as_bytes
  return ⟨⟨sc⟩, ⟨aura⟩, ⟨grandpa⟩⟩

/-- `decode_v1_candidate_datum` -/
def decode_v1_candidate_datum (datum : PlutusData) : Option PermissionedCandidateDatumV1 := do
  -- The first element has Partner Chains key, second contains all other keys
  let outer_list ← datum.as_list.filter fun l => l.length == 2
  let partner_chains_key : SidechainPublicKey := ⟨← (← PlutusList.get outer_list 0).as_bytes⟩
  let keys ← decode_candidate_keys (← PlutusList.get outer_list 1)
  return ⟨partner_chains_key, keys⟩

/-- `PermissionedCandidateDatums::decode_v1_appendix` -/
def PermissionedCandidateDatums.decode_v1_appendix (data : PlutusData) :
    Except String PermissionedCandidateDatums :=
  match data.as_list.bind fun list_datums => list_datums.mapM decode_v1_candidate_datum with
  | some permissioned_candidates => .ok (.V1 permissioned_candidates)
  | none => .error "Expected [[ByteString, ByteString], [[ByteString, ByteString], ... ]]"

/-- `PermissionedCandidateDatums::decode_legacy` -/
def PermissionedCandidateDatums.decode_legacy (data : PlutusData) :
    Except String PermissionedCandidateDatums :=
  match data.as_list.bind fun list_datums => list_datums.mapM decode_legacy_candidate_datum with
  | some permissioned_candidates => .ok (.V0 permissioned_candidates)
  | none => .error "Expected [[ByteString, ByteString, ByteString]]"

/-- `PermissionedCandidateDatums::decode_versioned`: the V0 appendix has the legacy schema. -/
def PermissionedCandidateDatums.decode_versioned (version : UInt64) (_datum appendix : PlutusData) :
    Except String PermissionedCandidateDatums :=
  if version = 0 then
    (decode_legacy appendix).mapError fun msg => s!"Cannot parse appendix: {msg}"
  else if version = 1 then
    (decode_v1_appendix appendix).mapError fun msg => s!"Cannot parse appendix: {msg}"
  else .error s!"Unknown version: {version}"

/-- `impl VersionedDatumWithLegacy for PermissionedCandidateDatums` -/
def PermissionedCandidateDatums.versioned : VersionedDatumWithLegacy PermissionedCandidateDatums :=
  ⟨"PermissionedCandidateDatums", decode_legacy, decode_versioned⟩

/-- `TryFrom<PlutusData> for PermissionedCandidateDatums` -/
def PermissionedCandidateDatums.try_from (datum : PlutusData) :
    DecodingResult PermissionedCandidateDatums :=
  PermissionedCandidateDatums.versioned.decode datum

/-- The candidates that `try_from` and `into` give back from a datum. -/
def decodeCandidates (datum : PlutusData) : DecodingResult (List PermissionedCandidateData) :=
  (PermissionedCandidateDatums.try_from datum).map PermissionedCandidateDatums.into

/-! ## Round trips -/

/-- The V0 datum of a candidate with two keys, as it is read back: its partner chain key, the
bytes of its first key as the Aura key and those of its second key as the Grandpa key. -/
def v0Datum (c : PermissionedCandidateData) : PermissionedCandidateDatumV0 :=
  match c.keys.val with
  | [k₁, k₂] => ⟨c.sidechain_public_key, ⟨k₁.bytes⟩, ⟨k₂.bytes⟩⟩
  | _ => ⟨c.sidechain_public_key, ⟨[]⟩, ⟨[]⟩⟩

/-- What the V0 schema gives back of a candidate with two keys. -/
def v0Reading (c : PermissionedCandidateData) : PermissionedCandidateData := (v0Datum c).into

/-- A candidate with only an Aura and a Grandpa key has two keys. -/
theorem two_keys_of_has_only {keys : CandidateKeys} (h : keys.has_only_aura_and_grandpa_keys) :
    ∃ k₁ k₂, keys.val = [k₁, k₂] := by
  obtain ⟨a, g, hk | hk⟩ := CandidateKeys.has_only_cases h
  · exact ⟨_, _, hk⟩
  · exact ⟨_, _, hk⟩

theorem decode_legacy_candidate_datum_v0 {c : PermissionedCandidateData} {k₁ k₂ : CandidateKey}
    (hk : c.keys.val = [k₁, k₂]) :
    decode_legacy_candidate_datum (candidate_to_plutus_data_v0 c) = some (v0Datum c) := by
  simp [decode_legacy_candidate_datum, candidate_to_plutus_data_v0, v0Datum, hk,
    PlutusData.new_list, PlutusData.new_bytes, PlutusData.as_list, PlutusData.as_bytes,
    PlutusList.get, Option.filter_some]

theorem decode_v1_candidate_datum_v1 (c : PermissionedCandidateData) :
    decode_v1_candidate_datum (candidate_to_plutus_data_v1 c) =
      some ⟨c.sidechain_public_key, c.keys⟩ := by
  simp [decode_v1_candidate_datum, candidate_to_plutus_data_v1, PlutusData.new_list,
    PlutusData.new_bytes, PlutusData.as_list, PlutusData.as_bytes, PlutusList.get,
    Option.filter_some]

/-- The V0 datum is read by position: each candidate comes back with the bytes of its first key
as the Aura key and those of its second as the Grandpa key, whatever their types were. -/
theorem decodeCandidates_v0 (candidates : List PermissionedCandidateData)
    (h : candidates.all fun c => c.keys.has_only_aura_and_grandpa_keys) :
    decodeCandidates (permissioned_candidates_to_plutus_data candidates) =
      .ok (candidates.map v0Reading) := by
  have hread : ∀ c ∈ candidates,
      decode_legacy_candidate_datum (candidate_to_plutus_data_v0 c) = some (v0Datum c) := by
    intro c hc
    obtain ⟨k₁, k₂, hk⟩ := two_keys_of_has_only (List.all_eq_true.mp h c hc)
    exact decode_legacy_candidate_datum_v0 hk
  simp [decodeCandidates, PermissionedCandidateDatums.try_from,
    permissioned_candidates_to_plutus_data, h, candidates_to_plutus_data_v0,
    VersionedDatumWithLegacy.decode_into, PermissionedCandidateDatums.versioned,
    PermissionedCandidateDatums.decode_versioned, PermissionedCandidateDatums.decode_legacy,
    PlutusData.new_list, PlutusData.as_list, mapM_map_eq_map hread, Except.mapError, Except.map,
    PermissionedCandidateDatums.into, v0Reading]

/-- The V1 datum gives every candidate back as it was. -/
theorem decodeCandidates_v1 (candidates : List PermissionedCandidateData)
    (h : ¬ candidates.all fun c => c.keys.has_only_aura_and_grandpa_keys) :
    decodeCandidates (permissioned_candidates_to_plutus_data candidates) = .ok candidates := by
  have hread : ∀ c ∈ candidates, decode_v1_candidate_datum (candidate_to_plutus_data_v1 c) =
      some ⟨c.sidechain_public_key, c.keys⟩ := fun c _ => decode_v1_candidate_datum_v1 c
  simp only [Bool.not_eq_true] at h
  simp [decodeCandidates, PermissionedCandidateDatums.try_from,
    permissioned_candidates_to_plutus_data, h, candidates_to_plutus_data_v1,
    VersionedDatumWithLegacy.decode_into, PermissionedCandidateDatums.versioned,
    PermissionedCandidateDatums.decode_versioned, PermissionedCandidateDatums.decode_v1_appendix,
    PlutusData.new_list, PlutusData.as_list, mapM_map_eq_map hread, Except.mapError, Except.map,
    PermissionedCandidateDatums.into, PermissionedCandidateDatumV1.into, Function.comp_def]

/-- A candidate that lists its Aura key before its Grandpa key is read back as it was. -/
theorem v0Reading_of_aura_first {c : PermissionedCandidateData} {a g : List UInt8}
    (h : c.keys.val = [⟨AURA, a⟩, ⟨GRANDPA, g⟩]) : v0Reading c = c := by
  obtain ⟨sc, ⟨keys⟩⟩ := c
  simp only at h
  subst h
  rfl

/-- Where every candidate with only an Aura and a Grandpa key lists the Aura key first, the
candidates are read back as they were, in either schema. -/
theorem decodeCandidates_aura_first (candidates : List PermissionedCandidateData)
    (h : ∀ c ∈ candidates, c.keys.has_only_aura_and_grandpa_keys →
      ∃ a g, c.keys.val = [⟨AURA, a⟩, ⟨GRANDPA, g⟩]) :
    decodeCandidates (permissioned_candidates_to_plutus_data candidates) = .ok candidates := by
  by_cases hall : candidates.all fun c => c.keys.has_only_aura_and_grandpa_keys
  · rw [decodeCandidates_v0 candidates hall]
    -- every candidate is in the order the V0 schema reads
    have hid : ∀ c ∈ candidates, v0Reading c = c := by
      intro c hc
      obtain ⟨a, g, hk⟩ := h c hc (List.all_eq_true.mp hall c hc)
      exact v0Reading_of_aura_first hk
    rw [List.map_congr_left hid, List.map_id']
  · exact decodeCandidates_v1 candidates hall

/-- A candidate with its Aura key first is read back in the V0 schema as it was. -/
theorem decodeCandidates_aura_first_one_candidate :
    (∀ c ∈ [(⟨⟨[3]⟩, ⟨[⟨AURA, [1]⟩, ⟨GRANDPA, [2]⟩]⟩⟩ : PermissionedCandidateData)],
        c.keys.has_only_aura_and_grandpa_keys → ∃ a g, c.keys.val = [⟨AURA, a⟩, ⟨GRANDPA, g⟩]) ∧
      decodeCandidates (permissioned_candidates_to_plutus_data
        [⟨⟨[3]⟩, ⟨[⟨AURA, [1]⟩, ⟨GRANDPA, [2]⟩]⟩⟩]) = .ok [⟨⟨[3]⟩, ⟨[⟨AURA, [1]⟩, ⟨GRANDPA, [2]⟩]⟩⟩] := by
  have h : ∀ c ∈ [(⟨⟨[3]⟩, ⟨[⟨AURA, [1]⟩, ⟨GRANDPA, [2]⟩]⟩⟩ : PermissionedCandidateData)],
      c.keys.has_only_aura_and_grandpa_keys → ∃ a g, c.keys.val = [⟨AURA, a⟩, ⟨GRANDPA, g⟩] := by
    intro c hc _
    rw [List.mem_singleton] at hc
    subst hc
    exact ⟨_, _, rfl⟩
  exact ⟨h, decodeCandidates_aura_first _ h⟩

/-- The V0 schema reads the keys by position: a candidate whose Grandpa key is listed before its
Aura key comes back with the two swapped, so that its Aura key is what was its Grandpa key. -/
theorem permissioned_candidates_keys_swapped (sc : SidechainPublicKey) (g a : List UInt8) :
    decodeCandidates (permissioned_candidates_to_plutus_data [⟨sc, ⟨[⟨GRANDPA, g⟩, ⟨AURA, a⟩]⟩⟩]) =
      .ok [⟨sc, ⟨[⟨AURA, g⟩, ⟨GRANDPA, a⟩]⟩⟩] ∧
    (CandidateKeys.mk [⟨AURA, g⟩, ⟨GRANDPA, a⟩]).find AURA = some g ∧
    (CandidateKeys.mk [⟨GRANDPA, g⟩, ⟨AURA, a⟩]).find AURA = some a := by
  have hgran : GRANDPA ≠ AURA := by decide
  have honly : [(⟨sc, ⟨[⟨GRANDPA, g⟩, ⟨AURA, a⟩]⟩⟩ : PermissionedCandidateData)].all
      (fun c => c.keys.has_only_aura_and_grandpa_keys) := by
    simp [CandidateKeys.has_only_aura_and_grandpa_keys, CandidateKeys.find, hgran]
  refine ⟨?_, by simp [CandidateKeys.find], by simp [CandidateKeys.find, hgran]⟩
  rw [decodeCandidates_v0 _ honly]
  rfl

end partner_chains_plutus_data.permissioned_candidates
