-- The datum of a candidate registration (plutus-data registered_candidates.rs).
-- V0 keeps the Aura and Grandpa keys as two byte strings, V1 any set of keys;
-- both carry the owner's key hash as the datum and the rest in the appendix.
-- The legacy schema, from before versions, is one constructor of seven fields.
import PartnerChains.PlutusData.Core

namespace partner_chains_plutus_data.registered_candidates

open cardano_serialization_lib sidechain_domain partner_chains.codec

/-- `RegisterValidatorDatum` -/
inductive RegisterValidatorDatum where
  | V0 (stake_ownership : AdaBasedStaking) (sidechain_pub_key : SidechainPublicKey)
      (sidechain_signature : SidechainSignature) (registration_utxo : UtxoId)
      (own_pkh : MainchainKeyHash) (aura_pub_key : AuraPublicKey)
      (grandpa_pub_key : GrandpaPublicKey)
  | V1 (stake_ownership : AdaBasedStaking) (sidechain_pub_key : SidechainPublicKey)
      (sidechain_signature : SidechainSignature) (registration_utxo : UtxoId)
      (own_pkh : MainchainKeyHash) (keys : CandidateKeys)
  deriving DecidableEq

/-! ## Decoding -/

/-- The fields of a constructor with alternative 0 and at least `n` fields. -/
def constrFieldsAtLeast (n : Nat) (datum : PlutusData) : Option (List PlutusData) :=
  ((datum.as_constr_plutus_data.filter fun d => d.1 == 0).filter fun d => d.2.length ≥ n).map
    (·.2)

/-- `decode_tx_hash_datum`: Plutus type for TxHash is a sum type, only the variant with
constructor 0 is read. -/
def decode_tx_hash_datum (datum : PlutusData) : Option (FixedBytes 32) := do
  let data ← constrFieldsAtLeast 1 datum
  let bytes ← (← PlutusList.get data 0).as_bytes
  FixedBytes.try_from bytes

/-- `decode_utxo_id_datum` -/
def decode_utxo_id_datum (datum : PlutusData) : Option UtxoId := do
  let fields ← constrFieldsAtLeast 2 datum
  let tx_hash ← decode_tx_hash_datum (← PlutusList.get fields 0)
  let index ← as_u16 (← PlutusList.get fields 1)
  return ⟨tx_hash, index⟩

/-- `decode_ada_based_staking_datum` -/
def decode_ada_based_staking_datum (datum : PlutusData) : Option AdaBasedStaking := do
  let fields ← constrFieldsAtLeast 2 datum
  let pub_key ← FixedBytes.try_from (← (← PlutusList.get fields 0).as_bytes)
  let signature ← FixedBytes.try_from (← (← PlutusList.get fields 1).as_bytes)
  return ⟨pub_key, signature⟩

/-- `decode_v0_register_validator_datum`: six fields in the appendix, the key hash as the
datum. -/
def decode_v0_register_validator_datum (datum appendix : PlutusData) :
    Option RegisterValidatorDatum := do
  let fields ← constrFieldsAtLeast 6 appendix
  let stake_ownership ← decode_ada_based_staking_datum (← PlutusList.get fields 0)
  let sidechain_pub_key ← (← PlutusList.get fields 1).as_bytes
  let sidechain_signature ← (← PlutusList.get fields 2).as_bytes
  let registration_utxo ← decode_utxo_id_datum (← PlutusList.get fields 3)
  let aura_pub_key ← (← PlutusList.get fields 4).as_bytes
  let grandpa_pub_key ← (← PlutusList.get fields 5).as_bytes
  let own_pkh ← FixedBytes.try_from (← datum.as_bytes)
  return .V0 stake_ownership ⟨sidechain_pub_key⟩ ⟨sidechain_signature⟩ registration_utxo own_pkh
    ⟨aura_pub_key⟩ ⟨grandpa_pub_key⟩

/-- `decode_v1_register_validator_datum`: exactly five fields in the appendix. -/
def decode_v1_register_validator_datum (datum appendix : PlutusData) :
    Option RegisterValidatorDatum := do
  let fields ← ((appendix.as_constr_plutus_data.filter fun d => d.1 == 0).filter
    fun d => d.2.length == 5).map (·.2)
  let stake_ownership ← decode_ada_based_staking_datum (← PlutusList.get fields 0)
  let sidechain_pub_key ← (← PlutusList.get fields 1).as_bytes
  let sidechain_signature ← (← PlutusList.get fields 2).as_bytes
  let registration_utxo ← decode_utxo_id_datum (← PlutusList.get fields 3)
  let keys ← decode_candidate_keys (← PlutusList.get fields 4)
  let own_pkh ← FixedBytes.try_from (← datum.as_bytes)
  return .V1 stake_ownership ⟨sidechain_pub_key⟩ ⟨sidechain_signature⟩ registration_utxo own_pkh
    keys

/-- `decode_legacy_register_validator_datum`: the key hash is the fifth of seven fields. -/
def decode_legacy_register_validator_datum (datum : PlutusData) :
    Option RegisterValidatorDatum := do
  let fields ← constrFieldsAtLeast 7 datum
  let stake_ownership ← decode_ada_based_staking_datum (← PlutusList.get fields 0)
  let sidechain_pub_key ← (← PlutusList.get fields 1).as_bytes
  let sidechain_signature ← (← PlutusList.get fields 2).as_bytes
  let registration_utxo ← decode_utxo_id_datum (← PlutusList.get fields 3)
  let own_pkh ← FixedBytes.try_from (← (← PlutusList.get fields 4).as_bytes)
  let aura_pub_key ← (← PlutusList.get fields 5).as_bytes
  let grandpa_pub_key ← (← PlutusList.get fields 6).as_bytes
  return .V0 stake_ownership ⟨sidechain_pub_key⟩ ⟨sidechain_signature⟩ registration_utxo own_pkh
    ⟨aura_pub_key⟩ ⟨grandpa_pub_key⟩

/-- `impl VersionedDatumWithLegacy for RegisterValidatorDatum` -/
def RegisterValidatorDatum.versioned : VersionedDatumWithLegacy RegisterValidatorDatum where
  NAME := "RegisterValidatorDatum"
  decode_legacy data :=
    match decode_legacy_register_validator_datum data with
    | some datum => .ok datum
    | none => .error "Invalid data"
  decode_versioned version datum appendix :=
    if version = 0 then
      match decode_v0_register_validator_datum datum appendix with
      | some datum => .ok datum
      | none => .error "Can not parse appendix"
    else if version = 1 then
      match decode_v1_register_validator_datum datum appendix with
      | some datum => .ok datum
      | none => .error "Can not parse appendix"
    else .error s!"Unknown version: {version}"

/-- `TryFrom<PlutusData> for RegisterValidatorDatum` -/
def RegisterValidatorDatum.try_from (datum : PlutusData) : DecodingResult RegisterValidatorDatum :=
  RegisterValidatorDatum.versioned.decode datum

/-! ## Encoding -/

/-- `stake_ownership_to_plutus_data` -/
def stake_ownership_to_plutus_data (v : AdaBasedStaking) : PlutusData :=
  PlutusData.new_constr_plutus_data 0
    [PlutusData.new_bytes v.pub_key.val, PlutusData.new_bytes v.signature.val]

/-- `tx_hash_to_plutus_data` -/
def tx_hash_to_plutus_data (v : FixedBytes 32) : PlutusData :=
  PlutusData.new_constr_plutus_data 0 [PlutusData.new_bytes v.val]

/-- `utxo_id_to_plutus_data` -/
def utxo_id_to_plutus_data (v : UtxoId) : PlutusData :=
  PlutusData.new_constr_plutus_data 0
    [tx_hash_to_plutus_data v.tx_hash, PlutusData.new_integer v.index.toNat]

/-- `From<RegisterValidatorDatum> for PlutusData`: the key hash as the datum, the rest in the
appendix. -/
def RegisterValidatorDatum.into : RegisterValidatorDatum → PlutusData
  | .V0 stake_ownership sidechain_pub_key sidechain_signature registration_utxo own_pkh
      aura_pub_key grandpa_pub_key =>
    let appendix_fields := [stake_ownership_to_plutus_data stake_ownership,
      PlutusData.new_bytes sidechain_pub_key.val, PlutusData.new_bytes sidechain_signature.val,
      utxo_id_to_plutus_data registration_utxo, PlutusData.new_bytes aura_pub_key.val,
      PlutusData.new_bytes grandpa_pub_key.val]
    VersionedGenericDatum.into ⟨PlutusData.new_bytes own_pkh.val,
      PlutusData.new_constr_plutus_data 0 appendix_fields, 0⟩
  | .V1 stake_ownership sidechain_pub_key sidechain_signature registration_utxo own_pkh keys =>
    let appendix_fields := [stake_ownership_to_plutus_data stake_ownership,
      PlutusData.new_bytes sidechain_pub_key.val, PlutusData.new_bytes sidechain_signature.val,
      utxo_id_to_plutus_data registration_utxo, candidate_keys_to_plutus keys]
    VersionedGenericDatum.into ⟨PlutusData.new_bytes own_pkh.val,
      PlutusData.new_constr_plutus_data 0 appendix_fields, 1⟩

/-- `candidate_registration_to_plutus_data`: V0 with the Aura and Grandpa keys found by type when
the keys are only those two, V1 otherwise. -/
def candidate_registration_to_plutus_data (candidate_registration : CandidateRegistration) :
    PlutusData :=
  let r := candidate_registration
  let datum :=
    if r.keys.has_only_aura_and_grandpa_keys then
      RegisterValidatorDatum.V0 r.stake_ownership r.partner_chain_pub_key
        r.partner_chain_signature r.registration_utxo r.own_pkh ⟨r.keys.find_or_empty AURA⟩
        ⟨r.keys.find_or_empty GRANDPA⟩
    else
      RegisterValidatorDatum.V1 r.stake_ownership r.partner_chain_pub_key
        r.partner_chain_signature r.registration_utxo r.own_pkh r.keys
  datum.into

/-- `From<RegisterValidatorDatum> for CandidateRegistration` -/
def CandidateRegistration.from : RegisterValidatorDatum → CandidateRegistration
  | .V0 stake_ownership sidechain_pub_key sidechain_signature registration_utxo own_pkh
      aura_pub_key grandpa_pub_key =>
    ⟨stake_ownership, sidechain_pub_key, sidechain_signature, own_pkh, registration_utxo,
      ⟨[aura_pub_key.into, grandpa_pub_key.into]⟩⟩
  | .V1 stake_ownership sidechain_pub_key sidechain_signature registration_utxo own_pkh keys =>
    ⟨stake_ownership, sidechain_pub_key, sidechain_signature, own_pkh, registration_utxo, keys⟩

/-! ## Round trips -/

@[simp] theorem decode_tx_hash_datum_to_plutus_data (v : FixedBytes 32) :
    decode_tx_hash_datum (tx_hash_to_plutus_data v) = some v := by
  simp [decode_tx_hash_datum, tx_hash_to_plutus_data, constrFieldsAtLeast,
    PlutusData.new_constr_plutus_data, PlutusData.new_bytes, PlutusData.as_constr_plutus_data,
    PlutusData.as_bytes, PlutusList.get, Option.filter_some]

@[simp] theorem decode_utxo_id_datum_to_plutus_data (v : UtxoId) :
    decode_utxo_id_datum (utxo_id_to_plutus_data v) = some v := by
  simp [decode_utxo_id_datum, utxo_id_to_plutus_data, constrFieldsAtLeast,
    PlutusData.new_constr_plutus_data, PlutusData.new_integer, PlutusData.as_constr_plutus_data,
    PlutusList.get, Option.filter_some]

@[simp] theorem decode_ada_based_staking_datum_to_plutus_data (v : AdaBasedStaking) :
    decode_ada_based_staking_datum (stake_ownership_to_plutus_data v) = some v := by
  simp [decode_ada_based_staking_datum, stake_ownership_to_plutus_data, constrFieldsAtLeast,
    PlutusData.new_constr_plutus_data, PlutusData.new_bytes, PlutusData.as_constr_plutus_data,
    PlutusData.as_bytes, PlutusList.get, Option.filter_some]

theorem decode_v0_register_validator_datum_encoded (s : AdaBasedStaking) (pk : SidechainPublicKey)
    (sig : SidechainSignature) (utxo : UtxoId) (pkh : MainchainKeyHash) (aura : AuraPublicKey)
    (grandpa : GrandpaPublicKey) :
    decode_v0_register_validator_datum (PlutusData.new_bytes pkh.val)
        (PlutusData.new_constr_plutus_data 0 [stake_ownership_to_plutus_data s,
          PlutusData.new_bytes pk.val, PlutusData.new_bytes sig.val, utxo_id_to_plutus_data utxo,
          PlutusData.new_bytes aura.val, PlutusData.new_bytes grandpa.val]) =
      some (.V0 s pk sig utxo pkh aura grandpa) := by
  -- the appendix is read field by field, by position
  simp only [decode_v0_register_validator_datum, constrFieldsAtLeast,
    PlutusData.new_constr_plutus_data, PlutusData.new_bytes, PlutusData.as_constr_plutus_data,
    Option.filter_some, BEq.rfl, ↓reduceIte, List.length_cons, List.length_nil, Nat.reduceAdd,
    ge_iff_le, Std.le_refl, decide_true, Option.map_some, Option.bind_eq_bind, Option.bind_some,
    PlutusList.get, List.getElem?_cons_zero, List.getElem?_cons_succ,
    decode_ada_based_staking_datum_to_plutus_data, decode_utxo_id_datum_to_plutus_data,
    PlutusData.as_bytes, FixedBytes.try_from_val, Option.pure_def]

theorem decode_v1_register_validator_datum_encoded (s : AdaBasedStaking) (pk : SidechainPublicKey)
    (sig : SidechainSignature) (utxo : UtxoId) (pkh : MainchainKeyHash) (keys : CandidateKeys) :
    decode_v1_register_validator_datum (PlutusData.new_bytes pkh.val)
        (PlutusData.new_constr_plutus_data 0 [stake_ownership_to_plutus_data s,
          PlutusData.new_bytes pk.val, PlutusData.new_bytes sig.val, utxo_id_to_plutus_data utxo,
          candidate_keys_to_plutus keys]) =
      some (.V1 s pk sig utxo pkh keys) := by
  simp only [decode_v1_register_validator_datum, PlutusData.new_constr_plutus_data,
    PlutusData.new_bytes, PlutusData.as_constr_plutus_data, Option.filter_some, BEq.rfl, ↓reduceIte,
    List.length_cons, List.length_nil, Nat.reduceAdd, Option.map_some, Option.bind_eq_bind,
    Option.bind_some, PlutusList.get, List.getElem?_cons_zero, List.getElem?_cons_succ,
    decode_ada_based_staking_datum_to_plutus_data, decode_utxo_id_datum_to_plutus_data,
    decode_candidate_keys_to_plutus, PlutusData.as_bytes, FixedBytes.try_from_val, Option.pure_def]

/-- Both versions of the registration datum are read back as they were written. -/
theorem RegisterValidatorDatum.try_from_into (d : RegisterValidatorDatum) :
    RegisterValidatorDatum.try_from d.into = .ok d := by
  cases d with
  | V0 s pk sig utxo pkh aura grandpa =>
    simp only [RegisterValidatorDatum.try_from, RegisterValidatorDatum.into,
      VersionedDatumWithLegacy.decode_into, RegisterValidatorDatum.versioned, ↓reduceIte,
      decode_v0_register_validator_datum_encoded]
    rfl
  | V1 s pk sig utxo pkh keys =>
    simp only [RegisterValidatorDatum.try_from, RegisterValidatorDatum.into,
      VersionedDatumWithLegacy.decode_into, RegisterValidatorDatum.versioned,
      show (1 : UInt64) ≠ 0 by decide, ↓reduceIte, decode_v1_register_validator_datum_encoded]
    rfl

/-- The datum of a registration is versioned, with version 0 or 1. -/
theorem RegisterValidatorDatum.into_versioned (d : RegisterValidatorDatum) :
    ∃ v, plutus_data_version_and_payload d.into = some v ∧ (v.version = 0 ∨ v.version = 1) := by
  cases d with
  | V0 => exact ⟨_, plutus_data_version_and_payload_into _, .inl rfl⟩
  | V1 => exact ⟨_, plutus_data_version_and_payload_into _, .inr rfl⟩

/-- Keys with only an Aura and a Grandpa key, found by type, are the keys in some order. -/
theorem found_keys_perm {keys : CandidateKeys} (h : keys.has_only_aura_and_grandpa_keys) :
    [(AuraPublicKey.mk (keys.find_or_empty AURA)).into,
      (GrandpaPublicKey.mk (keys.find_or_empty GRANDPA)).into].Perm keys.val := by
  have hne : GRANDPA ≠ AURA := by decide
  obtain ⟨a, g, hk | hk⟩ := CandidateKeys.has_only_cases h
  · have hfind : keys.find_or_empty AURA = a ∧ keys.find_or_empty GRANDPA = g := by
      simp [CandidateKeys.find_or_empty, CandidateKeys.find, hk, Ne.symm hne]
    rw [hfind.1, hfind.2, hk]
    rfl
  · have hfind : keys.find_or_empty AURA = a ∧ keys.find_or_empty GRANDPA = g := by
      simp [CandidateKeys.find_or_empty, CandidateKeys.find, hk, hne]
    rw [hfind.1, hfind.2, hk]
    exact .swap _ _ _

/-- A registration is read back as it was, up to the order of its keys. -/
theorem candidate_registration_round_trip (r : CandidateRegistration) :
    ∃ keys : CandidateKeys, (RegisterValidatorDatum.try_from
        (candidate_registration_to_plutus_data r)).map CandidateRegistration.from =
      .ok { r with keys := keys } ∧ keys.val.Perm r.keys.val := by
  by_cases h : r.keys.has_only_aura_and_grandpa_keys
  · refine ⟨⟨[(AuraPublicKey.mk (r.keys.find_or_empty AURA)).into,
      (GrandpaPublicKey.mk (r.keys.find_or_empty GRANDPA)).into]⟩, ?_, found_keys_perm h⟩
    simp only [candidate_registration_to_plutus_data, h, if_true,
      RegisterValidatorDatum.try_from_into]
    rfl
  · refine ⟨r.keys, ?_, .refl _⟩
    simp only [candidate_registration_to_plutus_data, h, Bool.false_eq_true, if_false,
      RegisterValidatorDatum.try_from_into]
    rfl

end partner_chains_plutus_data.registered_candidates
