-- The other datums of plutus-data: the D-parameter (d_param.rs), the reserve
-- (reserve.rs) and token transfers (bridge.rs), all versioned; and the
-- version oracle's datum and redeemer (version_oracle.rs) and the entries of
-- the governed map (governed_map.rs), which are not versioned: a decoder of
-- the versioned scheme would take them for legacy data.
import PartnerChains.PlutusData.RegisteredCandidates

namespace partner_chains_plutus_data

open cardano_serialization_lib sidechain_domain

namespace d_param

/-- `DParamDatum` -/
inductive DParamDatum where
  | V0 (num_permissioned_candidates num_registered_candidates : UInt16)
  deriving DecidableEq

/-- `From<DParamDatum> for DParameter` -/
def DParamDatum.into : DParamDatum → DParameter
  | .V0 num_permissioned_candidates num_registered_candidates =>
    ⟨num_permissioned_candidates, num_registered_candidates⟩

/-- `d_parameter_to_plutus_data`: the two numbers in the appendix of version 0. -/
def d_parameter_to_plutus_data (d_param : DParameter) : PlutusData :=
  let appendix := PlutusData.new_list [PlutusData.new_integer d_param.num_permissioned_candidates.toNat,
    PlutusData.new_integer d_param.num_registered_candidates.toNat]
  VersionedGenericDatum.into ⟨PlutusData.new_empty_constr_plutus_data 0, appendix, 0⟩

/-- `DParamDatum::decode_legacy`: a list of two `u16`. -/
def DParamDatum.decode_legacy (data : PlutusData) : Except String DParamDatum :=
  match (data.as_list.filter fun datum => datum.length == 2).bind fun items => do
      let num_permissioned_candidates ← as_u16 (← PlutusList.get items 0)
      let num_registered_candidates ← as_u16 (← PlutusList.get items 1)
      return DParamDatum.V0 num_permissioned_candidates num_registered_candidates with
  | some d_parameter => .ok d_parameter
  | none => .error "Expected [u16, u16]"

/-- `impl VersionedDatumWithLegacy for DParamDatum`: the V0 appendix has the legacy schema. -/
def DParamDatum.versioned : VersionedDatumWithLegacy DParamDatum where
  NAME := "DParamDatum"
  decode_legacy := DParamDatum.decode_legacy
  decode_versioned version _datum appendix :=
    if version = 0 then
      (DParamDatum.decode_legacy appendix).mapError fun msg => s!"Cannot parse appendix: {msg}"
    else .error s!"Unknown version: {version}"

/-- `TryFrom<PlutusData> for DParamDatum` -/
def DParamDatum.try_from (datum : PlutusData) : DecodingResult DParamDatum :=
  DParamDatum.versioned.decode datum

/-- The D-parameter is read back as it was written. -/
theorem d_parameter_round_trip (d : DParameter) :
    (DParamDatum.try_from (d_parameter_to_plutus_data d)).map DParamDatum.into = .ok d := by
  simp [DParamDatum.try_from, d_parameter_to_plutus_data, VersionedDatumWithLegacy.decode_into,
    DParamDatum.versioned, DParamDatum.decode_legacy, PlutusData.new_list, PlutusData.new_integer,
    PlutusData.as_list, PlutusList.get, Option.filter_some, Except.mapError, Except.map,
    DParamDatum.into]

end d_param

namespace reserve

/-- `ReserveImmutableSettings` -/
structure ReserveImmutableSettings where
  token : AssetId
  deriving DecidableEq

/-- `ReserveMutableSettings` -/
structure ReserveMutableSettings where
  total_accrued_function_asset_name : PolicyId
  initial_incentive : UInt64
  deriving DecidableEq

/-- `ReserveStats` -/
structure ReserveStats where
  token_total_amount_transferred : UInt64
  deriving DecidableEq

/-- `ReserveDatum` -/
structure ReserveDatum where
  immutable_settings : ReserveImmutableSettings
  mutable_settings : ReserveMutableSettings
  stats : ReserveStats
  deriving DecidableEq

/-- `From<ReserveDatum> for PlutusData`: everything in the datum of version 0; the appendix is
`()`. -/
def ReserveDatum.into (value : ReserveDatum) : PlutusData :=
  let token_data := PlutusData.new_constr_plutus_data 0
    [PlutusData.new_bytes value.immutable_settings.token.policy_id.val,
      PlutusData.new_bytes value.immutable_settings.token.asset_name.val]
  let v_function_hash_and_initial_incentive :=
    [PlutusData.new_bytes value.mutable_settings.total_accrued_function_asset_name.val,
      PlutusData.new_integer value.mutable_settings.initial_incentive.toNat]
  let datum := PlutusData.new_list [token_data,
    PlutusData.new_list v_function_hash_and_initial_incentive,
    PlutusData.new_integer value.stats.token_total_amount_transferred.toNat]
  -- this empty constructor below is Plutus encoding of `()`
  VersionedGenericDatum.into ⟨datum, PlutusData.new_empty_constr_plutus_data 0, 0⟩

/-- `BoundedVec::try_from` for an asset name: at most 32 bytes. -/
def AssetName.try_from (bytes : List UInt8) : Option AssetName :=
  if h : bytes.length ≤ 32 then some ⟨bytes, h⟩ else none

/-- `decode_token_id_datum`: the items are read in turn, as from an iterator. -/
def decode_token_id_datum (pd : PlutusData) : Option AssetId := do
  let token_id_list ← (pd.as_constr_plutus_data.filter fun constr => constr.1 == 0).map (·.2)
  let policy_id ← (← token_id_list[0]?).as_bytes
  let asset_name ← (← token_id_list[1]?).as_bytes
  return ⟨← FixedBytes.try_from policy_id, ← AssetName.try_from asset_name⟩

/-- `decode_v0_reserve_datum` -/
def decode_v0_reserve_datum (datum : PlutusData) : Option ReserveDatum := do
  let outer_list ← datum.as_list
  let token ← decode_token_id_datum (← outer_list[0]?)
  let mutable_settings_list ← (← outer_list[1]?).as_list
  let total_accrued_function_script_hash ←
    FixedBytes.try_from (← (← mutable_settings_list[0]?).as_bytes)
  let initial_incentive ← BigInt.as_u64 (← (← mutable_settings_list[1]?).as_integer)
  let token_total_amount_transferred ← BigInt.as_u64 (← (← outer_list[2]?).as_integer)
  return ⟨⟨token⟩, ⟨total_accrued_function_script_hash, initial_incentive⟩,
    ⟨token_total_amount_transferred⟩⟩

/-- `VersionedDatum::decode` for `ReserveDatum`: only version 0; the error of a datum that does
not decode carries the inner datum. -/
def ReserveDatum.decode (datum : PlutusData) : DecodingResult ReserveDatum :=
  match plutus_data_version_and_payload datum with
  | some ⟨inner, _, 0⟩ =>
    match decode_v0_reserve_datum inner with
    | some reserve => .ok reserve
    | none => .error (decoding_error_and_log inner "ReserveDatum" "invalid data")
  | _ => .error (decoding_error_and_log datum "ReserveDatum" "unversioned datum")

/-- `TryFrom<PlutusData> for ReserveDatum` -/
def ReserveDatum.try_from (datum : PlutusData) : DecodingResult ReserveDatum :=
  ReserveDatum.decode datum

/-- The reserve datum is read back as it was written; the asset name's bound is what lets its
conversion back succeed. -/
theorem reserve_round_trip (d : ReserveDatum) : ReserveDatum.try_from d.into = .ok d := by
  obtain ⟨⟨⟨policy_id, asset_name⟩⟩, ⟨hash, initial_incentive⟩, ⟨transferred⟩⟩ := d
  have hname : AssetName.try_from asset_name.val = some asset_name := by
    simp [AssetName.try_from, asset_name.bound]
  simp [ReserveDatum.try_from, ReserveDatum.decode, ReserveDatum.into, decode_v0_reserve_datum,
    decode_token_id_datum, hname, PlutusData.new_list, PlutusData.new_bytes,
    PlutusData.new_integer, PlutusData.new_constr_plutus_data, PlutusData.as_list,
    PlutusData.as_bytes, PlutusData.as_integer, PlutusData.as_constr_plutus_data,
    Option.filter_some]

end reserve

namespace version_oracle

/-- `VersionOracle`: the id of the script in the versioning system. -/
structure VersionOracle where
  script_id : UInt32
  deriving DecidableEq

/-- `TryFrom<PlutusData> for VersionOracle` -/
def VersionOracle.try_from (datum : PlutusData) : DecodingResult VersionOracle :=
  match as_u32 datum with
  | some script_id => .ok ⟨script_id⟩
  | none => .error (decoding_error_and_log datum "VersionOracle" "Expected u32")

/-- `From<VersionOracle> for PlutusData` -/
def VersionOracle.into (datum : VersionOracle) : PlutusData :=
  PlutusData.new_integer datum.script_id.toNat

-- the field keeps the source's name, which repeats the namespace's
set_option linter.dupNamespace false in
/-- `VersionOracleDatum`, which is not versioned. -/
structure VersionOracleDatum where
  version_oracle : VersionOracle
  currency_symbol : ScriptHash
  deriving DecidableEq

/-- `TryFrom<PlutusData> for VersionOracleDatum` -/
def VersionOracleDatum.try_from (datum : PlutusData) : DecodingResult VersionOracleDatum :=
  match (datum.as_list.filter fun datum => datum.length == 2).bind fun items => do
      let version_oracle ← (VersionOracle.try_from (← PlutusList.get items 0)).toOption
      let currency_symbol ← (ScriptHash.try_from (← PlutusList.get items 1)).toOption
      return VersionOracleDatum.mk version_oracle currency_symbol with
  | some d => .ok d
  | none => .error (decoding_error_and_log datum "VersionOracleDatum" "Expected [u32, [u8;32]]")

/-- `From<VersionOracleDatum> for PlutusData`: a list of two items. -/
def VersionOracleDatum.into (datum : VersionOracleDatum) : PlutusData :=
  PlutusData.new_list [datum.version_oracle.into, datum.currency_symbol.into]

/-- `VersionOraclePolicyRedeemer` -/
inductive VersionOraclePolicyRedeemer where
  | InitializeVersionOracle (version_oracle : VersionOracle) (script_hash : ScriptHash)
  | MintVersionOracle (version_oracle : VersionOracle) (script_hash : ScriptHash)
  | BurnVersionOracle (version_oracle : VersionOracle)
  deriving DecidableEq

/-- `TryFrom<PlutusData> for VersionOraclePolicyRedeemer`: the alternative names the variant. -/
def VersionOraclePolicyRedeemer.try_from (redeemer : PlutusData) :
    DecodingResult VersionOraclePolicyRedeemer :=
  let decoded := redeemer.as_constr_plutus_data.bind fun (alternative, data) =>
    if alternative = 0 ∧ data.length = 2 then do
      let version_oracle ← (VersionOracle.try_from (← PlutusList.get data 0)).toOption
      let script_hash ← (ScriptHash.try_from (← PlutusList.get data 1)).toOption
      return .InitializeVersionOracle version_oracle script_hash
    else if alternative = 1 ∧ data.length = 2 then do
      let version_oracle ← (VersionOracle.try_from (← PlutusList.get data 0)).toOption
      let script_hash ← (ScriptHash.try_from (← PlutusList.get data 1)).toOption
      return .MintVersionOracle version_oracle script_hash
    else if alternative = 2 ∧ data.length = 1 then do
      let version_oracle ← (VersionOracle.try_from (← PlutusList.get data 0)).toOption
      return .BurnVersionOracle version_oracle
    else none
  match decoded with
  | some r => .ok r
  | none => .error (decoding_error_and_log redeemer "VersionOraclePolicyRedeemer"
      "Expected one of Constr 0 [u32, [u8;32]], Constr 1 [u32, [u8;32]], or Constr 2 [u32]")

/-- `From<VersionOraclePolicyRedeemer> for PlutusData` -/
def VersionOraclePolicyRedeemer.into : VersionOraclePolicyRedeemer → PlutusData
  | .InitializeVersionOracle version_oracle script_hash =>
    PlutusData.new_constr_plutus_data 0 [version_oracle.into, script_hash.into]
  | .MintVersionOracle version_oracle script_hash =>
    PlutusData.new_constr_plutus_data 1 [version_oracle.into, script_hash.into]
  | .BurnVersionOracle version_oracle =>
    PlutusData.new_constr_plutus_data 2 [version_oracle.into]

@[simp] theorem VersionOracle.try_from_into (v : VersionOracle) :
    VersionOracle.try_from v.into = .ok v := by
  simp [VersionOracle.try_from, VersionOracle.into, PlutusData.new_integer]

theorem version_oracle_datum_round_trip (d : VersionOracleDatum) :
    VersionOracleDatum.try_from d.into = .ok d := by
  simp [VersionOracleDatum.try_from, VersionOracleDatum.into, PlutusData.new_list,
    PlutusData.as_list, PlutusList.get, Option.filter_some, Except.toOption]

theorem version_oracle_policy_redeemer_round_trip (r : VersionOraclePolicyRedeemer) :
    VersionOraclePolicyRedeemer.try_from r.into = .ok r := by
  cases r <;> simp [VersionOraclePolicyRedeemer.try_from, VersionOraclePolicyRedeemer.into,
    PlutusData.new_constr_plutus_data, PlutusData.as_constr_plutus_data, PlutusList.get,
    Except.toOption]

/-- The version oracle's datum is a list of two items: the versioned scheme reads it as legacy
data. -/
theorem version_oracle_datum_unversioned (d : VersionOracleDatum) :
    plutus_data_version_and_payload d.into = none :=
  plutus_data_version_and_payload_of_length (by simp)

/-- The datum of script 0 with the zero currency symbol is read as legacy data. -/
theorem version_oracle_datum_zero_legacy :
    plutus_data_version_and_payload
      (VersionOracleDatum.into ⟨⟨0⟩, ⟨⟨List.replicate 28 0, rfl⟩⟩⟩) = none := by
  rfl

/-- The redeemer is a constructor, not a list: the versioned scheme reads it as legacy data. -/
theorem version_oracle_policy_redeemer_unversioned (r : VersionOraclePolicyRedeemer) :
    plutus_data_version_and_payload r.into = none := by
  cases r <;> exact plutus_data_version_and_payload_of_as_list rfl

end version_oracle

namespace governed_map

/-- `GovernedMapDatum`: a key, read as UTF-8, and its value. -/
structure GovernedMapDatum where
  key : String
  value : ByteString
  deriving DecidableEq

/-- `TryFrom<PlutusData> for GovernedMapDatum`. The list's length is not checked: the outer
`None` is the panic of `PlutusList::get` on a list too short for the item it reads. -/
def GovernedMapDatum.try_from (datum : PlutusData) : Option (DecodingResult GovernedMapDatum) :=
  let error := decoding_error_and_log datum "GovernedMapDatum" "Expected List([UTF8String, Bytes])"
  match datum.as_list with
  | none => some (.error error)
  | some list => do
    let first ← PlutusList.get list 0
    match first.as_bytes.bind fun key => String.fromUTF8? ⟨key.toArray⟩ with
    | none => return .error error
    | some key =>
      let second ← PlutusList.get list 1
      match second.as_bytes with
      | none => return .error error
      | some value => return .ok ⟨key, ⟨value⟩⟩

/-- `governed_map_datum_to_plutus_data`: the key's UTF-8 bytes and the value. -/
def governed_map_datum_to_plutus_data (governed_map_datum : GovernedMapDatum) : PlutusData :=
  PlutusData.new_list [PlutusData.new_bytes governed_map_datum.key.toUTF8.data.toList,
    PlutusData.new_bytes governed_map_datum.value.val]

/-- A string's UTF-8 bytes are read back as the string. -/
theorem fromUTF8_toByteArray (s : String) : String.fromUTF8? ⟨s.toByteArray.data⟩ = some s := by
  simp [String.fromUTF8?, s.isValidUTF8]
  rfl

/-- An entry of the governed map is read back as it was, without a panic. -/
theorem governed_map_round_trip (d : GovernedMapDatum) :
    GovernedMapDatum.try_from (governed_map_datum_to_plutus_data d) = some (.ok d) := by
  simp [GovernedMapDatum.try_from, governed_map_datum_to_plutus_data, PlutusData.new_list,
    PlutusData.new_bytes, PlutusData.as_list, PlutusData.as_bytes, PlutusList.get,
    fromUTF8_toByteArray]

/-- An entry of the governed map is a list of two items: the versioned scheme reads it as legacy
data. -/
theorem governed_map_datum_unversioned (d : GovernedMapDatum) :
    plutus_data_version_and_payload (governed_map_datum_to_plutus_data d) = none :=
  plutus_data_version_and_payload_of_length (by simp)

end governed_map

namespace bridge

/-- `TokenTransferDatumV1` -/
inductive TokenTransferDatumV1 where
  | UserTransfer (receiver : ByteString)
  | ReserveTransfer
  deriving DecidableEq

/-- `TokenTransferDatum` -/
inductive TokenTransferDatum where
  | V1 (datum : TokenTransferDatumV1)
  deriving DecidableEq

/-- `From<TokenTransferDatumV1> for PlutusData`: version 1, the transfer in the appendix. -/
def TokenTransferDatumV1.into (datum : TokenTransferDatumV1) : PlutusData :=
  let appendix := match datum with
    | .UserTransfer receiver =>
      PlutusData.new_single_value_constr_plutus_data 0 (PlutusData.new_bytes receiver.val)
    | .ReserveTransfer => PlutusData.new_empty_constr_plutus_data 1
  VersionedGenericDatum.into ⟨PlutusData.new_empty_constr_plutus_data 0, appendix, 1⟩

/-- `From<TokenTransferDatum> for PlutusData` -/
def TokenTransferDatum.into : TokenTransferDatum → PlutusData
  | .V1 datum => datum.into

/-- `decode_v1_token_transfer_datum` -/
def decode_v1_token_transfer_datum (appendix : PlutusData) : Option TokenTransferDatum := do
  let (alternative, data) ← appendix.as_constr_plutus_data
  if alternative = 0 ∧ data.length = 1 then
    let receiver ← (← PlutusList.get data 0).as_bytes
    return .V1 (.UserTransfer ⟨receiver⟩)
  else if alternative = 1 ∧ data.isEmpty then return .V1 .ReserveTransfer
  else none

/-- `VersionedDatum::decode` for `TokenTransferDatum`: only version 1. -/
def TokenTransferDatum.decode (data : PlutusData) : DecodingResult TokenTransferDatum :=
  match plutus_data_version_and_payload data with
  | none => .error (decoding_error_and_log data "TokenTransferDatum" "unversioned datum")
  | some ⟨_, appendix, version⟩ =>
    if version = 1 then
      match decode_v1_token_transfer_datum appendix with
      | some datum => .ok datum
      | none => .error (decoding_error_and_log appendix "TokenTransferDatum" "malformed appendix")
    else .error (decoding_error_and_log data "TokenTransferDatum" "invalid version")

/-- `TryFrom<PlutusData> for TokenTransferDatum` -/
def TokenTransferDatum.try_from (data : PlutusData) : DecodingResult TokenTransferDatum :=
  TokenTransferDatum.decode data

theorem token_transfer_round_trip (d : TokenTransferDatum) :
    TokenTransferDatum.try_from d.into = .ok d := by
  obtain ⟨datum⟩ := d
  cases datum <;> simp [TokenTransferDatum.try_from, TokenTransferDatum.decode,
    TokenTransferDatum.into, TokenTransferDatumV1.into, decode_v1_token_transfer_datum,
    PlutusData.new_single_value_constr_plutus_data, PlutusData.new_empty_constr_plutus_data,
    PlutusData.new_bytes, PlutusData.as_constr_plutus_data, PlutusData.as_bytes, PlutusList.get]

end bridge

open registered_candidates d_param reserve version_oracle governed_map bridge

/-- The datum codecs are inverse: every encoder's output is decoded back to what was encoded, a
registration up to the order of its keys. The encoders of the versioned datums write a datum
that `plutus_data_version_and_payload` reads as versioned, with its version; those of the version
oracle and of the governed map, which are not versioned, write data that it reads as legacy. -/
theorem datum_codecs_round_trip :
    (∀ d : RegisterValidatorDatum, RegisterValidatorDatum.try_from d.into = .ok d ∧
      (plutus_data_version_and_payload d.into).isSome) ∧
    (∀ d : DParameter,
      (DParamDatum.try_from (d_parameter_to_plutus_data d)).map DParamDatum.into = .ok d ∧
      (plutus_data_version_and_payload (d_parameter_to_plutus_data d)).map (·.version) = some 0) ∧
    (∀ d : ReserveDatum, ReserveDatum.try_from d.into = .ok d ∧
      (plutus_data_version_and_payload d.into).map (·.version) = some 0) ∧
    (∀ d : TokenTransferDatum, TokenTransferDatum.try_from d.into = .ok d ∧
      (plutus_data_version_and_payload d.into).map (·.version) = some 1) ∧
    (∀ d : VersionOracleDatum, VersionOracleDatum.try_from d.into = .ok d ∧
      plutus_data_version_and_payload d.into = none) ∧
    (∀ r : VersionOraclePolicyRedeemer, VersionOraclePolicyRedeemer.try_from r.into = .ok r ∧
      plutus_data_version_and_payload r.into = none) ∧
    (∀ d : GovernedMapDatum,
      GovernedMapDatum.try_from (governed_map_datum_to_plutus_data d) = some (.ok d) ∧
      plutus_data_version_and_payload (governed_map_datum_to_plutus_data d) = none) ∧
    (∀ r : CandidateRegistration, ∃ keys : CandidateKeys,
      (RegisterValidatorDatum.try_from (candidate_registration_to_plutus_data r)).map
        CandidateRegistration.from = .ok { r with keys := keys } ∧ keys.val.Perm r.keys.val) := by
  refine ⟨fun d => ⟨RegisterValidatorDatum.try_from_into d, ?_⟩,
    fun d => ⟨d_parameter_round_trip d, ?_⟩, fun d => ⟨reserve_round_trip d, ?_⟩,
    fun d => ⟨token_transfer_round_trip d, ?_⟩,
    fun d => ⟨version_oracle_datum_round_trip d, version_oracle_datum_unversioned d⟩,
    fun r => ⟨version_oracle_policy_redeemer_round_trip r, version_oracle_policy_redeemer_unversioned r⟩,
    fun d => ⟨governed_map_round_trip d, governed_map_datum_unversioned d⟩,
    candidate_registration_round_trip⟩
  -- the versioned encoders all end in `VersionedGenericDatum.into`
  · obtain ⟨v, hv, -⟩ := RegisterValidatorDatum.into_versioned d
    simp [hv]
  · simp [d_parameter_to_plutus_data]
  · simp [ReserveDatum.into]
  · obtain ⟨datum⟩ := d
    simp [TokenTransferDatum.into, TokenTransferDatumV1.into]

end partner_chains_plutus_data
