-- Plutus data as the datum codecs of toolkit/smart-contracts/plutus-data
-- read and build it (`PlutusData` of cardano-serialization-lib, without the
-- map kind, which no codec builds or reads), and the shared parts of those
-- codecs: the integer readers of `PlutusDataExtensions`, the versioned
-- generic datum `[datum, appendix, version]` and how it is told apart from a
-- legacy datum (lib.rs), and the codec of candidate keys (candidate_keys.rs).
-- cardano-serialization-lib is outside this repository, but its `PlutusData`
-- is a plain data type: its constructors and accessors are its variants and
-- their projections, which fix it up to isomorphism, so it is modelled as
-- the type itself. minicbor's encoder, SCALE's compact codec and the
-- runtime's currency, whose behaviour their laws leave open, are parameters.
import PartnerChains.Domain
import PartnerChains.Lib.Codec

namespace cardano_serialization_lib

/-- `PlutusData`: a constructor application (`ConstrPlutusData`, whose alternative is a
`BigNum`), a list, an integer (`BigInt`) or bytes. -/
inductive PlutusData where
  | constr (alternative : UInt64) (data : List PlutusData)
  | list (elems : List PlutusData)
  | integer (value : Int)
  | bytes (value : List UInt8)

namespace PlutusData

mutual
/-- Equality of Plutus data, by structural recursion through the nested lists. -/
def decEq : (a b : PlutusData) → Decidable (a = b)
  | constr a xs, constr b ys =>
    if h : a = b then
      match decEqList xs ys with
      | isTrue h' => isTrue (by rw [h, h'])
      | isFalse h' => isFalse fun e => h' (constr.inj e).2
    else isFalse fun e => h (constr.inj e).1
  | list xs, list ys =>
    match decEqList xs ys with
    | isTrue h' => isTrue (by rw [h'])
    | isFalse h' => isFalse fun e => h' (list.inj e)
  | integer a, integer b => decidable_of_iff (a = b) ⟨fun h => by rw [h], fun e => integer.inj e⟩
  | bytes a, bytes b => decidable_of_iff (a = b) ⟨fun h => by rw [h], fun e => bytes.inj e⟩
  | constr .., list .. | constr .., integer .. | constr .., bytes .. => isFalse PlutusData.noConfusion
  | list .., constr .. | list .., integer .. | list .., bytes .. => isFalse PlutusData.noConfusion
  | integer .., constr .. | integer .., list .. | integer .., bytes .. =>
    isFalse PlutusData.noConfusion
  | bytes .., constr .. | bytes .., list .. | bytes .., integer .. => isFalse PlutusData.noConfusion

/-- Equality of lists of Plutus data. -/
def decEqList : (xs ys : List PlutusData) → Decidable (xs = ys)
  | [], [] => isTrue rfl
  | [], _ :: _ => isFalse (List.cons_ne_nil _ _).symm
  | _ :: _, [] => isFalse (List.cons_ne_nil _ _)
  | x :: xs, y :: ys =>
    match decEq x y, decEqList xs ys with
    | isTrue h, isTrue h' => isTrue (by rw [h, h'])
    | isFalse h, _ => isFalse fun e => h (List.cons.inj e).1
    | _, isFalse h' => isFalse fun e => h' (List.cons.inj e).2
end

instance : DecidableEq PlutusData := decEq

/-- `PlutusData::new_bytes` -/
def new_bytes (bytes : List UInt8) : PlutusData := .bytes bytes

/-- `PlutusData::new_list` -/
def new_list (list : List PlutusData) : PlutusData := .list list

/-- `PlutusData::new_integer` -/
def new_integer (integer : Int) : PlutusData := .integer integer

/-- `PlutusData::new_constr_plutus_data` of `ConstrPlutusData::new(alternative, data)`. -/
def new_constr_plutus_data (alternative : UInt64) (data : List PlutusData) : PlutusData :=
  .constr alternative data

/-- `PlutusData::new_empty_constr_plutus_data` -/
def new_empty_constr_plutus_data (alternative : UInt64) : PlutusData := .constr alternative []

/-- `PlutusData::new_single_value_constr_plutus_data` -/
def new_single_value_constr_plutus_data (alternative : UInt64) (value : PlutusData) :
    PlutusData :=
  .constr alternative [value]

/-- `PlutusData::as_list` -/
def as_list : PlutusData → Option (List PlutusData)
  | .list elems => some elems
  | _ => none

/-- `PlutusData::as_bytes` -/
def as_bytes : PlutusData → Option (List UInt8)
  | .bytes value => some value
  | _ => none

/-- `PlutusData::as_integer` -/
def as_integer : PlutusData → Option Int
  | .integer value => some value
  | _ => none

/-- `PlutusData::as_constr_plutus_data`: the alternative and the fields. -/
def as_constr_plutus_data : PlutusData → Option (UInt64 × List PlutusData)
  | .constr alternative data => some (alternative, data)
  | _ => none

end PlutusData

/-- `PlutusList::get`. `None` is the panic of an index out of range; every decoder below
checks the length first, except where it is said. -/
def PlutusList.get (list : List PlutusData) (index : Nat) : Option PlutusData := list[index]?

/-- `BigInt::as_u64`: the integer, when it is a `u64`. -/
def BigInt.as_u64 (i : Int) : Option UInt64 :=
  if 0 ≤ i ∧ i.toNat < 2 ^ 64 then some (UInt64.ofNat i.toNat) else none

end cardano_serialization_lib

namespace partner_chains_plutus_data

open cardano_serialization_lib sidechain_domain partner_chains.codec

/-- `DataDecodingError`: the data, the type it was decoded to, and why it failed. -/
structure DataDecodingError where
  datum : PlutusData
  «to» : String
  msg : String
  deriving DecidableEq

/-- `DecodingResult<T>` -/
abbrev DecodingResult (T : Type) := Except DataDecodingError T

/-- `decoding_error_and_log`, without the log line. -/
def decoding_error_and_log (data : PlutusData) («to» msg : String) : DataDecodingError :=
  ⟨data, «to», msg⟩

/-! ## Integers -/

/-- `u32::try_from(u64)` -/
def u32_try_from (n : UInt64) : Option UInt32 :=
  if n.toNat < 2 ^ 32 then some (UInt32.ofNat n.toNat) else none

/-- `u16::try_from(u32)` -/
def u16_try_from (n : UInt32) : Option UInt16 :=
  if n.toNat < 2 ^ 16 then some (UInt16.ofNat n.toNat) else none

/-- `PlutusDataExtensions::as_u64` -/
def as_u64 (data : PlutusData) : Option UInt64 := do
  let i ← data.as_integer
  BigInt.as_u64 i

/-- `PlutusDataExtensions::as_u32` -/
def as_u32 (data : PlutusData) : Option UInt32 := do
  let i ← data.as_integer
  let n ← BigInt.as_u64 i
  u32_try_from n

/-- `PlutusDataExtensions::as_u16` -/
def as_u16 (data : PlutusData) : Option UInt16 := do
  let n ← as_u32 data
  u16_try_from n

/-- A number below `2 ^ 64` is a `u64`. -/
theorem as_u64_natCast {n : Nat} (h : n < 2 ^ 64) : BigInt.as_u64 n = some (UInt64.ofNat n) := by
  unfold BigInt.as_u64
  rw [Int.toNat_natCast, if_pos ⟨Int.natCast_nonneg n, h⟩]

/-- A number below `2 ^ 64` read as a `u64`. -/
theorem as_u64_integer_of_lt {n : Nat} (h : n < 2 ^ 64) :
    as_u64 (.integer n) = some (UInt64.ofNat n) := by
  simp only [as_u64, PlutusData.as_integer, Option.bind_eq_bind, Option.bind_some,
    as_u64_natCast h]

@[simp] theorem as_u64_toNat (n : UInt64) : BigInt.as_u64 n.toNat = some n := by
  rw [as_u64_natCast n.toNat_lt, UInt64.ofNat_toNat]

@[simp] theorem as_u64_integer (n : UInt64) : as_u64 (.integer n.toNat) = some n := by
  rw [as_u64_integer_of_lt n.toNat_lt, UInt64.ofNat_toNat]

@[simp] theorem as_u32_integer (n : UInt32) : as_u32 (.integer n.toNat) = some n := by
  have hlt := n.toNat_lt
  have hnat : (UInt64.ofNat n.toNat).toNat = n.toNat :=
    UInt64.toNat_ofNat_of_lt' (lt_of_lt_of_le hlt (by decide))
  simp only [as_u32, PlutusData.as_integer, Option.bind_eq_bind, Option.bind_some,
    as_u64_natCast (show n.toNat < 2 ^ 64 by omega), u32_try_from, hnat, if_pos hlt,
    UInt32.ofNat_toNat]

@[simp] theorem as_u16_integer (n : UInt16) : as_u16 (.integer n.toNat) = some n := by
  have hlt := n.toNat_lt
  -- a `u16` is read as a `u32` first
  have hnat : (UInt32.ofNat n.toNat).toNat = n.toNat :=
    UInt32.toNat_ofNat_of_lt' (lt_of_lt_of_le hlt (by decide))
  have h32 : as_u32 (.integer n.toNat) = some (UInt32.ofNat n.toNat) := by
    have := as_u32_integer (UInt32.ofNat n.toNat)
    rwa [hnat] at this
  simp only [as_u16, h32, Option.bind_eq_bind, Option.bind_some, u16_try_from, hnat, if_pos hlt,
    UInt16.ofNat_toNat]

/-! ## Versioned datums -/

/-- `VersionedGenericDatum`: the datum the scripts read, an appendix whose schema the
version names, and the version. -/
structure VersionedGenericDatum where
  datum : PlutusData
  appendix : PlutusData
  version : UInt64
  deriving DecidableEq

/-- `From<VersionedGenericDatum> for PlutusData`: the list `[datum, appendix, version]`. -/
def VersionedGenericDatum.into (value : VersionedGenericDatum) : PlutusData :=
  PlutusData.new_list
    [value.datum, value.appendix, PlutusData.new_integer value.version.toNat]

/-- `plutus_data_version_and_payload`: a list of three items whose last is a `u64` is a
versioned datum; anything else is legacy. -/
def plutus_data_version_and_payload (data : PlutusData) : Option VersionedGenericDatum := do
  let fields ← data.as_list.filter fun outer_list => outer_list.length == 3
  let datum ← PlutusList.get fields 0
  let appendix ← PlutusList.get fields 1
  let version ← as_u64 (← PlutusList.get fields 2)
  return ⟨datum, appendix, version⟩

/-- A versioned datum is read back as itself. -/
@[simp] theorem plutus_data_version_and_payload_into (value : VersionedGenericDatum) :
    plutus_data_version_and_payload value.into = some value := by
  simp [plutus_data_version_and_payload, VersionedGenericDatum.into, PlutusData.new_list,
    PlutusData.as_list, PlutusData.new_integer, PlutusList.get, Option.filter_some]

/-- A list of other than three items is legacy. -/
theorem plutus_data_version_and_payload_of_length {items : List PlutusData}
    (h : items.length ≠ 3) : plutus_data_version_and_payload (.list items) = none := by
  simp [plutus_data_version_and_payload, PlutusData.as_list, Option.filter, h]

/-- Data that is not a list is legacy. -/
theorem plutus_data_version_and_payload_of_as_list {data : PlutusData} (h : data.as_list = none) :
    plutus_data_version_and_payload data = none := by
  simp [plutus_data_version_and_payload, h]

/-- `VersionedDatumWithLegacy`: a datum type with a legacy schema, from before versions, and a
schema for each version. -/
structure VersionedDatumWithLegacy (T : Type) where
  NAME : String
  decode_legacy : PlutusData → Except String T
  decode_versioned : UInt64 → PlutusData → PlutusData → Except String T

/-- `VersionedDatum::decode` for a `VersionedDatumWithLegacy`. -/
def VersionedDatumWithLegacy.decode {T : Type} (D : VersionedDatumWithLegacy T)
    (data : PlutusData) : DecodingResult T :=
  (match plutus_data_version_and_payload data with
    | none => D.decode_legacy data
    | some ⟨datum, appendix, version⟩ => D.decode_versioned version datum appendix).mapError
    fun msg => decoding_error_and_log data D.NAME msg

/-- An encoded versioned datum is decoded by the schema of its version. -/
theorem VersionedDatumWithLegacy.decode_into {T : Type} (D : VersionedDatumWithLegacy T)
    (value : VersionedGenericDatum) :
    D.decode value.into = (D.decode_versioned value.version value.datum value.appendix).mapError
      fun msg => decoding_error_and_log value.into D.NAME msg := by
  simp [VersionedDatumWithLegacy.decode]

/-! ## Script hashes -/

/-- `ScriptHash([u8; 28])` -/
structure ScriptHash where
  val : FixedBytes 28
  deriving DecidableEq

/-- `TryFrom<PlutusData> for ScriptHash` -/
def ScriptHash.try_from (datum : PlutusData) : DecodingResult ScriptHash :=
  match datum.as_bytes.bind fun bytes => (FixedBytes.try_from bytes).map ScriptHash.mk with
  | some hash => .ok hash
  | none => .error (decoding_error_and_log datum "ScriptHash" "Expected [u8;32]")

/-- `From<ScriptHash> for PlutusData` -/
def ScriptHash.into (datum : ScriptHash) : PlutusData := PlutusData.new_bytes datum.val.val

@[simp] theorem ScriptHash.try_from_into (hash : ScriptHash) :
    ScriptHash.try_from hash.into = .ok hash := by
  simp [ScriptHash.try_from, ScriptHash.into, PlutusData.new_bytes, PlutusData.as_bytes]

/-! ## Candidate keys -/

/-- `decode_candidate_key`: a pair of a 4-byte key type and the key's bytes. -/
def decode_candidate_key (data : PlutusData) : Option CandidateKey := do
  -- Allow only key-value pair
  let list ← data.as_list.filter fun l => l.length == 2
  let key_id ← (← PlutusList.get list 0).as_bytes
  let key_id : FixedBytes 4 ← FixedBytes.try_from key_id
  let key_bytes ← (← PlutusList.get list 1).as_bytes
  return ⟨key_id, key_bytes⟩

/-- `decode_candidate_keys`: every item a key. -/
def decode_candidate_keys (data : PlutusData) : Option CandidateKeys := do
  let outer_list ← data.as_list
  let keys ← outer_list.mapM decode_candidate_key
  return ⟨keys⟩

/-- `candidate_key_to_plutus` -/
def candidate_key_to_plutus (key : CandidateKey) : PlutusData :=
  PlutusData.new_list [PlutusData.new_bytes key.id.val, PlutusData.new_bytes key.bytes]

/-- `candidate_keys_to_plutus` -/
def candidate_keys_to_plutus (keys : CandidateKeys) : PlutusData :=
  PlutusData.new_list (keys.val.map candidate_key_to_plutus)

theorem decode_candidate_key_round_trip : RoundTrip candidate_key_to_plutus decode_candidate_key :=
  fun key => by
    simp [decode_candidate_key, candidate_key_to_plutus, PlutusData.new_list, PlutusData.new_bytes,
      PlutusData.as_list, PlutusData.as_bytes, PlutusList.get, Option.filter_some]

/-- Candidate keys are read back as they were written, in their order. -/
@[simp] theorem decode_candidate_keys_to_plutus (keys : CandidateKeys) :
    decode_candidate_keys (candidate_keys_to_plutus keys) = some keys := by
  have hkeys := decode_candidate_key_round_trip.list keys.val
  simp [decode_candidate_keys, candidate_keys_to_plutus, PlutusData.new_list, PlutusData.as_list,
    hkeys]

end partner_chains_plutus_data
