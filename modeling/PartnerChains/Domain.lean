-- The domain types of `sidechain_domain` (toolkit/sidechain/domain) that the
-- modelled functions read. Byte strings are lists of bytes; a `[u8; N]`
-- array carries its length, so that a key of the wrong size cannot be built.
import Mathlib

namespace sidechain_domain

/-- `[u8; N]`: exactly `N` bytes. -/
structure FixedBytes (N : Nat) where
  val : List UInt8
  len : val.length = N

instance {N : Nat} : DecidableEq (FixedBytes N) := fun a b =>
  decidable_of_iff (a.val = b.val) (by cases a; cases b; simp)

namespace FixedBytes

variable {N : Nat}

/-- `<[u8; N]>::try_from(Vec<u8>)`: fails unless the vector has exactly `N` bytes. -/
def try_from (bytes : List UInt8) : Option (FixedBytes N) :=
  if h : bytes.length = N then some ⟨bytes, h⟩ else none

@[simp] theorem try_from_val (b : FixedBytes N) : try_from b.val = some b := by
  simp [try_from, b.len]

theorem ext {a b : FixedBytes N} (h : a.val = b.val) : a = b := by
  cases a; cases b; simp only at h; subst h; rfl

/-- Thirty-two copies of a byte fill a `[u8; 32]`. -/
theorem length_replicate_32 (b : UInt8) : (List.replicate 32 b).length = 32 :=
  List.length_replicate

/-- Thirty-two zero bytes fill a `[u8; 32]`. -/
theorem length_zeros_32 : (List.replicate 32 (0 : UInt8)).length = 32 :=
  List.length_replicate

end FixedBytes

/-- `McBlockHash([u8; 32])`: the hash of a main chain block. -/
abbrev McBlockHash := FixedBytes 32

/-- `SizedByteString<N>`. -/
abbrev SizedByteString (N : Nat) := FixedBytes N

/-- `StakePoolPublicKey([u8; 32])`. -/
abbrev StakePoolPublicKey := FixedBytes 32

/-- `MainchainSignature([u8; 64])`. -/
abbrev MainchainSignature := FixedBytes 64

/-- `SidechainPublicKey(Vec<u8>)`. -/
structure SidechainPublicKey where
  val : List UInt8
  deriving DecidableEq

/-- `SidechainSignature(Vec<u8>)`. -/
structure SidechainSignature where
  val : List UInt8
  deriving DecidableEq

/-- `CrossChainPublicKey(Vec<u8>)`. -/
structure CrossChainPublicKey where
  val : List UInt8
  deriving DecidableEq

/-- `CrossChainSignature(Vec<u8>)`. -/
structure CrossChainSignature where
  val : List UInt8
  deriving DecidableEq

/-- `StakeDelegation(u64)`. -/
structure StakeDelegation where
  val : UInt64
  deriving DecidableEq

/-- `StakeDelegation::is_zero`. -/
def StakeDelegation.is_zero (s : StakeDelegation) : Bool := s.val == 0

/-- `EpochNonce(Vec<u8>)`. -/
structure EpochNonce where
  val : List UInt8
  deriving DecidableEq

/-- `EpochNonce::as_array`: the nonce cut or padded with zeros to 32 bytes. -/
def EpochNonce.as_array (n : EpochNonce) : FixedBytes 32 :=
  ⟨(n.val ++ List.replicate (32 - n.val.length) 0).take 32, by simp; omega⟩

/-! ## Outputs of main chain transactions -/

/-- `UtxoId`: the transaction hash (`McTxHash([u8; 32])`) and the output index
(`UtxoIndex(u16)`). -/
structure UtxoId where
  tx_hash : FixedBytes 32
  index : UInt16
  deriving DecidableEq

/-- `UtxoInfo`. -/
structure UtxoInfo where
  utxo_id : UtxoId
  /-- `McEpochNumber(u32)` -/
  epoch_number : UInt32
  /-- `McBlockNumber(u32)` -/
  block_number : UInt32
  /-- `McSlotNumber(u64)` -/
  slot_number : UInt64
  /-- `McTxIndexInBlock(u32)` -/
  tx_index_within_block : UInt32
  deriving DecidableEq

/-- `UtxoInfo::ordering_key`, with the derived order of `UtxoInfoOrderingKey`: block number,
then transaction index, then output index. -/
def UtxoInfo.ordering_key (u : UtxoInfo) : Lex (Nat × Lex (Nat × Nat)) :=
  toLex (u.block_number.toNat, toLex (u.tx_index_within_block.toNat, u.utxo_id.index.toNat))

/-! ## Candidates -/

/-- `MainchainKeyHash([u8; 28])`. -/
abbrev MainchainKeyHash := FixedBytes 28

/-- `PolicyId([u8; 28])`. -/
abbrev PolicyId := FixedBytes 28

/-- `AssetName(BoundedVec<u8, ConstU32<32>>)`: at most 32 bytes. -/
structure AssetName where
  val : List UInt8
  bound : val.length ≤ 32

instance : DecidableEq AssetName := fun a b =>
  decidable_of_iff (a.val = b.val) (by cases a; cases b; simp)

/-- `AssetId`. -/
structure AssetId where
  policy_id : PolicyId
  asset_name : AssetName
  deriving DecidableEq

/-- `ByteString(Vec<u8>)`. -/
structure ByteString where
  val : List UInt8
  deriving DecidableEq

/-- `AdaBasedStaking`: the stake pool's key and its signature of the registration. -/
structure AdaBasedStaking where
  pub_key : StakePoolPublicKey
  signature : MainchainSignature
  deriving DecidableEq

/-- `KeyTypeId([u8; 4])`. -/
abbrev KeyTypeId := FixedBytes 4

/-- `key_types::AURA`: `b"aura"`. -/
def AURA : KeyTypeId := ⟨[97, 117, 114, 97], rfl⟩

/-- `key_types::GRANDPA`: `b"gran"`. -/
def GRANDPA : KeyTypeId := ⟨[103, 114, 97, 110], rfl⟩

/-- `CandidateKey`: the bytes of one key, and its type. -/
structure CandidateKey where
  id : FixedBytes 4
  bytes : List UInt8
  deriving DecidableEq

/-- `CandidateKeys(Vec<CandidateKey>)`. -/
structure CandidateKeys where
  val : List CandidateKey
  deriving DecidableEq

/-- `CandidateKeys::find`: the bytes of the first key of type `id`. -/
def CandidateKeys.find (keys : CandidateKeys) (id : KeyTypeId) : Option (List UInt8) :=
  keys.val.findSome? fun e => if e.id = id then some e.bytes else none

/-- `CandidateKeys::find_or_empty`. -/
def CandidateKeys.find_or_empty (keys : CandidateKeys) (id : KeyTypeId) : List UInt8 :=
  (keys.find id).getD []

/-- `AuraPublicKey(Vec<u8>)`. -/
structure AuraPublicKey where
  val : List UInt8
  deriving DecidableEq

/-- `GrandpaPublicKey(Vec<u8>)`. -/
structure GrandpaPublicKey where
  val : List UInt8
  deriving DecidableEq

/-- `From<AuraPublicKey> for CandidateKey`. -/
def AuraPublicKey.into (k : AuraPublicKey) : CandidateKey := ⟨AURA, k.val⟩

/-- `From<GrandpaPublicKey> for CandidateKey`. -/
def GrandpaPublicKey.into (k : GrandpaPublicKey) : CandidateKey := ⟨GRANDPA, k.val⟩

/-- `CandidateKeys::has_only_aura_and_grandpa_keys`. -/
def CandidateKeys.has_only_aura_and_grandpa_keys (keys : CandidateKeys) : Bool :=
  keys.val.length == 2 && (keys.find AURA).isSome && (keys.find GRANDPA).isSome

/-- Keys that are only an Aura and a Grandpa key are one of each, in either order. -/
theorem CandidateKeys.has_only_cases {keys : CandidateKeys}
    (h : keys.has_only_aura_and_grandpa_keys) :
    ∃ a g, keys.val = [⟨AURA, a⟩, ⟨GRANDPA, g⟩] ∨ keys.val = [⟨GRANDPA, g⟩, ⟨AURA, a⟩] := by
  obtain ⟨val⟩ := keys
  have hne : GRANDPA ≠ AURA := by decide
  match val, h with
  | [⟨i₁, b₁⟩, ⟨i₂, b₂⟩], h =>
    simp only [has_only_aura_and_grandpa_keys, find, List.findSome?_cons, List.findSome?_nil,
      Bool.and_eq_true] at h
    -- the Aura key is first or second, and the Grandpa key takes the other place
    by_cases h₁ : i₁ = AURA
    · have h₂ : i₂ = GRANDPA := by
        subst h₁
        by_contra h₂
        simp [Ne.symm hne, h₂] at h
      exact ⟨b₁, b₂, .inl (by rw [h₁, h₂])⟩
    · have h₂ : i₂ = AURA := by
        by_contra h₂
        simp [h₁, h₂] at h
      have h₁' : i₁ = GRANDPA := by
        subst h₂
        by_contra h₁'
        simp [h₁', Ne.symm hne] at h
      exact ⟨b₂, b₁, .inr (by rw [h₁', h₂])⟩

/-- `RegistrationData`: one registration of a stake pool operator. -/
structure RegistrationData where
  registration_utxo : UtxoId
  sidechain_signature : SidechainSignature
  mainchain_signature : MainchainSignature
  cross_chain_signature : CrossChainSignature
  sidechain_pub_key : SidechainPublicKey
  cross_chain_pub_key : CrossChainPublicKey
  utxo_info : UtxoInfo
  tx_inputs : List UtxoId
  keys : CandidateKeys
  deriving DecidableEq

/-- `CandidateRegistrations`: the registrations of one stake pool, and its stake. -/
structure CandidateRegistrations where
  stake_pool_public_key : StakePoolPublicKey
  registrations : List RegistrationData
  stake_delegation : Option StakeDelegation
  deriving DecidableEq

/-- `CandidateRegistration`: what a stake pool operator registers on the main chain. -/
structure CandidateRegistration where
  stake_ownership : AdaBasedStaking
  partner_chain_pub_key : SidechainPublicKey
  partner_chain_signature : SidechainSignature
  own_pkh : MainchainKeyHash
  registration_utxo : UtxoId
  keys : CandidateKeys
  deriving DecidableEq

/-- `PermissionedCandidateData`. -/
structure PermissionedCandidateData where
  sidechain_public_key : SidechainPublicKey
  keys : CandidateKeys
  deriving DecidableEq

/-- `DParameter`: the seats of each pool. -/
structure DParameter where
  num_permissioned_candidates : UInt16
  num_registered_candidates : UInt16
  deriving DecidableEq

end sidechain_domain
