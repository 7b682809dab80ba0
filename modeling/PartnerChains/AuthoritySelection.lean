-- Committee selection from main chain data
-- (toolkit/committee-selection/authority-selection-inherents): the
-- registrations of each stake pool are validated and the latest valid one
-- kept, invalid permissioned candidates are dropped, and Ariadne v2 selects
-- from what is left with a seed made from the epoch nonce. The data source
-- may hand the candidates over in any order; the committee does not depend
-- on it. Every member of the committee is a candidate the data vouches for.
import Mathlib
import PartnerChains.SelectionSeats
import PartnerChains.CommitteePallet

namespace sp_session_validator_management

open sidechain_domain

/-- `AuthoritySelectionInputs`: the unfiltered main chain data of a selection. -/
structure AuthoritySelectionInputs where
  d_parameter : DParameter
  permissioned_candidates : List PermissionedCandidateData
  registered_candidates : List CandidateRegistrations
  epoch_nonce : EpochNonce

end sp_session_validator_management

namespace authority_selection_inherents

open sidechain_domain sp_session_validator_management partner_chains.list_order selection

/-! ## Candidates and their order -/

/-- `PermissionedCandidate<TAccountId, TAccountKeys>` -/
structure PermissionedCandidate (TAccountId TAccountKeys : Type) where
  account_id : TAccountId
  account_keys : TAccountKeys
  deriving DecidableEq

/-- `CandidateWithStake<TAccountId, TAccountKeys>` -/
structure CandidateWithStake (TAccountId TAccountKeys : Type) where
  stake_pool_pub_key : StakePoolPublicKey
  stake_delegation : StakeDelegation
  account_id : TAccountId
  account_keys : TAccountKeys
  deriving DecidableEq

/-- `Candidate<TAccountId, TAccountKeys>` -/
inductive Candidate (TAccountId TAccountKeys : Type) where
  | Permissioned (c : PermissionedCandidate TAccountId TAccountKeys)
  | Registered (c : CandidateWithStake TAccountId TAccountKeys)
  deriving DecidableEq

variable {TAccountId TAccountKeys : Type}

/-- The derived `Ord` of `Candidate`: permissioned before registered, then the fields in
declaration order, byte strings lexicographically. -/
def Candidate.ordKey : Candidate TAccountId TAccountKeys →
    Lex (Lex (TAccountId × TAccountKeys) ⊕
      Lex (List Nat × Lex (Nat × Lex (TAccountId × TAccountKeys))))
  | .Permissioned c => toLex (.inl (toLex (c.account_id, c.account_keys)))
  | .Registered c => toLex (.inr (toLex (c.stake_pool_pub_key.val.map UInt8.toNat,
      toLex (c.stake_delegation.val.toNat, toLex (c.account_id, c.account_keys)))))

theorem Candidate.ordKey_injective :
    Function.Injective (Candidate.ordKey : Candidate TAccountId TAccountKeys → _) := by
  have hbytes : Function.Injective (List.map UInt8.toNat) :=
    List.map_injective_iff.mpr fun a b h => UInt8.toNat_inj.mp h
  intro c c' h
  cases c with
  | Permissioned p =>
    cases c' with
    | Permissioned p' =>
      cases p; cases p'
      simp only [ordKey, EmbeddingLike.apply_eq_iff_eq, Sum.inl.injEq, Prod.mk.injEq] at h
      rw [h.1, h.2]
    | Registered r' => simp [ordKey] at h
  | Registered r =>
    cases c' with
    | Permissioned p' => simp [ordKey] at h
    | Registered r' =>
      obtain ⟨⟨k, hk⟩, ⟨s⟩, a, ks⟩ := r
      obtain ⟨⟨k', hk'⟩, ⟨s'⟩, a', ks'⟩ := r'
      simp only [ordKey, EmbeddingLike.apply_eq_iff_eq, Sum.inr.injEq, Prod.mk.injEq] at h
      obtain ⟨hkey, hs, ha, hks⟩ := h
      cases hbytes hkey
      cases UInt64.toNat_inj.mp hs
      rw [ha, hks]

variable [LinearOrder TAccountId] [LinearOrder TAccountKeys]

instance : LinearOrder (Candidate TAccountId TAccountKeys) :=
  LinearOrder.lift' Candidate.ordKey Candidate.ordKey_injective

/-- `From<Candidate> for CommitteeMember`. -/
def Candidate.into : Candidate TAccountId TAccountKeys → CommitteeMember TAccountId TAccountKeys
  | .Permissioned member => .Permissioned member.account_id member.account_keys
  | .Registered member =>
    .Registered member.account_id member.account_keys member.stake_pool_pub_key

/-! ## Validation -/

/-- `RegisterValidatorSignedMessage`: what a registration signs. -/
structure RegisterValidatorSignedMessage where
  genesis_utxo : UtxoId
  sidechain_pub_key : List UInt8
  registration_utxo : UtxoId

/-- `StakeError` -/
inductive StakeError where
  | InvalidStake
  | UnknownStake
  deriving DecidableEq

/-- `RegistrationDataError` -/
inductive RegistrationDataError where
  | InvalidMainchainSignature
  | InvalidSidechainSignature
  | InvalidTxInput
  | InvalidMainchainPubKey
  | InvalidSidechainPubKey
  | InvalidAccountKeys
  deriving DecidableEq

/-- `PermissionedCandidateDataError` -/
inductive PermissionedCandidateDataError where
  | InvalidSidechainPubKey
  | InvalidAccountKeys
  deriving DecidableEq

/-- What validation reads from outside the repository: the runtime's session keys (their
`key_ids` and SCALE `decode`), `From<ecdsa::Public>` of the account id, the CBOR encoding of
the signed message's datum, and the ed25519 and ECDSA signature checks. -/
structure Crypto (TAccountId TAccountKeys : Type) where
  key_ids : List KeyTypeId
  decode : List UInt8 → Option TAccountKeys
  account_id_from : FixedBytes 33 → TAccountId
  signed_message_encoded : RegisterValidatorSignedMessage → List UInt8
  ed25519_verify : FixedBytes 64 → List UInt8 → FixedBytes 32 → Bool
  ecdsa_verify : FixedBytes 65 → List UInt8 → FixedBytes 33 → Bool

variable (C : Crypto TAccountId TAccountKeys)

/-- `MaybeFromCandidateKeys::maybe_from`: the bytes of every key the runtime needs, appended in
the runtime's order into a `BoundedVec<u8, ConstU32<1024>>`, then decoded. -/
def maybe_from (keys : CandidateKeys) : Option TAccountKeys := do
  let encoded_keys ← C.key_ids.foldlM (fun (encoded : List UInt8) key_id => do
      let key ← keys.val.find? fun key => key.id = key_id
      if encoded.length + key.bytes.length ≤ 1024 then some (encoded ++ key.bytes) else none)
    []
  C.decode encoded_keys

/-- `validate_stake`: the stake must be known and positive. -/
def validate_stake (stake : Option StakeDelegation) : Except StakeError StakeDelegation :=
  match stake with
  | none => .error .UnknownStake
  | some stake => if stake.is_zero then .error .InvalidStake else .ok stake

/-- `verify_stake_pool_signature` -/
def verify_stake_pool_signature (stake_pool_pub_key : StakePoolPublicKey)
    (registration_data : RegistrationData) (signed_message_encoded : List UInt8) :
    Except RegistrationDataError Unit :=
  if C.ed25519_verify registration_data.mainchain_signature signed_message_encoded
      stake_pool_pub_key then .ok ()
  else .error .InvalidMainchainSignature

/-- `verify_sidechain_signature`: a 64-byte signature, accepted with either recovery byte of
the pre-EIP155 convention. -/
def verify_sidechain_signature (pub_key : FixedBytes 33) (signature : SidechainSignature)
    (signed_message_encoded : List UInt8) : Except RegistrationDataError Unit :=
  match (FixedBytes.try_from signature.val : Option (FixedBytes 64)) with
  | none => .error .InvalidSidechainSignature
  | some sidechain_signature =>
    let is_valid := [27, 28].any fun v =>
      C.ecdsa_verify ⟨sidechain_signature.val ++ [v], by simp [sidechain_signature.len]⟩
        signed_message_encoded pub_key
    if is_valid then .ok () else .error .InvalidSidechainSignature

/-- `verify_tx_inputs` -/
def verify_tx_inputs (registration_data : RegistrationData) : Except RegistrationDataError Unit :=
  if registration_data.registration_utxo ∈ registration_data.tx_inputs then .ok ()
  else .error .InvalidTxInput

/-- `validate_registration_data`: keys, partner chain key, both signatures, transaction inputs,
in this order. -/
def validate_registration_data (stake_pool_pub_key : StakePoolPublicKey)
    (registration_data : RegistrationData) (genesis_utxo : UtxoId) :
    Except RegistrationDataError (FixedBytes 33 × TAccountKeys) := do
  let account_keys ← (maybe_from C registration_data.keys).elim
    (.error .InvalidAccountKeys) .ok
  let sidechain_pub_key ← (FixedBytes.try_from registration_data.sidechain_pub_key.val).elim
    (.error .InvalidSidechainPubKey) .ok
  let signed_message : RegisterValidatorSignedMessage :=
    { genesis_utxo, sidechain_pub_key := registration_data.sidechain_pub_key.val,
      registration_utxo := registration_data.registration_utxo }
  let signed_message_encoded := C.signed_message_encoded signed_message
  verify_stake_pool_signature C stake_pool_pub_key registration_data signed_message_encoded
  verify_sidechain_signature C sidechain_pub_key registration_data.sidechain_signature
    signed_message_encoded
  verify_tx_inputs registration_data
  return (sidechain_pub_key, account_keys)

/-- `validate_permissioned_candidate_data` -/
def validate_permissioned_candidate_data (candidate : PermissionedCandidateData) :
    Except PermissionedCandidateDataError (FixedBytes 33 × TAccountKeys) := do
  let ecdsa_bytes ← (FixedBytes.try_from candidate.sidechain_public_key.val).elim
    (.error .InvalidSidechainPubKey) .ok
  let account_keys ← (maybe_from C candidate.keys).elim (.error .InvalidAccountKeys) .ok
  return (ecdsa_bytes, account_keys)

/-- The valid registrations of a stake pool, each with where it was made. -/
def validRegistrations (stake_pool_pub_key : StakePoolPublicKey) (genesis_utxo : UtxoId)
    (registrations : List RegistrationData) :
    List ((FixedBytes 33 × TAccountKeys) × UtxoInfo) :=
  registrations.filterMap fun registration_data =>
    match validate_registration_data C stake_pool_pub_key registration_data genesis_utxo with
    | .ok candidate => some (candidate, registration_data.utxo_info)
    | .error _ => none

/-- `select_latest_valid_candidate`: a pool with a known positive stake, and its valid
registration with the greatest ordering key. -/
def select_latest_valid_candidate (candidate_registrations : CandidateRegistrations)
    (genesis_utxo : UtxoId) : Option (CandidateWithStake TAccountId TAccountKeys) := do
  let stake_delegation ← (validate_stake candidate_registrations.stake_delegation).toOption
  let stake_pool_pub_key := candidate_registrations.stake_pool_public_key
  let ((account_id, account_keys), _) ← maxByKey (fun p => p.2.ordering_key)
    (validRegistrations C stake_pool_pub_key genesis_utxo candidate_registrations.registrations)
  return {
    account_id := C.account_id_from account_id
    account_keys
    stake_delegation
    stake_pool_pub_key }

/-- `filter_trustless_candidates_registrations`: each pool's latest valid candidate, weighted
by its stake. -/
def filter_trustless_candidates_registrations
    (candidate_registrations : List CandidateRegistrations) (genesis_utxo : UtxoId) :
    List (Candidate TAccountId TAccountKeys × Weight) :=
  (candidate_registrations.filterMap fun candidate_registrations =>
    select_latest_valid_candidate C candidate_registrations genesis_utxo).map fun c =>
      (.Registered c, c.stake_delegation.val.toNat)

/-- `filter_invalid_permissioned_candidates` -/
def filter_invalid_permissioned_candidates
    (permissioned_candidates : List PermissionedCandidateData) :
    List (Candidate TAccountId TAccountKeys) :=
  permissioned_candidates.filterMap fun candidate => do
    let (partner_chain_key, account_keys) ←
      (validate_permissioned_candidate_data C candidate).toOption
    let account_id := C.account_id_from partner_chain_key
    return .Permissioned { account_id, account_keys }

/-! ## Selection -/

/-- `U256::from_big_endian` -/
def fromBigEndian (bytes : List UInt8) : Nat :=
  bytes.foldl (fun n b => n * 256 + b.toNat) 0

/-- `U256::to_big_endian` -/
def toBigEndian (n : Nat) : FixedBytes 32 :=
  ⟨(List.range 32).reverse.map fun i => (n / 256 ^ i % 256).toUInt8, by simp⟩

/-- `seed_from_nonce_and_sc_epoch`: the nonce as a 256-bit number, plus the epoch, wrapping. -/
def seed_from_nonce_and_sc_epoch (epoch_nonce : EpochNonce) (partner_chain_epoch_number : UInt64) :
    FixedBytes 32 :=
  toBigEndian ((fromBigEndian epoch_nonce.as_array.val + partner_chain_epoch_number.toNat) % 2 ^ 256)

variable (R : ChaCha20Rng)

/-- `select_candidates`. The outer `Option` is a panic. -/
def select_candidates (genesis_utxo : UtxoId) (input : AuthoritySelectionInputs)
    (sidechain_epoch : UInt64) :
    Option (Option (List (CommitteeMember TAccountId TAccountKeys))) := do
  let valid_registered_candidates :=
    filter_trustless_candidates_registrations C input.registered_candidates genesis_utxo
  let valid_permissioned_candidates :=
    filter_invalid_permissioned_candidates C input.permissioned_candidates
  let random_seed := seed_from_nonce_and_sc_epoch input.epoch_nonce sidechain_epoch
  let validators ← ariadne_v2.select_authorities R input.d_parameter.num_registered_candidates
    input.d_parameter.num_permissioned_candidates valid_registered_candidates
    valid_permissioned_candidates random_seed
  return validators.map (·.map Candidate.into)

/-- `select_authorities`: the selected committee cut to `MaxAuthorities`. -/
def select_authorities (MaxAuthorities : Nat) (genesis_utxo : UtxoId)
    (input : AuthoritySelectionInputs) (sidechain_epoch : UInt64) :
    Option (Option (frame_support.BoundedVec (CommitteeMember TAccountId TAccountKeys)
      MaxAuthorities)) :=
  (select_candidates C R genesis_utxo input sidechain_epoch).map
    (·.map frame_support.BoundedVec.truncate_from)

/-! ## The order of the data does not matter -/

/-- Two registration lists of one stake pool that differ only in order, with pairwise distinct
ordering keys. -/
def RegistrationsReordered (c c' : CandidateRegistrations) : Prop :=
  c.stake_pool_public_key = c'.stake_pool_public_key ∧
    c.stake_delegation = c'.stake_delegation ∧ c.registrations.Perm c'.registrations ∧
    (c.registrations.map (·.utxo_info.ordering_key)).Nodup

omit [LinearOrder TAccountId] [LinearOrder TAccountKeys] in
/-- The latest valid registration is the unique one of greatest key. -/
theorem select_latest_valid_candidate_reordered {c c' : CandidateRegistrations}
    (h : RegistrationsReordered c c') (genesis_utxo : UtxoId) :
    select_latest_valid_candidate C c genesis_utxo =
      select_latest_valid_candidate C c' genesis_utxo := by
  obtain ⟨hkey, hstake, hperm, hnodup⟩ := h
  have hvalid : (validRegistrations C c.stake_pool_public_key genesis_utxo c.registrations).Perm
      (validRegistrations C c.stake_pool_public_key genesis_utxo c'.registrations) :=
    hperm.filterMap _
  have hkeys : ((validRegistrations C c.stake_pool_public_key genesis_utxo
      c.registrations).map fun p => p.2.ordering_key).Nodup := by
    refine nodup_map_filterMap _ (·.utxo_info.ordering_key) _ (fun r p hp => ?_) hnodup
    split at hp
    · cases hp; rfl
    · cases hp
  simp only [select_latest_valid_candidate]
  rw [maxByKey_eq_of_perm _ hvalid hkeys, hkey, hstake]

omit [LinearOrder TAccountId] [LinearOrder TAccountKeys] in
theorem filter_trustless_reordered {l l' : List CandidateRegistrations}
    (h : List.Forall₂ RegistrationsReordered l l') (genesis_utxo : UtxoId) :
    filter_trustless_candidates_registrations C l genesis_utxo =
      filter_trustless_candidates_registrations C l' genesis_utxo := by
  induction h with
  | nil => rfl
  | cons hc _ ih =>
    simp only [filter_trustless_candidates_registrations, List.filterMap_cons,
      select_latest_valid_candidate_reordered C hc genesis_utxo] at ih ⊢
    split <;> simp [ih]

omit [LinearOrder TAccountId] [LinearOrder TAccountKeys] in
theorem filter_trustless_perm {l l' : List CandidateRegistrations} (h : l.Perm l')
    (genesis_utxo : UtxoId) :
    (filter_trustless_candidates_registrations C l genesis_utxo).Perm
      (filter_trustless_candidates_registrations C l' genesis_utxo) :=
  (h.filterMap _).map _

/-- Committee selection is independent of the order of the data. Ariadne v2 gives the same
answer for every order of either pool; and so does `select_authorities` when the registered
candidates are reordered, the registrations of any stake pool are reordered (their ordering
keys being pairwise distinct), and the permissioned candidates are reordered. -/
theorem select_authorities_order_independent (MaxAuthorities : Nat) (genesis_utxo : UtxoId)
    (input : AuthoritySelectionInputs) (registered_candidates' : List CandidateRegistrations)
    (permissioned_candidates' : List PermissionedCandidateData) (sidechain_epoch : UInt64)
    (hreg : ∃ mid, List.Forall₂ RegistrationsReordered input.registered_candidates mid ∧
      mid.Perm registered_candidates')
    (hperm : input.permissioned_candidates.Perm permissioned_candidates') :
    (∀ (SC : Type) [LinearOrder SC] (registered_seats permissioned_seats : UInt16)
        (registered registered' : List (SC × Weight)) (permissioned permissioned' : List SC)
        (seed : FixedBytes 32),
      registered.Perm registered' → permissioned.Perm permissioned' →
      ariadne_v2.select_authorities R registered_seats permissioned_seats registered
          permissioned seed =
        ariadne_v2.select_authorities R registered_seats permissioned_seats registered'
          permissioned' seed) ∧
    select_authorities C R MaxAuthorities genesis_utxo input sidechain_epoch =
      select_authorities C R MaxAuthorities genesis_utxo
        { input with registered_candidates := registered_candidates',
                     permissioned_candidates := permissioned_candidates' } sidechain_epoch := by
  refine ⟨fun SC _ rs ps reg reg' perm perm' seed hr hp =>
    ariadne_v2.select_authorities_perm R rs ps hr hp seed, ?_⟩
  obtain ⟨mid, hmid, hmidperm⟩ := hreg
  -- the registered pool: reordered registrations first, then the pools themselves
  have hregistered :
      (filter_trustless_candidates_registrations C input.registered_candidates genesis_utxo).Perm
        (filter_trustless_candidates_registrations C registered_candidates' genesis_utxo) := by
    rw [filter_trustless_reordered C hmid]
    exact filter_trustless_perm C hmidperm genesis_utxo
  have hpermissioned :
      (filter_invalid_permissioned_candidates C input.permissioned_candidates).Perm
        (filter_invalid_permissioned_candidates C permissioned_candidates') :=
    hperm.filterMap _
  simp only [select_authorities, select_candidates,
    ariadne_v2.select_authorities_perm R _ _ hregistered hpermissioned]

/-- A generator whose state counts its draws. -/
def countingRng : ChaCha20Rng where
  State := Nat
  from_seed _ := 0
  get_seed _ := ⟨List.replicate 32 0, FixedBytes.length_zeros_32⟩
  random_range n bound := (n % bound, n + 1)
  shuffle_swaps n len := ((List.range len).map fun i => (i, n % len), n + 1)

/-- Validation that accepts every signature and any keys. -/
def acceptingCrypto : Crypto Nat Nat where
  key_ids := []
  decode _ := some 0
  account_id_from k := (k.val.headD 0).toNat
  signed_message_encoded _ := []
  ed25519_verify _ _ _ := true
  ecdsa_verify _ _ _ := true

def zeroUtxo : UtxoId := ⟨⟨List.replicate 32 0, FixedBytes.length_zeros_32⟩, 0⟩

/-- A registration made in main chain block `block`. -/
def registrationAt (block : UInt32) : RegistrationData where
  registration_utxo := zeroUtxo
  sidechain_signature := ⟨List.replicate 64 0⟩
  mainchain_signature := ⟨List.replicate 64 0, by simp⟩
  cross_chain_signature := ⟨[]⟩
  sidechain_pub_key := ⟨List.replicate 33 block.toUInt8⟩
  cross_chain_pub_key := ⟨[]⟩
  utxo_info := ⟨zeroUtxo, 0, block, 0, 0⟩
  tx_inputs := [zeroUtxo]
  keys := ⟨[]⟩

/-- The stake pool with key bytes `k`, a stake of 100 and the given registrations. -/
def poolOf (k : UInt8) (registrations : List RegistrationData) : CandidateRegistrations :=
  ⟨⟨List.replicate 32 k, FixedBytes.length_replicate_32 k⟩, registrations, some ⟨100⟩⟩

def permissionedOf (k : UInt8) : PermissionedCandidateData := ⟨⟨List.replicate 33 k⟩, ⟨[]⟩⟩

/-- Two pools, the first with two registrations, and two permissioned candidates. -/
def twoPoolsInput : AuthoritySelectionInputs where
  d_parameter := ⟨2, 2⟩
  permissioned_candidates := [permissionedOf 5, permissionedOf 6]
  registered_candidates := [poolOf 1 [registrationAt 1, registrationAt 2], poolOf 2 [registrationAt 3]]
  epoch_nonce := ⟨[7]⟩

/-- The input of `twoPoolsInput` with every list reversed. -/
theorem select_authorities_order_independent_reversed :
    (∃ mid, List.Forall₂ RegistrationsReordered twoPoolsInput.registered_candidates mid ∧
      mid.Perm [poolOf 2 [registrationAt 3], poolOf 1 [registrationAt 2, registrationAt 1]]) ∧
    twoPoolsInput.permissioned_candidates.Perm [permissionedOf 6, permissionedOf 5] ∧
    ((∀ (SC : Type) [LinearOrder SC] (registered_seats permissioned_seats : UInt16)
        (registered registered' : List (SC × Weight)) (permissioned permissioned' : List SC)
        (seed : FixedBytes 32),
      registered.Perm registered' → permissioned.Perm permissioned' →
      ariadne_v2.select_authorities countingRng registered_seats permissioned_seats registered
          permissioned seed =
        ariadne_v2.select_authorities countingRng registered_seats permissioned_seats registered'
          permissioned' seed) ∧
    select_authorities acceptingCrypto countingRng 4 zeroUtxo twoPoolsInput 3 =
      select_authorities acceptingCrypto countingRng 4 zeroUtxo
        { twoPoolsInput with
          registered_candidates :=
            [poolOf 2 [registrationAt 3], poolOf 1 [registrationAt 2, registrationAt 1]],
          permissioned_candidates := [permissionedOf 6, permissionedOf 5] } 3) := by
  have hreg : ∃ mid, List.Forall₂ RegistrationsReordered twoPoolsInput.registered_candidates mid ∧
      mid.Perm [poolOf 2 [registrationAt 3], poolOf 1 [registrationAt 2, registrationAt 1]] :=
    ⟨[poolOf 1 [registrationAt 2, registrationAt 1], poolOf 2 [registrationAt 3]],
      .cons ⟨rfl, rfl, .swap _ _ _, by decide⟩ (.cons ⟨rfl, rfl, .refl _, by decide⟩ .nil),
      .swap _ _ _⟩
  have hperm : twoPoolsInput.permissioned_candidates.Perm [permissionedOf 6, permissionedOf 5] :=
    .swap _ _ _
  exact ⟨hreg, hperm, select_authorities_order_independent acceptingCrypto countingRng 4 zeroUtxo
    twoPoolsInput _ _ 3 hreg hperm⟩

/-! ## Who can sit in the committee -/

omit [LinearOrder TAccountId] [LinearOrder TAccountKeys] in
/-- A registration of a pool is valid when it validates with the pool's key and the chain's
genesis UTXO. -/
theorem mem_validRegistrations {stake_pool_pub_key : StakePoolPublicKey} {genesis_utxo : UtxoId}
    {registrations : List RegistrationData} {p : (FixedBytes 33 × TAccountKeys) × UtxoInfo} :
    p ∈ validRegistrations C stake_pool_pub_key genesis_utxo registrations ↔
      ∃ registration ∈ registrations, validate_registration_data C stake_pool_pub_key
        registration genesis_utxo = .ok p.1 ∧ registration.utxo_info = p.2 := by
  simp only [validRegistrations, List.mem_filterMap]
  refine exists_congr fun registration => and_congr_right fun _ => ?_
  cases validate_registration_data C stake_pool_pub_key registration genesis_utxo with
  | error e => simp
  | ok candidate =>
    obtain ⟨c, u⟩ := p
    simp [eq_comm]

omit [LinearOrder TAccountId] [LinearOrder TAccountKeys] in
/-- The candidate of a pool is its registration of greatest ordering key among those that
validate, and the pool has a known positive stake. -/
theorem select_latest_valid_candidate_spec {pool : CandidateRegistrations} {genesis_utxo : UtxoId}
    {c : CandidateWithStake TAccountId TAccountKeys}
    (h : select_latest_valid_candidate C pool genesis_utxo = some c) :
    validate_stake pool.stake_delegation = .ok c.stake_delegation ∧
      c.stake_pool_pub_key = pool.stake_pool_public_key ∧
      ∃ registration ∈ pool.registrations, ∃ key,
        validate_registration_data C pool.stake_pool_public_key registration genesis_utxo =
          .ok (key, c.account_keys) ∧ c.account_id = C.account_id_from key ∧
        ∀ other ∈ pool.registrations,
          (∃ v, validate_registration_data C pool.stake_pool_public_key other genesis_utxo =
            .ok v) → other.utxo_info.ordering_key ≤ registration.utxo_info.ordering_key := by
  simp only [select_latest_valid_candidate, Option.bind_eq_bind] at h
  obtain ⟨stake, hstake, h⟩ := Option.bind_eq_some_iff.mp h
  obtain ⟨⟨⟨key, account_keys⟩, utxo_info⟩, hmax, h⟩ := Option.bind_eq_some_iff.mp h
  cases h
  -- the stake is known and positive
  have hstake' : validate_stake pool.stake_delegation = .ok stake := by
    cases hv : validate_stake pool.stake_delegation <;> simp_all [Except.toOption]
  obtain ⟨hmem, hgreatest⟩ := maxByKey_spec _ hmax
  obtain ⟨registration, hregistration, hvalid, hinfo⟩ := (mem_validRegistrations C).mp hmem
  refine ⟨hstake', rfl, registration, hregistration, key, hvalid, rfl,
    fun other hother ⟨v, hv⟩ => ?_⟩
  -- a valid registration is among those `max_by_key` compares
  have hle := hgreatest (v, other.utxo_info) ((mem_validRegistrations C).mpr ⟨other, hother, hv, rfl⟩)
  rw [hinfo]
  exact hle

omit [LinearOrder TAccountId] [LinearOrder TAccountKeys] in
theorem mem_filter_trustless_candidates_registrations {l : List CandidateRegistrations}
    {genesis_utxo : UtxoId} {cw : Candidate TAccountId TAccountKeys × Weight}
    (h : cw ∈ filter_trustless_candidates_registrations C l genesis_utxo) :
    ∃ pool ∈ l, ∃ c, select_latest_valid_candidate C pool genesis_utxo = some c ∧
      cw.1 = .Registered c := by
  obtain ⟨c, hc, rfl⟩ := List.mem_map.mp h
  obtain ⟨pool, hpool, hselect⟩ := List.mem_filterMap.mp hc
  exact ⟨pool, hpool, c, hselect, rfl⟩

omit [LinearOrder TAccountId] [LinearOrder TAccountKeys] in
theorem mem_filter_invalid_permissioned_candidates {l : List PermissionedCandidateData}
    {c : Candidate TAccountId TAccountKeys}
    (h : c ∈ filter_invalid_permissioned_candidates C l) :
    ∃ candidate ∈ l, ∃ key account_keys,
      validate_permissioned_candidate_data C candidate = .ok (key, account_keys) ∧
      c = .Permissioned ⟨C.account_id_from key, account_keys⟩ := by
  obtain ⟨candidate, hcandidate, hsome⟩ := List.mem_filterMap.mp h
  cases hv : validate_permissioned_candidate_data C candidate with
  | error e => simp [hv, Except.toOption] at hsome
  | ok v =>
    obtain ⟨key, account_keys⟩ := v
    simp only [hv, Except.toOption, Option.bind_eq_bind, Option.bind_some] at hsome
    exact ⟨candidate, hcandidate, key, account_keys, hv, (Option.some.inj hsome).symm⟩

omit [LinearOrder TAccountId] [LinearOrder TAccountKeys] in
/-- A committee member the main chain data vouches for: a permissioned candidate whose data
validates, or the latest valid registration of a stake pool with a known positive stake, checked
with the pool's key and the chain's genesis UTXO. -/
def Vouched (genesis_utxo : UtxoId) (input : AuthoritySelectionInputs)
    (member : CommitteeMember TAccountId TAccountKeys) : Prop :=
  (∃ candidate ∈ input.permissioned_candidates, ∃ key account_keys,
    validate_permissioned_candidate_data C candidate = .ok (key, account_keys) ∧
    member = .Permissioned (C.account_id_from key) account_keys) ∨
  ∃ pool ∈ input.registered_candidates, ∃ registration ∈ pool.registrations,
    ∃ stake key account_keys, validate_stake pool.stake_delegation = .ok stake ∧
    validate_registration_data C pool.stake_pool_public_key registration genesis_utxo =
      .ok (key, account_keys) ∧
    member = .Registered (C.account_id_from key) account_keys pool.stake_pool_public_key ∧
    ∀ other ∈ pool.registrations,
      (∃ v, validate_registration_data C pool.stake_pool_public_key other genesis_utxo = .ok v) →
        other.utxo_info.ordering_key ≤ registration.utxo_info.ordering_key

/-- Every member of a selected committee is vouched for by the main chain data. Whatever the
D-parameter, the epoch nonce, the generator and `MaxAuthorities`: a permissioned member is a
permissioned candidate whose keys decode, and a registered member is a stake pool with a known
positive stake, with the keys of its latest registration among those whose keys decode and whose
signatures, made over the chain's genesis UTXO, verify with the pool's key and the partner chain
key, from a transaction that spends the registration UTXO. -/
theorem selected_committee_is_vouched_for (MaxAuthorities : Nat) (genesis_utxo : UtxoId)
    (input : AuthoritySelectionInputs) (sidechain_epoch : UInt64)
    {committee : frame_support.BoundedVec (CommitteeMember TAccountId TAccountKeys) MaxAuthorities}
    (h : select_authorities C R MaxAuthorities genesis_utxo input sidechain_epoch =
      some (some committee)) :
    ∀ member ∈ committee.val, Vouched C genesis_utxo input member := by
  -- the committee is Ariadne's selection, read as members and cut to `MaxAuthorities`
  obtain ⟨members, hselect, hcut⟩ := Option.map_eq_some_iff.mp h
  obtain ⟨members, rfl, rfl⟩ := Option.map_eq_some_iff.mp hcut
  simp only [select_candidates, Option.bind_eq_bind] at hselect
  obtain ⟨selected, hariadne, hsome⟩ := Option.bind_eq_some_iff.mp hselect
  obtain ⟨candidates, rfl, rfl⟩ := Option.map_eq_some_iff.mp (Option.some.inj hsome)
  intro member hmember
  obtain ⟨candidate, hcandidate, rfl⟩ := List.mem_map.mp (List.mem_of_mem_take hmember)
  rcases ariadne_v2.select_authorities_mem R hariadne candidate hcandidate with
    ⟨weight, hregistered⟩ | hpermissioned
  · -- a registered candidate: the latest valid registration of its pool
    obtain ⟨pool, hpool, c, hc, hcw⟩ := mem_filter_trustless_candidates_registrations C hregistered
    obtain ⟨hstake, hkey, registration, hregistration, key, hvalid, haccount, hlatest⟩ :=
      select_latest_valid_candidate_spec C hc
    simp only at hcw
    subst hcw
    refine .inr ⟨pool, hpool, registration, hregistration, c.stake_delegation, key,
      c.account_keys, hstake, hvalid, ?_, hlatest⟩
    rw [Candidate.into, haccount, hkey]
  · -- a permissioned candidate whose data validates
    obtain ⟨pc, hpc, key, account_keys, hvalid, rfl⟩ :=
      mem_filter_invalid_permissioned_candidates C hpermissioned
    exact .inl ⟨pc, hpc, key, account_keys, hvalid, rfl⟩

/-- The committee of `twoPoolsInput`: the permissioned candidates 6 and 5, the latest registration
of the first pool and the registration of the second. -/
theorem selected_committee_is_vouched_for_two_pools :
    select_authorities acceptingCrypto countingRng 4 zeroUtxo twoPoolsInput 3 =
        some (some (frame_support.BoundedVec.truncate_from
          [.Permissioned 6 0, .Registered 2 0 (poolOf 1 []).stake_pool_public_key,
            .Registered 3 0 (poolOf 2 []).stake_pool_public_key, .Permissioned 5 0])) ∧
      ∀ member ∈ (frame_support.BoundedVec.truncate_from
          [.Permissioned 6 0, .Registered 2 0 (poolOf 1 []).stake_pool_public_key,
            .Registered 3 0 (poolOf 2 []).stake_pool_public_key, .Permissioned 5 0] :
          frame_support.BoundedVec (CommitteeMember Nat Nat) 4).val,
        Vouched acceptingCrypto zeroUtxo twoPoolsInput member := by
  have h : select_authorities acceptingCrypto countingRng 4 zeroUtxo twoPoolsInput 3 =
      some (some (frame_support.BoundedVec.truncate_from
        [.Permissioned 6 0, .Registered 2 0 (poolOf 1 []).stake_pool_public_key,
          .Registered 3 0 (poolOf 2 []).stake_pool_public_key, .Permissioned 5 0])) := by
    -- both pools are already in key order, so the (well-founded) merge sorts are the identity
    have hreg : filter_trustless_candidates_registrations acceptingCrypto
        twoPoolsInput.registered_candidates zeroUtxo =
        [(.Registered ⟨(poolOf 1 []).stake_pool_public_key, ⟨100⟩, 2, 0⟩, 100),
          (.Registered ⟨(poolOf 2 []).stake_pool_public_key, ⟨100⟩, 3, 0⟩, 100)] := by decide
    have hperm : filter_invalid_permissioned_candidates acceptingCrypto
        twoPoolsInput.permissioned_candidates = [.Permissioned ⟨5, 0⟩, .Permissioned ⟨6, 0⟩] := by
      decide
    have hs1 : ([(Candidate.Registered ⟨(poolOf 1 []).stake_pool_public_key, ⟨100⟩, (2 : Nat),
          (0 : Nat)⟩, (100 : Weight)),
          (Candidate.Registered ⟨(poolOf 2 []).stake_pool_public_key, ⟨100⟩, 3, 0⟩, 100)]).mergeSort
          (partner_chains.list_order.keyLE toLex) =
        [(Candidate.Registered ⟨(poolOf 1 []).stake_pool_public_key, ⟨100⟩, 2, 0⟩, 100),
          (Candidate.Registered ⟨(poolOf 2 []).stake_pool_public_key, ⟨100⟩, 3, 0⟩, 100)] :=
      List.mergeSort_of_pairwise (by decide)
    have hs2 : ([(Candidate.Permissioned ⟨(5 : Nat), (0 : Nat)⟩, (1 : Weight)),
          (Candidate.Permissioned ⟨6, 0⟩, 1)]).mergeSort (partner_chains.list_order.keyLE toLex) =
        [(Candidate.Permissioned ⟨5, 0⟩, 1), (Candidate.Permissioned ⟨6, 0⟩, 1)] :=
      List.mergeSort_of_pairwise (by decide)
    simp only [select_authorities, select_candidates, ariadne_v2.select_authorities, hreg, hperm,
      ariadne_v2.weighted_with_guaranteed_assignment, List.map_cons, List.map_nil, hs1, hs2]
    decide
  exact ⟨h, selected_committee_is_vouched_for acceptingCrypto countingRng 4 zeroUtxo twoPoolsInput 3
    h⟩

end authority_selection_inherents
