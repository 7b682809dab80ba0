-- The block participation data that the inherent data provider of
-- toolkit/block-participation/primitives releases: the blocks counted per
-- data epoch and producer in nested `HashMap`s, each count broken down with
-- the stake delegation of the producer's pool in that epoch, and
-- `BlockProductionData::new` sorting producers and delegators so that nodes
-- agree whatever order their maps iterate in. The types of the crate root
-- appear here with all their fields (the pallet model of BlockParticipation
-- reads only producers and counts). Counts are `u32` and wrap, as in a
-- release build; the `expect` on the main chain epoch is a panic, `none`.
-- The traits `AsCardanoSPO` and `CardanoDelegator` are passed as their
-- functions.
import Mathlib
import PartnerChains.MainchainEpoch
import PartnerChains.Domain
import PartnerChains.Lib.HashMap
import PartnerChains.Lib.ExceptList

set_option autoImplicit false

namespace sidechain_domain

/-- `DATA_MC_EPOCH_OFFSET` -/
def DATA_MC_EPOCH_OFFSET : UInt32 := 2

/-- `offset_data_epoch`: the epoch `DATA_MC_EPOCH_OFFSET` epochs back; the offset is the error
of an epoch too small. -/
def offset_data_epoch (epoch : UInt32) : Except UInt32 UInt32 :=
  if DATA_MC_EPOCH_OFFSET ≤ epoch then .ok (epoch - DATA_MC_EPOCH_OFFSET)
  else .error DATA_MC_EPOCH_OFFSET

/-- `PoolDelegation`: the stake of a pool, and its delegators' stakes
(`DelegatorStakeAmount(u64)`) in the order the map of them is read. -/
structure PoolDelegation (DelegatorKey : Type) where
  total_stake : StakeDelegation
  delegators : List (DelegatorKey × UInt64)

/-- `StakeDistribution(BTreeMap<MainchainKeyHash, PoolDelegation>)`, read through `get`. -/
structure StakeDistribution (DelegatorKey : Type) where
  get : MainchainKeyHash → Option (PoolDelegation DelegatorKey)

end sidechain_domain

namespace sp_block_participation.inherent_data

open sidechain_domain sidechain_domain.mainchain_epoch partner_chains.list_order
  partner_chains.hash_map

variable {BlockProducer Delegator DelegatorKey Moment : Type}

/-! ## Data -/

/-- `DelegatorBlockParticipationData` -/
structure DelegatorBlockParticipationData (DelegatorId : Type) where
  id : DelegatorId
  share : UInt64
  deriving DecidableEq

/-- `BlockProducerParticipationData` -/
structure BlockProducerParticipationData (BlockProducerId DelegatorId : Type) where
  block_producer : BlockProducerId
  block_count : UInt32
  delegator_total_shares : UInt64
  delegators : List (DelegatorBlockParticipationData DelegatorId)
  deriving DecidableEq

/-- `BlockProductionData` -/
structure BlockProductionData (BlockProducerId DelegatorId : Type) where
  producer_participation : List (BlockProducerParticipationData BlockProducerId DelegatorId)
  deriving DecidableEq

/-- The derived `Ord` of `DelegatorBlockParticipationData`: `id`, then `share`. -/
def DelegatorBlockParticipationData.ordKey (d : DelegatorBlockParticipationData Delegator) :
    Delegator ×ₗ Nat :=
  toLex (d.id, d.share.toNat)

/-- The derived `Ord` of `BlockProducerParticipationData`: field after field, the delegators
compared as a `Vec`, lexicographically. -/
def BlockProducerParticipationData.ordKey
    (b : BlockProducerParticipationData BlockProducer Delegator) :
    BlockProducer ×ₗ Nat ×ₗ Nat ×ₗ List (Delegator ×ₗ Nat) :=
  toLex (b.block_producer, toLex (b.block_count.toNat,
    toLex (b.delegator_total_shares.toNat, b.delegators.map DelegatorBlockParticipationData.ordKey)))

/-- `b'` is the breakdown `b` with its delegators in another order. -/
def BlockProducerParticipationData.Reordered
    (b' b : BlockProducerParticipationData BlockProducer Delegator) : Prop :=
  b'.block_producer = b.block_producer ∧ b'.block_count = b.block_count ∧
    b'.delegator_total_shares = b.delegator_total_shares ∧ b'.delegators.Perm b.delegators

theorem DelegatorBlockParticipationData.ordKey_injective :
    Function.Injective fun d : DelegatorBlockParticipationData Delegator => d.ordKey := by
  rintro ⟨id, share⟩ ⟨id', share'⟩ h
  simp only [DelegatorBlockParticipationData.ordKey, toLex_inj, Prod.mk.injEq] at h
  obtain ⟨rfl, hshare⟩ := h
  rw [UInt64.toNat_inj.mp hshare]

theorem BlockProducerParticipationData.ordKey_injective :
    Function.Injective fun b : BlockProducerParticipationData BlockProducer Delegator =>
      b.ordKey := by
  rintro ⟨producer, count, shares, delegators⟩ ⟨producer', count', shares', delegators'⟩ h
  simp only [BlockProducerParticipationData.ordKey, toLex_inj, Prod.mk.injEq] at h
  obtain ⟨rfl, hcount, hshares, hdelegators⟩ := h
  rw [UInt32.toNat_inj.mp hcount, UInt64.toNat_inj.mp hshares,
    List.map_injective_iff.mpr DelegatorBlockParticipationData.ordKey_injective hdelegators]

section order

variable [LinearOrder BlockProducer] [LinearOrder Delegator]

/-- `BlockProductionData::new`: the delegators of each producer sorted, then the producers. -/
def BlockProductionData.new
    (producer_participation : List (BlockProducerParticipationData BlockProducer Delegator)) :
    BlockProductionData BlockProducer Delegator :=
  ⟨(producer_participation.map fun breakdown =>
      { breakdown with
        delegators := breakdown.delegators.mergeSort (keyLE DelegatorBlockParticipationData.ordKey) }
    ).mergeSort (keyLE BlockProducerParticipationData.ordKey)⟩

/-- `new` does not see the order of the breakdowns. -/
theorem BlockProductionData.new_eq_of_perm
    {producer_participation producer_participation' :
      List (BlockProducerParticipationData BlockProducer Delegator)}
    (h : producer_participation'.Perm producer_participation) :
    BlockProductionData.new producer_participation' =
      BlockProductionData.new producer_participation := by
  unfold BlockProductionData.new
  rw [mergeSort_eq_of_perm _ BlockProducerParticipationData.ordKey_injective (h.map _)]

/-- Nor the order of each breakdown's delegators. -/
theorem BlockProductionData.new_eq_of_reordered
    {producer_participation producer_participation' :
      List (BlockProducerParticipationData BlockProducer Delegator)}
    (h : List.Forall₂ BlockProducerParticipationData.Reordered producer_participation'
      producer_participation) :
    BlockProductionData.new producer_participation' =
      BlockProductionData.new producer_participation := by
  unfold BlockProductionData.new
  congr 2
  induction h with
  | nil => rfl
  | cons hb _ ih =>
    rename_i b' b _ _
    obtain ⟨hproducer, hcount, hshares, hdelegators⟩ := hb
    rw [List.map_cons, List.map_cons, ih, hproducer, hcount, hshares,
      mergeSort_eq_of_perm _ DelegatorBlockParticipationData.ordKey_injective hdelegators]

/-- The producers and counts of the data are those of the breakdowns, in another order. -/
theorem BlockProductionData.new_counts_perm
    (producer_participation : List (BlockProducerParticipationData BlockProducer Delegator)) :
    ((BlockProductionData.new producer_participation).producer_participation.map fun b =>
        (b.block_producer, b.block_count)).Perm
      (producer_participation.map fun b => (b.block_producer, b.block_count)) := by
  unfold BlockProductionData.new
  refine ((List.mergeSort_perm _ _).map _).trans ?_
  rw [List.map_map]
  rfl

end order

/-- `InherentDataCreationError`, without `ApiError`: the runtime API's answers are given. -/
inductive InherentDataCreationError (BlockProducerId : Type) where
  | DataSourceError
  | DataMissing (mc_epoch : UInt32) (block_producer : BlockProducerId)
  | McEpochBelowOffset (mc_epoch : UInt32) (offset : UInt32)
  deriving DecidableEq

/-- `BlockParticipationDataSource`; `None` is an error of the source. -/
structure BlockParticipationDataSource (DelegatorKey : Type) where
  get_stake_pool_delegation_distribution_for_pools :
    UInt32 → List MainchainKeyHash → Option (StakeDistribution DelegatorKey)

/-! ## Counting the blocks -/

/-- `data_mc_epoch_for_timestamp`: the main chain epoch of the timestamp, `DATA_MC_EPOCH_OFFSET`
epochs back. The `expect` on the epoch is a panic, `none`. -/
def data_mc_epoch_for_timestamp (timestamp : UInt64) (mc_epoch_config : MainchainEpochConfig) :
    Option (Except (InherentDataCreationError BlockProducer) UInt32) :=
  match mc_epoch_config.timestamp_to_mainchain_epoch timestamp with
  | some (.ok mc_epoch) =>
    some ((offset_data_epoch mc_epoch).mapError fun offset => .McEpochBelowOffset mc_epoch offset)
  | _ => none

/-! ### The data epochs of the blocks -/

/-- The data epoch of each block, with its producer; a block whose moment has none is left
out. -/
def dataEpochs (moment_to_timestamp_millis : Moment → UInt64)
    (mc_epoch_config : MainchainEpochConfig) (blocks : List (Moment × BlockProducer)) :
    List (UInt32 × BlockProducer) :=
  blocks.filterMap fun b =>
    match (data_mc_epoch_for_timestamp (moment_to_timestamp_millis b.1) mc_epoch_config :
        Option (Except (InherentDataCreationError BlockProducer) UInt32)) with
    | some (.ok mc_epoch) => some (mc_epoch, b.2)
    | _ => none

/-- Every block's moment has a main chain epoch, and it is at least `DATA_MC_EPOCH_OFFSET`. -/
def EpochsAfterOffset (moment_to_timestamp_millis : Moment → UInt64)
    (mc_epoch_config : MainchainEpochConfig) (blocks : List (Moment × BlockProducer)) : Prop :=
  ∀ b ∈ blocks, ∃ mc_epoch,
    mc_epoch_config.timestamp_to_mainchain_epoch (moment_to_timestamp_millis b.1) =
      some (.ok mc_epoch) ∧ DATA_MC_EPOCH_OFFSET ≤ mc_epoch

theorem data_mc_epoch_for_timestamp_eq_ok {timestamp : UInt64}
    {mc_epoch_config : MainchainEpochConfig} {mc_epoch : UInt32}
    (h : mc_epoch_config.timestamp_to_mainchain_epoch timestamp = some (.ok mc_epoch))
    (hoffset : DATA_MC_EPOCH_OFFSET ≤ mc_epoch) :
    (data_mc_epoch_for_timestamp timestamp mc_epoch_config :
        Option (Except (InherentDataCreationError BlockProducer) UInt32)) =
      some (.ok (mc_epoch - DATA_MC_EPOCH_OFFSET)) := by
  simp [data_mc_epoch_for_timestamp, h, offset_data_epoch, hoffset, Except.mapError]

section epochs

variable {moment_to_timestamp_millis : Moment → UInt64} {mc_epoch_config : MainchainEpochConfig}

theorem EpochsAfterOffset.tail {b : Moment × BlockProducer} {blocks : List (Moment × BlockProducer)}
    (h : EpochsAfterOffset moment_to_timestamp_millis mc_epoch_config (b :: blocks)) :
    EpochsAfterOffset moment_to_timestamp_millis mc_epoch_config blocks :=
  fun b' hb' => h b' (List.mem_cons_of_mem _ hb')

/-- A block whose epoch is after the offset has its data epoch first. -/
theorem dataEpochs_cons {moment : Moment} {producer : BlockProducer}
    {blocks : List (Moment × BlockProducer)} {mc_epoch : UInt32}
    (h : mc_epoch_config.timestamp_to_mainchain_epoch (moment_to_timestamp_millis moment) =
      some (.ok mc_epoch)) (hoffset : DATA_MC_EPOCH_OFFSET ≤ mc_epoch) :
    dataEpochs moment_to_timestamp_millis mc_epoch_config ((moment, producer) :: blocks) =
      (mc_epoch - DATA_MC_EPOCH_OFFSET, producer) ::
        dataEpochs moment_to_timestamp_millis mc_epoch_config blocks := by
  rw [dataEpochs, List.filterMap_cons, data_mc_epoch_for_timestamp_eq_ok h hoffset]
  rfl

theorem length_dataEpochs :
    ∀ {blocks : List (Moment × BlockProducer)},
      EpochsAfterOffset moment_to_timestamp_millis mc_epoch_config blocks →
      (dataEpochs moment_to_timestamp_millis mc_epoch_config blocks).length = blocks.length
  | [], _ => rfl
  | (moment, producer) :: blocks, h => by
    obtain ⟨mc_epoch, hepoch, hoffset⟩ := h _ List.mem_cons_self
    rw [dataEpochs_cons hepoch hoffset, List.length_cons, List.length_cons,
      length_dataEpochs h.tail]

end epochs

section counting

variable [DecidableEq BlockProducer]

/-- The loop of `count_blocks_by_epoch_and_producer`, from the counts so far:
`*epoch_producers.entry(mc_epoch).or_default().entry(producer).or_default() += 1`. -/
def countBlocksLoop (moment_to_timestamp_millis : Moment → UInt64)
    (mc_epoch_config : MainchainEpochConfig) :
    List (Moment × BlockProducer) → List (UInt32 × List (BlockProducer × UInt32)) →
      Option (Except (InherentDataCreationError BlockProducer)
        (List (UInt32 × List (BlockProducer × UInt32))))
  | [], epoch_producers => some (.ok epoch_producers)
  | (moment, producer) :: blocks, epoch_producers =>
    match (data_mc_epoch_for_timestamp (moment_to_timestamp_millis moment) mc_epoch_config :
        Option (Except (InherentDataCreationError BlockProducer) UInt32)) with
    | none => none
    | some (.error err) => some (.error err)
    | some (.ok mc_epoch) =>
      countBlocksLoop moment_to_timestamp_millis mc_epoch_config blocks
        (entryOrDefault mc_epoch (entryOrDefault producer (· + 1)) epoch_producers)

/-- `count_blocks_by_epoch_and_producer` -/
def count_blocks_by_epoch_and_producer (moment_to_timestamp_millis : Moment → UInt64)
    (mc_epoch_config : MainchainEpochConfig) (blocks : List (Moment × BlockProducer)) :
    Option (Except (InherentDataCreationError BlockProducer)
      (List (UInt32 × List (BlockProducer × UInt32)))) :=
  countBlocksLoop moment_to_timestamp_millis mc_epoch_config blocks []

section epochs

variable {moment_to_timestamp_millis : Moment → UInt64} {mc_epoch_config : MainchainEpochConfig}

/-- With every epoch after the offset, the loop counts the data epochs of the blocks. -/
theorem countBlocksLoop_eq :
    ∀ {blocks : List (Moment × BlockProducer)},
      EpochsAfterOffset moment_to_timestamp_millis mc_epoch_config blocks →
      ∀ epoch_producers : List (UInt32 × List (BlockProducer × UInt32)),
        countBlocksLoop moment_to_timestamp_millis mc_epoch_config blocks epoch_producers =
          some (.ok ((dataEpochs moment_to_timestamp_millis mc_epoch_config blocks).foldl
            bumpCount epoch_producers))
  | [], _, _ => rfl
  | (moment, producer) :: blocks, h, epoch_producers => by
    obtain ⟨mc_epoch, hepoch, hoffset⟩ := h _ List.mem_cons_self
    rw [countBlocksLoop, data_mc_epoch_for_timestamp_eq_ok hepoch hoffset,
      dataEpochs_cons hepoch hoffset, List.foldl_cons]
    exact countBlocksLoop_eq h.tail _

end epochs

end counting

/-! ## The breakdowns -/

/-- `production_breakdown_for`: the producer's count, with the delegations of its pool when it
is a Cardano SPO, which the distribution must have. -/
def production_breakdown_for (as_cardano_spo : BlockProducer → Option MainchainKeyHash)
    (from_delegator_key : DelegatorKey → Delegator) (mc_epoch : UInt32)
    (block_producer : BlockProducer) (block_count : UInt32)
    (distribution : StakeDistribution DelegatorKey) :
    Except (InherentDataCreationError BlockProducer)
      (BlockProducerParticipationData BlockProducer Delegator) := do
  let (beneficiary_total_share, beneficiaries) ← match as_cardano_spo block_producer with
    | none => pure (0, [])
    | some cardano_producer =>
      match distribution.get cardano_producer with
      | none => throw (.DataMissing mc_epoch block_producer)
      | some ⟨total_stake, delegators⟩ =>
        pure (total_stake.val, delegators.map fun (delegator_key, stake_amount) =>
          ⟨from_delegator_key delegator_key, stake_amount⟩)
  return ⟨block_producer, block_count, beneficiary_total_share, beneficiaries⟩

/-- `fetch_delegations`: the source's stake distribution of the epoch for the pools of the
producers that are Cardano SPOs. -/
def fetch_delegations (as_cardano_spo : BlockProducer → Option MainchainKeyHash)
    (mc_epoch : UInt32) (producers : List BlockProducer)
    (data_source : BlockParticipationDataSource DelegatorKey) :
    Except (InherentDataCreationError BlockProducer) (StakeDistribution DelegatorKey) :=
  match data_source.get_stake_pool_delegation_distribution_for_pools mc_epoch
      (producers.filterMap as_cardano_spo) with
  | some distribution => .ok distribution
  | none => .error .DataSourceError

/-- The loops of `new` over the counts: for each epoch the delegations of its producers, then a
breakdown for each producer. -/
def production_summaries (as_cardano_spo : BlockProducer → Option MainchainKeyHash)
    (from_delegator_key : DelegatorKey → Delegator)
    (data_source : BlockParticipationDataSource DelegatorKey) :
    List (UInt32 × List (BlockProducer × UInt32)) →
      Except (InherentDataCreationError BlockProducer)
        (List (BlockProducerParticipationData BlockProducer Delegator))
  | [] => .ok []
  | (mc_epoch, producer_blocks) :: block_counts => do
    let stake_distribution ←
      fetch_delegations as_cardano_spo mc_epoch (producer_blocks.map (·.1)) data_source
    let breakdowns ← producer_blocks.mapM fun (producer, block_count) =>
      production_breakdown_for as_cardano_spo from_delegator_key mc_epoch producer block_count
        stake_distribution
    let rest ← production_summaries as_cardano_spo from_delegator_key data_source block_counts
    return breakdowns ++ rest

/-! ### What the breakdowns are -/

/-- `pd'` is the delegation `pd` read in another order. -/
def PoolDelegation.Reordered (pd' pd : PoolDelegation DelegatorKey) : Prop :=
  pd'.total_stake = pd.total_stake ∧ pd'.delegators.Perm pd.delegators

/-- The data source answers for every epoch, with the delegations of `distribution` for the
pools it is asked for. -/
def AnswersWith (data_source : BlockParticipationDataSource DelegatorKey)
    (distribution : UInt32 → StakeDistribution DelegatorKey) : Prop :=
  ∀ mc_epoch pools, ∃ stake_distribution,
    data_source.get_stake_pool_delegation_distribution_for_pools mc_epoch pools =
      some stake_distribution ∧
    ∀ pool ∈ pools, stake_distribution.get pool = (distribution mc_epoch).get pool

section breakdown

variable {as_cardano_spo : BlockProducer → Option MainchainKeyHash}
  {from_delegator_key : DelegatorKey → Delegator} {mc_epoch : UInt32}
  {block_producer : BlockProducer} {block_count : UInt32}

/-- A breakdown reads only the producer's own pool. -/
theorem production_breakdown_for_congr {distribution distribution' : StakeDistribution DelegatorKey}
    (h : ∀ pool, as_cardano_spo block_producer = some pool →
      distribution.get pool = distribution'.get pool) :
    production_breakdown_for as_cardano_spo from_delegator_key mc_epoch block_producer block_count
        distribution =
      production_breakdown_for as_cardano_spo from_delegator_key mc_epoch block_producer
        block_count distribution' := by
  unfold production_breakdown_for
  cases hspo : as_cardano_spo block_producer with
  | none => rfl
  | some pool =>
    dsimp only
    rw [h pool hspo]

/-- A breakdown is of its producer and count. -/
theorem production_breakdown_for_fields {distribution : StakeDistribution DelegatorKey}
    {b : BlockProducerParticipationData BlockProducer Delegator}
    (h : production_breakdown_for as_cardano_spo from_delegator_key mc_epoch block_producer
      block_count distribution = .ok b) :
    b.block_producer = block_producer ∧ b.block_count = block_count := by
  unfold production_breakdown_for at h
  cases hspo : as_cardano_spo block_producer with
  | none =>
    simp only [hspo] at h
    cases h
    exact ⟨rfl, rfl⟩
  | some pool =>
    cases hget : distribution.get pool with
    | none => simp [hspo, hget, bind, Except.bind, throw, throwThe, MonadExceptOf.throw] at h
    | some pd =>
      simp only [hspo, hget] at h
      cases h
      exact ⟨rfl, rfl⟩

/-- A breakdown fails only on a pool the distribution does not have. -/
theorem production_breakdown_for_isOk {distribution : StakeDistribution DelegatorKey}
    (h : ∀ pool, as_cardano_spo block_producer = some pool → (distribution.get pool).isSome) :
    ∃ b, production_breakdown_for as_cardano_spo from_delegator_key mc_epoch block_producer
      block_count distribution = .ok b := by
  unfold production_breakdown_for
  cases hspo : as_cardano_spo block_producer with
  | none => exact ⟨_, rfl⟩
  | some pool =>
    obtain ⟨pd, hget⟩ := Option.isSome_iff_exists.mp (h pool hspo)
    dsimp only
    rw [hget]
    exact ⟨_, rfl⟩

/-- The delegations read in another order give the breakdown with its delegators in another
order. -/
theorem production_breakdown_for_reordered
    {distribution distribution' : StakeDistribution DelegatorKey}
    (hreordered : ∀ pool, as_cardano_spo block_producer = some pool →
      Option.Rel PoolDelegation.Reordered (distribution'.get pool) (distribution.get pool))
    {b : BlockProducerParticipationData BlockProducer Delegator}
    (h : production_breakdown_for as_cardano_spo from_delegator_key mc_epoch block_producer
      block_count distribution = .ok b) :
    ∃ b', production_breakdown_for as_cardano_spo from_delegator_key mc_epoch block_producer
      block_count distribution' = .ok b' ∧ b'.Reordered b := by
  unfold production_breakdown_for at h ⊢
  cases hspo : as_cardano_spo block_producer with
  | none =>
    simp only [hspo] at h ⊢
    cases h
    exact ⟨_, rfl, rfl, rfl, rfl, List.Perm.refl _⟩
  | some pool =>
    have hpool := hreordered pool hspo
    cases hget : distribution.get pool with
    | none => simp [hspo, hget, bind, Except.bind, throw, throwThe, MonadExceptOf.throw] at h
    | some pd =>
      rw [hget] at hpool
      obtain ⟨pd', hget', htotal, hdelegators⟩ : ∃ pd', distribution'.get pool = some pd' ∧
          pd'.total_stake = pd.total_stake ∧ pd'.delegators.Perm pd.delegators := by
        cases hget' : distribution'.get pool with
        | none => rw [hget'] at hpool; cases hpool
        | some pd' =>
          rw [hget'] at hpool
          cases hpool with
          | some hrel => exact ⟨pd', rfl, hrel⟩
      simp only [hspo, hget] at h
      cases h
      simp only [hget']
      exact ⟨_, rfl, rfl, rfl, by rw [htotal], hdelegators.map _⟩

end breakdown

/-- With a data source that answers, the loops of `new` are one loop over the counts read as a
flat map: a breakdown for each epoch and producer, with the epoch's distribution. -/
theorem production_summaries_eq {as_cardano_spo : BlockProducer → Option MainchainKeyHash}
    {from_delegator_key : DelegatorKey → Delegator}
    {data_source : BlockParticipationDataSource DelegatorKey}
    {distribution : UInt32 → StakeDistribution DelegatorKey}
    (hsource : AnswersWith data_source distribution) :
    ∀ block_counts : List (UInt32 × List (BlockProducer × UInt32)),
      production_summaries as_cardano_spo from_delegator_key data_source block_counts =
        (flatten block_counts).mapM fun x =>
          production_breakdown_for as_cardano_spo from_delegator_key x.1.1 x.1.2 x.2
            (distribution x.1.1)
  | [] => rfl
  | (mc_epoch, producer_blocks) :: block_counts => by
    obtain ⟨stake_distribution, hanswer, hagree⟩ :=
      hsource mc_epoch ((producer_blocks.map (·.1)).filterMap as_cardano_spo)
    have hfetch : fetch_delegations as_cardano_spo mc_epoch (producer_blocks.map (·.1))
        data_source = .ok stake_distribution := by
      rw [fetch_delegations, hanswer]
    -- the fetched distribution agrees with the epoch's on the pools of its producers
    have hbreakdowns : (producer_blocks.mapM fun (producer, block_count) =>
          production_breakdown_for as_cardano_spo from_delegator_key mc_epoch producer block_count
            stake_distribution) =
        (producer_blocks.map fun x => ((mc_epoch, x.1), x.2)).mapM fun x =>
          production_breakdown_for as_cardano_spo from_delegator_key x.1.1 x.1.2 x.2
            (distribution x.1.1) := by
      rw [List.mapM_map]
      apply partner_chains.except_list.mapM_congr
      rintro ⟨producer, block_count⟩ hx
      exact production_breakdown_for_congr fun pool hpool =>
        hagree pool (List.mem_filterMap.mpr ⟨producer, List.mem_map_of_mem hx, hpool⟩)
    rw [production_summaries, hfetch, flatten, List.flatMap_cons, ← flatten, List.mapM_append,
      ← hbreakdowns, production_summaries_eq hsource block_counts]
    rfl

/-! ## The inherent data provider -/

/-- `BlockParticipationInherentDataProvider` -/
inductive BlockParticipationInherentDataProvider (BlockProducerId DelegatorId Moment : Type) where
  | Active (moment : Moment) (target_inherent_id : FixedBytes 8)
      (block_production_data : BlockProductionData BlockProducerId DelegatorId)
  | Inert

variable [LinearOrder BlockProducer] [LinearOrder Delegator]

/-- What `new` computes from the blocks to process: their counts, the breakdowns and the data.
`none` is a panic. -/
def block_production_data (as_cardano_spo : BlockProducer → Option MainchainKeyHash)
    (from_delegator_key : DelegatorKey → Delegator)
    (moment_to_timestamp_millis : Moment → UInt64) (mc_epoch_config : MainchainEpochConfig)
    (data_source : BlockParticipationDataSource DelegatorKey)
    (blocks_to_process : List (Moment × BlockProducer)) :
    Option (Except (InherentDataCreationError BlockProducer)
      (BlockProductionData BlockProducer Delegator)) :=
  match count_blocks_by_epoch_and_producer moment_to_timestamp_millis mc_epoch_config
      blocks_to_process with
  | none => none
  | some (.error err) => some (.error err)
  | some (.ok block_counts) =>
    some ((production_summaries as_cardano_spo from_delegator_key data_source block_counts).map
      BlockProductionData.new)

/-- `BlockParticipationInherentDataProvider::new`, with the runtime API's answers at the parent
block: the blocks to process and the target inherent id. -/
def BlockParticipationInherentDataProvider.new
    (as_cardano_spo : BlockProducer → Option MainchainKeyHash)
    (from_delegator_key : DelegatorKey → Delegator)
    (blocks_to_process : List (Moment × BlockProducer)) (target_inherent_id : FixedBytes 8)
    (moment : Moment) (moment_to_timestamp_millis : Moment → UInt64)
    (mc_epoch_config : MainchainEpochConfig)
    (data_source : BlockParticipationDataSource DelegatorKey) :
    Option (Except (InherentDataCreationError BlockProducer)
      (BlockParticipationInherentDataProvider BlockProducer Delegator Moment)) :=
  if blocks_to_process.isEmpty then some (.ok .Inert)
  else
    (block_production_data as_cardano_spo from_delegator_key moment_to_timestamp_millis
      mc_epoch_config data_source blocks_to_process).map
        (·.map (.Active moment target_inherent_id))

/-! ## What the data is -/

open partner_chains.except_list

/-- Breakdowns over any order of the same flat counts give the same data. -/
theorem new_mapM_eq_of_perm
    {F : (UInt32 × BlockProducer) × UInt32 →
      Except (InherentDataCreationError BlockProducer)
        (BlockProducerParticipationData BlockProducer Delegator)}
    {counts counts' : List ((UInt32 × BlockProducer) × UInt32)} (hperm : counts'.Perm counts)
    {breakdowns : List (BlockProducerParticipationData BlockProducer Delegator)}
    (hbreakdowns : counts.mapM F = .ok breakdowns) :
    (counts'.mapM F).map BlockProductionData.new = .ok (BlockProductionData.new breakdowns) := by
  obtain ⟨breakdowns', hbreakdowns', hperm'⟩ := mapM_perm hperm.symm hbreakdowns
  rw [hbreakdowns', Except.map, BlockProductionData.new_eq_of_perm hperm']

section data

variable (as_cardano_spo : BlockProducer → Option MainchainKeyHash)
  (from_delegator_key : DelegatorKey → Delegator)
  (moment_to_timestamp_millis : Moment → UInt64) (mc_epoch_config : MainchainEpochConfig)

/-- With every epoch after the offset and a data source that answers, the data is the breakdowns
of the counts, read as one flat map, each with its epoch's distribution. -/
theorem block_production_data_eq {data_source : BlockParticipationDataSource DelegatorKey}
    {distribution : UInt32 → StakeDistribution DelegatorKey}
    {blocks : List (Moment × BlockProducer)}
    (hepoch : EpochsAfterOffset moment_to_timestamp_millis mc_epoch_config blocks)
    (hsource : AnswersWith data_source distribution) :
    block_production_data as_cardano_spo from_delegator_key moment_to_timestamp_millis
        mc_epoch_config data_source blocks =
      some (((flatten ((dataEpochs moment_to_timestamp_millis mc_epoch_config blocks).foldl
        bumpCount [])).mapM fun x =>
          production_breakdown_for as_cardano_spo from_delegator_key x.1.1 x.1.2 x.2
            (distribution x.1.1)).map BlockProductionData.new) := by
  rw [block_production_data, count_blocks_by_epoch_and_producer, countBlocksLoop_eq hepoch]
  simp only [production_summaries_eq hsource]

/-- Block participation data conserves the blocks and depends on no order. Take blocks whose
moments all have main chain epochs at or after `DATA_MC_EPOCH_OFFSET`, fewer than `2 ^ 32` of
them as in every `Vec` of the wasm32 runtime, and a data source that answers every epoch with the
delegations of `distribution`, which has the pool of every producer that is a Cardano SPO. Then
the data is computed; it has one entry for each data epoch and producer with blocks, which holds
the producer's number of blocks in that epoch; the counts add up to the number of blocks; and
the same data comes out of every order of the blocks, every order in which the maps of counts
are iterated, and every order in which the delegators of a pool are read. -/
theorem block_production_data_conserves_blocks
    (data_source : BlockParticipationDataSource DelegatorKey)
    (distribution : UInt32 → StakeDistribution DelegatorKey)
    (blocks : List (Moment × BlockProducer))
    (hepoch : EpochsAfterOffset moment_to_timestamp_millis mc_epoch_config blocks)
    (hlen : blocks.length < 2 ^ 32)
    (hsource : AnswersWith data_source distribution)
    (hdata : ∀ k ∈ dataEpochs moment_to_timestamp_millis mc_epoch_config blocks, ∀ pool,
      as_cardano_spo k.2 = some pool → ((distribution k.1).get pool).isSome) :
    ∃ data, block_production_data as_cardano_spo from_delegator_key moment_to_timestamp_millis
        mc_epoch_config data_source blocks = some (.ok data) ∧
      (data.producer_participation.map fun b => (b.block_producer, b.block_count.toNat)).Perm
        ((dataEpochs moment_to_timestamp_millis mc_epoch_config blocks).dedup.map fun k =>
          (k.2, (dataEpochs moment_to_timestamp_millis mc_epoch_config blocks).count k)) ∧
      (data.producer_participation.map fun b => b.block_count.toNat).sum = blocks.length ∧
      (∀ blocks', blocks'.Perm blocks →
        block_production_data as_cardano_spo from_delegator_key moment_to_timestamp_millis
          mc_epoch_config data_source blocks' = some (.ok data)) ∧
      (∀ block_counts, count_blocks_by_epoch_and_producer moment_to_timestamp_millis
          mc_epoch_config blocks = some (.ok block_counts) →
        ∀ block_counts', (flatten block_counts').Perm (flatten block_counts) →
          (production_summaries as_cardano_spo from_delegator_key data_source
            block_counts').map BlockProductionData.new = .ok data) ∧
      ∀ (data_source' : BlockParticipationDataSource DelegatorKey)
        (distribution' : UInt32 → StakeDistribution DelegatorKey),
        AnswersWith data_source' distribution' →
        (∀ mc_epoch pool, Option.Rel PoolDelegation.Reordered ((distribution' mc_epoch).get pool)
          ((distribution mc_epoch).get pool)) →
        block_production_data as_cardano_spo from_delegator_key moment_to_timestamp_millis
          mc_epoch_config data_source' blocks = some (.ok data) := by
  set keys := dataEpochs moment_to_timestamp_millis mc_epoch_config blocks with hkeys
  -- no data epoch and producer has as many blocks as the `u32` counts wrap at
  have hcount : ∀ k ∈ keys, keys.count k < 2 ^ 32 := fun k _ =>
    lt_of_le_of_lt List.count_le_length (by rw [length_dataEpochs hepoch]; exact hlen)
  -- the counts as they should be: each data epoch and producer with its number of blocks
  set counts := keys.dedup.map fun k => (k, UInt32.ofNat (keys.count k)) with hcounts
  obtain ⟨breakdowns, hbreakdowns⟩ : ∃ breakdowns, (counts.mapM fun x =>
      production_breakdown_for as_cardano_spo from_delegator_key x.1.1 x.1.2 x.2
        (distribution x.1.1)) = .ok breakdowns := by
    refine mapM_ok_of_forall fun x hx => ?_
    obtain ⟨k, hk, rfl⟩ := List.mem_map.mp hx
    exact production_breakdown_for_isOk (hdata k (List.mem_dedup.mp hk))
  have hcounted : (flatten (keys.foldl bumpCount [])).Perm counts :=
    flatten_foldl_bumpCount_perm keys
  -- the producer and count of each breakdown are those of its entry
  have hfields : (breakdowns.map fun b => (b.block_producer, b.block_count.toNat)) =
      keys.dedup.map fun k => (k.2, keys.count k) := by
    rw [mapM_eq_ok_map (g := fun x => (x.1.2, x.2.toNat)) (fun x b hb => by
      obtain ⟨hproducer, hcount⟩ := production_breakdown_for_fields hb
      rw [hproducer, hcount]) hbreakdowns, hcounts, List.map_map]
    refine List.map_congr_left fun k hk => ?_
    simp only [Function.comp_apply, UInt32.toNat_ofNat', Nat.mod_eq_of_lt
      (hcount k (List.mem_dedup.mp hk))]
  have hpairs : ((BlockProductionData.new breakdowns).producer_participation.map fun b =>
      (b.block_producer, b.block_count.toNat)).Perm (keys.dedup.map fun k => (k.2, keys.count k)) := by
    have h := (BlockProductionData.new_counts_perm breakdowns).map fun p => (p.1, p.2.toNat)
    rw [List.map_map, List.map_map] at h
    exact hfields ▸ h
  refine ⟨BlockProductionData.new breakdowns, ?_, hpairs, ?_, fun blocks' hperm => ?_,
    fun block_counts hblock_counts block_counts' hperm => ?_,
    fun data_source' distribution' hsource' hreordered => ?_⟩
  · rw [block_production_data_eq _ _ _ _ hepoch hsource, new_mapM_eq_of_perm hcounted hbreakdowns]
  · -- the counts add up to the number of blocks
    have hsum := (hpairs.map Prod.snd).sum_eq
    simp only [List.map_map, Function.comp_def] at hsum
    rw [← length_dataEpochs hepoch, hsum]
    -- `count` compares pairs with their own `==`, the library lemma with decided equality
    have hbeq : (instBEqProd : BEq (UInt32 × BlockProducer)) = instBEqOfDecidableEq :=
      lawful_beq_subsingleton _ _
    rw [hbeq]
    exact List.sum_map_count_dedup_eq_length keys
  · -- another order of the blocks has the same data epochs in another order
    have hepoch' : EpochsAfterOffset moment_to_timestamp_millis mc_epoch_config blocks' :=
      fun b hb => hepoch b (hperm.mem_iff.mp hb)
    have hkeys' : (dataEpochs moment_to_timestamp_millis mc_epoch_config blocks').Perm keys :=
      hperm.filterMap _
    have hcounts' : ((dataEpochs moment_to_timestamp_millis mc_epoch_config blocks').dedup.map
        fun k => (k, UInt32.ofNat ((dataEpochs moment_to_timestamp_millis mc_epoch_config
          blocks').count k))).Perm counts := by
      rw [hcounts, List.map_congr_left fun k _ => by rw [hkeys'.count_eq]]
      exact hkeys'.dedup.map _
    rw [block_production_data_eq _ _ _ _ hepoch' hsource,
      new_mapM_eq_of_perm ((flatten_foldl_bumpCount_perm _).trans hcounts') hbreakdowns]
  · -- another order of the maps of counts flattens to the same entries
    rw [count_blocks_by_epoch_and_producer, countBlocksLoop_eq hepoch] at hblock_counts
    cases hblock_counts
    rw [production_summaries_eq hsource, new_mapM_eq_of_perm (hperm.trans hcounted) hbreakdowns]
  · -- delegators read in another order give breakdowns with their delegators reordered
    obtain ⟨breakdowns', hbreakdowns', hreordered'⟩ := mapM_rel
      (R := BlockProducerParticipationData.Reordered) (fun x b hb =>
        production_breakdown_for_reordered (fun pool _ => hreordered x.1.1 pool) hb) hbreakdowns
    rw [block_production_data_eq _ _ _ _ hepoch hsource',
      new_mapM_eq_of_perm hcounted hbreakdowns',
      BlockProductionData.new_eq_of_reordered hreordered']

/-- Three blocks of the source's test configuration (epochs of ten seconds, a moment a second),
two of producer 1 and one of producer 2, none of them a Cardano SPO: data of three blocks. -/
theorem block_production_data_conserves_three_blocks :
    EpochsAfterOffset (fun m : Nat => UInt64.ofNat (m * 1000)) ⟨10000, 100, 0, 0, 0⟩
        [(490, 1), (491, 2), (990, 1)] ∧
      [((490 : Nat), (1 : Nat)), (491, 2), (990, 1)].length < 2 ^ 32 ∧
      AnswersWith (⟨fun _ _ => some ⟨fun _ => none⟩⟩ : BlockParticipationDataSource Nat)
        (fun _ => ⟨fun _ => none⟩) ∧
      ∃ data, block_production_data (fun _ : Nat => none) (id : Nat → Nat)
          (fun m : Nat => UInt64.ofNat (m * 1000)) ⟨10000, 100, 0, 0, 0⟩
          ⟨fun _ _ => some ⟨fun _ => none⟩⟩ [(490, 1), (491, 2), (990, 1)] = some (.ok data) ∧
        (data.producer_participation.map fun b => b.block_count.toNat).sum = 3 := by
  have hepoch : EpochsAfterOffset (fun m : Nat => UInt64.ofNat (m * 1000)) ⟨10000, 100, 0, 0, 0⟩
      [((490 : Nat), (1 : Nat)), (491, 2), (990, 1)] := by
    intro b hb
    simp only [List.mem_cons, List.not_mem_nil, or_false] at hb
    rcases hb with rfl | rfl | rfl
    · exact ⟨49, rfl, by decide⟩
    · exact ⟨49, rfl, by decide⟩
    · exact ⟨99, rfl, by decide⟩
  have hsource : AnswersWith (⟨fun _ _ => some ⟨fun _ => none⟩⟩ : BlockParticipationDataSource Nat)
      (fun _ => ⟨fun _ => none⟩) := fun _ _ => ⟨_, rfl, fun _ _ => rfl⟩
  have hlen : [((490 : Nat), (1 : Nat)), (491, 2), (990, 1)].length < 2 ^ 32 := by decide
  obtain ⟨data, hdata, -, hsum, -⟩ := block_production_data_conserves_blocks (fun _ : Nat => none)
    (id : Nat → Nat) (fun m : Nat => UInt64.ofNat (m * 1000)) ⟨10000, 100, 0, 0, 0⟩
    ⟨fun _ _ => some ⟨fun _ => none⟩⟩ (fun _ => ⟨fun _ => none⟩) _ hepoch hlen hsource
    (fun _ _ _ h => nomatch h)
  exact ⟨hepoch, hlen, hsource, data, hdata, hsum⟩

/-- The pool of a producer that is a Cardano SPO, with key hash bytes all `p`. -/
def poolOf (p : Nat) : MainchainKeyHash := ⟨List.replicate 28 p.toUInt8, List.length_replicate⟩

/-- Producer 1, a Cardano SPO, makes a block at second 490, in main chain epoch 49, while the
data source's stake distribution has no pool: the provider fails with `DataMissing` for data
epoch 47, and no data is produced. -/
theorem block_production_data_of_missing_pool :
    block_production_data (fun p : Nat => some (poolOf p)) (id : Nat → Nat)
        (fun m : Nat => UInt64.ofNat (m * 1000)) ⟨10000, 100, 0, 0, 0⟩
        ⟨fun _ _ => some ⟨fun _ => none⟩⟩ [(490, 1)] =
      some (.error (.DataMissing 47 1)) := by
  decide

end data

end sp_block_participation.inherent_data
