-- The token bridge's data source on db-sync (toolkit/data-sources/db-sync,
-- bridge/mod.rs and bridge/cache.rs): the UTXOs at the illiquid circulation
-- supply address after a checkpoint and up to a main chain block, at most
-- `max_transfers` of them, and the checkpoint to continue from. The query
-- `get_bridge_utxos_tx` of db_model.rs is the filter, sort and limit that
-- its SQL states, over the UTXOs the address holds. The cached data source
-- loads a range of blocks at once and serves later queries from it.
import PartnerChains.PlutusData.Datums
import PartnerChains.Lib.ListOrder

namespace sp_partner_chains_bridge

open sidechain_domain

/-- `BridgeDataCheckpoint`: the last transfer UTXO processed, or the main chain block
(`McBlockNumber(u32)`) up to which data was processed. -/
inductive BridgeDataCheckpoint where
  | Utxo (utxo : UtxoId)
  | Block (number : UInt32)
  deriving DecidableEq

/-- `BridgeTransferV1` -/
inductive BridgeTransferV1 (RecipientAddress : Type) where
  | UserTransfer (token_amount : UInt64) (recipient : RecipientAddress)
  | ReserveTransfer (token_amount : UInt64)
  | InvalidTransfer (token_amount : UInt64) (utxo_id : UtxoId)
  deriving DecidableEq

end sp_partner_chains_bridge

namespace partner_chains_db_sync_data_sources.bridge

open cardano_serialization_lib sidechain_domain sp_partner_chains_bridge partner_chains.list_order
  partner_chains_plutus_data.bridge

/-- `u32::MAX`, where the saturating arithmetic of block numbers stops. -/
def u32_max : Nat := 2 ^ 32 - 1

/-- `BlockNumber::saturating_add` -/
def saturating_add (a b : Nat) : Nat := min (a + b) u32_max

/-! ## The query -/

/-- `BridgeUtxo` (db_model.rs): a UTXO at the supply address, with the tokens it holds, those
its transaction took from the address, and its datum. -/
structure BridgeUtxo where
  /-- `BlockNumber(u32)` -/
  block_number : Nat
  /-- `TxIndexInBlock(u32)` -/
  tx_ix : Nat
  tx_hash : FixedBytes 32
  /-- `TxIndex(u16)` -/
  utxo_ix : UInt16
  /-- `NativeTokenAmount(u128)` -/
  tokens_out : Nat
  tokens_in : Nat
  datum : Option PlutusData

/-- `BridgeUtxo::utxo_id` -/
def BridgeUtxo.utxo_id (utxo : BridgeUtxo) : UtxoId := ⟨utxo.tx_hash, utxo.utxo_ix⟩

/-- `BridgeUtxo::ordering_key`: block, transaction, output. -/
def BridgeUtxo.ordering_key (utxo : BridgeUtxo) : Lex (Nat × Lex (Nat × Nat)) :=
  toLex (utxo.block_number, toLex (utxo.tx_ix, utxo.utxo_ix.toNat))

/-- `ResolvedBridgeDataCheckpoint`: a checkpoint with the position of its UTXO. -/
inductive ResolvedBridgeDataCheckpoint where
  | Utxo (block_number tx_ix : Nat) (tx_out_ix : UInt16)
  | Block (number : Nat)
  deriving DecidableEq

/-- `ResolvedBridgeDataCheckpoint::get_block_number` -/
def ResolvedBridgeDataCheckpoint.get_block_number : ResolvedBridgeDataCheckpoint → Nat
  | .Block number => number
  | .Utxo block_number _ _ => block_number

/-- The query's condition on the checkpoint: `block_no > number`, or
`(block_no, tx.block_index, outputs.index) > (block_number, tx_ix, tx_out_ix)`. -/
def ResolvedBridgeDataCheckpoint.after : ResolvedBridgeDataCheckpoint → BridgeUtxo → Bool
  | .Block number, utxo => decide (utxo.block_number > number)
  | .Utxo block_number tx_ix tx_out_ix, utxo =>
    decide (utxo.ordering_key > toLex (block_number, toLex (tx_ix, tx_out_ix.toNat)))

/-- `TxBlockInfo` -/
structure TxBlockInfo where
  block_number : Nat
  tx_ix : Nat

/-- What the data sources read from db-sync: the UTXOs at the supply address of each set of
main chain scripts, the block and index of a transaction, the number (`u32`) of a block, and
the latest stable block. No two UTXOs share an ordering key, and a UTXO's transaction is where
the UTXO says. -/
structure DbSync (MainChainScripts : Type) where
  bridge_utxos : MainChainScripts → List BridgeUtxo
  get_block_info_for_utxo : FixedBytes 32 → Option TxBlockInfo
  get_block_by_hash : FixedBytes 32 → Option UInt32
  latest_stable_block : Option UInt32
  keys_nodup : ∀ s, ((bridge_utxos s).map BridgeUtxo.ordering_key).Nodup
  block_info_eq : ∀ s utxo, utxo ∈ bridge_utxos s →
    get_block_info_for_utxo utxo.tx_hash = some ⟨utxo.block_number, utxo.tx_ix⟩

variable {MainChainScripts : Type} (db : DbSync MainChainScripts)

/-- `get_bridge_utxos_tx`: the UTXOs after the checkpoint and at most `to_block`, ordered by
block, transaction and output, at most `max_utxos` of them. -/
def get_bridge_utxos_tx (main_chain_scripts : MainChainScripts)
    (checkpoint : ResolvedBridgeDataCheckpoint) (to_block : Nat) (max_utxos : Option Nat) :
    List BridgeUtxo :=
  let rows := ((db.bridge_utxos main_chain_scripts).filter fun utxo =>
    decide (utxo.block_number ≤ to_block) && checkpoint.after utxo).mergeSort
      (keyLE BridgeUtxo.ordering_key)
  match max_utxos with
  | some max_utxos => rows.take max_utxos
  | none => rows

/-! ## Transfers -/

/-- `utxo_to_transfer`: the tokens the UTXO added to the address, and what its datum says
they are for. `recipient_try_from` is `RecipientAddress::try_from`; `as u64` keeps the low
64 bits. -/
def utxo_to_transfer {RecipientAddress : Type}
    (recipient_try_from : List UInt8 → Option RecipientAddress) (utxo : BridgeUtxo) :
    Option (BridgeTransferV1 RecipientAddress) :=
  if utxo.tokens_out < utxo.tokens_in then none
  else
    let token_delta := utxo.tokens_out - utxo.tokens_in
    if token_delta = 0 then none
    else
      let token_amount := UInt64.ofNat token_delta
      match utxo.datum with
      | none => some (.InvalidTransfer token_amount utxo.utxo_id)
      | some datum =>
        match TokenTransferDatum.try_from datum with
        | .ok (.V1 (.UserTransfer receiver)) =>
          match recipient_try_from receiver.val with
          | some recipient => some (.UserTransfer token_amount recipient)
          | none => some (.InvalidTransfer token_amount utxo.utxo_id)
        | .ok (.V1 .ReserveTransfer) => some (.ReserveTransfer token_amount)
        | .error _ => some (.InvalidTransfer token_amount utxo.utxo_id)

/-- The errors of the data sources. -/
inductive DataSourceError where
  /-- "Could not find block for hash {current_mc_block_hash:?}" -/
  | BlockNotFound (hash : FixedBytes 32)
  /-- "Could not find block info for data checkpoint: {data_checkpoint:?}" -/
  | CheckpointNotFound (data_checkpoint : BridgeDataCheckpoint)
  /-- "Could not find block info for utxo: {utxo_id:?}" -/
  | UtxoNotFound (utxo_id : UtxoId)
  /-- "Data should be present in cache after filling cache succeeded" -/
  | CacheNotFilled

/-- The checkpoint after a batch: its last UTXO when the batch is full, the block queried up to
otherwise. -/
def new_checkpoint (utxos : List BridgeUtxo) (max_transfers : Nat) (to_block : UInt32) :
    BridgeDataCheckpoint :=
  match utxos.getLast? with
  | some utxo => if utxos.length ≥ max_transfers then .Utxo utxo.utxo_id else .Block to_block
  | none => .Block to_block

/-! ## `TokenBridgeDataSourceImpl` -/

/-- The checkpoint of `TokenBridgeDataSourceImpl::get_transfers`, with the position of a UTXO
checkpoint read from db-sync. -/
def resolve_checkpoint (data_checkpoint : BridgeDataCheckpoint) :
    Except DataSourceError ResolvedBridgeDataCheckpoint :=
  match data_checkpoint with
  | .Utxo utxo =>
    match db.get_block_info_for_utxo utxo.tx_hash with
    | some ⟨block_number, tx_ix⟩ => .ok (.Utxo block_number tx_ix utxo.index)
    | none => .error (.CheckpointNotFound data_checkpoint)
  | .Block number => .ok (.Block number.toNat)

/-- `TokenBridgeDataSourceImpl::get_transfers` up to the UTXOs: one query with the limit. -/
def TokenBridgeDataSourceImpl.get_utxos (main_chain_scripts : MainChainScripts)
    (data_checkpoint : BridgeDataCheckpoint) (max_transfers : Nat)
    (current_mc_block_hash : FixedBytes 32) :
    Except DataSourceError (List BridgeUtxo × BridgeDataCheckpoint) := do
  let some current_mc_block := db.get_block_by_hash current_mc_block_hash
    | throw (.BlockNotFound current_mc_block_hash)
  let data_checkpoint ← resolve_checkpoint db data_checkpoint
  let utxos := get_bridge_utxos_tx db main_chain_scripts data_checkpoint current_mc_block.toNat
    (some max_transfers)
  return (utxos, new_checkpoint utxos max_transfers current_mc_block)

/-- `TokenBridgeDataSourceImpl::get_transfers` -/
def TokenBridgeDataSourceImpl.get_transfers {RecipientAddress : Type}
    (recipient_try_from : List UInt8 → Option RecipientAddress)
    (main_chain_scripts : MainChainScripts) (data_checkpoint : BridgeDataCheckpoint)
    (max_transfers : Nat) (current_mc_block_hash : FixedBytes 32) :
    Except DataSourceError (List (BridgeTransferV1 RecipientAddress) × BridgeDataCheckpoint) := do
  let (utxos, checkpoint) ← TokenBridgeDataSourceImpl.get_utxos db main_chain_scripts
    data_checkpoint max_transfers current_mc_block_hash
  return (utxos.filterMap (utxo_to_transfer recipient_try_from), checkpoint)

/-! ## `CachedTokenBridgeDataSourceImpl` -/

/-- `TokenUtxoCache`: the UTXOs of the blocks from `start_block` to `end_block` for one set of
scripts, and the map from their ids to them (`HashMap<UtxoId, BridgeUtxo>`, as the list it was
collected from: a later entry shadows an earlier one). -/
structure TokenUtxoCache (MainChainScripts : Type) where
  mc_scripts : MainChainScripts
  start_block : Nat
  end_block : Nat
  transfers : List BridgeUtxo
  utxo_cache : List (UtxoId × BridgeUtxo)

namespace TokenUtxoCache

/-- `TokenUtxoCache::new`: the derived default. -/
def new [Inhabited MainChainScripts] : TokenUtxoCache MainChainScripts := ⟨default, 0, 0, [], []⟩

variable (cache : TokenUtxoCache MainChainScripts)

/-- `TokenUtxoCache::set_mc_scripts`: other scripts empty the range; the map of ids stays. -/
def set_mc_scripts [DecidableEq MainChainScripts] (mc_scripts : MainChainScripts) :
    TokenUtxoCache MainChainScripts :=
  if cache.mc_scripts ≠ mc_scripts then
    { cache with mc_scripts := mc_scripts, transfers := [], start_block := 0, end_block := 0 }
  else cache

/-- `TokenUtxoCache::set_cached_transfers` -/
def set_cached_transfers (start_block end_block : Nat) (transfers : List BridgeUtxo) :
    TokenUtxoCache MainChainScripts :=
  { cache with
    start_block := start_block
    end_block := end_block
    transfers := transfers
    utxo_cache := transfers.map fun utxo => (utxo.utxo_id, utxo) }

/-- `TokenUtxoCache::serve_from_cache`: a query the range covers, answered by skipping the UTXOs
up to the checkpoint; `None` when the range does not reach `to_block` or does not start early
enough for the checkpoint. -/
def serve_from_cache (checkpoint : ResolvedBridgeDataCheckpoint) (to_block max_transfers : Nat) :
    Option (List BridgeUtxo) :=
  if cache.end_block < to_block then none
  else
    let skip_pred? : Option (BridgeUtxo → Bool) :=
      match checkpoint with
      | .Block number =>
        if cache.start_block ≤ saturating_add number 1 then
          some fun utxo => decide (number ≥ utxo.block_number)
        else none
      | .Utxo block_number tx_ix tx_out_ix =>
        if cache.start_block ≤ block_number then
          some fun utxo =>
            decide (utxo.ordering_key ≤ toLex (block_number, toLex (tx_ix, tx_out_ix.toNat)))
        else none
    skip_pred?.map fun skip_pred =>
      ((cache.transfers.dropWhile skip_pred).takeWhile fun utxo =>
        decide (to_block ≥ utxo.block_number)).take max_transfers

/-- `TokenUtxoCache::try_resolve_checkpoint_from_cache` -/
def try_resolve_checkpoint_from_cache (utxo_id : UtxoId) : Option ResolvedBridgeDataCheckpoint :=
  (cache.utxo_cache.reverse.find? fun entry => entry.1 == utxo_id).map fun (_, utxo) =>
    .Utxo utxo.block_number utxo.tx_ix utxo.utxo_ix

end TokenUtxoCache

/-- `CachedTokenBridgeDataSourceImpl::resolve_data_checkpoint`: a UTXO checkpoint from the map of
the cache, or else from db-sync. -/
def resolve_data_checkpoint (cache : TokenUtxoCache MainChainScripts)
    (data_checkpoint : BridgeDataCheckpoint) : Except DataSourceError ResolvedBridgeDataCheckpoint :=
  match data_checkpoint with
  | .Block number => .ok (.Block number.toNat)
  | .Utxo utxo =>
    match cache.try_resolve_checkpoint_from_cache utxo with
    | some checkpoint => .ok checkpoint
    | none =>
      -- `resolve_checkpoint_for_utxo`
      match db.get_block_info_for_utxo utxo.tx_hash with
      | some ⟨block_number, tx_ix⟩ => .ok (.Utxo block_number tx_ix utxo.index)
      | none => .error (.UtxoNotFound utxo)

/-- `CachedTokenBridgeDataSourceImpl::fill_cache`: every UTXO of the blocks from the checkpoint's
block, where the lookahead and the stable tip allow. -/
def fill_cache (cache_lookahead : Nat) (cache : TokenUtxoCache MainChainScripts)
    (main_chain_scripts : MainChainScripts) (data_checkpoint : ResolvedBridgeDataCheckpoint)
    (to_block : Nat) : TokenUtxoCache MainChainScripts :=
  let from_block := data_checkpoint.get_block_number
  -- We want to load all data in the block of `data_checkpoint`, so we go one block back.
  let effective_data_checkpoint := ResolvedBridgeDataCheckpoint.Block (from_block - 1)
  let latest_block := (db.latest_stable_block.map UInt32.toNat).getD to_block
  let to_block := min (saturating_add to_block cache_lookahead) latest_block
  let utxos := get_bridge_utxos_tx db main_chain_scripts effective_data_checkpoint to_block none
  cache.set_cached_transfers from_block to_block utxos

/-- The UTXOs of `CachedTokenBridgeDataSourceImpl::get_transfers`: served from the cache, or else
from the cache filled from the checkpoint (`None` when even that does not cover the query). -/
def serve_or_fill (cache_lookahead : Nat) (cache : TokenUtxoCache MainChainScripts)
    (main_chain_scripts : MainChainScripts) (data_checkpoint : ResolvedBridgeDataCheckpoint)
    (to_block max_transfers : Nat) : Option (List BridgeUtxo) × TokenUtxoCache MainChainScripts :=
  match cache.serve_from_cache data_checkpoint to_block max_transfers with
  | some utxos => (some utxos, cache)
  | none =>
    let cache := fill_cache db cache_lookahead cache main_chain_scripts data_checkpoint to_block
    (cache.serve_from_cache data_checkpoint to_block max_transfers, cache)

/-- `CachedTokenBridgeDataSourceImpl::get_transfers` up to the UTXOs, with the cache after the
call, also after an error. -/
def CachedTokenBridgeDataSourceImpl.get_utxos [DecidableEq MainChainScripts]
    (cache_lookahead : Nat) (cache : TokenUtxoCache MainChainScripts)
    (main_chain_scripts : MainChainScripts) (data_checkpoint : BridgeDataCheckpoint)
    (max_transfers : Nat) (current_mc_block_hash : FixedBytes 32) :
    Except DataSourceError (List BridgeUtxo × BridgeDataCheckpoint) ×
      TokenUtxoCache MainChainScripts :=
  let cache := cache.set_mc_scripts main_chain_scripts
  match db.get_block_by_hash current_mc_block_hash with
  | none => (.error (.BlockNotFound current_mc_block_hash), cache)
  | some current_mc_block =>
    let to_block := current_mc_block.toNat
    match resolve_data_checkpoint db cache data_checkpoint with
    | .error e => (.error e, cache)
    | .ok data_checkpoint =>
      let (utxos, cache) :=
        serve_or_fill db cache_lookahead cache main_chain_scripts data_checkpoint to_block
          max_transfers
      match utxos with
      | none => (.error .CacheNotFilled, cache)
      | some utxos => (.ok (utxos, new_checkpoint utxos max_transfers current_mc_block), cache)

/-- `CachedTokenBridgeDataSourceImpl::get_transfers` -/
def CachedTokenBridgeDataSourceImpl.get_transfers [DecidableEq MainChainScripts]
    {RecipientAddress : Type} (recipient_try_from : List UInt8 → Option RecipientAddress)
    (cache_lookahead : Nat) (cache : TokenUtxoCache MainChainScripts)
    (main_chain_scripts : MainChainScripts) (data_checkpoint : BridgeDataCheckpoint)
    (max_transfers : Nat) (current_mc_block_hash : FixedBytes 32) :
    Except DataSourceError (List (BridgeTransferV1 RecipientAddress) × BridgeDataCheckpoint) ×
      TokenUtxoCache MainChainScripts :=
  let (result, cache) := CachedTokenBridgeDataSourceImpl.get_utxos db cache_lookahead cache
    main_chain_scripts data_checkpoint max_transfers current_mc_block_hash
  (result.map fun (utxos, checkpoint) =>
    (utxos.filterMap (utxo_to_transfer recipient_try_from), checkpoint), cache)

end partner_chains_db_sync_data_sources.bridge
