-- The token bridge on the Partner Chain (toolkit/bridge): the pallet of
-- pallet/src/lib.rs and the inherent data provider of primitives/src/lib.rs,
-- joined by the runtime API as the demo runtime answers it. At each block
-- the node reads the checkpoint and the scripts the pallet holds at the
-- parent block, asks the data source for the transfers after that
-- checkpoint and up to the main chain block the block references, and the
-- block's inherent hands them to the transfer handler and stores the
-- checkpoint after them. From db-sync, along blocks whose main chain blocks
-- do not decrease, the handler is called once for every transfer UTXO after
-- the genesis checkpoint and up to the stored one, in the main chain's order.
import Mathlib
import PartnerChains.Bridge.Refinement
import PartnerChains.Lib.Frame

set_option autoImplicit false

namespace sp_partner_chains_bridge

open sidechain_domain

/-- `TokenBridgeTransfersV1`: the transfers to handle in one block, and the checkpoint after
them. -/
structure TokenBridgeTransfersV1 (RecipientAddress : Type) where
  transfers : List (BridgeTransferV1 RecipientAddress)
  data_checkpoint : BridgeDataCheckpoint
  deriving DecidableEq

/-- `InherentError` -/
inductive InherentError where
  /-- "Bridge inherent data was present but an inherent was not provided" -/
  | InherentRequired
  /-- "Bridge inherent produced when no data present" -/
  | InherentNotExpected
  /-- "Inherent produced does not match inherent data" -/
  | IncorrectInherent
  deriving DecidableEq

/-- `TokenBridgeInherentDataProvider` -/
inductive TokenBridgeInherentDataProvider (RecipientAddress : Type) where
  | Inert
  | ActiveV1 (data : TokenBridgeTransfersV1 RecipientAddress)

/-- `provide_inherent_data`: the bridge's entry of the inherent data, none for `Inert`. -/
def TokenBridgeInherentDataProvider.provide_inherent_data {RecipientAddress : Type} :
    TokenBridgeInherentDataProvider RecipientAddress →
      Option (TokenBridgeTransfersV1 RecipientAddress)
  | .Inert => none
  | .ActiveV1 data => some data

/-- `TokenBridgeDataSource`: at most `max_transfers` transfers after a checkpoint and up to a
main chain block, and the checkpoint after them. -/
structure TokenBridgeDataSource (MainChainScripts RecipientAddress E : Type) where
  get_transfers : MainChainScripts → BridgeDataCheckpoint → UInt32 → McBlockHash →
    Except E (List (BridgeTransferV1 RecipientAddress) × BridgeDataCheckpoint)

/-- `InherentDataCreationError`, without `ApiError`: the runtime API calls do not fail here. -/
inductive InherentDataCreationError (E : Type) where
  | DataSourceError (e : E)
  /-- "Unsupported pallet version {0} (highest supported version: {1})" -/
  | UnsupportedPalletVersion (version highest : UInt32)

/-- What the provider reads through `TokenBridgeIDPRuntimeApi` at the parent block: the version
of the API (`None` where the runtime lacks it) and the answers of its calls. -/
structure TokenBridgeIDPRuntimeApi (MainChainScripts : Type) where
  api_version : Option UInt32
  get_main_chain_scripts : Option MainChainScripts
  get_max_transfers_per_block : UInt32
  get_last_data_checkpoint : Option BridgeDataCheckpoint

namespace TokenBridgeInherentDataProvider

variable {MainChainScripts RecipientAddress E : Type}

/-- `TokenBridgeInherentDataProvider::new_v1`: `Inert` until the pallet holds a checkpoint and
scripts, else the data source's transfers after the checkpoint. -/
def new_v1 (api : TokenBridgeIDPRuntimeApi MainChainScripts) (current_mc_hash : McBlockHash)
    (data_source : TokenBridgeDataSource MainChainScripts RecipientAddress E) :
    Except (InherentDataCreationError E) (TokenBridgeInherentDataProvider RecipientAddress) := do
  let max_transfers := api.get_max_transfers_per_block
  let (some last_checkpoint, some main_chain_scripts) :=
      (api.get_last_data_checkpoint, api.get_main_chain_scripts)
    | return .Inert
  let (transfers, new_checkpoint) ← (data_source.get_transfers main_chain_scripts
    last_checkpoint max_transfers current_mc_hash).mapError .DataSourceError
  return .ActiveV1 ⟨transfers, new_checkpoint⟩

/-- `TokenBridgeInherentDataProvider::new`, by the version of the runtime API. -/
def new (api : TokenBridgeIDPRuntimeApi MainChainScripts) (current_mc_hash : McBlockHash)
    (data_source : TokenBridgeDataSource MainChainScripts RecipientAddress E) :
    Except (InherentDataCreationError E) (TokenBridgeInherentDataProvider RecipientAddress) :=
  match api.api_version with
  | none => .ok .Inert
  | some pallet_version =>
    if pallet_version = 1 then new_v1 api current_mc_hash data_source
    else .error (.UnsupportedPalletVersion pallet_version 1)

theorem new_of_api_version_one {api : TokenBridgeIDPRuntimeApi MainChainScripts}
    (h : api.api_version = some 1) (current_mc_hash : McBlockHash)
    (data_source : TokenBridgeDataSource MainChainScripts RecipientAddress E) :
    new api current_mc_hash data_source = new_v1 api current_mc_hash data_source := by
  simp [new, h]

/-- A configured pallet gets the data source's transfers and checkpoint. -/
theorem new_v1_eq_ok {api : TokenBridgeIDPRuntimeApi MainChainScripts}
    {main_chain_scripts : MainChainScripts} {last_checkpoint : BridgeDataCheckpoint}
    (hs : api.get_main_chain_scripts = some main_chain_scripts)
    (hc : api.get_last_data_checkpoint = some last_checkpoint) {current_mc_hash : McBlockHash}
    {data_source : TokenBridgeDataSource MainChainScripts RecipientAddress E}
    {transfers : List (BridgeTransferV1 RecipientAddress)} {new_checkpoint : BridgeDataCheckpoint}
    (hget : data_source.get_transfers main_chain_scripts last_checkpoint
      api.get_max_transfers_per_block current_mc_hash = .ok (transfers, new_checkpoint)) :
    new_v1 api current_mc_hash data_source = .ok (.ActiveV1 ⟨transfers, new_checkpoint⟩) := by
  simp only [new_v1, hs, hc, hget, Except.mapError, bind, Except.bind, pure, Except.pure]

end TokenBridgeInherentDataProvider

end sp_partner_chains_bridge

namespace pallet_partner_chains_bridge

open sidechain_domain frame_support frame_system sp_partner_chains_bridge
  partner_chains_db_sync_data_sources.bridge partner_chains.list_order partner_chains.runs

/-- The pallet's `Config`: the origins `GovernanceOrigin` accepts, and `MaxTransfersPerBlock`. -/
structure Config (AccountId : Type) where
  GovernanceOrigin : RawOrigin AccountId → Bool
  MaxTransfersPerBlock : UInt32

/-- The pallet's storage: `MainChainScriptsConfiguration` and `DataCheckpoint`. -/
structure Storage (MainChainScripts : Type) where
  MainChainScriptsConfiguration : Option MainChainScripts
  DataCheckpoint : Option BridgeDataCheckpoint

/-- `GenesisConfig` -/
structure GenesisConfig (MainChainScripts : Type) where
  main_chain_scripts : Option MainChainScripts
  initial_checkpoint : Option UtxoId

/-- `GenesisConfig::build`: the scripts, and the initial UTXO as the checkpoint. -/
def GenesisConfig.build {MainChainScripts : Type} (config : GenesisConfig MainChainScripts) :
    Storage MainChainScripts :=
  ⟨config.main_chain_scripts, config.initial_checkpoint.map .Utxo⟩

/-- The pallet's `Call`. -/
inductive Call {AccountId : Type} (T : Config AccountId) (Recipient MainChainScripts : Type) where
  | handle_transfers
      (transfers : BoundedVec (BridgeTransferV1 Recipient) T.MaxTransfersPerBlock.toNat)
      (data_checkpoint : BridgeDataCheckpoint)
  | set_main_chain_scripts (new_scripts : MainChainScripts)
      (data_checkpoint : BridgeDataCheckpoint)

instance {AccountId : Type} {T : Config AccountId} {Recipient MainChainScripts : Type}
    [DecidableEq Recipient] [DecidableEq MainChainScripts] :
    DecidableEq (Call T Recipient MainChainScripts) := fun a b =>
  match a, b with
  | .handle_transfers t₁ c₁, .handle_transfers t₂ c₂ =>
    decidable_of_iff (t₁ = t₂ ∧ c₁ = c₂) (by simp)
  | .set_main_chain_scripts s₁ c₁, .set_main_chain_scripts s₂ c₂ =>
    decidable_of_iff (s₁ = s₂ ∧ c₁ = c₂) (by simp)
  | .handle_transfers .., .set_main_chain_scripts .. => isFalse (by simp)
  | .set_main_chain_scripts .., .handle_transfers .. => isFalse (by simp)

/-- The pallet's storage, and the transfers `TransferHandler::handle_incoming_transfer` was
called with so far, in order. -/
structure State (Recipient MainChainScripts : Type) where
  storage : Storage MainChainScripts
  handled : List (BridgeTransferV1 Recipient)

/-- The state genesis builds: nothing handled yet. -/
def State.genesis {Recipient MainChainScripts : Type} (config : GenesisConfig MainChainScripts) :
    State Recipient MainChainScripts :=
  ⟨config.build, []⟩

/-- `DispatchError`; the pallet's `Error<T>` has no variant. -/
inductive DispatchError where
  | BadOrigin
  deriving DecidableEq

/-- `ensure_none` -/
def ensure_none {AccountId : Type} : RawOrigin AccountId → Except DispatchError Unit
  | .none => .ok ()
  | _ => .error .BadOrigin

variable {AccountId Recipient MainChainScripts : Type} (T : Config AccountId)

/-! ## The calls -/

/-- `handle_transfers`: the inherent hands each transfer to the handler, in order, and stores
the checkpoint. -/
def handle_transfers (origin : RawOrigin AccountId)
    (transfers : BoundedVec (BridgeTransferV1 Recipient) T.MaxTransfersPerBlock.toNat)
    (data_checkpoint : BridgeDataCheckpoint) (st : State Recipient MainChainScripts) :
    Except DispatchError (State Recipient MainChainScripts) := do
  ensure_none origin
  return ⟨{ st.storage with DataCheckpoint := some data_checkpoint }, st.handled ++ transfers.val⟩

/-- `set_main_chain_scripts`: the governance origin sets the scripts and a checkpoint. -/
def set_main_chain_scripts (origin : RawOrigin AccountId) (new_scripts : MainChainScripts)
    (data_checkpoint : BridgeDataCheckpoint) (st : State Recipient MainChainScripts) :
    Except DispatchError (State Recipient MainChainScripts) :=
  if T.GovernanceOrigin origin then
    .ok { st with storage := ⟨some new_scripts, some data_checkpoint⟩ }
  else .error .BadOrigin

/-- The dispatch of a call made by `origin`. -/
def dispatch (origin : RawOrigin AccountId) :
    Call T Recipient MainChainScripts → State Recipient MainChainScripts →
      Except DispatchError (State Recipient MainChainScripts)
  | .handle_transfers transfers data_checkpoint => handle_transfers T origin transfers data_checkpoint
  | .set_main_chain_scripts new_scripts data_checkpoint =>
    set_main_chain_scripts T origin new_scripts data_checkpoint

/-- What a call can do: the inherent, from the `None` origin, hands its transfers on and stores
its checkpoint; the governance origin sets scripts and checkpoint. -/
theorem dispatch_eq_ok {origin : RawOrigin AccountId} {call : Call T Recipient MainChainScripts}
    {st st' : State Recipient MainChainScripts} (h : dispatch T origin call st = .ok st') :
    (origin = .none ∧ ∃ transfers data_checkpoint,
      call = .handle_transfers transfers data_checkpoint ∧
      st' = ⟨{ st.storage with DataCheckpoint := some data_checkpoint },
        st.handled ++ transfers.val⟩) ∨
    (T.GovernanceOrigin origin = true ∧ ∃ new_scripts data_checkpoint,
      call = .set_main_chain_scripts new_scripts data_checkpoint ∧
      st' = { st with storage := ⟨some new_scripts, some data_checkpoint⟩ }) := by
  cases call with
  | handle_transfers transfers data_checkpoint =>
    cases origin with
    | none =>
      cases h
      exact .inl ⟨rfl, transfers, data_checkpoint, rfl, rfl⟩
    | root => cases h
    | signed who => cases h
  | set_main_chain_scripts new_scripts data_checkpoint =>
    simp only [dispatch, set_main_chain_scripts] at h
    split at h
    · cases h
      exact .inr ⟨‹_›, new_scripts, data_checkpoint, rfl, rfl⟩
    · cases h

/-- A call from an origin that is neither `None` nor the governance's fails. -/
theorem dispatch_of_origin {origin : RawOrigin AccountId} (hnone : origin ≠ .none)
    (hgov : T.GovernanceOrigin origin = false) (call : Call T Recipient MainChainScripts)
    (st : State Recipient MainChainScripts) : ∃ e, dispatch T origin call st = .error e := by
  cases h : dispatch T origin call st with
  | error e => exact ⟨e, rfl⟩
  | ok st' =>
    rcases dispatch_eq_ok T h with ⟨rfl, -⟩ | ⟨hg, -⟩
    · exact absurd rfl hnone
    · rw [hgov] at hg
      cases hg

/-! ## The inherent -/

/-- `ProvideInherent::create_inherent`, from the bridge's entry of the inherent data. The outer
`None` is the panic of `expect` on more transfers than `MaxTransfersPerBlock`. -/
def create_inherent (data : Option (TokenBridgeTransfersV1 Recipient)) :
    Option (Option (Call T Recipient MainChainScripts)) :=
  match data with
  | none => some none
  | some data =>
    if h : data.transfers.length ≤ T.MaxTransfersPerBlock.toNat then
      some (some (.handle_transfers ⟨data.transfers, h⟩ data.data_checkpoint))
    else none

/-- `ProvideInherent::check_inherent`; the outer `None` is a panic of `create_inherent`. -/
def check_inherent [DecidableEq Recipient] [DecidableEq MainChainScripts]
    (call : Call T Recipient MainChainScripts) (data : Option (TokenBridgeTransfersV1 Recipient)) :
    Option (Except InherentError Unit) :=
  (create_inherent T data).map fun
    | none => .error .InherentNotExpected
    | some expected_call => if call ≠ expected_call then .error .IncorrectInherent else .ok ()

/-- `ProvideInherent::is_inherent` -/
def is_inherent : Call T Recipient MainChainScripts → Bool
  | .handle_transfers .. => true
  | .set_main_chain_scripts .. => false

/-- `ProvideInherent::is_inherent_required` -/
def is_inherent_required (data : Option (TokenBridgeTransfersV1 Recipient)) :
    Except InherentError (Option InherentError) :=
  match data with
  | none => .ok none
  | some _ => .ok (some .InherentRequired)

/-- Within the bound, the inherent hands on the data's transfers and checkpoint. -/
theorem create_inherent_of_length_le {data : TokenBridgeTransfersV1 Recipient}
    (h : data.transfers.length ≤ T.MaxTransfersPerBlock.toNat) :
    (create_inherent T (some data) : Option (Option (Call T Recipient MainChainScripts))) =
      some (some (.handle_transfers ⟨data.transfers, h⟩ data.data_checkpoint)) := by
  simp [create_inherent, h]

/-! ## The runtime API -/

/-- `get_main_chain_scripts` -/
def get_main_chain_scripts (storage : Storage MainChainScripts) : Option MainChainScripts :=
  storage.MainChainScriptsConfiguration

/-- `get_max_transfers_per_block` -/
def get_max_transfers_per_block : UInt32 := T.MaxTransfersPerBlock

/-- `get_data_checkpoint` -/
def get_data_checkpoint (storage : Storage MainChainScripts) : Option BridgeDataCheckpoint :=
  storage.DataCheckpoint

/-- `TokenBridgeIDPRuntimeApi` of the demo runtime at a block: version 1 of the API, answered by
the pallet's getters on the block's storage. -/
def runtimeApi (storage : Storage MainChainScripts) : TokenBridgeIDPRuntimeApi MainChainScripts where
  api_version := some 1
  get_main_chain_scripts := get_main_chain_scripts storage
  get_max_transfers_per_block := get_max_transfers_per_block T
  get_last_data_checkpoint := get_data_checkpoint storage

/-! ## The chain -/

/-- A block as the bridge sees it: the main chain block its McHash inherent references, and its
extrinsics after the inherents, each with its origin. -/
structure BridgeBlock (Recipient MainChainScripts : Type) where
  mc_hash : McBlockHash
  extrinsics : List (RawOrigin AccountId × Call T Recipient MainChainScripts)

/-- An extrinsic of a block: a failed call is in the block, and leaves the storage as it was,
since dispatch is transactional. -/
def applyExtrinsic (st : State Recipient MainChainScripts)
    (xt : RawOrigin AccountId × Call T Recipient MainChainScripts) :
    State Recipient MainChainScripts :=
  match dispatch T xt.1 xt.2 st with
  | .ok st' => st'
  | .error _ => st

/-- The inherent of a block, with the `None` origin: a failing inherent makes the block
invalid. -/
def applyInherent (call : Option (Call T Recipient MainChainScripts))
    (st : State Recipient MainChainScripts) : Option (State Recipient MainChainScripts) :=
  match call with
  | none => some st
  | some call => (dispatch T .none call st).toOption

/-- One block produced on the state of its parent: the node builds the provider from the
runtime API at the parent, the call `create_inherent` makes from the provider's data runs first,
then the block's other extrinsics. A block whose provider fails or whose inherent panics or fails
is not produced: `none`. -/
def applyBlock {E : Type} (data_source : TokenBridgeDataSource MainChainScripts Recipient E)
    (st : State Recipient MainChainScripts) (block : BridgeBlock T Recipient MainChainScripts) :
    Option (State Recipient MainChainScripts) := do
  let idp ← (TokenBridgeInherentDataProvider.new (runtimeApi T st.storage) block.mc_hash
    data_source).toOption
  let call ← create_inherent T idp.provide_inherent_data
  let st ← applyInherent T call st
  return block.extrinsics.foldl (applyExtrinsic T) st

/-- The node's db-sync data source as a `TokenBridgeDataSource`. -/
def dbSyncDataSource (db : DbSync MainChainScripts)
    (recipient_try_from : List UInt8 → Option Recipient) :
    TokenBridgeDataSource MainChainScripts Recipient DataSourceError where
  get_transfers main_chain_scripts data_checkpoint max_transfers current_mc_block_hash :=
    TokenBridgeDataSourceImpl.get_transfers db recipient_try_from main_chain_scripts
      data_checkpoint max_transfers.toNat current_mc_block_hash

/-- Extrinsics from origins that are neither `None` nor the governance's change nothing. -/
theorem foldl_applyExtrinsic_of_origins :
    ∀ (xts : List (RawOrigin AccountId × Call T Recipient MainChainScripts))
      (st : State Recipient MainChainScripts),
      (∀ xt ∈ xts, xt.1 ≠ .none ∧ T.GovernanceOrigin xt.1 = false) →
      xts.foldl (applyExtrinsic T) st = st
  | [], _, _ => rfl
  | xt :: xts, st, h => by
    obtain ⟨e, he⟩ := dispatch_of_origin T (h xt List.mem_cons_self).1
      (h xt List.mem_cons_self).2 xt.2 st
    have hxt : applyExtrinsic T st xt = st := by simp only [applyExtrinsic, he]
    rw [List.foldl_cons, hxt]
    exact foldl_applyExtrinsic_of_origins xts st fun xt' h' => h xt' (List.mem_cons_of_mem xt h')

/-- The inherent the block makes from data within the bound hands its transfers on. -/
theorem applyBlock_of_new {E : Type} {data_source : TokenBridgeDataSource MainChainScripts Recipient E}
    {st : State Recipient MainChainScripts} {block : BridgeBlock T Recipient MainChainScripts}
    {data : TokenBridgeTransfersV1 Recipient}
    (hnew : TokenBridgeInherentDataProvider.new (runtimeApi T st.storage) block.mc_hash
      data_source = .ok (.ActiveV1 data))
    (hlen : data.transfers.length ≤ T.MaxTransfersPerBlock.toNat) :
    applyBlock T data_source st block = some (block.extrinsics.foldl (applyExtrinsic T)
      ⟨{ st.storage with DataCheckpoint := some data.data_checkpoint },
        st.handled ++ data.transfers⟩) := by
  simp only [applyBlock, hnew, Except.toOption, TokenBridgeInherentDataProvider.provide_inherent_data,
    create_inherent_of_length_le T hlen, Option.bind_eq_bind, Option.bind_some, Option.pure_def,
    applyInherent]
  rfl

section DbSync

variable {T} (db : DbSync MainChainScripts) (recipient_try_from : List UInt8 → Option Recipient)

/-- The pallet holds the scripts `s` and a checkpoint that db-sync resolves to `c`. -/
structure Configured (s : MainChainScripts) (c : ResolvedBridgeDataCheckpoint)
    (storage : Storage MainChainScripts) : Prop where
  scripts : storage.MainChainScriptsConfiguration = some s
  checkpoint : ∃ data_checkpoint, storage.DataCheckpoint = some data_checkpoint ∧
    resolve_checkpoint db data_checkpoint = .ok c

/-- The main chain block of `a` is no later than that of `b`, as db-sync numbers them. -/
def McBlockLE (a b : BridgeBlock T Recipient MainChainScripts) : Prop :=
  ∀ number_a number_b, db.get_block_by_hash a.mc_hash = some number_a →
    db.get_block_by_hash b.mc_hash = some number_b → number_a.toNat ≤ number_b.toNat

/-- The step lemma: a block on a configured pallet, referencing a main chain block db-sync
knows, hands on the transfers of the UTXOs of one query after the checkpoint and up to that
block, and stores the checkpoint after them. -/
theorem applyBlock_dbSync {s : MainChainScripts} {c : ResolvedBridgeDataCheckpoint}
    {st : State Recipient MainChainScripts} (hconf : Configured db s c st.storage)
    {block : BridgeBlock T Recipient MainChainScripts} {number : UInt32}
    (hb : db.get_block_by_hash block.mc_hash = some number)
    (hext : ∀ xt ∈ block.extrinsics, xt.1 ≠ .none ∧ T.GovernanceOrigin xt.1 = false) :
    applyBlock T (dbSyncDataSource db recipient_try_from) st block =
      some ⟨{ st.storage with DataCheckpoint := some (new_checkpoint
          (get_bridge_utxos_tx db s c number.toNat (some T.MaxTransfersPerBlock.toNat))
          T.MaxTransfersPerBlock.toNat number) },
        st.handled ++ (get_bridge_utxos_tx db s c number.toNat
          (some T.MaxTransfersPerBlock.toNat)).filterMap (utxo_to_transfer recipient_try_from)⟩ := by
  obtain ⟨hs, data_checkpoint, hdc, hr⟩ := hconf
  have hget : (dbSyncDataSource db recipient_try_from).get_transfers s data_checkpoint
      (runtimeApi T st.storage).get_max_transfers_per_block block.mc_hash =
      .ok ((get_bridge_utxos_tx db s c number.toNat (some T.MaxTransfersPerBlock.toNat)).filterMap
          (utxo_to_transfer recipient_try_from),
        new_checkpoint (get_bridge_utxos_tx db s c number.toNat (some T.MaxTransfersPerBlock.toNat))
          T.MaxTransfersPerBlock.toNat number) := by
    simp only [dbSyncDataSource, runtimeApi, get_max_transfers_per_block,
      TokenBridgeDataSourceImpl.get_transfers_eq_map, TokenBridgeDataSourceImpl.get_utxos, hb, hr,
      bind, Except.bind, pure, Except.pure, Except.map]
  have hnew := TokenBridgeInherentDataProvider.new_v1_eq_ok hs hdc hget
  rw [← TokenBridgeInherentDataProvider.new_of_api_version_one rfl] at hnew
  -- the query takes at most `MaxTransfersPerBlock` UTXOs, so `expect` does not panic
  have hlen : ((get_bridge_utxos_tx db s c number.toNat
      (some T.MaxTransfersPerBlock.toNat)).filterMap (utxo_to_transfer recipient_try_from)).length ≤
        T.MaxTransfersPerBlock.toNat := by
    refine (List.length_filterMap_le _ _).trans ?_
    rw [get_bridge_utxos_tx_some]
    exact List.length_take_le _ _
  rw [applyBlock_of_new T hnew hlen, foldl_applyExtrinsic_of_origins T _ _ hext]

theorem McBlockLE.refl (b : BridgeBlock T Recipient MainChainScripts) : McBlockLE db b b :=
  fun number_a number_b ha hb => by
    rw [ha, Option.some.injEq] at hb
    rw [hb]

/-- The run lemma: along blocks whose extrinsics change nothing, whose main chain blocks db-sync
knows, do not decrease and are no earlier than the checkpoint's, every block is produced, and
the handler gets, in order, the transfers of the UTXOs after the first checkpoint and up to the
last. The last is no later than the last block's main chain block. -/
theorem runAll_applyBlock_dbSync (hmax : 1 ≤ T.MaxTransfersPerBlock.toNat) (s : MainChainScripts) :
    ∀ (blocks : List (BridgeBlock T Recipient MainChainScripts))
      (st : State Recipient MainChainScripts) (c : ResolvedBridgeDataCheckpoint),
      Configured db s c st.storage →
      (∀ b ∈ blocks, ∀ xt ∈ b.extrinsics, xt.1 ≠ .none ∧ T.GovernanceOrigin xt.1 = false) →
      (∀ b ∈ blocks, (db.get_block_by_hash b.mc_hash).isSome) →
      blocks.Pairwise (McBlockLE db) →
      (∀ b ∈ blocks, ∀ number, db.get_block_by_hash b.mc_hash = some number →
        c.get_block_number ≤ number.toNat) →
      ∃ st' c', runAll (applyBlock T (dbSyncDataSource db recipient_try_from)) st blocks =
          some st' ∧ Configured db s c' st'.storage ∧
        st'.handled = st.handled ++ ((sortedUtxos db s).filter
          (fun utxo => c.after utxo && !c'.after utxo)).filterMap
            (utxo_to_transfer recipient_try_from) ∧
        (∀ utxo, c'.after utxo → c.after utxo) ∧ (blocks = [] → c' = c) ∧
        ∀ b ∈ blocks.getLast?, ∀ number, db.get_block_by_hash b.mc_hash = some number →
          c'.get_block_number ≤ number.toNat
  | [], st, c, hconf, _, _, _, _ =>
    ⟨st, c, rfl, hconf, by simp, fun _ h => h, fun _ => rfl, by simp⟩
  | b :: bs, st, c, hconf, hext, hknown, hmono, hstart => by
    rw [List.pairwise_cons] at hmono
    obtain ⟨number, hb⟩ := Option.isSome_iff_exists.mp (hknown b List.mem_cons_self)
    have hle := hstart b List.mem_cons_self number hb
    obtain ⟨c₁, hc₁, hbatch, hle₁, hsub₁⟩ := batch_eq_filter db s hmax number hle
    have hstep := applyBlock_dbSync db recipient_try_from hconf hb (hext b List.mem_cons_self)
    -- after the block the pallet holds the batch's checkpoint, no later than the later blocks
    have hconf₁ : Configured db s c₁ { st.storage with DataCheckpoint := some (new_checkpoint
        (get_bridge_utxos_tx db s c number.toNat (some T.MaxTransfersPerBlock.toNat))
        T.MaxTransfersPerBlock.toNat number) } := ⟨hconf.scripts, _, rfl, hc₁⟩
    have hstart₁ : ∀ b' ∈ bs, ∀ number', db.get_block_by_hash b'.mc_hash = some number' →
        c₁.get_block_number ≤ number'.toNat := fun b' hb' number' hb'' =>
      le_trans hle₁ (hmono.1 b' hb' number number' hb hb'')
    obtain ⟨st', c', hrun, hconf', hhandled, hsub', hnil', hlast'⟩ :=
      runAll_applyBlock_dbSync hmax s bs ⟨_, st.handled ++ (get_bridge_utxos_tx db s c number.toNat
        (some T.MaxTransfersPerBlock.toNat)).filterMap (utxo_to_transfer recipient_try_from)⟩ c₁
        hconf₁
        (fun b' hb' => hext b' (List.mem_cons_of_mem b hb'))
        (fun b' hb' => hknown b' (List.mem_cons_of_mem b hb')) hmono.2 hstart₁
    refine ⟨st', c', ?_, hconf', ?_, fun utxo h => hsub₁ utxo (hsub' utxo h), nofun, ?_⟩
    · rw [runAll_cons, hstep, Option.bind_some]
      exact hrun
    · -- the block's batch and the later ones meet at the batch's checkpoint
      rw [hhandled, hbatch, List.append_assoc, ← List.filterMap_append,
        filter_diff_append (sortedUtxos_strictlySorted db s)
          (fun _ _ hab => after_of_key_le c₁ (le_of_lt hab)) hsub₁ hsub']
    · cases bs with
      | nil =>
        rw [hnil' rfl, List.getLast?_singleton]
        intro b' hb' number' hb''
        rw [Option.mem_some_iff] at hb'
        subst hb'
        rw [hb, Option.some.injEq] at hb''
        rw [← hb'']
        exact hle₁
      | cons b' bs' =>
        rw [List.getLast?_cons_cons]
        exact hlast'

/-- With `MaxTransfersPerBlock` zero the query takes no UTXO, and the checkpoint after the empty
batch is the main chain block: the block hands nothing on and stores its main chain block. -/
theorem applyBlock_dbSync_of_max_zero (hzero : T.MaxTransfersPerBlock = 0) {s : MainChainScripts}
    {c : ResolvedBridgeDataCheckpoint} {st : State Recipient MainChainScripts}
    (hconf : Configured db s c st.storage) {block : BridgeBlock T Recipient MainChainScripts}
    {number : UInt32} (hb : db.get_block_by_hash block.mc_hash = some number)
    (hext : ∀ xt ∈ block.extrinsics, xt.1 ≠ .none ∧ T.GovernanceOrigin xt.1 = false) :
    applyBlock T (dbSyncDataSource db recipient_try_from) st block =
      some ⟨{ st.storage with DataCheckpoint := some (.Block number) }, st.handled⟩ := by
  rw [applyBlock_dbSync db recipient_try_from hconf hb hext, hzero, get_bridge_utxos_tx_some]
  simp [new_checkpoint]

end DbSync

/-- Without room for a transfer nothing is ever handled, yet nothing waits: with
`MaxTransfersPerBlock` zero, from a pallet configured with scripts and a checkpoint db-sync
resolves, along blocks whose main chain blocks db-sync knows and whose extrinsics come from
neither the `None` nor the governance origin, every block is produced, the handler is never
called, and the pallet ends with the last block's main chain block as its checkpoint, past every
transfer UTXO up to it. -/
theorem bridge_skips_every_transfer_without_room (T : Config AccountId)
    (db : DbSync MainChainScripts) (recipient_try_from : List UInt8 → Option Recipient)
    (hzero : T.MaxTransfersPerBlock = 0) (s : MainChainScripts)
    (blocks : List (BridgeBlock T Recipient MainChainScripts))
    (hext : ∀ b ∈ blocks, ∀ xt ∈ b.extrinsics, xt.1 ≠ .none ∧ T.GovernanceOrigin xt.1 = false)
    (hknown : ∀ b ∈ blocks, (db.get_block_by_hash b.mc_hash).isSome)
    (st : State Recipient MainChainScripts) (c : ResolvedBridgeDataCheckpoint)
    (hconf : Configured db s c st.storage) :
    ∃ st', runAll (applyBlock T (dbSyncDataSource db recipient_try_from)) st blocks = some st' ∧
      st'.handled = st.handled ∧
      ∀ b ∈ blocks.getLast?, ∀ number, db.get_block_by_hash b.mc_hash = some number →
        st'.storage.DataCheckpoint = some (.Block number) ∧
        ∀ utxo ∈ db.bridge_utxos s, utxo.block_number ≤ number.toNat →
          (ResolvedBridgeDataCheckpoint.Block number.toNat).after utxo = false := by
  -- the invariant: the pallet stays configured, at some checkpoint
  induction blocks generalizing st c with
  | nil => exact ⟨st, rfl, rfl, by simp⟩
  | cons b bs ih =>
    obtain ⟨number, hb⟩ := Option.isSome_iff_exists.mp (hknown b List.mem_cons_self)
    have hstep := applyBlock_dbSync_of_max_zero db recipient_try_from hzero hconf hb
      (hext b List.mem_cons_self)
    obtain ⟨st', hrun, hhandled, hlast⟩ := ih
      (fun b' hb' => hext b' (List.mem_cons_of_mem b hb'))
      (fun b' hb' => hknown b' (List.mem_cons_of_mem b hb'))
      ⟨{ st.storage with DataCheckpoint := some (.Block number) }, st.handled⟩
      (.Block number.toNat) ⟨hconf.scripts, .Block number, rfl, rfl⟩
    refine ⟨st', by rw [runAll_cons, hstep, Option.bind_some]; exact hrun, hhandled, ?_⟩
    cases bs with
    | nil =>
      -- the run ends with this block
      rw [List.getLast?_singleton]
      intro b' hb' number' hb''
      rw [Option.mem_some_iff] at hb'
      subst hb'
      rw [hb, Option.some.injEq] at hb''
      subst hb''
      simp only [runAll_nil, Option.some.injEq] at hrun
      subst hrun
      refine ⟨rfl, fun utxo _ hle => ?_⟩
      simpa [ResolvedBridgeDataCheckpoint.after] using hle
    | cons b' bs' =>
      rw [List.getLast?_cons_cons]
      exact hlast

/-- Every transfer is handled once: from the genesis configuration with scripts and an initial
UTXO that db-sync resolves, with room for a transfer a block, along blocks whose extrinsics come
from neither the `None` nor the governance origin, whose main chain blocks db-sync knows and do
not decrease, the first no earlier than the initial UTXO's, every block is produced; the pallet
ends with a checkpoint no later than the last main chain block, and the handler has been called,
in order, once for each transfer UTXO after the initial UTXO and up to that checkpoint. -/
theorem bridge_handles_each_transfer_once (T : Config AccountId) (db : DbSync MainChainScripts)
    (recipient_try_from : List UInt8 → Option Recipient) (hmax : 1 ≤ T.MaxTransfersPerBlock.toNat)
    (config : GenesisConfig MainChainScripts) (s : MainChainScripts) (initial_utxo : UtxoId)
    (c₀ : ResolvedBridgeDataCheckpoint) (hs : config.main_chain_scripts = some s)
    (hinitial : config.initial_checkpoint = some initial_utxo)
    (hr : resolve_checkpoint db (.Utxo initial_utxo) = .ok c₀)
    (blocks : List (BridgeBlock T Recipient MainChainScripts))
    (hext : ∀ b ∈ blocks, ∀ xt ∈ b.extrinsics, xt.1 ≠ .none ∧ T.GovernanceOrigin xt.1 = false)
    (hknown : ∀ b ∈ blocks, (db.get_block_by_hash b.mc_hash).isSome)
    (hmono : blocks.Pairwise (McBlockLE db))
    (hfirst : ∀ b ∈ blocks.head?, ∀ number, db.get_block_by_hash b.mc_hash = some number →
      c₀.get_block_number ≤ number.toNat) :
    ∃ st c_last, runAll (applyBlock T (dbSyncDataSource db recipient_try_from))
        (State.genesis config) blocks = some st ∧
      (∃ data_checkpoint, st.storage.DataCheckpoint = some data_checkpoint ∧
        resolve_checkpoint db data_checkpoint = .ok c_last) ∧
      st.handled = ((sortedUtxos db s).filter
        (fun utxo => c₀.after utxo && !c_last.after utxo)).filterMap
          (utxo_to_transfer recipient_try_from) ∧
      ∀ b ∈ blocks.getLast?, ∀ number, db.get_block_by_hash b.mc_hash = some number →
        c_last.get_block_number ≤ number.toNat := by
  have hconf : Configured db s c₀ (State.genesis config : State Recipient MainChainScripts).storage :=
    ⟨hs, .Utxo initial_utxo, by simp [State.genesis, GenesisConfig.build, hinitial], hr⟩
  -- the first block bounds the later ones from below
  have hstart : ∀ b ∈ blocks, ∀ number, db.get_block_by_hash b.mc_hash = some number →
      c₀.get_block_number ≤ number.toNat := by
    cases blocks with
    | nil => nofun
    | cons first rest =>
      rw [List.pairwise_cons] at hmono
      obtain ⟨number₀, h₀⟩ := Option.isSome_iff_exists.mp (hknown first List.mem_cons_self)
      have hle₀ := hfirst first rfl number₀ h₀
      intro b hb number hnumber
      rcases List.mem_cons.mp hb with rfl | hb
      · exact hfirst b rfl number hnumber
      · exact le_trans hle₀ (hmono.1 b hb number₀ number h₀ hnumber)
  obtain ⟨st, c_last, hrun, hconf', hhandled, -, -, hlast⟩ :=
    runAll_applyBlock_dbSync db recipient_try_from hmax s blocks _ c₀ hconf hext hknown hmono hstart
  exact ⟨st, c_last, hrun, hconf'.checkpoint, by simpa [State.genesis] using hhandled, hlast⟩

/-- A bound of one transfer a block, with no governance origin. -/
def oneTransferConfig : Config Unit := ⟨fun _ => false, 1⟩

/-- Two blocks that reference the main chain block 2 of the two-block ledger, with no other
extrinsic. -/
def twoBridgeBlocks (T : Config Unit) : List (BridgeBlock T (List UInt8) Unit) :=
  [⟨hashOf 9, []⟩, ⟨hashOf 9, []⟩]

theorem twoBridgeBlocks_known (T : Config Unit) :
    ∀ b ∈ twoBridgeBlocks T, (twoBlockDb.get_block_by_hash b.mc_hash).isSome := by
  simp only [twoBridgeBlocks, List.mem_cons, List.not_mem_nil, or_false, forall_eq_or_imp,
    forall_eq]
  exact ⟨rfl, rfl⟩

theorem twoBridgeBlocks_extrinsics (T : Config Unit) :
    ∀ b ∈ twoBridgeBlocks T, ∀ xt ∈ b.extrinsics, xt.1 ≠ .none ∧ T.GovernanceOrigin xt.1 = false := by
  simp [twoBridgeBlocks]

theorem bridge_handles_each_transfer_once_two_blocks :
    1 ≤ oneTransferConfig.MaxTransfersPerBlock.toNat ∧
      resolve_checkpoint twoBlockDb (.Utxo (tokenUtxo 1 0).utxo_id) = .ok (.Utxo 1 0 0) ∧
      (twoBridgeBlocks oneTransferConfig).Pairwise (McBlockLE twoBlockDb) ∧
      ∃ st c_last, runAll (applyBlock oneTransferConfig (dbSyncDataSource twoBlockDb some))
          (State.genesis ⟨some (), some (tokenUtxo 1 0).utxo_id⟩)
          (twoBridgeBlocks oneTransferConfig) = some st ∧
        (∃ data_checkpoint, st.storage.DataCheckpoint = some data_checkpoint ∧
          resolve_checkpoint twoBlockDb data_checkpoint = .ok c_last) ∧
        st.handled = ((sortedUtxos twoBlockDb ()).filter
          (fun utxo => (ResolvedBridgeDataCheckpoint.Utxo 1 0 0).after utxo &&
            !c_last.after utxo)).filterMap (utxo_to_transfer some) ∧
        ∀ b ∈ (twoBridgeBlocks oneTransferConfig).getLast?, ∀ number,
          twoBlockDb.get_block_by_hash b.mc_hash = some number →
          c_last.get_block_number ≤ number.toNat := by
  have hmono : (twoBridgeBlocks oneTransferConfig).Pairwise (McBlockLE twoBlockDb) :=
    List.pairwise_pair.mpr (McBlockLE.refl twoBlockDb _)
  have hr : resolve_checkpoint twoBlockDb (.Utxo (tokenUtxo 1 0).utxo_id) = .ok (.Utxo 1 0 0) :=
    rfl
  -- both blocks reference block 2, after the initial UTXO's block 1
  have hfirst : ∀ b ∈ (twoBridgeBlocks oneTransferConfig).head?, ∀ number,
      twoBlockDb.get_block_by_hash b.mc_hash = some number →
      (ResolvedBridgeDataCheckpoint.Utxo 1 0 0).get_block_number ≤ number.toNat := by
    intro b hb number hnumber
    simp only [twoBridgeBlocks, List.head?_cons, Option.mem_some_iff] at hb
    subst hb
    have h2 : twoBlockDb.get_block_by_hash (hashOf 9) = some 2 := rfl
    rw [h2, Option.some.injEq] at hnumber
    subst hnumber
    decide
  refine ⟨by decide, hr, hmono, ?_⟩
  exact bridge_handles_each_transfer_once oneTransferConfig twoBlockDb some (by decide)
    ⟨some (), some (tokenUtxo 1 0).utxo_id⟩ () _ _ rfl rfl hr (twoBridgeBlocks oneTransferConfig)
    (twoBridgeBlocks_extrinsics oneTransferConfig) (twoBridgeBlocks_known oneTransferConfig)
    hmono hfirst

/-- A bound of zero transfers a block, with no governance origin. -/
def zeroTransferConfig : Config Unit := ⟨fun _ => false, 0⟩

theorem bridge_skips_every_transfer_without_room_two_blocks :
    zeroTransferConfig.MaxTransfersPerBlock = 0 ∧
      Configured twoBlockDb () (.Block 0) (⟨some (), some (.Block 0)⟩ : Storage Unit) ∧
      ∃ st', runAll (applyBlock zeroTransferConfig (dbSyncDataSource twoBlockDb some))
          ⟨⟨some (), some (.Block 0)⟩, []⟩ (twoBridgeBlocks zeroTransferConfig) = some st' ∧
        st'.handled = [] ∧
        ∀ b ∈ (twoBridgeBlocks zeroTransferConfig).getLast?, ∀ number,
          twoBlockDb.get_block_by_hash b.mc_hash = some number →
          st'.storage.DataCheckpoint = some (.Block number) ∧
          ∀ utxo ∈ twoBlockDb.bridge_utxos (), utxo.block_number ≤ number.toNat →
            (ResolvedBridgeDataCheckpoint.Block number.toNat).after utxo = false := by
  have hconf : Configured twoBlockDb () (.Block 0) (⟨some (), some (.Block 0)⟩ : Storage Unit) :=
    ⟨rfl, .Block 0, rfl, rfl⟩
  refine ⟨rfl, hconf, ?_⟩
  exact bridge_skips_every_transfer_without_room zeroTransferConfig twoBlockDb some rfl ()
    (twoBridgeBlocks zeroTransferConfig) (twoBridgeBlocks_extrinsics zeroTransferConfig)
    (twoBridgeBlocks_known zeroTransferConfig) _ _ hconf

end pallet_partner_chains_bridge
