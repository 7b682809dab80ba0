-- The cached bridge data source against the uncached one. A cache holds the
-- UTXOs of a range of blocks exactly as the query gives them; a query it
-- admits lies inside that range, so skipping up to the checkpoint and taking
-- up to `to_block` there gives what the query gives. The one query it
-- admits outside its range is a UTXO checkpoint of block 0: the cache never
-- loads block 0. From any other checkpoint, along any run, each call gives
-- what the uncached data source gives, and the batches of a run follow each
-- other without gap or overlap.
import PartnerChains.Bridge.DataSource
import PartnerChains.Lib.Runs

set_option autoImplicit false

namespace partner_chains_db_sync_data_sources.bridge

open sidechain_domain sp_partner_chains_bridge partner_chains.list_order partner_chains.runs

variable {MainChainScripts : Type} (db : DbSync MainChainScripts)

/-! ## The query as a filter -/

/-- The UTXOs of the scripts in the query's order. -/
def sortedUtxos (s : MainChainScripts) : List BridgeUtxo :=
  (db.bridge_utxos s).mergeSort (keyLE BridgeUtxo.ordering_key)

/-- The rows the query selects: at most `to_block`, after the checkpoint. -/
def window (checkpoint : ResolvedBridgeDataCheckpoint) (to_block : Nat) (utxo : BridgeUtxo) :
    Bool :=
  decide (utxo.block_number ≤ to_block) && checkpoint.after utxo

theorem sortedUtxos_strictlySorted (s : MainChainScripts) :
    StrictlySorted BridgeUtxo.ordering_key (sortedUtxos db s) :=
  strictlySorted_mergeSort (db.keys_nodup s)

theorem mem_sortedUtxos {s : MainChainScripts} {utxo : BridgeUtxo} :
    utxo ∈ sortedUtxos db s ↔ utxo ∈ db.bridge_utxos s := by
  simp [sortedUtxos, List.mem_mergeSort]

/-- A ledger already in the query's order is its own sort. -/
theorem sortedUtxos_eq_self {s : MainChainScripts}
    (h : StrictlySorted BridgeUtxo.ordering_key (db.bridge_utxos s)) :
    sortedUtxos db s = db.bridge_utxos s :=
  eq_of_strictlySorted (sortedUtxos_strictlySorted db s) h fun _ => mem_sortedUtxos db

theorem get_bridge_utxos_tx_none (s : MainChainScripts) (c : ResolvedBridgeDataCheckpoint)
    (to_block : Nat) :
    get_bridge_utxos_tx db s c to_block none = (sortedUtxos db s).filter (window c to_block) := by
  rw [get_bridge_utxos_tx, sortedUtxos, filter_mergeSort (db.keys_nodup s)]
  rfl

theorem get_bridge_utxos_tx_some (s : MainChainScripts) (c : ResolvedBridgeDataCheckpoint)
    (to_block max_utxos : Nat) :
    get_bridge_utxos_tx db s c to_block (some max_utxos) =
      ((sortedUtxos db s).filter (window c to_block)).take max_utxos := by
  rw [get_bridge_utxos_tx, sortedUtxos, filter_mergeSort (db.keys_nodup s)]
  rfl

/-! ## The order of the keys -/

theorem block_le_of_key_le {a b : BridgeUtxo} (h : a.ordering_key ≤ b.ordering_key) :
    a.block_number ≤ b.block_number :=
  Prod.Lex.monotone_fst _ _ h

/-- What is after a checkpoint is closed upward in the order of the keys. -/
theorem after_of_key_le (c : ResolvedBridgeDataCheckpoint) {a b : BridgeUtxo}
    (h : a.ordering_key ≤ b.ordering_key) (ha : c.after a) : c.after b := by
  cases c with
  | Block number =>
    have hblock := block_le_of_key_le h
    simp only [ResolvedBridgeDataCheckpoint.after, decide_eq_true_eq] at ha ⊢
    omega
  | Utxo block_number tx_ix tx_out_ix =>
    simp only [ResolvedBridgeDataCheckpoint.after, decide_eq_true_eq] at ha ⊢
    exact lt_of_lt_of_le ha h

/-- A UTXO after a checkpoint is in its block or a later one. -/
theorem get_block_number_le_of_after {c : ResolvedBridgeDataCheckpoint} {utxo : BridgeUtxo}
    (h : c.after utxo) : c.get_block_number ≤ utxo.block_number := by
  cases c with
  | Block number =>
    simp only [ResolvedBridgeDataCheckpoint.after, decide_eq_true_eq] at h
    exact le_of_lt h
  | Utxo block_number tx_ix tx_out_ix =>
    simp only [ResolvedBridgeDataCheckpoint.after, decide_eq_true_eq] at h
    exact Prod.Lex.monotone_fst _ _ (le_of_lt h)

/-- On the sorted UTXOs, skipping those up to a checkpoint and taking those up to a block keeps
what is after the one and up to the other. -/
theorem takeWhile_dropWhile_filter {l : List BridgeUtxo}
    (hl : StrictlySorted BridgeUtxo.ordering_key l) (c : ResolvedBridgeDataCheckpoint)
    (to_block : Nat) :
    (l.dropWhile (fun utxo => !c.after utxo)).takeWhile
        (fun utxo => decide (to_block ≥ utxo.block_number)) =
      l.filter fun utxo => c.after utxo && decide (utxo.block_number ≤ to_block) := by
  have hup : l.Pairwise fun a b => c.after a → c.after b :=
    hl.imp fun hab => after_of_key_le c (le_of_lt hab)
  rw [dropWhile_not_eq_filter hup]
  have hdown : (l.filter c.after).Pairwise fun a b =>
      decide (to_block ≥ b.block_number) → decide (to_block ≥ a.block_number) :=
    (hl.filter c.after).imp fun hab hb => by
      have := block_le_of_key_le (le_of_lt hab)
      simp only [decide_eq_true_eq] at hb ⊢
      omega
  rw [takeWhile_eq_filter hdown, List.filter_filter]
  simp only [ge_iff_le, Bool.and_comm]

/-! ## The cache -/

/-- What a cache holds: the query's UTXOs from its first block to its last, for its scripts (a
range from block 0 holds them from block 1), and ids of UTXOs with their own positions. -/
structure CacheInv (cache : TokenUtxoCache MainChainScripts) : Prop where
  transfers_eq : cache.transfers =
    get_bridge_utxos_tx db cache.mc_scripts (.Block (cache.start_block - 1)) cache.end_block none
  utxo_cache_mem : ∀ entry ∈ cache.utxo_cache,
    entry.1 = entry.2.utxo_id ∧ ∃ s, entry.2 ∈ db.bridge_utxos s

/-- No UTXO is at or before block 0 and after it. -/
theorem get_bridge_utxos_tx_block_zero (s : MainChainScripts) :
    get_bridge_utxos_tx db s (.Block 0) 0 none = [] := by
  rw [get_bridge_utxos_tx_none, List.filter_eq_nil_iff]
  intro utxo _
  simp only [window, ResolvedBridgeDataCheckpoint.after, Bool.and_eq_true, decide_eq_true_eq]
  omega

theorem cacheInv_new [Inhabited MainChainScripts] : CacheInv db TokenUtxoCache.new :=
  ⟨(get_bridge_utxos_tx_block_zero db _).symm, fun _ h => nomatch h⟩

theorem CacheInv.set_mc_scripts [DecidableEq MainChainScripts]
    {cache : TokenUtxoCache MainChainScripts} (h : CacheInv db cache) (s : MainChainScripts) :
    CacheInv db (cache.set_mc_scripts s) := by
  unfold TokenUtxoCache.set_mc_scripts
  split
  · -- other scripts: an empty range from block 0
    exact ⟨(get_bridge_utxos_tx_block_zero db s).symm, h.utxo_cache_mem⟩
  · exact h

@[simp] theorem fill_cache_mc_scripts (cache_lookahead : Nat)
    (cache : TokenUtxoCache MainChainScripts) (s : MainChainScripts)
    (c : ResolvedBridgeDataCheckpoint) (to_block : Nat) :
    (fill_cache db cache_lookahead cache s c to_block).mc_scripts = cache.mc_scripts := rfl

/-- Filling the cache loads the query's UTXOs of its new range. -/
theorem cacheInv_fill_cache (cache_lookahead : Nat) {cache : TokenUtxoCache MainChainScripts}
    (s : MainChainScripts) (hs : cache.mc_scripts = s) (c : ResolvedBridgeDataCheckpoint)
    (to_block : Nat) : CacheInv db (fill_cache db cache_lookahead cache s c to_block) := by
  refine ⟨by simp [fill_cache, TokenUtxoCache.set_cached_transfers, hs], ?_⟩
  intro entry hentry
  simp only [fill_cache, TokenUtxoCache.set_cached_transfers, List.mem_map] at hentry
  obtain ⟨utxo, hutxo, rfl⟩ := hentry
  rw [get_bridge_utxos_tx_none, List.mem_filter, mem_sortedUtxos] at hutxo
  exact ⟨rfl, s, hutxo.1⟩

/-- A checkpoint that the cache admits after a fill: a block checkpoint of a `u32`, or a UTXO
checkpoint after block 0. -/
def SafeCheckpoint : ResolvedBridgeDataCheckpoint → Prop
  | .Block number => number ≤ u32_max
  | .Utxo block_number _ _ => block_number ≠ 0

/-- Under a safe checkpoint, every UTXO after it is in block 1 or later. -/
theorem one_le_block_of_after {c : ResolvedBridgeDataCheckpoint} (hc : SafeCheckpoint c)
    {utxo : BridgeUtxo} (h : c.after utxo) : 1 ≤ utxo.block_number := by
  have hle := get_block_number_le_of_after h
  cases c with
  | Block number =>
    simp only [ResolvedBridgeDataCheckpoint.after, decide_eq_true_eq] at h
    omega
  | Utxo block_number tx_ix tx_out_ix =>
    simp only [SafeCheckpoint, ResolvedBridgeDataCheckpoint.get_block_number] at hc hle
    omega

/-- A range that reaches `to_block`, and starts early enough that everything after the
checkpoint is in it, serves what the query gives. -/
theorem served_eq_of_cover {cache : TokenUtxoCache MainChainScripts} (h : CacheInv db cache)
    (c : ResolvedBridgeDataCheckpoint) {to_block : Nat} (max_transfers : Nat)
    (hend : to_block ≤ cache.end_block)
    (hcover : ∀ utxo : BridgeUtxo, c.after utxo → cache.start_block - 1 < utxo.block_number) :
    ((cache.transfers.dropWhile fun utxo => !c.after utxo).takeWhile
        (fun utxo => decide (to_block ≥ utxo.block_number))).take max_transfers =
      get_bridge_utxos_tx db cache.mc_scripts c to_block (some max_transfers) := by
  rw [h.transfers_eq, get_bridge_utxos_tx_none, get_bridge_utxos_tx_some,
    takeWhile_dropWhile_filter ((sortedUtxos_strictlySorted db _).filter _), List.filter_filter]
  congr 1
  refine List.filter_congr fun utxo _ => ?_
  -- what is after the checkpoint and up to `to_block` is in the cached range
  by_cases hafter : c.after utxo
  · have hstart := hcover utxo hafter
    by_cases hto : utxo.block_number ≤ to_block
    · simp [window, ResolvedBridgeDataCheckpoint.after, hto, hstart, le_trans hto hend]
    · simp [window, hafter, hto]
  · simp [window, hafter]

/-- What the cache serves is what the query gives, for a safe checkpoint. -/
theorem serve_from_cache_eq {cache : TokenUtxoCache MainChainScripts} (h : CacheInv db cache)
    {c : ResolvedBridgeDataCheckpoint} (hc : SafeCheckpoint c) {to_block max_transfers : Nat}
    {utxos : List BridgeUtxo}
    (hserve : cache.serve_from_cache c to_block max_transfers = some utxos) :
    utxos = get_bridge_utxos_tx db cache.mc_scripts c to_block (some max_transfers) := by
  unfold TokenUtxoCache.serve_from_cache at hserve
  split at hserve
  · cases hserve
  rename_i hend
  cases c with
  | Block number =>
    simp only at hserve
    split at hserve
    · rename_i hadmit
      have hskip : (fun utxo : BridgeUtxo => decide (number ≥ utxo.block_number)) =
          fun utxo => !(ResolvedBridgeDataCheckpoint.Block number).after utxo := by
        funext utxo
        rw [ResolvedBridgeDataCheckpoint.after, ← decide_not]
        exact decide_eq_decide.mpr not_lt.symm
      simp only [Option.map_some, Option.some.injEq] at hserve
      rw [← hserve, hskip]
      refine served_eq_of_cover db h _ _ (by omega) fun utxo hafter => ?_
      simp only [ResolvedBridgeDataCheckpoint.after, decide_eq_true_eq] at hafter
      simp only [saturating_add] at hadmit
      omega
    · cases hserve
  | Utxo block_number tx_ix tx_out_ix =>
    simp only at hserve
    split at hserve
    · rename_i hadmit
      have hskip : (fun utxo : BridgeUtxo =>
          decide (utxo.ordering_key ≤ toLex (block_number, toLex (tx_ix, tx_out_ix.toNat)))) =
          fun utxo => !(ResolvedBridgeDataCheckpoint.Utxo block_number tx_ix tx_out_ix).after utxo := by
        funext utxo
        rw [ResolvedBridgeDataCheckpoint.after, ← decide_not]
        exact decide_eq_decide.mpr not_lt.symm
      simp only [Option.map_some, Option.some.injEq] at hserve
      rw [← hserve, hskip]
      refine served_eq_of_cover db h _ _ (by omega) fun utxo hafter => ?_
      -- the checkpoint's block is not 0, so the range's first block is no later than it
      have hblock := get_block_number_le_of_after hafter
      have hone := one_le_block_of_after hc hafter
      simp only [ResolvedBridgeDataCheckpoint.get_block_number] at hblock
      omega
    · cases hserve

/-- A block up to which the cache can be filled: no later than the latest stable block, where
db-sync knows one. -/
def Stable (to_block : Nat) : Prop :=
  ∀ latest, db.latest_stable_block = some latest → to_block ≤ latest.toNat

/-- A call whose block, where db-sync knows it, is stable. -/
def StableCall (current_mc_block_hash : FixedBytes 32) : Prop :=
  ∀ block, db.get_block_by_hash current_mc_block_hash = some block → Stable db block.toNat

/-- Where the lookahead and the stable tip allow, a cache filled from a safe checkpoint serves the
query. -/
theorem serve_from_cache_fill_cache_isSome (cache_lookahead : Nat)
    (cache : TokenUtxoCache MainChainScripts) (s : MainChainScripts) {c : ResolvedBridgeDataCheckpoint}
    (hc : SafeCheckpoint c) {to_block : Nat} (ht : to_block ≤ u32_max) (hstable : Stable db to_block)
    (max_transfers : Nat) :
    ((fill_cache db cache_lookahead cache s c to_block).serve_from_cache c to_block
      max_transfers).isSome := by
  -- the filled range reaches `to_block`
  have hend : to_block ≤ (fill_cache db cache_lookahead cache s c to_block).end_block := by
    simp only [fill_cache, TokenUtxoCache.set_cached_transfers, saturating_add]
    cases hlatest : db.latest_stable_block with
    | none => simp only [Option.map_none, Option.getD_none]; omega
    | some latest =>
      have := hstable latest hlatest
      simp only [Option.map_some, Option.getD_some]
      omega
  -- and starts at the checkpoint's block
  have hstart : (fill_cache db cache_lookahead cache s c to_block).start_block =
      c.get_block_number := rfl
  unfold TokenUtxoCache.serve_from_cache
  rw [if_neg (by omega), hstart]
  cases c with
  | Block number =>
    simp only [SafeCheckpoint] at hc
    have hadmit : number ≤ saturating_add number 1 := by simp only [saturating_add]; omega
    simp [ResolvedBridgeDataCheckpoint.get_block_number, hadmit]
  | Utxo block_number tx_ix tx_out_ix =>
    simp [ResolvedBridgeDataCheckpoint.get_block_number]

/-- Served from the cache or after a fill, the UTXOs are what the query gives, and the cache keeps
its invariant. -/
theorem serve_or_fill_eq (cache_lookahead : Nat) {cache : TokenUtxoCache MainChainScripts}
    (h : CacheInv db cache) {s : MainChainScripts} (hs : cache.mc_scripts = s)
    {c : ResolvedBridgeDataCheckpoint} (hc : SafeCheckpoint c) {to_block : Nat}
    (ht : to_block ≤ u32_max) (hstable : Stable db to_block) (max_transfers : Nat) :
    (serve_or_fill db cache_lookahead cache s c to_block max_transfers).1 =
        some (get_bridge_utxos_tx db s c to_block (some max_transfers)) ∧
      CacheInv db (serve_or_fill db cache_lookahead cache s c to_block max_transfers).2 := by
  unfold serve_or_fill
  cases hserve : cache.serve_from_cache c to_block max_transfers with
  | some utxos => exact ⟨by rw [serve_from_cache_eq db h hc hserve, hs], h⟩
  | none =>
    have hfill := cacheInv_fill_cache db cache_lookahead s hs c to_block
    obtain ⟨utxos, hutxos⟩ := Option.isSome_iff_exists.mp
      (serve_from_cache_fill_cache_isSome db cache_lookahead cache s hc ht hstable max_transfers)
    refine ⟨?_, hfill⟩
    dsimp only
    rw [hutxos, serve_from_cache_eq db hfill hc hutxos, fill_cache_mc_scripts, hs]

/-! ## Resolving checkpoints -/

/-- A checkpoint resolved from the cache's map is a UTXO of the ledger, at its own position. -/
theorem CacheInv.try_resolve_checkpoint_from_cache {cache : TokenUtxoCache MainChainScripts}
    (h : CacheInv db cache) {utxo_id : UtxoId} {checkpoint : ResolvedBridgeDataCheckpoint}
    (hfind : cache.try_resolve_checkpoint_from_cache utxo_id = some checkpoint) :
    ∃ s, ∃ utxo ∈ db.bridge_utxos s, utxo.utxo_id = utxo_id ∧
      checkpoint = .Utxo utxo.block_number utxo.tx_ix utxo.utxo_ix := by
  simp only [TokenUtxoCache.try_resolve_checkpoint_from_cache, Option.map_eq_some_iff] at hfind
  obtain ⟨⟨id, utxo⟩, hentry, rfl⟩ := hfind
  have hmem := List.mem_reverse.mp (List.mem_of_find?_eq_some hentry)
  have hkey : id = utxo_id := by simpa using List.find?_some hentry
  obtain ⟨hid, s, hs⟩ := h.utxo_cache_mem _ hmem
  exact ⟨s, utxo, hs, hid ▸ hkey, rfl⟩

/-- The cached data source resolves a checkpoint where db-sync does; only the error differs. -/
theorem resolve_data_checkpoint_toOption {cache : TokenUtxoCache MainChainScripts}
    (h : CacheInv db cache) (data_checkpoint : BridgeDataCheckpoint) :
    (resolve_data_checkpoint db cache data_checkpoint).toOption =
      (resolve_checkpoint db data_checkpoint).toOption := by
  cases data_checkpoint with
  | Block number => rfl
  | Utxo utxo_id =>
    simp only [resolve_data_checkpoint, resolve_checkpoint]
    cases hfind : cache.try_resolve_checkpoint_from_cache utxo_id with
    | some checkpoint =>
      obtain ⟨s, utxo, hs, rfl, rfl⟩ := h.try_resolve_checkpoint_from_cache db hfind
      -- the map and db-sync agree on where a UTXO of the ledger is
      have hinfo := db.block_info_eq s utxo hs
      simp only [BridgeUtxo.utxo_id] at hinfo ⊢
      rw [hinfo]
    | none =>
      cases db.get_block_info_for_utxo utxo_id.tx_hash <;> rfl

/-- The checkpoints from which the cache serves what the query gives: a block, or a UTXO that
db-sync does not place in block 0. -/
def SafeDataCheckpoint : BridgeDataCheckpoint → Prop
  | .Block _ => True
  | .Utxo utxo =>
    ∀ info, db.get_block_info_for_utxo utxo.tx_hash = some info → info.block_number ≠ 0

theorem safeCheckpoint_of_resolve {data_checkpoint : BridgeDataCheckpoint}
    (hc : SafeDataCheckpoint db data_checkpoint) {checkpoint : ResolvedBridgeDataCheckpoint}
    (h : resolve_checkpoint db data_checkpoint = .ok checkpoint) : SafeCheckpoint checkpoint := by
  cases data_checkpoint with
  | Block number =>
    cases h
    have := number.toNat_lt
    simp only [SafeCheckpoint, u32_max]
    omega
  | Utxo utxo_id =>
    simp only [resolve_checkpoint] at h
    split at h
    · rename_i hinfo
      cases h
      exact hc _ hinfo
    · cases h

/-! ## One call -/

theorem TokenUtxoCache.set_mc_scripts_mc_scripts [DecidableEq MainChainScripts]
    (cache : TokenUtxoCache MainChainScripts) (s : MainChainScripts) :
    (cache.set_mc_scripts s).mc_scripts = s := by
  unfold TokenUtxoCache.set_mc_scripts
  split
  · rfl
  · rename_i hs
    exact not_not.mp hs

/-- One call of the cached data source gives what the uncached one gives, and keeps the cache's
invariant, also when it fails. -/
theorem get_utxos_refines [DecidableEq MainChainScripts] (cache_lookahead : Nat)
    {cache : TokenUtxoCache MainChainScripts} (h : CacheInv db cache) (s : MainChainScripts)
    {data_checkpoint : BridgeDataCheckpoint} (hc : SafeDataCheckpoint db data_checkpoint)
    (max_transfers : Nat) {current_mc_block_hash : FixedBytes 32}
    (hstable : StableCall db current_mc_block_hash) :
    (CachedTokenBridgeDataSourceImpl.get_utxos db cache_lookahead cache s data_checkpoint
        max_transfers current_mc_block_hash).1.toOption =
      (TokenBridgeDataSourceImpl.get_utxos db s data_checkpoint max_transfers
        current_mc_block_hash).toOption ∧
    CacheInv db (CachedTokenBridgeDataSourceImpl.get_utxos db cache_lookahead cache s
      data_checkpoint max_transfers current_mc_block_hash).2 := by
  have h' := h.set_mc_scripts db s
  have hres := resolve_data_checkpoint_toOption db h' data_checkpoint
  unfold CachedTokenBridgeDataSourceImpl.get_utxos TokenBridgeDataSourceImpl.get_utxos
  cases hb : db.get_block_by_hash current_mc_block_hash with
  | none =>
    dsimp only
    exact ⟨rfl, h'⟩
  | some block =>
    cases hr : resolve_checkpoint db data_checkpoint with
    | error e =>
      -- neither resolves the checkpoint
      cases hr' : resolve_data_checkpoint db (cache.set_mc_scripts s) data_checkpoint with
      | error e' =>
        dsimp only
        simp only [hr']
        exact ⟨rfl, h'⟩
      | ok checkpoint => simp [hr, hr', Except.toOption] at hres
    | ok checkpoint =>
      have hr' : resolve_data_checkpoint db (cache.set_mc_scripts s) data_checkpoint =
          .ok checkpoint := by
        cases hr'' : resolve_data_checkpoint db (cache.set_mc_scripts s) data_checkpoint <;>
          simp_all [Except.toOption]
      have ht : block.toNat ≤ u32_max := by
        have := block.toNat_lt
        simp only [u32_max]
        omega
      obtain ⟨hutxos, hinv⟩ := serve_or_fill_eq db cache_lookahead h'
        (TokenUtxoCache.set_mc_scripts_mc_scripts cache s) (safeCheckpoint_of_resolve db hc hr) ht
        (hstable block hb) max_transfers
      simp only [hr']
      rw [hutxos]
      exact ⟨rfl, hinv⟩

/-! ## The uncached data source -/

theorem mem_get_bridge_utxos_tx {s : MainChainScripts} {c : ResolvedBridgeDataCheckpoint}
    {to_block max_utxos : Nat} {utxo : BridgeUtxo}
    (h : utxo ∈ get_bridge_utxos_tx db s c to_block (some max_utxos)) :
    utxo ∈ db.bridge_utxos s ∧ c.after utxo ∧ utxo.block_number ≤ to_block := by
  rw [get_bridge_utxos_tx_some] at h
  have h' := List.mem_filter.mp (List.mem_of_mem_take h)
  simp only [window, Bool.and_eq_true, decide_eq_true_eq] at h'
  exact ⟨(mem_sortedUtxos db).mp h'.1, h'.2.2, h'.2.1⟩

/-- The only way a call of the uncached data source succeeds. -/
theorem TokenBridgeDataSourceImpl.get_utxos_eq_ok {s : MainChainScripts}
    {data_checkpoint : BridgeDataCheckpoint} {max_transfers : Nat}
    {current_mc_block_hash : FixedBytes 32} {utxos : List BridgeUtxo}
    {checkpoint : BridgeDataCheckpoint}
    (h : TokenBridgeDataSourceImpl.get_utxos db s data_checkpoint max_transfers
      current_mc_block_hash = .ok (utxos, checkpoint)) :
    ∃ block resolved, db.get_block_by_hash current_mc_block_hash = some block ∧
      resolve_checkpoint db data_checkpoint = .ok resolved ∧
      utxos = get_bridge_utxos_tx db s resolved block.toNat (some max_transfers) ∧
      checkpoint = new_checkpoint utxos max_transfers block := by
  unfold TokenBridgeDataSourceImpl.get_utxos at h
  cases hb : db.get_block_by_hash current_mc_block_hash with
  | none => simp [hb] at h
  | some block =>
    cases hr : resolve_checkpoint db data_checkpoint with
    | error e => simp [hb, hr] at h
    | ok resolved =>
      simp only [hb, hr] at h
      cases h
      exact ⟨block, resolved, rfl, rfl, rfl, rfl⟩

/-- After a safe checkpoint, the checkpoint a call returns is safe: a block, or a UTXO after the
safe checkpoint, so in block 1 or later. -/
theorem safe_new_checkpoint {c : ResolvedBridgeDataCheckpoint} (hc : SafeCheckpoint c)
    (s : MainChainScripts) (max_transfers : Nat) (block : UInt32) :
    SafeDataCheckpoint db (new_checkpoint
      (get_bridge_utxos_tx db s c block.toNat (some max_transfers)) max_transfers block) := by
  unfold new_checkpoint
  split
  · rename_i utxo hlast
    split
    · intro info hinfo
      obtain ⟨hmem, hafter, -⟩ := mem_get_bridge_utxos_tx db (List.mem_of_getLast? hlast)
      rw [BridgeUtxo.utxo_id, db.block_info_eq s utxo hmem, Option.some.injEq] at hinfo
      have := one_le_block_of_after hc hafter
      rw [← hinfo]
      simp only
      omega
    · trivial
  · trivial

theorem safe_of_get_utxos {s : MainChainScripts} {data_checkpoint : BridgeDataCheckpoint}
    (hc : SafeDataCheckpoint db data_checkpoint) {max_transfers : Nat}
    {current_mc_block_hash : FixedBytes 32} {utxos : List BridgeUtxo}
    {checkpoint : BridgeDataCheckpoint}
    (h : TokenBridgeDataSourceImpl.get_utxos db s data_checkpoint max_transfers
      current_mc_block_hash = .ok (utxos, checkpoint)) :
    SafeDataCheckpoint db checkpoint := by
  obtain ⟨block, resolved, -, hr, rfl, rfl⟩ := TokenBridgeDataSourceImpl.get_utxos_eq_ok db h
  exact safe_new_checkpoint db (safeCheckpoint_of_resolve db hc hr) s max_transfers block

/-! ## Runs of calls -/

/-- The arguments of a call of `get_transfers` other than the checkpoint. -/
structure BridgeCall (MainChainScripts : Type) where
  main_chain_scripts : MainChainScripts
  max_transfers : Nat
  current_mc_block_hash : FixedBytes 32

/-- What a call passes to the next one: the checkpoint it returned, or after an error the checkpoint
it was called from. -/
def next_checkpoint {X : Type} (data_checkpoint : BridgeDataCheckpoint) :
    Except DataSourceError (X × BridgeDataCheckpoint) →
      Option (X × BridgeDataCheckpoint) × BridgeDataCheckpoint
  | .ok result => (some result, result.2)
  | .error _ => (none, data_checkpoint)

/-- A call on the uncached data source, from the checkpoint the previous call passed on. -/
def uncachedStep {X : Type}
    (get : MainChainScripts → BridgeDataCheckpoint → Nat → FixedBytes 32 →
      Except DataSourceError (X × BridgeDataCheckpoint))
    (data_checkpoint : BridgeDataCheckpoint) (call : BridgeCall MainChainScripts) :
    Option (X × BridgeDataCheckpoint) × BridgeDataCheckpoint :=
  next_checkpoint data_checkpoint
    (get call.main_chain_scripts data_checkpoint call.max_transfers call.current_mc_block_hash)

/-- A call on the cached data source, from the checkpoint the previous call passed on and with the
cache it left. -/
def cachedStep {X : Type}
    (get : TokenUtxoCache MainChainScripts → MainChainScripts → BridgeDataCheckpoint → Nat →
      FixedBytes 32 → Except DataSourceError (X × BridgeDataCheckpoint) ×
        TokenUtxoCache MainChainScripts)
    (state : TokenUtxoCache MainChainScripts × BridgeDataCheckpoint)
    (call : BridgeCall MainChainScripts) :
    Option (X × BridgeDataCheckpoint) × (TokenUtxoCache MainChainScripts × BridgeDataCheckpoint) :=
  let (result, cache) :=
    get state.1 call.main_chain_scripts state.2 call.max_transfers call.current_mc_block_hash
  let (out, data_checkpoint) := next_checkpoint state.2 result
  (out, (cache, data_checkpoint))

theorem next_checkpoint_eq {X : Type} (data_checkpoint : BridgeDataCheckpoint)
    (result : Except DataSourceError (X × BridgeDataCheckpoint)) :
    next_checkpoint data_checkpoint result =
      (result.toOption, (result.toOption.map Prod.snd).getD data_checkpoint) := by
  cases result <;> rfl

/-- Changing what a call returns besides the checkpoint changes nothing else. -/
theorem next_checkpoint_map {X Y : Type} (f : X → Y) (data_checkpoint : BridgeDataCheckpoint)
    (result : Except DataSourceError (X × BridgeDataCheckpoint)) :
    next_checkpoint data_checkpoint (result.map fun r => (f r.1, r.2)) =
      ((next_checkpoint data_checkpoint result).1.map fun r => (f r.1, r.2),
        (next_checkpoint data_checkpoint result).2) := by
  cases result <;> rfl

theorem TokenBridgeDataSourceImpl.get_transfers_eq_map {RecipientAddress : Type}
    (recipient_try_from : List UInt8 → Option RecipientAddress) (s : MainChainScripts)
    (data_checkpoint : BridgeDataCheckpoint) (max_transfers : Nat)
    (current_mc_block_hash : FixedBytes 32) :
    TokenBridgeDataSourceImpl.get_transfers db recipient_try_from s data_checkpoint max_transfers
        current_mc_block_hash =
      (TokenBridgeDataSourceImpl.get_utxos db s data_checkpoint max_transfers
        current_mc_block_hash).map fun r => (r.1.filterMap (utxo_to_transfer recipient_try_from), r.2) := by
  unfold TokenBridgeDataSourceImpl.get_transfers
  cases TokenBridgeDataSourceImpl.get_utxos db s data_checkpoint max_transfers current_mc_block_hash
    <;> rfl

theorem CachedTokenBridgeDataSourceImpl.get_transfers_eq_map [DecidableEq MainChainScripts]
    {RecipientAddress : Type} (recipient_try_from : List UInt8 → Option RecipientAddress)
    (cache_lookahead : Nat) (cache : TokenUtxoCache MainChainScripts) (s : MainChainScripts)
    (data_checkpoint : BridgeDataCheckpoint) (max_transfers : Nat)
    (current_mc_block_hash : FixedBytes 32) :
    CachedTokenBridgeDataSourceImpl.get_transfers db recipient_try_from cache_lookahead cache s
        data_checkpoint max_transfers current_mc_block_hash =
      ((CachedTokenBridgeDataSourceImpl.get_utxos db cache_lookahead cache s data_checkpoint
          max_transfers current_mc_block_hash).1.map
          fun r => (r.1.filterMap (utxo_to_transfer recipient_try_from), r.2),
        (CachedTokenBridgeDataSourceImpl.get_utxos db cache_lookahead cache s data_checkpoint
          max_transfers current_mc_block_hash).2) := by
  unfold CachedTokenBridgeDataSourceImpl.get_transfers
  rcases CachedTokenBridgeDataSourceImpl.get_utxos db cache_lookahead cache s data_checkpoint
    max_transfers current_mc_block_hash with ⟨_ | ⟨utxos, checkpoint⟩, cache'⟩ <;> rfl

/-! ## Runs of the two data sources -/

/-- A state of a run of the cached data source against one of the uncached data source: the same
checkpoint, which is safe, and a cache that holds what the query gives. -/
def CachedRunInv (state : TokenUtxoCache MainChainScripts × BridgeDataCheckpoint)
    (data_checkpoint : BridgeDataCheckpoint) : Prop :=
  state.2 = data_checkpoint ∧ CacheInv db state.1 ∧ SafeDataCheckpoint db data_checkpoint

/-- The step lemma of the refinement: a call on a stable block gives the same result on both data
sources and keeps the states matched. -/
theorem cachedStep_get_utxos [DecidableEq MainChainScripts] (cache_lookahead : Nat)
    {state : TokenUtxoCache MainChainScripts × BridgeDataCheckpoint}
    {data_checkpoint : BridgeDataCheckpoint} (h : CachedRunInv db state data_checkpoint)
    {call : BridgeCall MainChainScripts} (hstable : StableCall db call.current_mc_block_hash) :
    (cachedStep (CachedTokenBridgeDataSourceImpl.get_utxos db cache_lookahead) state call).1 =
        (uncachedStep (TokenBridgeDataSourceImpl.get_utxos db) data_checkpoint call).1 ∧
      CachedRunInv db
        (cachedStep (CachedTokenBridgeDataSourceImpl.get_utxos db cache_lookahead) state call).2
        (uncachedStep (TokenBridgeDataSourceImpl.get_utxos db) data_checkpoint call).2 := by
  obtain ⟨hcheckpoint, hinv, hsafe⟩ := h
  obtain ⟨cache, checkpoint⟩ := state
  simp only at hcheckpoint hinv
  subst hcheckpoint
  obtain ⟨hout, hinv'⟩ := get_utxos_refines db cache_lookahead hinv call.main_chain_scripts hsafe
    call.max_transfers hstable
  simp only [cachedStep, uncachedStep, next_checkpoint_eq]
  rw [hout]
  refine ⟨rfl, rfl, hinv', ?_⟩
  -- the next checkpoint is safe: the one returned, or the same one after an error
  cases hget : TokenBridgeDataSourceImpl.get_utxos db call.main_chain_scripts checkpoint
    call.max_transfers call.current_mc_block_hash with
  | error e => exact hsafe
  | ok result => exact safe_of_get_utxos db hsafe hget

/-- The run lemma of the refinement: from a cache that holds what the query gives and a safe
checkpoint, every run of calls on stable blocks gives the same results on both data sources. -/
theorem transduce_get_utxos [DecidableEq MainChainScripts] (cache_lookahead : Nat)
    {cache : TokenUtxoCache MainChainScripts} (h : CacheInv db cache)
    {data_checkpoint : BridgeDataCheckpoint} (hsafe : SafeDataCheckpoint db data_checkpoint)
    (calls : List (BridgeCall MainChainScripts))
    (hstable : ∀ call ∈ calls, StableCall db call.current_mc_block_hash) :
    (transduce (cachedStep (CachedTokenBridgeDataSourceImpl.get_utxos db cache_lookahead))
        (cache, data_checkpoint) calls).1 =
      (transduce (uncachedStep (TokenBridgeDataSourceImpl.get_utxos db)) data_checkpoint calls).1 ∧
    CachedRunInv db
      (transduce (cachedStep (CachedTokenBridgeDataSourceImpl.get_utxos db cache_lookahead))
        (cache, data_checkpoint) calls).2
      (transduce (uncachedStep (TokenBridgeDataSourceImpl.get_utxos db)) data_checkpoint calls).2 := by
  have hstep : ∀ state checkpoint (call : BridgeCall MainChainScripts),
      CachedRunInv db state checkpoint → StableCall db call.current_mc_block_hash →
      (cachedStep (CachedTokenBridgeDataSourceImpl.get_utxos db cache_lookahead) state call).1 =
          (uncachedStep (TokenBridgeDataSourceImpl.get_utxos db) checkpoint call).1 ∧
        CachedRunInv db
          (cachedStep (CachedTokenBridgeDataSourceImpl.get_utxos db cache_lookahead) state call).2
          (uncachedStep (TokenBridgeDataSourceImpl.get_utxos db) checkpoint call).2 :=
    fun _ _ _ h hstable => cachedStep_get_utxos db cache_lookahead h hstable
  exact transduce_rel (CachedRunInv db) _ hstep calls _ _ ⟨rfl, h, hsafe⟩ hstable

/-! ## The batches of a run -/

/-- A UTXO in a later block than a checkpoint is after it. -/
theorem after_of_block_lt {c : ResolvedBridgeDataCheckpoint} {utxo : BridgeUtxo}
    (h : c.get_block_number < utxo.block_number) : c.after utxo := by
  cases c with
  | Block number =>
    simpa [ResolvedBridgeDataCheckpoint.after, ResolvedBridgeDataCheckpoint.get_block_number]
      using h
  | Utxo block_number tx_ix tx_out_ix =>
    simp only [ResolvedBridgeDataCheckpoint.get_block_number] at h
    simp [ResolvedBridgeDataCheckpoint.after, BridgeUtxo.ordering_key, Prod.Lex.toLex_lt_toLex, h]

/-- The checkpoint at a UTXO: what is after it in the order of the keys. -/
theorem after_utxo_of (last utxo : BridgeUtxo) :
    (ResolvedBridgeDataCheckpoint.Utxo last.block_number last.tx_ix last.utxo_ix).after utxo =
      decide (last.ordering_key < utxo.ordering_key) := rfl

/-- One batch of the uncached data source, from a checkpoint no later than the block: the UTXOs
after the checkpoint and up to the one the batch returns, which is no later than the block and
no earlier than the first. -/
theorem batch_eq_filter (s : MainChainScripts) {c : ResolvedBridgeDataCheckpoint}
    {max_transfers : Nat} (hm : 1 ≤ max_transfers) (block : UInt32)
    (hle : c.get_block_number ≤ block.toNat) :
    ∃ c', resolve_checkpoint db (new_checkpoint
        (get_bridge_utxos_tx db s c block.toNat (some max_transfers)) max_transfers block) =
          .ok c' ∧
      get_bridge_utxos_tx db s c block.toNat (some max_transfers) =
        (sortedUtxos db s).filter (fun utxo => c.after utxo && !c'.after utxo) ∧
      c'.get_block_number ≤ block.toNat ∧ ∀ utxo, c'.after utxo → c.after utxo := by
  have hsorted := (sortedUtxos_strictlySorted db s).filter (window c block.toNat)
  rw [get_bridge_utxos_tx_some]
  -- a batch that holds all the query's UTXOs ends at the block
  have hall : ((sortedUtxos db s).filter (window c block.toNat)).take max_transfers =
      (sortedUtxos db s).filter (window c block.toNat) →
      ∃ c', resolve_checkpoint db (.Block block) = .ok c' ∧
        ((sortedUtxos db s).filter (window c block.toNat)).take max_transfers =
          (sortedUtxos db s).filter (fun utxo => c.after utxo && !c'.after utxo) ∧
        c'.get_block_number ≤ block.toNat ∧ ∀ utxo, c'.after utxo → c.after utxo := by
    intro htake
    refine ⟨.Block block.toNat, rfl, htake.trans (List.filter_congr fun utxo _ => ?_), le_rfl,
      fun utxo hafter => after_of_block_lt (lt_of_le_of_lt hle ?_)⟩
    · have hblock : (ResolvedBridgeDataCheckpoint.Block block.toNat).after utxo =
          !decide (utxo.block_number ≤ block.toNat) := by
        rw [ResolvedBridgeDataCheckpoint.after, ← decide_not]
        exact decide_eq_decide.mpr not_le.symm
      rw [window, hblock, Bool.not_not, Bool.and_comm]
    · simpa [ResolvedBridgeDataCheckpoint.after] using hafter
  unfold new_checkpoint
  cases hlast : (((sortedUtxos db s).filter (window c block.toNat)).take max_transfers).getLast?
    with
  | none =>
    have hnil := List.getLast?_eq_none_iff.mp hlast
    have hempty : (sortedUtxos db s).filter (window c block.toNat) = [] := by
      rcases List.take_eq_nil_iff.mp hnil with h0 | h0
      · omega
      · exact h0
    exact hall (by rw [hempty, List.take_nil])
  | some last =>
    simp only
    split
    · -- a full batch ends at its last UTXO
      have hmem := List.mem_of_getLast? hlast
      rw [← get_bridge_utxos_tx_some] at hmem
      obtain ⟨hledger, hafter, hblock⟩ := mem_get_bridge_utxos_tx db hmem
      refine ⟨.Utxo last.block_number last.tx_ix last.utxo_ix, ?_, ?_, hblock, ?_⟩
      · simp [resolve_checkpoint, BridgeUtxo.utxo_id, db.block_info_eq s last hledger]
      · rw [take_eq_filter_le_last hsorted hlast, List.filter_filter]
        refine List.filter_congr fun utxo _ => ?_
        rw [after_utxo_of]
        by_cases hkey : utxo.ordering_key ≤ last.ordering_key
        · have := le_trans (block_le_of_key_le hkey) hblock
          simp [window, hkey, this]
        · have hlt : last.ordering_key < utxo.ordering_key := lt_of_not_ge hkey
          simp [hkey, hlt]
      · intro utxo hlater
        rw [after_utxo_of, decide_eq_true_eq] at hlater
        exact after_of_key_le c (le_of_lt hlater) hafter
    · -- a short batch holds all the query's UTXOs
      rename_i hshort
      apply hall
      apply List.take_of_length_le
      rw [List.length_take] at hshort
      omega

/-- The run lemma of the batches: along calls for one set of scripts, each for at least one
transfer, on blocks that do not decrease and are no earlier than the first checkpoint's, the
batches follow each other without gap or overlap. Together they are the UTXOs after the first
checkpoint and up to the last, which is no earlier. -/
theorem transduce_get_utxos_concat (s : MainChainScripts) :
    ∀ (calls : List (BridgeCall MainChainScripts)),
      (∀ call ∈ calls, call.main_chain_scripts = s) → (∀ call ∈ calls, 1 ≤ call.max_transfers) →
      calls.Pairwise (fun a b => ∀ block_a block_b,
        db.get_block_by_hash a.current_mc_block_hash = some block_a →
        db.get_block_by_hash b.current_mc_block_hash = some block_b →
        block_a.toNat ≤ block_b.toNat) →
      ∀ (data_checkpoint : BridgeDataCheckpoint) (c : ResolvedBridgeDataCheckpoint),
        resolve_checkpoint db data_checkpoint = .ok c →
        (∀ call ∈ calls, ∀ block, db.get_block_by_hash call.current_mc_block_hash = some block →
          c.get_block_number ≤ block.toNat) →
        ∃ c_last, resolve_checkpoint db (transduce (uncachedStep
            (TokenBridgeDataSourceImpl.get_utxos db)) data_checkpoint calls).2 = .ok c_last ∧
          ((transduce (uncachedStep (TokenBridgeDataSourceImpl.get_utxos db)) data_checkpoint
              calls).1.filterMap id).flatMap Prod.fst =
            (sortedUtxos db s).filter (fun utxo => c.after utxo && !c_last.after utxo) ∧
          ∀ utxo, c_last.after utxo → c.after utxo
  | [], _, _, _, _, c, hr, _ => ⟨c, hr, by simp, fun _ h => h⟩
  | call :: calls, hs, hm, hmono, data_checkpoint, c, hr, hstart => by
    rw [List.pairwise_cons] at hmono
    have hs' := fun call' hcall' => hs call' (List.mem_cons_of_mem call hcall')
    have hm' := fun call' hcall' => hm call' (List.mem_cons_of_mem call hcall')
    simp only [transduce_cons, uncachedStep]
    cases hget : TokenBridgeDataSourceImpl.get_utxos db call.main_chain_scripts data_checkpoint
      call.max_transfers call.current_mc_block_hash with
    | error e =>
      -- a failed call returns nothing and passes its checkpoint on
      obtain ⟨c_last, hlast, hconcat, hsub⟩ := transduce_get_utxos_concat s calls hs' hm' hmono.2
        data_checkpoint c hr fun call' hcall' => hstart call' (List.mem_cons_of_mem call hcall')
      exact ⟨c_last, hlast, by simpa [next_checkpoint] using hconcat, hsub⟩
    | ok result =>
      obtain ⟨utxos, checkpoint⟩ := result
      obtain ⟨block, resolved, hb, hr', rfl, rfl⟩ := TokenBridgeDataSourceImpl.get_utxos_eq_ok db hget
      rw [hr, Except.ok.injEq] at hr'
      subst hr'
      rw [hs call List.mem_cons_self]
      obtain ⟨c', hc', hbatch, hle', hsub'⟩ := batch_eq_filter db s (hm call List.mem_cons_self)
        block (hstart call List.mem_cons_self block hb)
      -- the later calls' blocks are no earlier than this one's
      have hstart' : ∀ call' ∈ calls, ∀ block', db.get_block_by_hash call'.current_mc_block_hash =
          some block' → c'.get_block_number ≤ block'.toNat := fun call' hcall' block' hb' =>
        le_trans hle' (hmono.1 call' hcall' block block' hb hb')
      obtain ⟨c_last, hlast, hconcat, hsub⟩ :=
        transduce_get_utxos_concat s calls hs' hm' hmono.2 _ c' hc' hstart'
      refine ⟨c_last, hlast, ?_, fun utxo h => hsub' utxo (hsub utxo h)⟩
      simp only [id] at hconcat
      simp only [next_checkpoint, List.filterMap_cons, id, List.flatMap_cons]
      rw [hconcat, hbatch]
      exact filter_diff_append (sortedUtxos_strictlySorted db s)
        (fun _ _ hab => after_of_key_le c' (le_of_lt hab)) hsub' hsub

/-! ## Transfers -/

theorem uncachedStep_get_transfers {RecipientAddress : Type}
    (recipient_try_from : List UInt8 → Option RecipientAddress) :
    uncachedStep (TokenBridgeDataSourceImpl.get_transfers db recipient_try_from) =
      fun data_checkpoint (call : BridgeCall MainChainScripts) =>
        ((uncachedStep (TokenBridgeDataSourceImpl.get_utxos db) data_checkpoint call).1.map
            fun r => (r.1.filterMap (utxo_to_transfer recipient_try_from), r.2),
          (uncachedStep (TokenBridgeDataSourceImpl.get_utxos db) data_checkpoint call).2) := by
  funext data_checkpoint call
  rw [uncachedStep, TokenBridgeDataSourceImpl.get_transfers_eq_map, next_checkpoint_map]
  rfl

theorem cachedStep_get_transfers [DecidableEq MainChainScripts] {RecipientAddress : Type}
    (recipient_try_from : List UInt8 → Option RecipientAddress) (cache_lookahead : Nat) :
    cachedStep (CachedTokenBridgeDataSourceImpl.get_transfers db recipient_try_from cache_lookahead) =
      fun state (call : BridgeCall MainChainScripts) =>
        ((cachedStep (CachedTokenBridgeDataSourceImpl.get_utxos db cache_lookahead) state call).1.map
            fun r => (r.1.filterMap (utxo_to_transfer recipient_try_from), r.2),
          (cachedStep (CachedTokenBridgeDataSourceImpl.get_utxos db cache_lookahead) state call).2) := by
  funext state call
  simp only [cachedStep, CachedTokenBridgeDataSourceImpl.get_transfers_eq_map, next_checkpoint_map]

/-- The cached bridge data source refines the uncached one. From a cache that holds what the query
gives (the new cache does) and a checkpoint that is a block or a UTXO outside block 0, every run of
`get_transfers` calls on stable blocks, each from the checkpoint the previous call returned, gives
the same transfers and checkpoints on both data sources. Along calls for one set of scripts, each
for at least one transfer, on blocks that do not decrease and are no earlier than the first
checkpoint's, the UTXOs of the batches are, each once and in the order of (block, transaction,
output), those of the ledger after the first checkpoint and up to the last one. -/
theorem cached_bridge_data_source_refines [DecidableEq MainChainScripts] {RecipientAddress : Type}
    (recipient_try_from : List UInt8 → Option RecipientAddress) (cache_lookahead : Nat)
    {cache : TokenUtxoCache MainChainScripts} (h : CacheInv db cache)
    {data_checkpoint : BridgeDataCheckpoint} (hsafe : SafeDataCheckpoint db data_checkpoint)
    (calls : List (BridgeCall MainChainScripts))
    (hstable : ∀ call ∈ calls, StableCall db call.current_mc_block_hash) :
    (transduce (cachedStep (CachedTokenBridgeDataSourceImpl.get_transfers db recipient_try_from
        cache_lookahead)) (cache, data_checkpoint) calls).1 =
      (transduce (uncachedStep (TokenBridgeDataSourceImpl.get_transfers db recipient_try_from))
        data_checkpoint calls).1 ∧
    ∀ (s : MainChainScripts) (c : ResolvedBridgeDataCheckpoint),
      (∀ call ∈ calls, call.main_chain_scripts = s) → (∀ call ∈ calls, 1 ≤ call.max_transfers) →
      calls.Pairwise (fun a b => ∀ block_a block_b,
        db.get_block_by_hash a.current_mc_block_hash = some block_a →
        db.get_block_by_hash b.current_mc_block_hash = some block_b →
        block_a.toNat ≤ block_b.toNat) →
      resolve_checkpoint db data_checkpoint = .ok c →
      (∀ call ∈ calls, ∀ block, db.get_block_by_hash call.current_mc_block_hash = some block →
        c.get_block_number ≤ block.toNat) →
      ∃ c_last, resolve_checkpoint db (transduce (cachedStep
          (CachedTokenBridgeDataSourceImpl.get_utxos db cache_lookahead)) (cache, data_checkpoint)
          calls).2.2 = .ok c_last ∧
        ((transduce (cachedStep (CachedTokenBridgeDataSourceImpl.get_utxos db cache_lookahead))
            (cache, data_checkpoint) calls).1.filterMap id).flatMap Prod.fst =
          (sortedUtxos db s).filter (fun utxo => c.after utxo && !c_last.after utxo) := by
  obtain ⟨hout, hend, -, -⟩ := transduce_get_utxos db cache_lookahead h hsafe calls hstable
  refine ⟨?_, ?_⟩
  · -- the transfers are the UTXOs' transfers, on both sides
    rw [cachedStep_get_transfers, uncachedStep_get_transfers, transduce_map, transduce_map, hout]
  · intro s c hs hm hmono hr hstart
    obtain ⟨c_last, hlast, hconcat, -⟩ :=
      transduce_get_utxos_concat db s calls hs hm hmono data_checkpoint c hr hstart
    exact ⟨c_last, hend ▸ hlast, hout ▸ hconcat⟩

/-- Thirty-two bytes equal to `b`: a transaction or block hash. -/
def hashOf (b : UInt8) : FixedBytes 32 := ⟨List.replicate 32 b, FixedBytes.length_replicate_32 b⟩

/-- A UTXO of one token, without datum, at output `utxo_ix` of the only transaction of a block,
whose hash is the block's number. -/
def tokenUtxo (block_number : Nat) (utxo_ix : UInt16) : BridgeUtxo :=
  ⟨block_number, 0, hashOf (UInt8.ofNat block_number), utxo_ix, 1, 0, none⟩

/-- A ledger of one UTXO in each of blocks 1 and 2, with block 2 known by the hash of 9 and no
stable tip. -/
def twoBlockDb : DbSync Unit where
  bridge_utxos _ := [tokenUtxo 1 0, tokenUtxo 2 0]
  get_block_info_for_utxo hash :=
    if hash = hashOf 1 then some ⟨1, 0⟩ else if hash = hashOf 2 then some ⟨2, 0⟩ else none
  get_block_by_hash hash := if hash = hashOf 9 then some 2 else none
  latest_stable_block := none
  keys_nodup _ := by simp [tokenUtxo, BridgeUtxo.ordering_key]
  block_info_eq _ utxo h := by
    simp only [List.mem_cons, List.not_mem_nil, or_false] at h
    rcases h with rfl | rfl <;> rfl

theorem cached_bridge_data_source_refines_two_blocks :
    CacheInv twoBlockDb TokenUtxoCache.new ∧ SafeDataCheckpoint twoBlockDb (.Block 0) ∧
      (∀ call ∈ [BridgeCall.mk () 1 (hashOf 9), BridgeCall.mk () 1 (hashOf 9)],
        StableCall twoBlockDb call.current_mc_block_hash) ∧
      ((transduce (cachedStep (CachedTokenBridgeDataSourceImpl.get_transfers twoBlockDb
          (fun bytes => some bytes) 0)) (TokenUtxoCache.new, .Block 0)
          [BridgeCall.mk () 1 (hashOf 9), BridgeCall.mk () 1 (hashOf 9)]).1 =
        (transduce (uncachedStep (TokenBridgeDataSourceImpl.get_transfers twoBlockDb
          (fun bytes => some bytes))) (.Block 0)
          [BridgeCall.mk () 1 (hashOf 9), BridgeCall.mk () 1 (hashOf 9)]).1 ∧
      ∀ (s : Unit) (c : ResolvedBridgeDataCheckpoint),
        (∀ call ∈ [BridgeCall.mk () 1 (hashOf 9), BridgeCall.mk () 1 (hashOf 9)],
          call.main_chain_scripts = s) →
        (∀ call ∈ [BridgeCall.mk () 1 (hashOf 9), BridgeCall.mk () 1 (hashOf 9)],
          1 ≤ call.max_transfers) →
        [BridgeCall.mk () 1 (hashOf 9), BridgeCall.mk () 1 (hashOf 9)].Pairwise
          (fun a b => ∀ block_a block_b,
            twoBlockDb.get_block_by_hash a.current_mc_block_hash = some block_a →
            twoBlockDb.get_block_by_hash b.current_mc_block_hash = some block_b →
            block_a.toNat ≤ block_b.toNat) →
        resolve_checkpoint twoBlockDb (.Block 0) = .ok c →
        (∀ call ∈ [BridgeCall.mk () 1 (hashOf 9), BridgeCall.mk () 1 (hashOf 9)], ∀ block,
          twoBlockDb.get_block_by_hash call.current_mc_block_hash = some block →
          c.get_block_number ≤ block.toNat) →
        ∃ c_last, resolve_checkpoint twoBlockDb (transduce (cachedStep
            (CachedTokenBridgeDataSourceImpl.get_utxos twoBlockDb 0)) (TokenUtxoCache.new, .Block 0)
            [BridgeCall.mk () 1 (hashOf 9), BridgeCall.mk () 1 (hashOf 9)]).2.2 = .ok c_last ∧
          ((transduce (cachedStep (CachedTokenBridgeDataSourceImpl.get_utxos twoBlockDb 0))
              (TokenUtxoCache.new, .Block 0)
              [BridgeCall.mk () 1 (hashOf 9), BridgeCall.mk () 1 (hashOf 9)]).1.filterMap
              id).flatMap Prod.fst =
            (sortedUtxos twoBlockDb s).filter
              (fun utxo => c.after utxo && !c_last.after utxo)) := by
  have hnew : CacheInv twoBlockDb TokenUtxoCache.new := cacheInv_new twoBlockDb
  have hstable : ∀ call ∈ [BridgeCall.mk () 1 (hashOf 9), BridgeCall.mk () 1 (hashOf 9)],
      StableCall twoBlockDb call.current_mc_block_hash := fun _ _ _ _ latest hlatest =>
    nomatch hlatest
  have hsafe : SafeDataCheckpoint twoBlockDb (.Block 0) := trivial
  exact ⟨hnew, hsafe, hstable, cached_bridge_data_source_refines twoBlockDb
    (fun bytes => some bytes) 0 hnew hsafe _ hstable⟩

/-- A ledger of two outputs of one transaction in block 0, known by the hash of 9, with no stable
tip. -/
def blockZeroDb : DbSync Unit where
  bridge_utxos _ := [tokenUtxo 0 0, tokenUtxo 0 1]
  get_block_info_for_utxo hash := if hash = hashOf 0 then some ⟨0, 0⟩ else none
  get_block_by_hash hash := if hash = hashOf 9 then some 0 else none
  latest_stable_block := none
  keys_nodup _ := by simp [tokenUtxo, BridgeUtxo.ordering_key]
  block_info_eq _ utxo h := by
    simp only [List.mem_cons, List.not_mem_nil, or_false] at h
    rcases h with rfl | rfl <;> rfl

/-- The ledger of `twoBlockDb`, with block 1 known as well, by the hash of 8. -/
def regressDb : DbSync Unit where
  bridge_utxos _ := [tokenUtxo 1 0, tokenUtxo 2 0]
  get_block_info_for_utxo hash :=
    if hash = hashOf 1 then some ⟨1, 0⟩ else if hash = hashOf 2 then some ⟨2, 0⟩ else none
  get_block_by_hash hash :=
    if hash = hashOf 8 then some 1 else if hash = hashOf 9 then some 2 else none
  latest_stable_block := none
  keys_nodup _ := by simp [tokenUtxo, BridgeUtxo.ordering_key]
  block_info_eq _ utxo h := by
    simp only [List.mem_cons, List.not_mem_nil, or_false] at h
    rcases h with rfl | rfl <;> rfl

/-- The cached data source loses a transfer after a UTXO checkpoint of block 0: the new cache admits
the checkpoint and serves its empty range, where the query gives the UTXO after it. The batches
of a run need not reach every UTXO up to its last block: one call for one transfer, on block 2,
returns the UTXO of block 1 only. And a call on a block earlier than the checkpoint's moves the
checkpoint back: from block 2, a call on block 1 returns block 1 as the checkpoint, and the next
call returns the UTXO of block 2 again, which the first checkpoint had passed. -/
theorem bridge_cache_block_zero_loses_transfer :
    (CachedTokenBridgeDataSourceImpl.get_transfers blockZeroDb (fun bytes => some bytes) 0
        TokenUtxoCache.new () (.Utxo (tokenUtxo 0 0).utxo_id) 1 (hashOf 9)).1 =
      .ok ([], .Block 0) ∧
    TokenBridgeDataSourceImpl.get_transfers blockZeroDb (fun bytes => some bytes) ()
        (.Utxo (tokenUtxo 0 0).utxo_id) 1 (hashOf 9) =
      .ok ([.InvalidTransfer 1 (tokenUtxo 0 1).utxo_id], .Utxo (tokenUtxo 0 1).utxo_id) ∧
    (transduce (cachedStep (CachedTokenBridgeDataSourceImpl.get_utxos twoBlockDb 0))
        (TokenUtxoCache.new, .Block 0) [BridgeCall.mk () 1 (hashOf 9)]).1 =
      [some ([tokenUtxo 1 0], .Utxo (tokenUtxo 1 0).utxo_id)] ∧
    (transduce (cachedStep (CachedTokenBridgeDataSourceImpl.get_utxos regressDb 0))
        (TokenUtxoCache.new, .Block 2) [BridgeCall.mk () 1 (hashOf 8), BridgeCall.mk () 1 (hashOf 9)]).1 =
      [some ([], .Block 1), some ([tokenUtxo 2 0], .Utxo (tokenUtxo 2 0).utxo_id)] ∧
    (ResolvedBridgeDataCheckpoint.Block 2).after (tokenUtxo 2 0) = false := by
  have hzero : sortedUtxos blockZeroDb () = [tokenUtxo 0 0, tokenUtxo 0 1] :=
    sortedUtxos_eq_self _ (by simp [StrictlySorted, blockZeroDb, tokenUtxo, BridgeUtxo.ordering_key,
      Prod.Lex.toLex_lt_toLex])
  have htwo : sortedUtxos twoBlockDb () = [tokenUtxo 1 0, tokenUtxo 2 0] :=
    sortedUtxos_eq_self _ (by simp [StrictlySorted, twoBlockDb, tokenUtxo, BridgeUtxo.ordering_key,
      Prod.Lex.toLex_lt_toLex])
  have hregress : sortedUtxos regressDb () = [tokenUtxo 1 0, tokenUtxo 2 0] :=
    sortedUtxos_eq_self _ (by simp [StrictlySorted, regressDb, tokenUtxo, BridgeUtxo.ordering_key,
      Prod.Lex.toLex_lt_toLex])
  refine ⟨rfl, ?_, ?_, ?_, rfl⟩
  · simp only [TokenBridgeDataSourceImpl.get_transfers_eq_map, TokenBridgeDataSourceImpl.get_utxos,
      get_bridge_utxos_tx_some, hzero]
    rfl
  · simp only [transduce_cons, transduce_nil, cachedStep, CachedTokenBridgeDataSourceImpl.get_utxos,
      serve_or_fill, fill_cache, get_bridge_utxos_tx_none, htwo]
    rfl
  · simp only [transduce_cons, transduce_nil, cachedStep, CachedTokenBridgeDataSourceImpl.get_utxos,
      serve_or_fill, fill_cache, get_bridge_utxos_tx_none, hregress]
    rfl

end partner_chains_db_sync_data_sources.bridge
