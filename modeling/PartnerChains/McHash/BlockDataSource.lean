-- The main chain blocks that db-sync gives the main chain reference hash
-- (toolkit/data-sources/db-sync, block/mod.rs). A block is stable for a
-- timestamp when it lies `security_parameter` blocks below db-sync's latest
-- block and its time lies in a window before the timestamp. Lookups by hash
-- go through a cache of stable blocks, filled from the block found. Between
-- two calls db-sync grows and may replace its unstable tip, but a stable
-- block stays: the cache then answers every call as db-sync itself does.
import Mathlib
import PartnerChains.MainchainEpoch
import PartnerChains.Domain
import PartnerChains.Lib.ListOrder
import PartnerChains.Lib.Runs

set_option autoImplicit false

namespace sidechain_domain

/-- `MainchainBlock`, with the fields that the main chain reference hash reads. -/
structure MainchainBlock where
  /-- `McBlockNumber(u32)` -/
  number : UInt32
  hash : McBlockHash
  /-- `McEpochNumber(u32)` -/
  epoch : UInt32
  deriving DecidableEq

end sidechain_domain

namespace partner_chains_db_sync_data_sources.block

open sidechain_domain partner_chains.list_order partner_chains.runs
open sidechain_domain.mainchain_epoch (MainchainEpochConfig saturating_add)

/-- `u32::saturating_sub` -/
def saturating_sub (a b : UInt32) : UInt32 := if b ≤ a then a - b else 0

theorem toNat_saturating_sub (a b : UInt32) : (saturating_sub a b).toNat = a.toNat - b.toNat := by
  unfold saturating_sub
  split
  · rename_i h
    rw [UInt32.toNat_sub_of_le a b h]
  · rename_i h
    rw [UInt32.le_iff_toNat_le] at h
    simp only [UInt32.toNat_zero]
    omega

theorem toNat_saturating_add (a b : UInt32) :
    (saturating_add a b).toNat = min (a.toNat + b.toNat) (2 ^ 32 - 1) := by
  unfold saturating_add
  split
  · rename_i h
    rw [UInt32.toNat_add, Nat.mod_eq_of_lt h]
    omega
  · rename_i h
    simp only [UInt32.reduceToNat]
    omega

/-! ## db-sync's `block` table -/

/-- `Block` (db_model.rs): a row of db-sync's `block` table, its `time` (a `NaiveDateTime`) in
milliseconds. -/
structure Block where
  /-- `BlockNumber(u32)` -/
  block_no : UInt32
  hash : McBlockHash
  /-- `EpochNumber(u32)` -/
  epoch_no : UInt32
  /-- `SlotNumber(u64)` -/
  slot_no : UInt64
  time : Int
  deriving DecidableEq

/-- `From<Block> for MainchainBlock` -/
def Block.into (b : Block) : MainchainBlock := ⟨b.block_no, b.hash, b.epoch_no⟩

/-- The rows of db-sync's `block` table that have a block number. No two share a hash. -/
structure BlockTable where
  blocks : List Block
  hashes_nodup : (blocks.map Block.hash).Nodup

namespace BlockTable

variable (db : BlockTable)

/-- `get_latest_block_info`: `ORDER BY block_no DESC LIMIT 1`. -/
def get_latest_block_info : Option Block := maxByKey (fun b => b.block_no.toNat) db.blocks

/-- `get_blocks_by_numbers`: the rows from `from_block_no` to `to_block_no`, `ORDER BY block_no
ASC`. -/
def get_blocks_by_numbers (from_block_no to_block_no : UInt32) : List Block :=
  (db.blocks.filter fun b => from_block_no ≤ b.block_no && b.block_no ≤ to_block_no).mergeSort
    (keyLE fun b => b.block_no.toNat)

/-- `get_highest_block`: the highest row up to `max_block_number` whose slot and time lie between
the bounds, `ORDER BY block_no DESC LIMIT 1`. -/
def get_highest_block (max_block_number : UInt32) (min_time : Int) (min_slot : UInt64)
    (max_time : Int) (max_slot : UInt64) : Option Block :=
  maxByKey (fun b => b.block_no.toNat) (db.blocks.filter fun b =>
    b.block_no ≤ max_block_number && min_slot ≤ b.slot_no && b.slot_no ≤ max_slot &&
      min_time ≤ b.time && b.time ≤ max_time)

/-- `get_block_by_hash` -/
def get_block_by_hash (hash : McBlockHash) : Option Block := db.blocks.find? fun b => b.hash = hash

variable {db}

theorem get_block_by_hash_of_mem {b : Block} (hb : b ∈ db.blocks) :
    db.get_block_by_hash b.hash = some b := by
  unfold get_block_by_hash
  cases hfind : db.blocks.find? (fun b' => decide (b'.hash = b.hash)) with
  | none =>
    have := List.find?_eq_none.mp hfind b hb
    simp at this
  | some b' =>
    have hmem := List.mem_of_find?_eq_some hfind
    have hhash : b'.hash = b.hash := by simpa using List.find?_some hfind
    rw [List.inj_on_of_nodup_map db.hashes_nodup hmem hb hhash]

theorem get_block_by_hash_eq_some {hash : McBlockHash} {b : Block}
    (h : db.get_block_by_hash hash = some b) : b ∈ db.blocks ∧ b.hash = hash :=
  ⟨List.mem_of_find?_eq_some h, by simpa using List.find?_some h⟩

theorem get_latest_block_info_spec {latest : Block} (h : db.get_latest_block_info = some latest) :
    latest ∈ db.blocks ∧ ∀ b ∈ db.blocks, b.block_no ≤ latest.block_no := by
  obtain ⟨hmem, hmax⟩ := maxByKey_spec _ h
  exact ⟨hmem, fun b hb => UInt32.le_iff_toNat_le.mpr (hmax b hb)⟩

theorem mem_get_blocks_by_numbers {from_block_no to_block_no : UInt32} {b : Block} :
    b ∈ db.get_blocks_by_numbers from_block_no to_block_no ↔
      b ∈ db.blocks ∧ from_block_no ≤ b.block_no ∧ b.block_no ≤ to_block_no := by
  simp [get_blocks_by_numbers, List.mem_mergeSort]

theorem get_highest_block_spec {max_block_number : UInt32} {min_time max_time : Int}
    {min_slot max_slot : UInt64} {b : Block}
    (h : db.get_highest_block max_block_number min_time min_slot max_time max_slot = some b) :
    b ∈ db.blocks ∧ b.block_no ≤ max_block_number ∧ min_time ≤ b.time ∧ b.time ≤ max_time := by
  obtain ⟨hmem, -⟩ := maxByKey_spec _ h
  simp only [List.mem_filter, Bool.and_eq_true, decide_eq_true_eq] at hmem
  obtain ⟨hb, ⟨⟨⟨hno, -⟩, -⟩, hmin⟩, hmax⟩ := hmem
  exact ⟨hb, hno, hmin, hmax⟩

end BlockTable

/-! ## `BlockDataSourceImpl` -/

/-- `DataSourceError`, of the kinds the block data source raises. -/
inductive DataSourceError where
  /-- `BadRequest(format!("Timestamp out of range: {timestamp:?}"))` -/
  | TimestampOutOfRange (timestamp : UInt64)
  /-- `BadRequest(format!("Datetime out of range: {dt:?}"))` -/
  | DatetimeOutOfRange (dt : Int)
  /-- `ExpectedDataNotFound("No latest block on chain.")` -/
  | NoLatestBlockOnChain
  /-- `InternalDataSourceError("No latest block when filling the caches.")` -/
  | NoLatestBlockWhenFillingCaches
  deriving DecidableEq

/-- `BlocksCache`: the blocks of the last fill, searched by hash. -/
structure BlocksCache where
  from_last_by_hash : List Block

namespace BlocksCache

/-- `BlocksCache::new` -/
def new : BlocksCache := ⟨[]⟩

/-- `BlocksCache::find_by_hash` -/
def find_by_hash (cache : BlocksCache) (hash : McBlockHash) : Option Block :=
  cache.from_last_by_hash.find? fun b => b.hash = hash

/-- `BlocksCache::update` -/
def update (_cache : BlocksCache) (from_last_by_hash : List Block) : BlocksCache :=
  ⟨from_last_by_hash⟩

end BlocksCache

/-- `BlockDataSourceImpl`, without its connection pool (a call reads db-sync's state) and its
cache (a call takes it and gives it back). The slot boundaries are `TimeDelta`s in
milliseconds. -/
structure BlockDataSourceImpl where
  security_parameter : UInt32
  min_slot_boundary_as_seconds : Int
  max_slot_boundary_as_seconds : Int
  mainchain_epoch_config : MainchainEpochConfig
  block_stability_margin : UInt32
  cache_size : UInt16

/-- `BlockDataSourceImpl::timestamp_to_db_type`: the milliseconds of a timestamp as an `i64`. -/
def timestamp_to_db_type (timestamp : UInt64) : Except DataSourceError Int :=
  if timestamp.toNat < 2 ^ 63 then .ok timestamp.toNat else .error (.TimestampOutOfRange timestamp)

namespace BlockDataSourceImpl

variable (src : BlockDataSourceImpl)

/-- `min_block_allowed_time` -/
def min_block_allowed_time (reference_timestamp : Int) : Int :=
  reference_timestamp - src.max_slot_boundary_as_seconds

/-- `max_allowed_block_time` -/
def max_allowed_block_time (reference_timestamp : Int) : Int :=
  reference_timestamp - src.min_slot_boundary_as_seconds

/-- `is_block_time_valid` -/
def is_block_time_valid (block : Block) (timestamp : Int) : Bool :=
  src.min_block_allowed_time timestamp ≤ block.time && block.time ≤ src.max_allowed_block_time timestamp

/-- `date_time_to_slot`: the slot of a time, the first slot for a time before the first epoch.
The outer `none` is the panic of a zero slot duration. -/
def date_time_to_slot (dt : Int) : Option (Except DataSourceError UInt64) :=
  -- `timestamp_millis().try_into()`: the `i64` milliseconds as a `u64`
  if dt < 0 then some (.error (.DatetimeOutOfRange dt))
  else (src.mainchain_epoch_config.timestamp_to_mainchain_slot_number (UInt64.ofNat dt.toNat)).map
    fun slot => .ok (slot.toOption.getD src.mainchain_epoch_config.first_slot_number)

/-- `get_latest_block`: the highest block up to `max_block` whose time lies in the window of the
timestamp and whose slot lies between the window's slots. -/
def get_latest_block (db : BlockTable) (max_block : UInt32) (reference_timestamp : Int) :
    Option (Except DataSourceError (Option Block)) :=
  let min_time := src.min_block_allowed_time reference_timestamp
  (src.date_time_to_slot min_time).bind fun
    | .error e => some (.error e)
    | .ok min_slot =>
      let max_time := src.max_allowed_block_time reference_timestamp
      (src.date_time_to_slot max_time).map fun
        | .error e => .error e
        | .ok max_slot => .ok (db.get_highest_block max_block min_time min_slot max_time max_slot)

/-- `get_latest_stable_block_for`: the latest block in the timestamp's window, at least
`security_parameter + block_stability_margin` below db-sync's latest block. -/
def get_latest_stable_block_for (db : BlockTable) (reference_timestamp : UInt64) :
    Option (Except DataSourceError (Option MainchainBlock)) :=
  match timestamp_to_db_type reference_timestamp with
  | .error e => some (.error e)
  | .ok reference_timestamp =>
    match db.get_latest_block_info with
    | none => some (.error .NoLatestBlockOnChain)
    | some latest =>
      let offset := src.security_parameter + src.block_stability_margin
      let stable := saturating_sub latest.block_no offset
      (src.get_latest_block db stable reference_timestamp).map (·.map (·.map Block.into))

/-- `get_stable_block_by_hash_from_db`: the block with the hash, where it lies
`security_parameter` below the latest block and in the timestamp's window. -/
def get_stable_block_by_hash_from_db (db : BlockTable) (hash : McBlockHash)
    (reference_timestamp : Int) : Option Block :=
  match db.get_block_by_hash hash, db.get_latest_block_info with
  | some block, some latest_block =>
    if saturating_add block.block_no src.security_parameter ≤ latest_block.block_no ∧
        src.is_block_time_valid block reference_timestamp then some block
    else none
  | _, _ => none

/-- `get_stable_block_by_hash_from_cache`: a cached block with the hash, in the timestamp's
window. -/
def get_stable_block_by_hash_from_cache (cache : BlocksCache) (hash : McBlockHash)
    (reference_timestamp : Int) : Option Block :=
  (cache.find_by_hash hash).filter fun block => src.is_block_time_valid block reference_timestamp

/-- `fill_cache`: the blocks from `from_block` on, at most `cache_size` of them and none less
than `security_parameter` below the latest block; `from_block` alone if there are none. -/
def fill_cache (db : BlockTable) (cache : BlocksCache) (from_block : Block) :
    Except DataSourceError BlocksCache :=
  let from_block_no := from_block.block_no
  let size := src.cache_size.toUInt32
  match db.get_latest_block_info with
  | none => .error .NoLatestBlockWhenFillingCaches
  | some latest_block =>
    let stable_block_num := saturating_sub latest_block.block_no src.security_parameter
    let to_block_no := min (saturating_add from_block_no size) stable_block_num
    let blocks :=
      if to_block_no > from_block_no then db.get_blocks_by_numbers from_block_no to_block_no
      else [from_block]
    .ok (cache.update blocks)

/-- `get_stable_block_by_hash`: from the cache, or else from db-sync, filling the cache from the
block found. -/
def get_stable_block_by_hash (db : BlockTable) (cache : BlocksCache) (hash : McBlockHash)
    (reference_timestamp : Int) : Except DataSourceError (Option MainchainBlock) × BlocksCache :=
  match src.get_stable_block_by_hash_from_cache cache hash reference_timestamp with
  | some block => (.ok (some block.into), cache)
  | none =>
    match src.get_stable_block_by_hash_from_db db hash reference_timestamp with
    | some block_by_hash =>
      match src.fill_cache db cache block_by_hash with
      | .ok cache => (.ok (some block_by_hash.into), cache)
      | .error e => (.error e, cache)
    | none => (.ok none, cache)

/-- `get_stable_block_for` -/
def get_stable_block_for (db : BlockTable) (cache : BlocksCache) (hash : McBlockHash)
    (reference_timestamp : UInt64) : Except DataSourceError (Option MainchainBlock) × BlocksCache :=
  match timestamp_to_db_type reference_timestamp with
  | .error e => (.error e, cache)
  | .ok reference_timestamp => src.get_stable_block_by_hash db cache hash reference_timestamp

/-- `get_block_by_hash`: from the cache, or else from db-sync. -/
def get_block_by_hash (db : BlockTable) (cache : BlocksCache) (hash : McBlockHash) :
    Option MainchainBlock :=
  let block_opt :=
    match cache.find_by_hash hash with
    | some block => some block
    | none => db.get_block_by_hash hash
  block_opt.map Block.into

/-- What `get_stable_block_for` answers without a cache: db-sync's block with the hash, where it
is stable for the timestamp. -/
def stable_block_for_from_db (db : BlockTable) (hash : McBlockHash)
    (reference_timestamp : UInt64) : Except DataSourceError (Option MainchainBlock) :=
  (timestamp_to_db_type reference_timestamp).map fun reference_timestamp =>
    (src.get_stable_block_by_hash_from_db db hash reference_timestamp).map Block.into

/-! ## Stable blocks -/

/-- A block of db-sync that lies `security_parameter` blocks below its latest block, as
`get_stable_block_by_hash_from_db` checks it. -/
def StableIn (db : BlockTable) (block : Block) : Prop :=
  block ∈ db.blocks ∧ ∃ latest ∈ db.get_latest_block_info,
    saturating_add block.block_no src.security_parameter ≤ latest.block_no

/-- db-sync from one call to a later one: every stable block stays, and the latest block does not
go down. The unstable tip may be replaced. -/
structure Grows (db db' : BlockTable) : Prop where
  stable_stays : ∀ b, src.StableIn db b → b ∈ db'.blocks
  latest_le : ∀ latest ∈ db.get_latest_block_info,
    ∃ latest' ∈ db'.get_latest_block_info, latest.block_no ≤ latest'.block_no

/-- What the cache holds: blocks stable in db-sync. -/
def CacheInv (db : BlockTable) (cache : BlocksCache) : Prop :=
  ∀ b ∈ cache.from_last_by_hash, src.StableIn db b

variable {src} {db db' : BlockTable}

theorem Grows.refl (db : BlockTable) : src.Grows db db :=
  ⟨fun _ hb => hb.1, fun latest h => ⟨latest, h, UInt32.le_refl _⟩⟩

theorem StableIn.grows {b : Block} (hb : src.StableIn db b) (h : src.Grows db db') :
    src.StableIn db' b := by
  obtain ⟨latest, hlatest, hle⟩ := hb.2
  obtain ⟨latest', hlatest', hle'⟩ := h.latest_le latest hlatest
  exact ⟨h.stable_stays b hb, latest', hlatest', UInt32.le_trans hle hle'⟩

theorem CacheInv.grows {cache : BlocksCache} (hc : src.CacheInv db cache) (h : src.Grows db db') :
    src.CacheInv db' cache :=
  fun b hb => (hc b hb).grows h

theorem cacheInv_new (db : BlockTable) : src.CacheInv db BlocksCache.new :=
  fun _ hb => by simp [BlocksCache.new] at hb

/-- The block db-sync gives for a hash and a timestamp: the block with the hash, where it is
stable and its time lies in the timestamp's window. -/
theorem get_stable_block_by_hash_from_db_eq_some {hash : McBlockHash} {ts : Int} {b : Block} :
    src.get_stable_block_by_hash_from_db db hash ts = some b ↔
      b.hash = hash ∧ src.StableIn db b ∧ src.is_block_time_valid b ts = true := by
  unfold get_stable_block_by_hash_from_db
  constructor
  · intro h
    split at h
    · rename_i block latest hblock hlatest
      split at h
      · rename_i hcond
        cases h
        obtain ⟨hmem, hhash⟩ := BlockTable.get_block_by_hash_eq_some hblock
        exact ⟨hhash, ⟨hmem, latest, hlatest, hcond.1⟩, hcond.2⟩
      · cases h
    · cases h
  · rintro ⟨rfl, ⟨hmem, latest, hlatest, hle⟩, htime⟩
    rw [BlockTable.get_block_by_hash_of_mem hmem, Option.mem_def.mp hlatest]
    simp [hle, htime]

/-- A block found stable for a timestamp is found again for it after db-sync grew. -/
theorem get_stable_block_by_hash_from_db_grows (h : src.Grows db db') {hash : McBlockHash}
    {ts : Int} {b : Block} (hfound : src.get_stable_block_by_hash_from_db db hash ts = some b) :
    src.get_stable_block_by_hash_from_db db' hash ts = some b := by
  obtain ⟨hhash, hstable, htime⟩ := get_stable_block_by_hash_from_db_eq_some.mp hfound
  exact get_stable_block_by_hash_from_db_eq_some.mpr ⟨hhash, hstable.grows h, htime⟩

theorem stable_block_for_from_db_grows (h : src.Grows db db') {hash : McBlockHash}
    {ts : UInt64} {mb : Option MainchainBlock}
    (hfound : src.stable_block_for_from_db db hash ts = .ok mb) (hsome : mb.isSome) :
    src.stable_block_for_from_db db' hash ts = .ok mb := by
  unfold stable_block_for_from_db at hfound ⊢
  cases hts : timestamp_to_db_type ts with
  | error e => simp [hts, Except.map] at hfound
  | ok t =>
    simp only [hts, Except.map, Except.ok.injEq] at hfound ⊢
    cases hb : src.get_stable_block_by_hash_from_db db hash t with
    | none => simp [hb, ← hfound] at hsome
    | some b => rw [get_stable_block_by_hash_from_db_grows h hb, ← hfound, hb]

/-- db-sync's answer is an error only where the timestamp does not fit an `i64`. -/
theorem timestamp_to_db_type_of_stable_block_for_from_db {hash : McBlockHash} {ts : UInt64}
    {e : DataSourceError} (h : src.stable_block_for_from_db db hash ts = .error e) :
    timestamp_to_db_type ts = .error e := by
  unfold stable_block_for_from_db at h
  cases hts : timestamp_to_db_type ts with
  | error e' =>
    simp only [hts, Except.map, Except.error.injEq] at h
    rw [h]
  | ok t => simp [hts, Except.map] at h

/-! ## The cache -/

/-- A fill from a stable block does not fail, and leaves stable blocks in the cache: up to the
`security_parameter` below the latest block when the range is not empty, the block alone
otherwise. -/
theorem fill_cache_of_stableIn {from_block : Block} (hb : src.StableIn db from_block)
    (cache : BlocksCache) :
    ∃ cache', src.fill_cache db cache from_block = .ok cache' ∧ src.CacheInv db cache' := by
  obtain ⟨latest, hlatest, -⟩ := hb.2
  rw [Option.mem_def] at hlatest
  unfold fill_cache
  rw [hlatest]
  refine ⟨_, rfl, fun b hmem => ?_⟩
  simp only [BlocksCache.update] at hmem
  split at hmem
  · rename_i hrange
    obtain ⟨hdb, -, hto⟩ := BlockTable.mem_get_blocks_by_numbers.mp hmem
    -- the range ends `security_parameter` below the latest block, and is not empty
    have hle : b.block_no.toNat + src.security_parameter.toNat ≤ latest.block_no.toNat := by
      have hmin := UInt32.toNat_min (saturating_add from_block.block_no src.cache_size.toUInt32)
        (saturating_sub latest.block_no src.security_parameter)
      have hr := UInt32.lt_iff_toNat_lt.mp hrange
      have hto' := UInt32.le_iff_toNat_le.mp hto
      rw [hmin, toNat_saturating_sub] at hr hto'
      omega
    refine ⟨hdb, latest, hlatest, ?_⟩
    rw [UInt32.le_iff_toNat_le, toNat_saturating_add]
    omega
  · rw [List.mem_singleton] at hmem
    exact hmem ▸ hb

/-- The step lemma of the cache: a call of `get_stable_block_for` on a cache of stable blocks
answers as db-sync does, and leaves a cache of stable blocks. -/
theorem get_stable_block_for_eq {cache : BlocksCache} (hc : src.CacheInv db cache)
    (hash : McBlockHash) (ts : UInt64) :
    (src.get_stable_block_for db cache hash ts).1 = src.stable_block_for_from_db db hash ts ∧
      src.CacheInv db (src.get_stable_block_for db cache hash ts).2 := by
  unfold get_stable_block_for stable_block_for_from_db
  cases timestamp_to_db_type ts with
  | error e => exact ⟨rfl, hc⟩
  | ok t =>
    simp only [Except.map]
    unfold get_stable_block_by_hash
    cases hcached : src.get_stable_block_by_hash_from_cache cache hash t with
    | some block =>
      -- a cached block in the window is stable, so db-sync gives it too
      obtain ⟨hfind, htime⟩ := Option.filter_eq_some_iff.mp hcached
      have hmem := List.mem_of_find?_eq_some hfind
      have hhash : block.hash = hash := by simpa using List.find?_some hfind
      have hdb : src.get_stable_block_by_hash_from_db db hash t = some block :=
        get_stable_block_by_hash_from_db_eq_some.mpr ⟨hhash, hc block hmem, htime⟩
      simp only [hdb, Option.map_some, true_and]
      exact hc
    | none =>
      simp only
      cases hdb : src.get_stable_block_by_hash_from_db db hash t with
      | none => exact ⟨rfl, hc⟩
      | some b =>
        obtain ⟨-, hstable, -⟩ := get_stable_block_by_hash_from_db_eq_some.mp hdb
        obtain ⟨cache', hfill, hinv⟩ := fill_cache_of_stableIn hstable cache
        simp only [hfill, Option.map_some, true_and]
        exact hinv

/-- On a cache of stable blocks, `get_block_by_hash` gives db-sync's block with the hash. -/
theorem get_block_by_hash_eq {cache : BlocksCache} (hc : src.CacheInv db cache)
    (hash : McBlockHash) :
    get_block_by_hash db cache hash = (db.get_block_by_hash hash).map Block.into := by
  unfold get_block_by_hash
  cases hfind : cache.find_by_hash hash with
  | none => rfl
  | some block =>
    have hmem := List.mem_of_find?_eq_some hfind
    have hhash : block.hash = hash := by simpa using List.find?_some hfind
    simp only
    rw [← hhash, BlockTable.get_block_by_hash_of_mem (hc block hmem).1]

/-! ## Runs of calls -/

/-- A request of the main chain reference hash to the block data source. -/
inductive BlockRequest where
  | get_latest_stable_block_for (reference_timestamp : UInt64)
  | get_stable_block_for (hash : McBlockHash) (reference_timestamp : UInt64)
  | get_block_by_hash (hash : McBlockHash)

/-- A call: a request, and the state of db-sync when it is made. -/
structure BlockCall where
  db : BlockTable
  request : BlockRequest

variable (src)

/-- A call on the data source and its cache: the answer (`none` is a panic) and the cache after
the call. -/
def cachedStep (cache : BlocksCache) (call : BlockCall) :
    Option (Except DataSourceError (Option MainchainBlock)) × BlocksCache :=
  match call.request with
  | .get_latest_stable_block_for ts => (src.get_latest_stable_block_for call.db ts, cache)
  | .get_stable_block_for hash ts =>
    (some (src.get_stable_block_for call.db cache hash ts).1,
      (src.get_stable_block_for call.db cache hash ts).2)
  | .get_block_by_hash hash => (some (.ok (get_block_by_hash call.db cache hash)), cache)

/-- The answer to a call from the state of db-sync alone. -/
def uncachedAnswer (call : BlockCall) : Option (Except DataSourceError (Option MainchainBlock)) :=
  match call.request with
  | .get_latest_stable_block_for ts => src.get_latest_stable_block_for call.db ts
  | .get_stable_block_for hash ts => some (src.stable_block_for_from_db call.db hash ts)
  | .get_block_by_hash hash => some (.ok ((call.db.get_block_by_hash hash).map Block.into))

variable {src}

/-- The step lemma of a run: from a cache of stable blocks of the previous call's db-sync, which
grew since, a call answers as db-sync does and leaves a cache of stable blocks of its own
db-sync. -/
theorem cachedStep_eq {db : BlockTable} {cache : BlocksCache} (hc : src.CacheInv db cache)
    {call : BlockCall} (h : src.Grows db call.db) :
    (src.cachedStep cache call).1 = src.uncachedAnswer call ∧
      src.CacheInv call.db (src.cachedStep cache call).2 := by
  obtain ⟨calldb, request⟩ := call
  have hc' := hc.grows h
  cases request with
  | get_latest_stable_block_for ts => exact ⟨rfl, hc'⟩
  | get_stable_block_for hash ts =>
    obtain ⟨hout, hinv⟩ := get_stable_block_for_eq hc' hash ts
    exact ⟨congrArg some hout, hinv⟩
  | get_block_by_hash hash =>
    refine ⟨?_, hc'⟩
    simp only [cachedStep, uncachedAnswer, get_block_by_hash_eq hc' hash]

/-- The cached block data source refines db-sync. Along every run of calls, each made when db-sync
has grown since the call before (stable blocks stay, the latest block does not go down, the
unstable tip may be replaced), the data source and its cache, started empty, give every answer
that db-sync gives without a cache at the time of the call. -/
theorem cached_block_data_source_refines (calls : List BlockCall)
    (hgrows : List.IsChain src.Grows (calls.map BlockCall.db)) :
    (transduce src.cachedStep BlocksCache.new calls).1 = calls.map src.uncachedAnswer := by
  cases calls with
  | nil => rfl
  | cons call calls =>
    -- the empty cache holds only stable blocks, of the first call's db-sync as of any other
    apply transduce_eq_map_of_isChain src.CacheInv src.Grows BlockCall.db src.uncachedAnswer
      (fun _ _ _ hc h => cachedStep_eq hc h) _ call.db _ (cacheInv_new call.db)
    rw [List.map_cons, List.isChain_cons_cons]
    exact ⟨Grows.refl call.db, hgrows⟩

/-- Thirty-two bytes equal to `b`: a block hash. -/
def blockHash (b : UInt8) : McBlockHash := ⟨List.replicate 32 b, FixedBytes.length_replicate_32 b⟩

/-- A block data source with a security parameter of 2 and a window from 30 to 10 seconds before
the timestamp. -/
def smallSource : BlockDataSourceImpl := ⟨2, 10000, 30000, ⟨1000, 1000, 0, 0, 0⟩, 1, 100⟩

/-- db-sync with blocks 0 to 4, a second apart. -/
def fiveBlocks : BlockTable :=
  ⟨(List.range 5).map fun (n : Nat) =>
      ⟨n.toUInt32, blockHash n.toUInt8, 0, n.toUInt64, 1000 * (n : Int)⟩,
    by decide⟩

theorem cached_block_data_source_refines_five_blocks :
    List.IsChain smallSource.Grows [fiveBlocks, fiveBlocks] ∧
      (transduce smallSource.cachedStep BlocksCache.new
        [⟨fiveBlocks, .get_stable_block_for (blockHash 1) 20000⟩,
          ⟨fiveBlocks, .get_block_by_hash (blockHash 2)⟩]).1 =
        [⟨fiveBlocks, .get_stable_block_for (blockHash 1) 20000⟩,
          ⟨fiveBlocks, .get_block_by_hash (blockHash 2)⟩].map smallSource.uncachedAnswer :=
  have hgrows : List.IsChain smallSource.Grows [fiveBlocks, fiveBlocks] :=
    List.IsChain.cons_cons (Grows.refl fiveBlocks) (List.isChain_singleton fiveBlocks)
  ⟨hgrows, cached_block_data_source_refines _ hgrows⟩

/-! ## The latest stable block -/

/-- The block `get_latest_stable_block_for` finds: a block of db-sync in the timestamp's window,
no higher than `security_parameter + block_stability_margin` below the latest block. -/
theorem get_latest_stable_block_for_eq_some {ts : UInt64} {mb : MainchainBlock}
    (h : src.get_latest_stable_block_for db ts = some (.ok (some mb))) :
    ∃ b t latest, mb = b.into ∧ timestamp_to_db_type ts = .ok t ∧
      db.get_latest_block_info = some latest ∧ b ∈ db.blocks ∧
      b.block_no ≤ saturating_sub latest.block_no
        (src.security_parameter + src.block_stability_margin) ∧
      src.is_block_time_valid b t = true := by
  unfold get_latest_stable_block_for at h
  cases hts : timestamp_to_db_type ts with
  | error e => simp [hts] at h
  | ok t =>
    cases hlatest : db.get_latest_block_info with
    | none => simp [hts, hlatest] at h
    | some latest =>
      simp only [hts, hlatest] at h
      unfold get_latest_block at h
      -- both slots of the window were found, and the query gave a block
      cases hmin : src.date_time_to_slot (src.min_block_allowed_time t) with
      | none => simp [hmin] at h
      | some rmin =>
        cases rmin with
        | error e => simp [hmin, Except.map] at h
        | ok min_slot =>
          cases hmax : src.date_time_to_slot (src.max_allowed_block_time t) with
          | none => simp [hmin, hmax] at h
          | some rmax =>
            cases rmax with
            | error e => simp [hmin, hmax, Except.map] at h
            | ok max_slot =>
              simp only [hmin, hmax, Option.bind_some, Option.map_some, Except.map,
                Option.some.injEq, Except.ok.injEq] at h
              cases hb : db.get_highest_block
                  (saturating_sub latest.block_no (src.security_parameter + src.block_stability_margin))
                  (src.min_block_allowed_time t) min_slot (src.max_allowed_block_time t) max_slot with
              | none => simp [hb] at h
              | some b =>
                rw [hb, Option.map_some, Option.some.injEq] at h
                obtain ⟨hmem, hno, htmin, htmax⟩ := BlockTable.get_highest_block_spec hb
                refine ⟨b, t, latest, h.symm, rfl, rfl, hmem, hno, ?_⟩
                simp [is_block_time_valid, htmin, htmax]

/-- Where `security_parameter + block_stability_margin` does not overflow and the main chain has
reached block `security_parameter`, the block that `get_latest_stable_block_for` finds for a
timestamp is stable for it: db-sync gives it for its hash. -/
theorem stable_block_for_from_db_of_latest
    (hoffset : src.security_parameter.toNat + src.block_stability_margin.toNat < 2 ^ 32)
    (hreached : ∃ b ∈ db.blocks, src.security_parameter ≤ b.block_no) {ts : UInt64}
    {mb : MainchainBlock} (h : src.get_latest_stable_block_for db ts = some (.ok (some mb))) :
    src.stable_block_for_from_db db mb.hash ts = .ok (some mb) := by
  obtain ⟨b, t, latest, rfl, hts, hlatest, hmem, hno, htime⟩ :=
    get_latest_stable_block_for_eq_some h
  obtain ⟨b', hb', hk⟩ := hreached
  have hmax := (BlockTable.get_latest_block_info_spec hlatest).2 b' hb'
  -- `block_no + security_parameter` stays below the latest block, whether or not the
  -- subtraction of the offset saturated
  have hle : saturating_add b.block_no src.security_parameter ≤ latest.block_no := by
    rw [UInt32.le_iff_toNat_le, toNat_saturating_add]
    rw [UInt32.le_iff_toNat_le, toNat_saturating_sub, UInt32.toNat_add,
      Nat.mod_eq_of_lt hoffset] at hno
    rw [UInt32.le_iff_toNat_le] at hk hmax
    omega
  have hdb : src.get_stable_block_by_hash_from_db db b.hash t = some b :=
    get_stable_block_by_hash_from_db_eq_some.mpr ⟨rfl, ⟨hmem, latest, hlatest, hle⟩, htime⟩
  simp [stable_block_for_from_db, hts, Except.map, hdb, Block.into]

end BlockDataSourceImpl

end partner_chains_db_sync_data_sources.block
