-- The Governed Map's data sources on db-sync (toolkit/data-sources/db-sync,
-- governed_map/mod.rs and the queries of db_model.rs): the map on Cardano
-- at a main chain block, read from the live UTXOs at the validator
-- address, and the changes between two blocks. The uncached source compares
-- the maps at both blocks; the cached one replays the creations and spends
-- that db-sync lists, and keeps those of a range of blocks for later calls.
import Mathlib
import PartnerChains.Bridge.DataSource
import PartnerChains.GovernedMap.Tracking

set_option autoImplicit false

namespace partner_chains_db_sync_data_sources.governed_map

open cardano_serialization_lib sidechain_domain partner_chains.codec partner_chains.list_order
  partner_chains.sorted_map partner_chains_plutus_data partner_chains_plutus_data.governed_map

/-! ## The ledger and the queries -/

/-- `GovernedMapAction` -/
inductive GovernedMapAction where
  | Spend
  | Create
  deriving DecidableEq

/-- The `action_order` of the query: a spend comes before a creation of the same transaction. -/
def GovernedMapAction.action_order : GovernedMapAction → Int
  | .Spend => -1
  | .Create => 1

/-- A UTXO at the validator address with the policy's token: the block, and the index in it, of
the transaction that created it and of the one that spent it, if one did; and its datum. -/
structure GovernedMapUtxo where
  block_no : Nat
  block_index : Nat
  spent : Option (Nat × Nat)
  datum : PlutusData

/-- What the data sources read from db-sync: the UTXOs at the validator address with the policy's
token, for each set of scripts; the number of a block; the latest stable block. -/
structure GovernedMapDb (MainChainScripts : Type) where
  utxos : MainChainScripts → List GovernedMapUtxo
  get_block_by_hash : McBlockHash → Option Nat
  latest_stable_block : Option Nat

/-- `DataSourceError`, of the one kind these sources raise. -/
inductive DataSourceError where
  /-- `ExpectedDataNotFound(format!("Block hash: {hash}"))` -/
  | ExpectedDataNotFound (hash : McBlockHash)
  deriving DecidableEq

variable {MainChainScripts : Type}

/-- The UTXO is live at block `block`: created by then and not spent by then. -/
def GovernedMapUtxo.live_at (utxo : GovernedMapUtxo) (block : Nat) : Bool :=
  decide (utxo.block_no ≤ block) && utxo.spent.all fun s => decide (s.1 > block)

/-- `get_datums_at_address_with_token`: the datums of the UTXOs live at `block`, ordered by block
and transaction (`ORDER BY` as a stable sort). -/
def get_datums_at_address_with_token (utxos : List GovernedMapUtxo) (block : Nat) :
    List PlutusData :=
  ((utxos.filter (·.live_at block)).insertionSort fun a b =>
    toLex (a.block_no, a.block_index) ≤ toLex (b.block_no, b.block_index)).map (·.datum)

/-- `DatumChangeOutput` -/
structure DatumChangeOutput where
  datum : PlutusData
  block_no : Nat
  block_index : Nat
  action : GovernedMapAction
  deriving DecidableEq

/-- The order of the query's rows: block, transaction, `action_order`. -/
def DatumChangeOutput.ordering_key (row : DatumChangeOutput) : Lex (Nat × Lex (Nat × Int)) :=
  toLex (row.block_no, toLex (row.block_index, row.action.action_order))

/-- The query's range of blocks: `($2 IS NULL OR block_no > $2) AND block_no <= $3`. -/
def in_block_range (after_block : Option Nat) (to_block : Nat) (block_no : Nat) : Bool :=
  after_block.all (fun b => decide (block_no > b)) && decide (block_no ≤ to_block)

/-- The row of a creation. -/
def GovernedMapUtxo.create_row (utxo : GovernedMapUtxo) : DatumChangeOutput :=
  ⟨utxo.datum, utxo.block_no, utxo.block_index, .Create⟩

/-- The row of the spend of a UTXO, where it was spent within the range. -/
def GovernedMapUtxo.spend_row (after_block : Option Nat) (to_block : Nat)
    (utxo : GovernedMapUtxo) : Option DatumChangeOutput :=
  utxo.spent.bind fun spent =>
    if in_block_range after_block to_block spent.1 then some ⟨utxo.datum, spent.1, spent.2, .Spend⟩
    else none

/-- `get_governed_map_changes`: the creations and the spends after `after_block` and at most at
`to_block`, one row each (the `UNION` drops a row equal to another), ordered by block,
transaction, and spend before creation. -/
def get_governed_map_changes (utxos : List GovernedMapUtxo) (after_block : Option Nat)
    (to_block : Nat) : List DatumChangeOutput :=
  let creates := (utxos.filter fun utxo => in_block_range after_block to_block utxo.block_no).map
    GovernedMapUtxo.create_row
  let spends := utxos.filterMap (GovernedMapUtxo.spend_row after_block to_block)
  (creates ++ spends).dedup.insertionSort fun a b => a.ordering_key ≤ b.ordering_key

/-- A datum read as an entry of the map: `none` is the panic of a list too short, `some none` a
datum that does not decode, which is logged and skipped. -/
def decode_entry (datum : PlutusData) : Option (Option GovernedMapDatum) :=
  (GovernedMapDatum.try_from datum).map Except.toOption

/-- `get_mappings_entries`: the entries of the UTXOs live at the block, inserted in order. -/
def get_mappings_entries (db : GovernedMapDb MainChainScripts) (hash : McBlockHash)
    (scripts : MainChainScripts) : Option (Except DataSourceError (SortedMap String ByteString)) :=
  match db.get_block_by_hash hash with
  | none => some (.error (.ExpectedDataNotFound hash))
  | some block_no =>
    ((get_datums_at_address_with_token (db.utxos scripts) block_no).filterMapM decode_entry).map
      fun entries => .ok (entries.foldl (fun mappings e => mappings.insert e.key e.value)
        SortedMap.empty)

/-! ## `GovernedMapDataSourceImpl` -/

/-- `GovernedMapDataSourceImpl::get_state_at_block` -/
def GovernedMapDataSourceImpl.get_state_at_block (db : GovernedMapDb MainChainScripts)
    (mc_block : McBlockHash) (scripts : MainChainScripts) :
    Option (Except DataSourceError (SortedMap String ByteString)) :=
  get_mappings_entries db mc_block scripts

/-- The changes between two maps as `get_mapping_changes` pushes them: the new and changed
entries in the order of their keys, then the removed keys. -/
def mapping_changes (previous_mappings current_mappings : SortedMap String ByteString) :
    List (String × Option ByteString) :=
  ((current_mappings.entries.filter fun e => previous_mappings.lookup e.1 != some e.2).map
      fun e => (e.1, some e.2)) ++
    ((previous_mappings.keys.filter fun key => !current_mappings.contains key).map
      fun key => (key, none))

/-- `GovernedMapDataSourceImpl::get_mapping_changes`: every entry of the map at `up_to_mc_block`
without `since_mc_block`, else the differences of the maps at the two blocks. -/
def GovernedMapDataSourceImpl.get_mapping_changes (db : GovernedMapDb MainChainScripts)
    (since_mc_block : Option McBlockHash) (up_to_mc_block : McBlockHash)
    (scripts : MainChainScripts) :
    Option (Except DataSourceError (List (String × Option ByteString))) :=
  (GovernedMapDataSourceImpl.get_state_at_block db up_to_mc_block scripts).bind fun
    | .error e => some (.error e)
    | .ok current_mappings =>
      match since_mc_block with
      | none => some (.ok (current_mappings.entries.map fun e => (e.1, some e.2)))
      | some since_mc_block =>
        (GovernedMapDataSourceImpl.get_state_at_block db since_mc_block scripts).map fun
          | .error e => .error e
          | .ok previous_mappings => .ok (mapping_changes previous_mappings current_mappings)

/-- The map a call starts from: the map at `since_mc_block`, or the empty map without one. -/
def state_since (db : GovernedMapDb MainChainScripts) (since_mc_block : Option McBlockHash)
    (scripts : MainChainScripts) : Option (Except DataSourceError (SortedMap String ByteString)) :=
  match since_mc_block with
  | none => some (.ok SortedMap.empty)
  | some since_mc_block => GovernedMapDataSourceImpl.get_state_at_block db since_mc_block scripts

/-- Applied to the earlier map, the differences of two maps give the later one. -/
theorem applyChanges_mapping_changes (previous_mappings current_mappings : SortedMap String ByteString) :
    previous_mappings.applyChanges (mapping_changes previous_mappings current_mappings) =
      current_mappings := by
  refine SortedMap.ext fun k => ?_
  rw [SortedMap.lookup_applyChanges, mapping_changes, List.reverse_append, List.lookup_append,
    lookup_reverse ((current_mappings.keysNodup).map_filter _ _),
    lookup_map_filter current_mappings.keysNodup, ← List.map_reverse, lookup_map_const]
  simp only [List.mem_reverse, List.mem_filter, SortedMap.mem_keys, SortedMap.contains_eq,
    SortedMap.lookup_entries]
  cases hcur : current_mappings.lookup k with
  | some v =>
    -- a key of the later map is written, unless its value is the earlier one
    by_cases hsame : previous_mappings.lookup k = some v <;> simp [hsame, Option.filter_some]
  | none =>
    -- a key the later map lacks is removed, where the earlier map has it
    cases previous_mappings.lookup k <;> simp

/-- Every entry of a map, written into the empty map, gives the map. -/
theorem empty_applyChanges_entries (mappings : SortedMap String ByteString) :
    SortedMap.empty.applyChanges (mappings.entries.map fun e => (e.1, some e.2)) = mappings := by
  have hnodup : KeysNodup (mappings.entries.map fun e => (e.1, some e.2)) :=
    List.pairwise_map.mpr mappings.keysNodup
  refine SortedMap.ext fun k => ?_
  rw [SortedMap.lookup_applyChanges, lookup_reverse hnodup, lookup_map_snd,
    SortedMap.lookup_entries]
  cases mappings.lookup k <;> rfl

/-- The uncached source answers every call whose two maps it can read, and its changes turn the
map it starts from into the map at `up_to_mc_block`. -/
theorem GovernedMapDataSourceImpl.get_mapping_changes_applyChanges
    {db : GovernedMapDb MainChainScripts} {since_mc_block : Option McBlockHash}
    {up_to_mc_block : McBlockHash} {scripts : MainChainScripts}
    {previous_mappings current_mappings : SortedMap String ByteString}
    (hsince : state_since db since_mc_block scripts = some (.ok previous_mappings))
    (hup : GovernedMapDataSourceImpl.get_state_at_block db up_to_mc_block scripts =
      some (.ok current_mappings)) :
    ∃ changes, GovernedMapDataSourceImpl.get_mapping_changes db since_mc_block up_to_mc_block
        scripts = some (.ok changes) ∧
      previous_mappings.applyChanges changes = current_mappings := by
  simp only [GovernedMapDataSourceImpl.get_mapping_changes, hup, Option.bind_some]
  cases since_mc_block with
  | none =>
    -- every entry, written into the empty map
    cases hsince
    exact ⟨_, rfl, empty_applyChanges_entries current_mappings⟩
  | some since_mc_block =>
    -- the differences with the map at the earlier block
    simp only [state_since] at hsince
    simp only [hsince, Option.map_some]
    exact ⟨_, rfl, applyChanges_mapping_changes previous_mappings current_mappings⟩

/-! ## `GovernedMapDataSourceCachedImpl` -/

/-- `Change` -/
structure Change where
  block_no : Nat
  key : String
  value : Option ByteString
  deriving DecidableEq

/-- `Cache`: the changes of the last query, the lowest and highest block among them, and the
scripts (`address` and `policy_id`) they were queried for. -/
structure Cache (MainChainScripts : Type) where
  highest_block_number : Option Nat
  lowest_block_number : Option Nat
  changes : List Change
  scripts : Option MainChainScripts

/-- `Cache::default()` -/
def Cache.default : Cache MainChainScripts := ⟨none, none, [], none⟩

/-- `filter_changes_in_range`: the changes after `since_block` and at most at `up_to_block`. -/
def filter_changes_in_range (changes : List Change) (since_block : Option Nat)
    (up_to_block : Nat) : List (String × Option ByteString) :=
  (changes.filter fun change =>
    decide (change.block_no ≤ up_to_block) &&
      (since_block.map fun b => decide (change.block_no > b)).getD true).map
    fun change => (change.key, change.value)

namespace Cache

/-- `Cache::get_changes_in_range`: served when the range ends by the highest block of the cache
and does not start before its lowest; a range without a start is served alike. -/
def get_changes_in_range (cache : Cache MainChainScripts) (since_block : Option Nat)
    (up_to_block : Nat) : Option (List (String × Option ByteString)) := do
  let highest_block_number ← cache.highest_block_number
  let lowest_block_number ← cache.lowest_block_number
  if highest_block_number < up_to_block ||
      (since_block.map fun b => decide (b < lowest_block_number)).getD false then
    none
  else
    some (filter_changes_in_range cache.changes since_block up_to_block)

/-- `Cache::update`: the changes, and the lowest and highest block among them (both `0` when there
are none). -/
def update (cache : Cache MainChainScripts) (changes : List Change) : Cache MainChainScripts :=
  let block_nos := changes.map (·.block_no)
  let (lowest_block_number, highest_block_number) :=
    match block_nos.min?, block_nos.max? with
    | some lowest, some highest => (lowest, highest)
    | _, _ => (0, 0)
  { cache with
    changes
    lowest_block_number := some lowest_block_number
    highest_block_number := some highest_block_number }

/-- `Cache::set_main_chain_scripts`: new scripts empty the cache. -/
def set_main_chain_scripts [DecidableEq MainChainScripts] (cache : Cache MainChainScripts)
    (scripts : MainChainScripts) : Cache MainChainScripts :=
  if cache.scripts ≠ some scripts then ⟨none, none, [], some scripts⟩ else cache

end Cache

/-- One row of the query as a change, a spend removing the key of its datum and a creation
writing it; `some none` for a datum that does not decode, which is skipped. `none` is a panic. -/
def change_of_row (change : DatumChangeOutput) : Option (Option Change) :=
  (decode_entry change.datum).map fun
    | none => none
    | some datum =>
      match change.action with
      | .Spend => some ⟨change.block_no, datum.key, none⟩
      | .Create => some ⟨change.block_no, datum.key, some datum.value⟩

/-- `get_changes_in_range_to_cache`: the query's rows as changes. -/
def get_changes_in_range_to_cache (db : GovernedMapDb MainChainScripts) (since_block : Option Nat)
    (up_to_block : Nat) (scripts : MainChainScripts) : Option (List Change) :=
  (get_governed_map_changes (db.utxos scripts) since_block up_to_block).filterMapM change_of_row

/-- The block number of the start of the range (`since_block_number`). -/
def resolve_since_block (db : GovernedMapDb MainChainScripts) :
    Option McBlockHash → Except DataSourceError (Option Nat)
  | some hash =>
    match db.get_block_by_hash hash with
    | some block_no => .ok (some block_no)
    | none => .error (.ExpectedDataNotFound hash)
  | none => .ok none

/-- A range served from the cache where the cache serves it; any other is queried from its start
up to `cache_size` blocks further, within the stable blocks, and the cache keeps what the query
found. The changes (`none` is a panic), and the cache after. -/
def serve_or_fill (db : GovernedMapDb MainChainScripts) (cache_size : Nat)
    (cache : Cache MainChainScripts) (since_block_number : Option Nat) (up_to_block_number : Nat)
    (scripts : MainChainScripts) : Option (List (String × Option ByteString)) × Cache MainChainScripts :=
  match cache.get_changes_in_range since_block_number up_to_block_number with
  | some cached_changes => (some cached_changes, cache)
  | none =>
    let latest_stable_block := db.latest_stable_block.getD up_to_block_number
    let since_block_plus := bridge.saturating_add (since_block_number.getD 0) cache_size
    let max_search_block := min latest_stable_block (max up_to_block_number since_block_plus)
    match get_changes_in_range_to_cache db since_block_number max_search_block scripts with
    | none => (none, cache)
    | some changes =>
      (some (filter_changes_in_range changes since_block_number up_to_block_number),
        cache.update changes)

/-- `GovernedMapDataSourceCachedImpl::get_mapping_changes`, with a cache of `cache_size` blocks:
its result (`none` is a panic) and the cache after the call. -/
def GovernedMapDataSourceCachedImpl.get_mapping_changes [DecidableEq MainChainScripts]
    (db : GovernedMapDb MainChainScripts) (cache_size : Nat) (cache : Cache MainChainScripts)
    (since_mc_block : Option McBlockHash) (up_to_mc_block : McBlockHash)
    (scripts : MainChainScripts) :
    Option (Except DataSourceError (List (String × Option ByteString))) × Cache MainChainScripts :=
  let cache := cache.set_main_chain_scripts scripts
  match resolve_since_block db since_mc_block with
  | .error e => (some (.error e), cache)
  | .ok since_block_number =>
    match db.get_block_by_hash up_to_mc_block with
    | none => (some (.error (.ExpectedDataNotFound up_to_mc_block)), cache)
    | some up_to_block_number =>
      let (changes, cache) :=
        serve_or_fill db cache_size cache since_block_number up_to_block_number scripts
      (changes.map .ok, cache)

/-! ## The query over a smaller range -/

/-- A range inside another: every block of the one is a block of the other. -/
def SubRange (after_block' : Option Nat) (to_block' : Nat) (after_block : Option Nat)
    (to_block : Nat) : Prop :=
  ∀ x, in_block_range after_block' to_block' x → in_block_range after_block to_block x

/-- Filtering by a range inside the query's keeps the blocks of the range. -/
theorem in_block_range_and {after_block' after_block : Option Nat} {to_block' to_block : Nat}
    (hsub : SubRange after_block' to_block' after_block to_block) (x : Nat) :
    (in_block_range after_block' to_block' x && in_block_range after_block to_block x) =
      in_block_range after_block' to_block' x := by
  cases h : in_block_range after_block' to_block' x with
  | false => rfl
  | true => simp [hsub x h]

/-- The query over a range inside another is the larger query's rows of that range. -/
theorem get_governed_map_changes_filter (utxos : List GovernedMapUtxo)
    {after_block' after_block : Option Nat} {to_block' to_block : Nat}
    (hsub : SubRange after_block' to_block' after_block to_block) :
    (get_governed_map_changes utxos after_block to_block).filter
        (fun row => in_block_range after_block' to_block' row.block_no) =
      get_governed_map_changes utxos after_block' to_block' := by
  simp only [get_governed_map_changes]
  rw [filter_insertionSort DatumChangeOutput.ordering_key, filter_dedup, List.filter_append,
    List.filter_map, List.filter_filter, List.filter_filterMap]
  -- the creations and the spends of the smaller range
  have hcreates : (fun utxo : GovernedMapUtxo =>
      ((fun row : DatumChangeOutput => in_block_range after_block' to_block' row.block_no) ∘
        GovernedMapUtxo.create_row) utxo && in_block_range after_block to_block utxo.block_no) =
      fun utxo => in_block_range after_block' to_block' utxo.block_no :=
    funext fun utxo => in_block_range_and hsub utxo.block_no
  have hspends : (fun utxo : GovernedMapUtxo =>
      (utxo.spend_row after_block to_block).filter
        fun row => in_block_range after_block' to_block' row.block_no) =
      GovernedMapUtxo.spend_row after_block' to_block' := by
    funext utxo
    simp only [GovernedMapUtxo.spend_row]
    cases utxo.spent with
    | none => rfl
    | some spent =>
      cases h : in_block_range after_block' to_block' spent.1 with
      | false => cases in_block_range after_block to_block spent.1 <;> simp [h]
      | true => simp [h, hsub spent.1 h]
  rw [hcreates, hspends]

/-- Every row of the query carries the datum of a UTXO of the ledger. -/
theorem datum_of_mem_get_governed_map_changes {utxos : List GovernedMapUtxo}
    {after_block : Option Nat} {to_block : Nat} {row : DatumChangeOutput}
    (h : row ∈ get_governed_map_changes utxos after_block to_block) :
    ∃ utxo ∈ utxos, row.datum = utxo.datum := by
  simp only [get_governed_map_changes, List.mem_insertionSort, List.mem_dedup, List.mem_append,
    List.mem_map, List.mem_filter, List.mem_filterMap] at h
  rcases h with ⟨utxo, ⟨hu, -⟩, rfl⟩ | ⟨utxo, hu, hrow⟩
  · exact ⟨utxo, hu, rfl⟩
  · -- a spend row is built from the spent UTXO's datum
    refine ⟨utxo, hu, ?_⟩
    simp only [GovernedMapUtxo.spend_row] at hrow
    cases hspent : utxo.spent with
    | none => simp [hspent] at hrow
    | some spent =>
      simp only [hspent, Option.bind_some] at hrow
      split at hrow
      · cases hrow
        rfl
      · cases hrow

/-- A ledger whose datums all read without a panic is read by every query. -/
theorem get_changes_in_range_to_cache_isSome {db : GovernedMapDb MainChainScripts}
    {scripts : MainChainScripts} (hdecode : ∀ utxo ∈ db.utxos scripts, (decode_entry utxo.datum).isSome)
    (since_block : Option Nat) (up_to_block : Nat) :
    ∃ changes, get_changes_in_range_to_cache db since_block up_to_block scripts = some changes := by
  refine filterMapM_isSome fun row hrow => ?_
  obtain ⟨utxo, hu, hdatum⟩ := datum_of_mem_get_governed_map_changes hrow
  simpa [change_of_row, hdatum] using hdecode utxo hu

/-- A row's change is of the row's block. -/
theorem change_of_row_block_no {row : DatumChangeOutput} {change : Change}
    (h : change_of_row row = some (some change)) : change.block_no = row.block_no := by
  simp only [change_of_row] at h
  cases hd : decode_entry row.datum with
  | none => simp [hd] at h
  | some d =>
    cases d with
    | none => simp [hd] at h
    | some datum =>
      cases hact : row.action <;> simp [hd, hact] at h <;> rw [← h]

/-- The changes a query finds over a range inside another's are the larger query's changes of
that range. -/
theorem get_changes_in_range_to_cache_filter {db : GovernedMapDb MainChainScripts}
    {scripts : MainChainScripts} {after_block' after_block : Option Nat} {to_block' to_block : Nat}
    (hsub : SubRange after_block' to_block' after_block to_block) {changes : List Change}
    (h : get_changes_in_range_to_cache db after_block to_block scripts = some changes) :
    get_changes_in_range_to_cache db after_block' to_block' scripts =
      some (changes.filter fun change => in_block_range after_block' to_block' change.block_no) := by
  rw [get_changes_in_range_to_cache, ← get_governed_map_changes_filter _ hsub]
  exact filterMapM_filter _ _ (fun row change hc => by rw [change_of_row_block_no hc]) h

/-- Every change a query finds is of its range. -/
theorem in_block_range_of_mem {db : GovernedMapDb MainChainScripts} {scripts : MainChainScripts}
    {after_block : Option Nat} {to_block : Nat} {changes : List Change}
    (h : get_changes_in_range_to_cache db after_block to_block scripts = some changes)
    {change : Change} (hc : change ∈ changes) : in_block_range after_block to_block change.block_no := by
  have hself := get_changes_in_range_to_cache_filter (fun _ hx => hx) h
  rw [h, Option.some.injEq] at hself
  exact List.filter_eq_self.mp hself.symm change hc

theorem filter_changes_in_range_eq (changes : List Change) (since_block : Option Nat)
    (up_to_block : Nat) :
    filter_changes_in_range changes since_block up_to_block =
      (changes.filter fun change => in_block_range since_block up_to_block change.block_no).map
        fun change => (change.key, change.value) := by
  simp only [filter_changes_in_range, in_block_range]
  congr 2
  funext change
  cases since_block <;> simp [Bool.and_comm]

/-- What a query from `since_block` up to `up_to_block` finds, as the data sources return it. -/
def query_changes (db : GovernedMapDb MainChainScripts) (since_block : Option Nat)
    (up_to_block : Nat) (scripts : MainChainScripts) : Option (List (String × Option ByteString)) :=
  (get_changes_in_range_to_cache db since_block up_to_block scripts).map
    fun changes => changes.map fun change => (change.key, change.value)

/-- The changes of a query over a larger range, cut to a range inside it, are what a query over
that range finds. -/
theorem filter_changes_in_range_of_sub {db : GovernedMapDb MainChainScripts}
    {scripts : MainChainScripts} {since_block after_block : Option Nat} {up_to_block to_block : Nat}
    (hsub : SubRange since_block up_to_block after_block to_block) {changes : List Change}
    (h : get_changes_in_range_to_cache db after_block to_block scripts = some changes) :
    query_changes db since_block up_to_block scripts =
      some (filter_changes_in_range changes since_block up_to_block) := by
  rw [query_changes, get_changes_in_range_to_cache_filter hsub h, filter_changes_in_range_eq]
  rfl

/-! ## The cache -/

namespace Cache

@[simp] theorem update_changes (cache : Cache MainChainScripts) (changes : List Change) :
    (cache.update changes).changes = changes := rfl

@[simp] theorem update_scripts (cache : Cache MainChainScripts) (changes : List Change) :
    (cache.update changes).scripts = cache.scripts := rfl

/-- The bounds `update` records: the lowest and the highest block of the changes, or `0` and `0`
for no change. -/
theorem update_bounds (cache : Cache MainChainScripts) (changes : List Change) :
    ∃ lowest highest, (cache.update changes).lowest_block_number = some lowest ∧
      (cache.update changes).highest_block_number = some highest ∧
      ((changes = [] ∧ highest = 0) ∨
        (lowest ∈ changes.map (·.block_no) ∧ highest ∈ changes.map (·.block_no))) := by
  cases changes with
  | nil => exact ⟨0, 0, rfl, rfl, .inl ⟨rfl, rfl⟩⟩
  | cons c cs =>
    -- a list that is not empty has a least and a greatest block
    obtain ⟨lowest, hlo⟩ := Option.isSome_iff_exists.mp
      (List.isSome_min?_of_ne_nil (List.cons_ne_nil c.block_no (cs.map (·.block_no))))
    obtain ⟨highest, hhi⟩ := Option.isSome_iff_exists.mp
      (List.isSome_max?_of_ne_nil (List.cons_ne_nil c.block_no (cs.map (·.block_no))))
    refine ⟨lowest, highest, ?_, ?_, .inr ⟨List.min?_mem hlo, List.max?_mem hhi⟩⟩ <;>
      simp only [update, List.map_cons, hlo, hhi]

theorem set_main_chain_scripts_scripts [DecidableEq MainChainScripts]
    (cache : Cache MainChainScripts) (scripts : MainChainScripts) :
    (cache.set_main_chain_scripts scripts).scripts = some scripts := by
  unfold set_main_chain_scripts
  split
  · rfl
  · rename_i h
    exact not_not.mp h

end Cache

/-- What the cache holds: nothing it serves, or the changes that a query found for its scripts,
with the lowest and highest block among them. -/
def CacheInv (db : GovernedMapDb MainChainScripts) (cache : Cache MainChainScripts) : Prop :=
  cache.highest_block_number = none ∨
    ∃ (cache₀ : Cache MainChainScripts) (scripts : MainChainScripts) (since_block : Option Nat)
      (max_search_block : Nat), cache₀.scripts = some scripts ∧
      get_changes_in_range_to_cache db since_block max_search_block scripts = some cache.changes ∧
      cache = cache₀.update cache.changes

theorem cacheInv_default (db : GovernedMapDb MainChainScripts) : CacheInv db Cache.default :=
  .inl rfl

theorem CacheInv.set_main_chain_scripts [DecidableEq MainChainScripts]
    {db : GovernedMapDb MainChainScripts} {cache : Cache MainChainScripts} (h : CacheInv db cache)
    (scripts : MainChainScripts) : CacheInv db (cache.set_main_chain_scripts scripts) := by
  unfold Cache.set_main_chain_scripts
  split
  · exact .inl rfl
  · exact h

theorem cacheInv_update {db : GovernedMapDb MainChainScripts} {cache : Cache MainChainScripts}
    {scripts : MainChainScripts} (hs : cache.scripts = some scripts) {since_block : Option Nat}
    {max_search_block : Nat} {changes : List Change}
    (h : get_changes_in_range_to_cache db since_block max_search_block scripts = some changes) :
    CacheInv db (cache.update changes) :=
  .inr ⟨cache, scripts, since_block, max_search_block, hs, h, rfl⟩

/-- A range with a start that the cache serves lies inside the range of the query that filled it,
and the cache serves what a query over it finds. -/
theorem CacheInv.get_changes_in_range {db : GovernedMapDb MainChainScripts}
    {cache : Cache MainChainScripts} (h : CacheInv db cache) {scripts : MainChainScripts}
    (hs : cache.scripts = some scripts) {since_block up_to_block : Nat}
    {served : List (String × Option ByteString)}
    (hserved : cache.get_changes_in_range (some since_block) up_to_block = some served) :
    query_changes db (some since_block) up_to_block scripts = some served := by
  rcases h with hnone | ⟨cache₀, scripts', after_block, max_search_block, hs₀, hq, hcache⟩
  · simp [Cache.get_changes_in_range, hnone] at hserved
  · have hscripts : scripts' = scripts := by
      rw [hcache, Cache.update_scripts, hs₀] at hs
      exact Option.some.inj hs
    subst hscripts
    obtain ⟨lowest, highest, hlo, hhi, hbounds⟩ := Cache.update_bounds cache₀ cache.changes
    rw [← hcache] at hlo hhi
    simp only [Cache.get_changes_in_range, hlo, hhi, Option.bind_eq_bind, Option.bind_some,
      Option.map_some, Option.getD_some] at hserved
    split at hserved
    · cases hserved
    · rename_i hadmit
      simp only [Bool.or_eq_true, decide_eq_true_eq, not_or, not_lt] at hadmit
      cases hserved
      -- the served range lies inside the range of the query
      refine filter_changes_in_range_of_sub (fun x hx => ?_) hq
      simp only [in_block_range, Option.all_some, Bool.and_eq_true, decide_eq_true_eq] at hx
      rcases hbounds with ⟨-, rfl⟩ | ⟨hlow, hhigh⟩
      · omega
      · obtain ⟨c, hc, hclo⟩ := List.mem_map.mp hlow
        obtain ⟨d, hd, hdhi⟩ := List.mem_map.mp hhigh
        have hcr := in_block_range_of_mem hq hc
        have hdr := in_block_range_of_mem hq hd
        simp only [in_block_range, Bool.and_eq_true, decide_eq_true_eq] at hcr hdr ⊢
        refine ⟨?_, by omega⟩
        cases after_block with
        | none => rfl
        | some a =>
          simp only [Option.all_some, decide_eq_true_eq] at hcr ⊢
          omega

/-! ## Calls of the cached source -/

/-- What db-sync finds for a call with a start: the changes after the start's block up to the
end's block, or the error for a block it does not know. -/
def query_call (db : GovernedMapDb MainChainScripts) (since_mc_block up_to_mc_block : McBlockHash)
    (scripts : MainChainScripts) :
    Option (Except DataSourceError (List (String × Option ByteString))) :=
  match db.get_block_by_hash since_mc_block with
  | none => some (.error (.ExpectedDataNotFound since_mc_block))
  | some since_block =>
    match db.get_block_by_hash up_to_mc_block with
    | none => some (.error (.ExpectedDataNotFound up_to_mc_block))
    | some up_to_block => (query_changes db (some since_block) up_to_block scripts).map .ok

section calls

variable {db : GovernedMapDb MainChainScripts} {cache : Cache MainChainScripts}
  {scripts : MainChainScripts}

/-- Serving or filling keeps what the cache holds. -/
theorem serve_or_fill_cacheInv (h : CacheInv db cache) (hs : cache.scripts = some scripts)
    (cache_size : Nat) (since_block : Option Nat) (up_to_block : Nat) :
    CacheInv db (serve_or_fill db cache_size cache since_block up_to_block scripts).2 := by
  unfold serve_or_fill
  split
  · exact h
  · dsimp only
    split
    · exact h
    · rename_i changes hq
      exact cacheInv_update hs hq

/-- A range the cache does not serve, up to a stable block, is filled by a query over a larger
range, and comes back as a query over it finds it. -/
theorem serve_or_fill_of_miss (hdecode : ∀ utxo ∈ db.utxos scripts, (decode_entry utxo.datum).isSome)
    (cache_size : Nat) {since_block : Option Nat} {up_to_block : Nat}
    (hstable : ∀ latest, db.latest_stable_block = some latest → up_to_block ≤ latest)
    (hmiss : cache.get_changes_in_range since_block up_to_block = none) :
    (serve_or_fill db cache_size cache since_block up_to_block scripts).1 =
      query_changes db since_block up_to_block scripts := by
  -- the query reaches at least up to the range's end
  have hreach : up_to_block ≤ min (db.latest_stable_block.getD up_to_block)
      (max up_to_block (bridge.saturating_add (since_block.getD 0) cache_size)) := by
    refine le_min ?_ (le_max_left _ _)
    cases hlatest : db.latest_stable_block with
    | none => exact le_refl _
    | some latest => exact hstable latest hlatest
  obtain ⟨changes, hq⟩ := get_changes_in_range_to_cache_isSome hdecode since_block
    (min (db.latest_stable_block.getD up_to_block)
      (max up_to_block (bridge.saturating_add (since_block.getD 0) cache_size)))
  simp only [serve_or_fill, hmiss, hq]
  refine (filter_changes_in_range_of_sub (fun x hx => ?_) hq).symm
  simp only [in_block_range, Bool.and_eq_true, decide_eq_true_eq] at hx ⊢
  exact ⟨hx.1, hx.2.trans hreach⟩

/-- A range with a start, up to a stable block, comes back as a query over it finds it: from the
cache where the cache serves it, else from the query that fills the cache. -/
theorem serve_or_fill_since_some (h : CacheInv db cache) (hs : cache.scripts = some scripts)
    (hdecode : ∀ utxo ∈ db.utxos scripts, (decode_entry utxo.datum).isSome)
    (cache_size : Nat) {since_block up_to_block : Nat}
    (hstable : ∀ latest, db.latest_stable_block = some latest → up_to_block ≤ latest) :
    (serve_or_fill db cache_size cache (some since_block) up_to_block scripts).1 =
      query_changes db (some since_block) up_to_block scripts := by
  cases hserved : cache.get_changes_in_range (some since_block) up_to_block with
  | none => exact serve_or_fill_of_miss hdecode cache_size hstable hserved
  | some served =>
    simp only [serve_or_fill, hserved]
    exact (h.get_changes_in_range hs hserved).symm

variable [DecidableEq MainChainScripts]

/-- Every call keeps what the cache holds. -/
theorem GovernedMapDataSourceCachedImpl.get_mapping_changes_cacheInv (h : CacheInv db cache)
    (cache_size : Nat) (since_mc_block : Option McBlockHash) (up_to_mc_block : McBlockHash) :
    CacheInv db (GovernedMapDataSourceCachedImpl.get_mapping_changes db cache_size cache
      since_mc_block up_to_mc_block scripts).2 := by
  have h' := h.set_main_chain_scripts scripts
  unfold GovernedMapDataSourceCachedImpl.get_mapping_changes
  split
  · exact h'
  · split
    · exact h'
    · exact serve_or_fill_cacheInv h' (Cache.set_main_chain_scripts_scripts cache scripts)
        cache_size _ _

/-- A call with a start, up to a stable block, returns what a query over its range finds. -/
theorem GovernedMapDataSourceCachedImpl.get_mapping_changes_since_some (h : CacheInv db cache)
    (hdecode : ∀ utxo ∈ db.utxos scripts, (decode_entry utxo.datum).isSome) (cache_size : Nat)
    {since_mc_block up_to_mc_block : McBlockHash} {since_block up_to_block : Nat}
    (hsince : db.get_block_by_hash since_mc_block = some since_block)
    (hup : db.get_block_by_hash up_to_mc_block = some up_to_block)
    (hstable : ∀ latest, db.latest_stable_block = some latest → up_to_block ≤ latest) :
    (GovernedMapDataSourceCachedImpl.get_mapping_changes db cache_size cache (some since_mc_block)
        up_to_mc_block scripts).1 =
      (query_changes db (some since_block) up_to_block scripts).map .ok := by
  simp only [GovernedMapDataSourceCachedImpl.get_mapping_changes, resolve_since_block, hsince, hup]
  rw [serve_or_fill_since_some (h.set_main_chain_scripts scripts)
    (Cache.set_main_chain_scripts_scripts cache scripts) hdecode cache_size hstable]

/-- The step lemma: a call with a start, whose end block is stable where db-sync knows it, answers
as db-sync's query over its range. -/
theorem GovernedMapDataSourceCachedImpl.get_mapping_changes_eq_query_call (h : CacheInv db cache)
    (hdecode : ∀ utxo ∈ db.utxos scripts, (decode_entry utxo.datum).isSome) (cache_size : Nat)
    (since_mc_block up_to_mc_block : McBlockHash)
    (hstable : ∀ up_to_block, db.get_block_by_hash up_to_mc_block = some up_to_block →
      ∀ latest, db.latest_stable_block = some latest → up_to_block ≤ latest) :
    (GovernedMapDataSourceCachedImpl.get_mapping_changes db cache_size cache (some since_mc_block)
        up_to_mc_block scripts).1 = query_call db since_mc_block up_to_mc_block scripts := by
  cases hsince : db.get_block_by_hash since_mc_block with
  | none =>
    simp [GovernedMapDataSourceCachedImpl.get_mapping_changes, resolve_since_block, query_call,
      hsince]
  | some since_block =>
    cases hup : db.get_block_by_hash up_to_mc_block with
    | none =>
      simp [GovernedMapDataSourceCachedImpl.get_mapping_changes, resolve_since_block, query_call,
        hsince, hup]
    | some up_to_block =>
      rw [GovernedMapDataSourceCachedImpl.get_mapping_changes_since_some h hdecode cache_size hsince
        hup (hstable up_to_block hup)]
      simp only [query_call, hsince, hup]

end calls

open pallet_governed_map in
/-- Key `a` created at block 1 and key `b` at block 3, neither spent, for the one set of scripts;
the block of hash `mcBlock n` is block `n`, and block 3 is stable. -/
def twoKeyDb : GovernedMapDb Unit where
  utxos _ :=
    [⟨1, 0, none, governed_map_datum_to_plutus_data ⟨"a", ⟨[1]⟩⟩⟩,
      ⟨3, 0, none, governed_map_datum_to_plutus_data ⟨"b", ⟨[2]⟩⟩⟩]
  get_block_by_hash hash := some (hash.val.headD 0).toNat
  latest_stable_block := some 3

/-- The map on Cardano at block 3. -/
def twoKeyMap : SortedMap String ByteString :=
  (SortedMap.empty.insert "a" ⟨[1]⟩).insert "b" ⟨[2]⟩

open pallet_governed_map in
/-- With the node's cache of 100 blocks: a call for the changes after block 2 up to block 3 fills
the cache with the creation of `b` only, and a later call from the empty map up to block 3 is
served from that cache. Its one change, written into the empty map, misses `a`, which the
uncached source returns and the map at block 3 holds. -/
theorem cached_governed_map_source_drops_earlier_changes :
    (GovernedMapDataSourceCachedImpl.get_mapping_changes twoKeyDb 100 Cache.default
        (some (mcBlock 2)) (mcBlock 3) ()).1 = some (.ok [("b", some ⟨[2]⟩)]) ∧
      (GovernedMapDataSourceCachedImpl.get_mapping_changes twoKeyDb 100
          (GovernedMapDataSourceCachedImpl.get_mapping_changes twoKeyDb 100 Cache.default
            (some (mcBlock 2)) (mcBlock 3) ()).2
          none (mcBlock 3) ()).1 = some (.ok [("b", some ⟨[2]⟩)]) ∧
      GovernedMapDataSourceImpl.get_mapping_changes twoKeyDb none (mcBlock 3) () =
        some (.ok [("a", some ⟨[1]⟩), ("b", some ⟨[2]⟩)]) ∧
      GovernedMapDataSourceImpl.get_state_at_block twoKeyDb (mcBlock 3) () = some (.ok twoKeyMap) ∧
      SortedMap.empty.applyChanges [("b", some ⟨[2]⟩)] ≠ twoKeyMap := by
  refine ⟨?_, ?_, ?_, ?_, ?_⟩ <;> decide +kernel

section runs

open partner_chains.runs

variable [DecidableEq MainChainScripts] {db : GovernedMapDb MainChainScripts}

/-- One call of the cached source with a start, from the cache it holds. -/
def cachedCall (db : GovernedMapDb MainChainScripts) (cache_size : Nat)
    (cache : Cache MainChainScripts) (call : McBlockHash × McBlockHash × MainChainScripts) :
    Option (Except DataSourceError (List (String × Option ByteString))) × Cache MainChainScripts :=
  GovernedMapDataSourceCachedImpl.get_mapping_changes db cache_size cache (some call.1) call.2.1
    call.2.2

/-- The run lemma: from a cache that holds what a query found, every run of calls with a start
answers as db-sync's queries do. The induction is on the calls, with the cache invariant. -/
theorem transduce_cachedCall (hdecode : ∀ scripts, ∀ utxo ∈ db.utxos scripts,
      (decode_entry utxo.datum).isSome) (cache_size : Nat) :
    ∀ (calls : List (McBlockHash × McBlockHash × MainChainScripts)) (cache : Cache MainChainScripts),
      CacheInv db cache →
      (∀ call ∈ calls, ∀ up_to_block, db.get_block_by_hash call.2.1 = some up_to_block →
        ∀ latest, db.latest_stable_block = some latest → up_to_block ≤ latest) →
      (transduce (cachedCall db cache_size) cache calls).1 =
        calls.map fun call => query_call db call.1 call.2.1 call.2.2
  | [], _, _, _ => rfl
  | call :: calls, cache, h, hstable => by
    have hcall := GovernedMapDataSourceCachedImpl.get_mapping_changes_eq_query_call h
      (hdecode call.2.2) cache_size call.1 call.2.1 (hstable call List.mem_cons_self)
    have hnext : CacheInv db (cachedCall db cache_size cache call).2 :=
      GovernedMapDataSourceCachedImpl.get_mapping_changes_cacheInv h cache_size (some call.1) call.2.1
    rw [transduce_cons, List.map_cons, transduce_cachedCall hdecode cache_size calls _ hnext
        fun call' hcall' => hstable call' (List.mem_cons_of_mem call hcall'), cachedCall, hcall]

/-- The cached source is right on every call with a start: from its default cache, along every
run of calls whose start and end blocks db-sync knows or reports missing, with end blocks that
are stable and datums that decode, each call returns the changes that db-sync's query finds after
its start block and up to its end block, in order, whatever the cache held before it. -/
theorem cached_governed_map_source_answers_calls_with_start (db : GovernedMapDb MainChainScripts)
    (hdecode : ∀ scripts, ∀ utxo ∈ db.utxos scripts, (decode_entry utxo.datum).isSome)
    (cache_size : Nat) (calls : List (McBlockHash × McBlockHash × MainChainScripts))
    (hstable : ∀ call ∈ calls, ∀ up_to_block, db.get_block_by_hash call.2.1 = some up_to_block →
      ∀ latest, db.latest_stable_block = some latest → up_to_block ≤ latest) :
    (transduce (cachedCall db cache_size) Cache.default calls).1 =
      calls.map fun call => query_call db call.1 call.2.1 call.2.2 :=
  transduce_cachedCall hdecode cache_size calls Cache.default (cacheInv_default db) hstable

end runs

open pallet_governed_map in
/-- Two calls up to block 3 on db-sync of keys `a` (block 1) and `b` (block 3): the first, after
block 2, fills the cache; the second, after block 0, is not served from it and finds both keys. -/
theorem cached_governed_map_source_answers_two_calls_with_start :
    (∀ scripts, ∀ utxo ∈ twoKeyDb.utxos scripts, (decode_entry utxo.datum).isSome) ∧
      (∀ call ∈ [(mcBlock 2, mcBlock 3, ()), (mcBlock 0, mcBlock 3, ())], ∀ up_to_block,
        twoKeyDb.get_block_by_hash call.2.1 = some up_to_block →
        ∀ latest, twoKeyDb.latest_stable_block = some latest → up_to_block ≤ latest) ∧
      (partner_chains.runs.transduce (cachedCall twoKeyDb 100) Cache.default
          [(mcBlock 2, mcBlock 3, ()), (mcBlock 0, mcBlock 3, ())]).1 =
        [some (.ok [("b", some ⟨[2]⟩)]), some (.ok [("a", some ⟨[1]⟩), ("b", some ⟨[2]⟩)])] := by
  have hdecode : ∀ scripts, ∀ utxo ∈ twoKeyDb.utxos scripts, (decode_entry utxo.datum).isSome := by
    intro scripts
    cases scripts
    decide +kernel
  have hstable : ∀ call ∈ [(mcBlock 2, mcBlock 3, ()), (mcBlock 0, mcBlock 3, ())],
      ∀ up_to_block, twoKeyDb.get_block_by_hash call.2.1 = some up_to_block →
        ∀ latest, twoKeyDb.latest_stable_block = some latest → up_to_block ≤ latest := by
    simp [twoKeyDb, mcBlock]
  refine ⟨hdecode, hstable, ?_⟩
  rw [cached_governed_map_source_answers_calls_with_start twoKeyDb hdecode 100 _ hstable]
  decide +kernel

end partner_chains_db_sync_data_sources.governed_map
