-- Runs of the Governed Map. Each block of the Partner Chain refers to a
-- main chain block; the node's data provider reads the pallet at the parent
-- block and the data source at that main chain block, the block's inherent
-- writes the changes, and the block's extrinsics may set new scripts. A
-- data source that observes the map on Cardano makes the pallet hold that
-- map, for the scripts the block started with.
import PartnerChains.GovernedMap.Pallet
import PartnerChains.Lib.Runs

set_option autoImplicit false

namespace pallet_governed_map

open sidechain_domain partner_chains.sorted_map partner_chains.runs sp_governed_map

variable (T : Config) {MainChainScripts : Type}

/-! ## Blocks -/

/-- What a block leaves of the Governed Map: the pallet's storage, the block's number and the main
chain block the block refers to. -/
structure ChainState (MainChainScripts : Type) where
  storage : Storage MainChainScripts
  block_number : Nat
  mc_hash : Option McBlockHash

/-- The genesis block: the storage of the genesis config, no main chain block. -/
def ChainState.genesis (main_chain_scripts : Option MainChainScripts) :
    ChainState MainChainScripts :=
  ⟨Storage.genesis main_chain_scripts, 0, none⟩

/-- A block: the main chain block it refers to, and the new scripts of the
`set_main_chain_scripts` calls among its extrinsics. -/
structure GovernedMapBlock (MainChainScripts : Type) where
  mc_hash : McBlockHash
  set_main_chain_scripts_calls : List MainChainScripts

/-- The inherent of block `current_block`, built by `create_inherent` from the data provider's
data and dispatched before the extrinsics. `create_inherent` panics on an error, and a block whose
mandatory inherent fails is not valid: both are `none`. -/
def execute_inherent (current_block : Nat) (data : Option GovernedMapInherentDataV1)
    (storage : Storage MainChainScripts) : Option (Storage MainChainScripts) :=
  match create_inherent_or_err T storage.Initialized data with
  | .error _ => none
  | .ok none => some storage
  | .ok (some changes) =>
    match register_changes T current_block changes storage with
    | .error _ => none
    | .ok storage' => some storage'

/-- The extrinsics of a block that set new scripts, in order. -/
def set_main_chain_scripts_all (calls : List MainChainScripts) (storage : Storage MainChainScripts) :
    Storage MainChainScripts :=
  calls.foldl (fun storage c => set_main_chain_scripts c storage) storage

/-- One block: the data provider's data, from the parent block's storage and main chain block;
the inherent; the extrinsics. -/
def applyBlock (data_source : GovernedMapDataSource MainChainScripts)
    (st : ChainState MainChainScripts) (block : GovernedMapBlock MainChainScripts) :
    Option (ChainState MainChainScripts) :=
  let data := new_v1 data_source st.storage.MainChainScripts st.storage.Initialized
    st.storage.Mapping block.mc_hash st.mc_hash
  (execute_inherent T (st.block_number + 1) data st.storage).map fun storage =>
    ⟨set_main_chain_scripts_all block.set_main_chain_scripts_calls storage, st.block_number + 1,
      some block.mc_hash⟩

/-! ## What one block does -/

/-- The inherent either leaves the storage as it was (no data, or no change once initialized), or
registers the data's changes at this block. -/
theorem execute_inherent_eq_some {current_block : Nat} {data : Option GovernedMapInherentDataV1}
    {storage storage' : Storage MainChainScripts}
    (h : execute_inherent T current_block data storage = some storage') :
    (storage' = storage ∧ ∀ d, data = some d → d.isEmpty ∧ storage.Initialized = true) ∨
      ∃ d, data = some d ∧ storage' = { storage with
        LastUpdateBlock := some current_block
        Initialized := true
        Mapping := storage.Mapping.applyChanges d.entries } := by
  unfold execute_inherent at h
  split at h
  · cases h
  · -- no call
    rename_i hnone
    cases h
    refine .inl ⟨rfl, fun d hd => ?_⟩
    subst hd
    exact create_inherent_or_err_eq_none T hnone
  · -- `register_changes`
    rename_i changes hsome
    split at h
    · cases h
    · rename_i hreg
      cases h
      cases data with
      | none => cases hsome
      | some d =>
        rw [register_changes_eq_ok T hreg, create_inherent_or_err_eq_some T hsome]
        exact .inr ⟨d, rfl, rfl⟩

/-- The inherent fails only where `create_inherent_or_err` does, at a block after the last update
and with scripts set wherever there is data. -/
theorem execute_inherent_eq_none_iff {current_block : Nat} {data : Option GovernedMapInherentDataV1}
    {storage : Storage MainChainScripts}
    (hlast : ∀ n, storage.LastUpdateBlock = some n → n < current_block)
    (hs : data.isSome → storage.MainChainScripts.isSome) :
    execute_inherent T current_block data storage = none ↔
      ∃ e, create_inherent_or_err T storage.Initialized data = .error e := by
  unfold execute_inherent
  split
  · rename_i e he
    exact ⟨fun _ => ⟨e, he⟩, fun _ => rfl⟩
  · rename_i hnone
    simp [hnone]
  · -- changes come from data, so the scripts are set
    rename_i changes hsome
    cases data with
    | none => cases hsome
    | some d =>
      obtain ⟨storage', hreg⟩ := register_changes_ok T changes hlast (hs rfl)
      simp [hsome, hreg]

@[simp] theorem set_main_chain_scripts_all_Mapping (calls : List MainChainScripts)
    (storage : Storage MainChainScripts) :
    (set_main_chain_scripts_all calls storage).Mapping = storage.Mapping := by
  induction calls generalizing storage with
  | nil => rfl
  | cons c calls ih => exact ih _

@[simp] theorem set_main_chain_scripts_all_LastUpdateBlock (calls : List MainChainScripts)
    (storage : Storage MainChainScripts) :
    (set_main_chain_scripts_all calls storage).LastUpdateBlock = storage.LastUpdateBlock := by
  induction calls generalizing storage with
  | nil => rfl
  | cons c calls ih => exact ih _

@[simp] theorem set_main_chain_scripts_all_nil (storage : Storage MainChainScripts) :
    set_main_chain_scripts_all [] storage = storage := rfl

/-- After a call that sets scripts, the pallet is not initialized. -/
theorem set_main_chain_scripts_all_Initialized {calls : List MainChainScripts} (hcalls : calls ≠ [])
    (storage : Storage MainChainScripts) :
    (set_main_chain_scripts_all calls storage).Initialized = false := by
  induction calls generalizing storage with
  | nil => exact absurd rfl hcalls
  | cons c calls ih =>
    cases calls with
    | nil => rfl
    | cons c' calls => exact ih (List.cons_ne_nil c' calls) _

/-! ## Which blocks go through -/

/-- The inherent of the block can be created: no key, value or number of changes out of bounds. -/
def InherentCreated (data_source : GovernedMapDataSource MainChainScripts)
    (st : ChainState MainChainScripts) (block : GovernedMapBlock MainChainScripts) : Prop :=
  ∃ call, create_inherent_or_err T st.storage.Initialized
    (new_v1 data_source st.storage.MainChainScripts st.storage.Initialized st.storage.Mapping
      block.mc_hash st.mc_hash) = .ok call

/-- Changes were last registered at a block of the run, not after it. -/
def Numbered (st : ChainState MainChainScripts) : Prop :=
  ∀ n, st.storage.LastUpdateBlock = some n → n ≤ st.block_number

/-- A block is numbered after the last update it leaves. -/
theorem applyBlock_numbered (data_source : GovernedMapDataSource MainChainScripts)
    {st st' : ChainState MainChainScripts} (hnum : Numbered st)
    {block : GovernedMapBlock MainChainScripts} (h : applyBlock T data_source st block = some st') :
    Numbered st' := by
  obtain ⟨storage, hinh, rfl⟩ := Option.map_eq_some_iff.mp h
  intro n hn
  simp only [set_main_chain_scripts_all_LastUpdateBlock] at hn
  rcases execute_inherent_eq_some T hinh with ⟨rfl, -⟩ | ⟨d, -, rfl⟩
  · exact Nat.le_succ_of_le (hnum n hn)
  · cases hn
    exact Nat.le_refl _

/-- A block whose inherent can be created goes through, and the next block is numbered after the
last update. -/
theorem applyBlock_isSome (data_source : GovernedMapDataSource MainChainScripts)
    {st : ChainState MainChainScripts} (hnum : Numbered st) {block : GovernedMapBlock MainChainScripts}
    (hcreated : InherentCreated T data_source st block) :
    ∃ st', applyBlock T data_source st block = some st' ∧ Numbered st' := by
  have hlast : ∀ n, st.storage.LastUpdateBlock = some n → n < st.block_number + 1 :=
    fun n hn => Nat.lt_succ_of_le (hnum n hn)
  have hdata := new_v1_isSome data_source st.storage.MainChainScripts st.storage.Initialized
    st.storage.Mapping block.mc_hash st.mc_hash
  -- the inherent does not fail, since its creation does not
  obtain ⟨storage, hinh⟩ : ∃ storage, execute_inherent T (st.block_number + 1)
      (new_v1 data_source st.storage.MainChainScripts st.storage.Initialized st.storage.Mapping
        block.mc_hash st.mc_hash) st.storage = some storage := by
    refine Option.ne_none_iff_exists'.mp fun hnone => ?_
    obtain ⟨e, he⟩ := (execute_inherent_eq_none_iff T hlast (fun h => by rwa [hdata] at h)).mp hnone
    obtain ⟨call, hcall⟩ := hcreated
    rw [hcall] at he
    cases he
  have happly : applyBlock T data_source st block = some ⟨set_main_chain_scripts_all
      block.set_main_chain_scripts_calls storage, st.block_number + 1, some block.mc_hash⟩ := by
    simp only [applyBlock, hinh, Option.map_some]
  exact ⟨_, happly, applyBlock_numbered T data_source hnum happly⟩

theorem numbered_genesis (main_chain_scripts : Option MainChainScripts) :
    Numbered (ChainState.genesis main_chain_scripts) := by
  intro n hn
  cases hn

/-- Every run from genesis numbers its blocks after the last update. -/
theorem runAll_numbered (data_source : GovernedMapDataSource MainChainScripts)
    (main_chain_scripts : Option MainChainScripts) (blocks : List (GovernedMapBlock MainChainScripts))
    {st : ChainState MainChainScripts}
    (hrun : runAll (applyBlock T data_source) (ChainState.genesis main_chain_scripts) blocks = some st) :
    Numbered st :=
  runAll_preserves Numbered blocks _ st
    (fun _ _ _ _ hnum hstep => applyBlock_numbered T data_source hnum hstep)
    (numbered_genesis main_chain_scripts) hrun

/-! ## Observing the map on Cardano -/

/-- A data source that observes the map on Cardano: `state s b` is the map of the scripts `s`
after the main chain block `b`. Its state is that map, and the changes since a block, applied in
order to the map at that block, give the map at the later block. -/
structure ObservesMap (data_source : GovernedMapDataSource MainChainScripts)
    (state : MainChainScripts → McBlockHash → SortedMap String ByteString) : Prop where
  state_at_block : ∀ b s, data_source.get_state_at_block b s = state s b
  changes_since : ∀ b₁ b₂ s,
    (state s b₁).applyChanges (data_source.get_mapping_changes (some b₁) b₂ s) = state s b₂

/-- The pallet tracks the map on Cardano: initialized for its scripts, it holds their map at the
main chain block of the last block. -/
def Tracks (state : MainChainScripts → McBlockHash → SortedMap String ByteString)
    (st : ChainState MainChainScripts) : Prop :=
  ∀ s, st.storage.MainChainScripts = some s → st.storage.Initialized = true →
    ∃ b, st.mc_hash = some b ∧ st.storage.Mapping = state s b

section observed

variable {data_source : GovernedMapDataSource MainChainScripts}
  {state : MainChainScripts → McBlockHash → SortedMap String ByteString}

/-- The data provider's changes, applied to the pallet's map, give the map on Cardano at the new
main chain block: the changes since the parent's main chain block once initialized, the
difference of the two maps before. -/
theorem new_v1_applyChanges (hobs : ObservesMap data_source state) {st : ChainState MainChainScripts}
    (htracks : Tracks state st) {s : MainChainScripts} (hs : st.storage.MainChainScripts = some s)
    (mc_hash : McBlockHash) {d : GovernedMapInherentDataV1}
    (hd : new_v1 data_source st.storage.MainChainScripts st.storage.Initialized st.storage.Mapping
      mc_hash st.mc_hash = some d) :
    st.storage.Mapping.applyChanges d.entries = state s mc_hash := by
  rw [hs, new_v1] at hd
  cases hinit : st.storage.Initialized with
  | true =>
    -- the changes since the parent's main chain block, collected into one map
    obtain ⟨b, hb, hmap⟩ := htracks s hs hinit
    rw [hinit, if_pos rfl, hb, Option.some.injEq] at hd
    rw [← hd, SortedMap.applyChanges_foldl_insert, hmap]
    exact hobs.changes_since b mc_hash s
  | false =>
    -- the difference with the map on Cardano
    rw [hinit, if_neg Bool.false_ne_true, Option.some.injEq] at hd
    rw [← hd, applyChanges_state_changes]
    exact hobs.state_at_block mc_hash s

/-- One block, from a pallet that tracks the map with scripts `s`: its map becomes the map on
Cardano at the block's main chain block; without a call that sets scripts, the pallet is then
initialized for `s`. -/
theorem applyBlock_Mapping (hobs : ObservesMap data_source state) {st st' : ChainState MainChainScripts}
    (htracks : Tracks state st) {block : GovernedMapBlock MainChainScripts}
    (h : applyBlock T data_source st block = some st') {s : MainChainScripts}
    (hs : st.storage.MainChainScripts = some s) :
    st'.storage.Mapping = state s block.mc_hash ∧
      (block.set_main_chain_scripts_calls = [] →
        st'.storage.Initialized = true ∧ st'.storage.MainChainScripts = some s) := by
  obtain ⟨storage, hinh, rfl⟩ := Option.map_eq_some_iff.mp h
  -- the data provider has data, since the scripts are set
  obtain ⟨d, hd⟩ : ∃ d, new_v1 data_source st.storage.MainChainScripts st.storage.Initialized
      st.storage.Mapping block.mc_hash st.mc_hash = some d := by
    rw [hs, new_v1]
    split <;> exact ⟨_, rfl⟩
  have happly := new_v1_applyChanges hobs htracks hs block.mc_hash hd
  rw [hd] at hinh
  rcases execute_inherent_eq_some T hinh with ⟨rfl, hnone⟩ | ⟨d', hd', rfl⟩
  · -- no call: no change, once initialized
    obtain ⟨hempty, hinit⟩ := hnone d rfl
    have hentries : d.entries = [] := List.isEmpty_iff.mp hempty
    rw [hentries] at happly
    refine ⟨by simpa using happly, fun hcalls => ?_⟩
    simp [hcalls, hinit, hs]
  · cases hd'
    refine ⟨by simpa using happly, fun hcalls => ?_⟩
    simp [hcalls, hs]

/-- Without a call that sets scripts, a block keeps the scripts of its parent. -/
theorem applyBlock_MainChainScripts {st st' : ChainState MainChainScripts}
    {block : GovernedMapBlock MainChainScripts} (h : applyBlock T data_source st block = some st')
    (hcalls : block.set_main_chain_scripts_calls = []) :
    st'.storage.MainChainScripts = st.storage.MainChainScripts := by
  obtain ⟨storage, hinh, rfl⟩ := Option.map_eq_some_iff.mp h
  rw [hcalls, set_main_chain_scripts_all_nil]
  rcases execute_inherent_eq_some T hinh with ⟨rfl, -⟩ | ⟨d, -, rfl⟩ <;> rfl

/-- The step lemma: every block keeps the pallet tracking the map. -/
theorem applyBlock_tracks (hobs : ObservesMap data_source state) {st st' : ChainState MainChainScripts}
    (htracks : Tracks state st) {block : GovernedMapBlock MainChainScripts}
    (h : applyBlock T data_source st block = some st') : Tracks state st' := by
  intro s hs' hinit'
  -- a call that sets scripts leaves the pallet uninitialized
  have hcalls : block.set_main_chain_scripts_calls = [] := by
    by_contra hcalls
    obtain ⟨storage, -, rfl⟩ := Option.map_eq_some_iff.mp h
    simp [set_main_chain_scripts_all_Initialized hcalls] at hinit'
  have hs : st.storage.MainChainScripts = some s := by
    rw [← hs', applyBlock_MainChainScripts T h hcalls]
  obtain ⟨storage, -, rfl⟩ := Option.map_eq_some_iff.mp h
  exact ⟨block.mc_hash, rfl, (applyBlock_Mapping T hobs htracks h hs).1⟩

/-- The genesis pallet is not initialized. -/
theorem tracks_genesis (main_chain_scripts : Option MainChainScripts) :
    Tracks state (ChainState.genesis main_chain_scripts) := by
  intro s _ hinit
  cases hinit

/-- The run lemma: after every run of blocks the pallet still tracks the map. -/
theorem runAll_tracks (hobs : ObservesMap data_source state) (blocks : List (GovernedMapBlock MainChainScripts))
    {st st' : ChainState MainChainScripts} (htracks : Tracks state st)
    (h : runAll (applyBlock T data_source) st blocks = some st') : Tracks state st' :=
  runAll_preserves (Tracks state) blocks st st'
    (fun _ _ _ _ ht hstep => applyBlock_tracks T hobs ht hstep) htracks h

/-- Every block after a run from genesis, whose parent has scripts `s`, goes through whenever its
inherent can be created, and then leaves the pallet with the map of `s` on Cardano at the block's
main chain block; when the block does not set new scripts, the pallet is initialized for `s`. And
`register_changes` always leaves the pallet initialized. -/
theorem governed_map_tracks_main_chain (hobs : ObservesMap data_source state)
    (main_chain_scripts : Option MainChainScripts) (blocks : List (GovernedMapBlock MainChainScripts))
    (block : GovernedMapBlock MainChainScripts) {st : ChainState MainChainScripts}
    (hrun : runAll (applyBlock T data_source) (ChainState.genesis main_chain_scripts) blocks = some st)
    {s : MainChainScripts} (hs : st.storage.MainChainScripts = some s) :
    (InherentCreated T data_source st block →
      ∃ st', applyBlock T data_source st block = some st') ∧
    (∀ st', applyBlock T data_source st block = some st' →
      st'.storage.Mapping = state s block.mc_hash ∧
        (block.set_main_chain_scripts_calls = [] →
          st'.storage.Initialized = true ∧ st'.storage.MainChainScripts = some s)) ∧
    ∀ (current_block : Nat) (changes : Changes T) (storage storage' : Storage MainChainScripts),
      register_changes T current_block changes storage = .ok storage' →
        storage'.Initialized = true := by
  have htracks := runAll_tracks T hobs blocks (tracks_genesis main_chain_scripts) hrun
  refine ⟨fun hcreated => ?_, fun st' h => applyBlock_Mapping T hobs htracks h hs,
    fun current_block changes storage storage' hreg => ?_⟩
  · obtain ⟨st', happly, -⟩ :=
      applyBlock_isSome T data_source (runAll_numbered T data_source main_chain_scripts blocks hrun)
        hcreated
    exact ⟨st', happly⟩
  · rw [register_changes_eq_ok T hreg]

end observed

/-- Bounds of four changes, and keys and values of eight bytes. -/
def smallConfig : Config := ⟨4, 8, 8⟩

/-- The main chain block whose hash is `b` repeated. -/
def mcBlock (b : UInt8) : McBlockHash := ⟨List.replicate 32 b, FixedBytes.length_replicate_32 b⟩

/-- A map on Cardano that never changes: one key for the scripts `true`, none for `false`. -/
def oneKeyState (s : Bool) (_ : McBlockHash) : SortedMap String ByteString :=
  if s then SortedMap.empty.insert "k" ⟨[1]⟩ else SortedMap.empty

/-- A data source that reads `oneKeyState` and sees no change. -/
def oneKeySource : GovernedMapDataSource Bool := ⟨fun b s => oneKeyState s b, fun _ _ _ => []⟩

theorem observesMap_oneKeySource : ObservesMap oneKeySource oneKeyState :=
  ⟨fun _ _ => rfl, fun _ _ _ => rfl⟩

/-- The chain after the first block for the scripts `true`: initialized with the map. -/
def oneKeyFirst : ChainState Bool :=
  ⟨⟨true, some 1, SortedMap.empty.insert "k" ⟨[1]⟩, some true⟩, 1, some (mcBlock 1)⟩

/-- The chain after a second block without change: no inherent. -/
def oneKeySecond : ChainState Bool :=
  ⟨⟨true, some 1, SortedMap.empty.insert "k" ⟨[1]⟩, some true⟩, 2, some (mcBlock 2)⟩

-- The second block registers no change and goes through.
example : applyBlock smallConfig oneKeySource oneKeyFirst ⟨mcBlock 2, []⟩ = some oneKeySecond :=
  rfl

theorem governed_map_tracks_main_chain_two_blocks :
    ObservesMap oneKeySource oneKeyState ∧
      runAll (applyBlock smallConfig oneKeySource) (ChainState.genesis (some true))
        [⟨mcBlock 1, []⟩] = some oneKeyFirst ∧
      oneKeyFirst.storage.MainChainScripts = some true ∧
      (InherentCreated smallConfig oneKeySource oneKeyFirst ⟨mcBlock 2, []⟩ →
        ∃ st', applyBlock smallConfig oneKeySource oneKeyFirst ⟨mcBlock 2, []⟩ = some st') ∧
      (∀ st', applyBlock smallConfig oneKeySource oneKeyFirst ⟨mcBlock 2, []⟩ = some st' →
        st'.storage.Mapping = oneKeyState true (mcBlock 2) ∧
          (([] : List Bool) = [] →
            st'.storage.Initialized = true ∧ st'.storage.MainChainScripts = some true)) ∧
      ∀ (current_block : Nat) (changes : Changes smallConfig) (storage storage' : Storage Bool),
        register_changes smallConfig current_block changes storage = .ok storage' →
          storage'.Initialized = true := by
  have hrun : runAll (applyBlock smallConfig oneKeySource) (ChainState.genesis (some true))
      [⟨mcBlock 1, []⟩] = some oneKeyFirst := rfl
  exact ⟨observesMap_oneKeySource, hrun, rfl,
    governed_map_tracks_main_chain smallConfig observesMap_oneKeySource (some true) _
      ⟨mcBlock 2, []⟩ hrun rfl⟩

/-- The chain after one block for the scripts `false` that sets the scripts `true`. -/
def setScriptsFirst : ChainState Bool :=
  ⟨⟨false, some 1, SortedMap.empty, some true⟩, 1, some (mcBlock 1)⟩

/-- A block that sets new scripts keeps the map of the old ones: after it the pallet has the
scripts `true` but not their map. -/
theorem governed_map_set_scripts_keeps_old_map :
    ObservesMap oneKeySource oneKeyState ∧
      runAll (applyBlock smallConfig oneKeySource) (ChainState.genesis (some false))
        [⟨mcBlock 1, [true]⟩] = some setScriptsFirst ∧
      setScriptsFirst.storage.MainChainScripts = some true ∧
      setScriptsFirst.storage.Mapping ≠ oneKeyState true (mcBlock 1) := by
  refine ⟨observesMap_oneKeySource, rfl, rfl, fun h => ?_⟩
  -- the map of `true` has the key, the pallet's map does not
  have hk := congrArg (SortedMap.lookup · "k") h
  simp [setScriptsFirst, oneKeyState] at hk

/-! ## Whole runs go through -/

/-- Every run from genesis in which each block's inherent can be created goes through. -/
theorem runAll_applyBlock_isSome (data_source : GovernedMapDataSource MainChainScripts)
    (main_chain_scripts : Option MainChainScripts) (blocks : List (GovernedMapBlock MainChainScripts))
    (hcreated : Admitted (applyBlock T data_source) (InherentCreated T data_source)
      (ChainState.genesis main_chain_scripts) blocks) :
    ∃ st, runAll (applyBlock T data_source) (ChainState.genesis main_chain_scripts) blocks = some st := by
  obtain ⟨st, hrun, -⟩ := runAll_inv Numbered (InherentCreated T data_source)
    (fun _ _ hnum hc => applyBlock_isSome T data_source hnum hc) blocks _
    (numbered_genesis main_chain_scripts) hcreated
  exact ⟨st, hrun⟩

/-- Two blocks from genesis with the scripts `true`: each inherent can be created, and both
blocks go through. -/
theorem runAll_applyBlock_isSome_two_blocks :
    Admitted (applyBlock smallConfig oneKeySource) (InherentCreated smallConfig oneKeySource)
        (ChainState.genesis (some true)) [⟨mcBlock 1, []⟩, ⟨mcBlock 2, []⟩] ∧
      ∃ st, runAll (applyBlock smallConfig oneKeySource) (ChainState.genesis (some true))
        [⟨mcBlock 1, []⟩, ⟨mcBlock 2, []⟩] = some st := by
  have hfirst : applyBlock smallConfig oneKeySource (ChainState.genesis (some true))
      ⟨mcBlock 1, []⟩ = some oneKeyFirst := rfl
  have hcreated : Admitted (applyBlock smallConfig oneKeySource)
      (InherentCreated smallConfig oneKeySource) (ChainState.genesis (some true))
      [⟨mcBlock 1, []⟩, ⟨mcBlock 2, []⟩] := by
    refine ⟨⟨_, rfl⟩, fun st h => ?_⟩
    -- the first block leads to `oneKeyFirst`, where the second inherent is made too
    rw [hfirst, Option.some.injEq] at h
    subst h
    exact ⟨⟨_, rfl⟩, fun _ _ => trivial⟩
  exact ⟨hcreated, runAll_applyBlock_isSome smallConfig oneKeySource (some true) _ hcreated⟩

end pallet_governed_map
