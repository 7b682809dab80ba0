-- The Governed Map (toolkit/governed-map): the inherent data provider of
-- primitives/src/lib.rs and the pallet of pallet/src/lib.rs. The node
-- compares what the pallet holds with the map on Cardano and hands the
-- block the changes, as one map; the block's inherent writes them to the
-- pallet's `Mapping`. Until the pallet is initialized for its scripts the
-- changes are the difference of the two maps, afterwards the changes on
-- Cardano since the parent block's main chain block.
import Mathlib
import PartnerChains.Lib.Frame
import PartnerChains.Domain

set_option autoImplicit false

namespace sp_governed_map

open sidechain_domain partner_chains.sorted_map

/-- `GovernedMapInherentDataV1`: the changes since the last observation, `None` for a key that
was removed. -/
abbrev GovernedMapInherentDataV1 := SortedMap String (Option ByteString)

/-- `InherentError` -/
inductive InherentError where
  | InherentMissing
  | InherentNotExpected
  | IncorrectInherent
  | KeyExceedsBounds (key : String)
  | ValueExceedsBounds (key : String) (value : ByteString)
  | TooManyChanges
  deriving DecidableEq

/-- `GovernedMapDataSource`: the map on Cardano after a block, and the changes of a range of
blocks, oldest first. -/
structure GovernedMapDataSource (MainChainScripts : Type) where
  get_state_at_block : McBlockHash → MainChainScripts → SortedMap String ByteString
  get_mapping_changes : Option McBlockHash → McBlockHash → MainChainScripts →
    List (String × Option ByteString)

variable {MainChainScripts : Type}

/-- The differences of two maps, as changes: the keys that the new map lacks are removed, the
keys whose value differs or is new are written. -/
def state_changes (current_state new_state : SortedMap String ByteString) :
    GovernedMapInherentDataV1 :=
  let changes := current_state.keys.foldl
    (fun changes key => if !new_state.contains key then changes.insert key none else changes)
    SortedMap.empty
  new_state.entries.foldl
    (fun changes e => if current_state.lookup e.1 != some e.2 then changes.insert e.1 (some e.2)
      else changes)
    changes

/-- `GovernedMapInherentDataProvider::new_v1`, from what the runtime API reads at the parent
block: its scripts, whether it is initialized, and its mappings. `None` is `Inert`. -/
def new_v1 (data_source : GovernedMapDataSource MainChainScripts)
    (main_chain_scripts : Option MainChainScripts) (is_initialized : Bool)
    (current_state : SortedMap String ByteString) (mc_hash : McBlockHash)
    (parent_mc_hash : Option McBlockHash) : Option GovernedMapInherentDataV1 :=
  match main_chain_scripts with
  | none => none
  | some main_chain_script =>
    if is_initialized then
      let raw_changes := data_source.get_mapping_changes parent_mc_hash mc_hash main_chain_script
      some (raw_changes.foldl (fun changes e => changes.insert e.1 e.2) SortedMap.empty)
    else
      some (state_changes current_state (data_source.get_state_at_block mc_hash main_chain_script))

/-- The data provider has data exactly when the scripts are set. -/
theorem new_v1_isSome (data_source : GovernedMapDataSource MainChainScripts)
    (main_chain_scripts : Option MainChainScripts) (is_initialized : Bool)
    (current_state : SortedMap String ByteString) (mc_hash : McBlockHash)
    (parent_mc_hash : Option McBlockHash) :
    (new_v1 data_source main_chain_scripts is_initialized current_state mc_hash
      parent_mc_hash).isSome = main_chain_scripts.isSome := by
  cases main_chain_scripts with
  | none => rfl
  | some s => cases is_initialized <;> rfl

/-- Applied to the current map, its differences with a new map give the new map. -/
theorem applyChanges_state_changes (current_state new_state : SortedMap String ByteString) :
    current_state.applyChanges (state_changes current_state new_state).entries = new_state := by
  refine SortedMap.ext fun k => ?_
  rw [SortedMap.lookup_applyChanges_entries, state_changes, SortedMap.lookup_foldl_insert_if,
    SortedMap.lookup_foldl_insert_if, lookup_reverse ((new_state.keysNodup).map_filter _ _),
    lookup_map_filter new_state.keysNodup, ← List.map_reverse, lookup_map_const]
  simp only [List.mem_reverse, List.mem_filter, SortedMap.mem_keys, SortedMap.contains_eq,
    SortedMap.lookup_entries, SortedMap.lookup_empty, Option.or_none]
  cases hnew : new_state.lookup k with
  | some v =>
    -- a key of the new map is written, unless its value is the current one
    by_cases hsame : current_state.lookup k = some v <;> simp [hsame, Option.filter_some]
  | none =>
    -- a key the new map lacks is removed, where the current map has it
    cases current_state.lookup k <;> simp

end sp_governed_map

namespace pallet_governed_map

open sidechain_domain partner_chains.sorted_map frame_support sp_governed_map

/-- The pallet's `Config`: the bounds of a change list, a key and a value. -/
structure Config where
  MaxChanges : Nat
  MaxKeyLength : Nat
  MaxValueLength : Nat

variable (T : Config) {MainChainScripts : Type}

/-- `Changes<T>` -/
abbrev Changes := BoundedBTreeMap String (Option ByteString) T.MaxChanges

/-- The pallet's storage: `Initialized`, `LastUpdateBlock`, `Mapping` and `MainChainScripts`. -/
structure Storage (MainChainScripts : Type) where
  Initialized : Bool
  LastUpdateBlock : Option Nat
  Mapping : SortedMap String ByteString
  MainChainScripts : Option MainChainScripts

/-- The storage the genesis config builds: the scripts it names, nothing else. -/
def Storage.genesis (main_chain_scripts : Option MainChainScripts) : Storage MainChainScripts :=
  ⟨false, none, SortedMap.empty, main_chain_scripts⟩

/-- `Error<T>` -/
inductive Error where
  | InherentCalledTwice
  | MainChainScriptNotSet
  deriving DecidableEq

/-- `bound_key`: the key's UTF-8 bytes within `MaxKeyLength`. -/
def bound_key (key : String) : Except InherentError String :=
  if key.utf8ByteSize ≤ T.MaxKeyLength then .ok key else .error (.KeyExceedsBounds key)

/-- `bound_value` -/
def bound_value (key : String) (value : ByteString) : Except InherentError ByteString :=
  if value.val.length ≤ T.MaxValueLength then .ok value else .error (.ValueExceedsBounds key value)

/-- The bounds of one change, checked as the loop of `create_inherent_or_err` does: the value,
then the key. -/
def bound_change (change : String × Option ByteString) : Except InherentError Unit := do
  if let some new_value := change.2 then
    discard <| bound_value T change.1 new_value
  discard <| bound_key T change.1

/-- `create_inherent_or_err`: no inherent without data, or for no change once initialized; else
the changes, each within its bounds. -/
def create_inherent_or_err (Initialized : Bool) (data : Option GovernedMapInherentDataV1) :
    Except InherentError (Option (Changes T)) :=
  match data with
  | none => .ok none
  | some raw_changes =>
    if raw_changes.isEmpty && Initialized then .ok none
    else if h : raw_changes.size > T.MaxChanges then .error .TooManyChanges
    else do
      raw_changes.entries.forM (bound_change T)
      pure (some ⟨raw_changes, Nat.le_of_not_gt h⟩)

/-- `register_changes` at block `current_block`. A failing call leaves the storage as it was. -/
def register_changes (current_block : Nat) (changes : Changes T)
    (storage : Storage MainChainScripts) : Except Error (Storage MainChainScripts) :=
  if storage.LastUpdateBlock.all (· < current_block) then
    if storage.MainChainScripts.isSome then
      .ok { storage with
        LastUpdateBlock := some current_block
        Initialized := true
        Mapping := storage.Mapping.applyChanges changes.val.entries }
    else .error .MainChainScriptNotSet
  else .error .InherentCalledTwice

/-- `set_main_chain_scripts`, called by the governance origin. -/
def set_main_chain_scripts (new_main_chain_script : MainChainScripts)
    (storage : Storage MainChainScripts) : Storage MainChainScripts :=
  { storage with MainChainScripts := some new_main_chain_script, Initialized := false }

/-! ## The inherent -/

/-- What `create_inherent_or_err` gives for data, when it does not fail: no call, for no change
once initialized, or the data itself as the changes. -/
theorem create_inherent_or_err_eq_ok {Initialized : Bool} {data : GovernedMapInherentDataV1}
    {call : Option (Changes T)} (h : create_inherent_or_err T Initialized (some data) = .ok call) :
    (call = none ∧ data.isEmpty ∧ Initialized = true) ∨
      ∃ changes : Changes T, call = some changes ∧ changes.val = data := by
  simp only [create_inherent_or_err] at h
  split at h
  · rename_i hempty
    cases h
    exact .inl ⟨rfl, by simpa using hempty⟩
  · split at h
    · cases h
    · -- the bounds of every change hold
      cases hfor : data.entries.forM (bound_change T) with
      | error e =>
        rw [hfor] at h
        cases h
      | ok u =>
        rw [hfor] at h
        cases h
        exact .inr ⟨_, rfl, rfl⟩

/-- The changes of the call are the data. -/
theorem create_inherent_or_err_eq_some {Initialized : Bool} {data : GovernedMapInherentDataV1}
    {changes : Changes T}
    (h : create_inherent_or_err T Initialized (some data) = .ok (some changes)) :
    changes.val = data := by
  rcases create_inherent_or_err_eq_ok T h with ⟨hnone, -, -⟩ | ⟨c, hc, hval⟩
  · cases hnone
  · cases hc
    exact hval

/-- No inherent happens only for no data, or for no change once initialized. -/
theorem create_inherent_or_err_eq_none {Initialized : Bool} {data : GovernedMapInherentDataV1}
    (h : create_inherent_or_err T Initialized (some data) = .ok none) :
    data.isEmpty ∧ Initialized = true := by
  rcases create_inherent_or_err_eq_ok T h with ⟨-, hempty, hinit⟩ | ⟨c, hc, -⟩
  · exact ⟨hempty, hinit⟩
  · cases hc

/-- The storage after the inherent: the last update is this block, the pallet is initialized and
the changes are applied to its map. -/
theorem register_changes_eq_ok {current_block : Nat} {changes : Changes T}
    {storage storage' : Storage MainChainScripts}
    (h : register_changes T current_block changes storage = .ok storage') :
    storage' = { storage with
      LastUpdateBlock := some current_block
      Initialized := true
      Mapping := storage.Mapping.applyChanges changes.val.entries } := by
  unfold register_changes at h
  split at h
  · split at h
    · cases h
      rfl
    · cases h
  · cases h

/-- `register_changes` succeeds at a block after the last update, once scripts are set. -/
theorem register_changes_ok {current_block : Nat} (changes : Changes T)
    {storage : Storage MainChainScripts}
    (hlast : ∀ n, storage.LastUpdateBlock = some n → n < current_block)
    (hs : storage.MainChainScripts.isSome) :
    ∃ storage', register_changes T current_block changes storage = .ok storage' := by
  have hall : storage.LastUpdateBlock.all (· < current_block) = true := by
    cases h : storage.LastUpdateBlock with
    | none => rfl
    | some n => simpa using hlast n h
  rw [register_changes, if_pos hall, if_pos hs]
  exact ⟨_, rfl⟩

end pallet_governed_map
