-- The epoch clock of a Partner Chain (toolkit/sidechain/pallet): at the
-- start of each block the pallet computes the block's epoch from its
-- reference timestamp, stores it, and in the first block of a new epoch calls
-- the `OnNewEpoch` handler with the stored epoch and the new one. Along any
-- run of blocks the handler is called once for each change of epoch between
-- adjacent blocks, with those two epochs, and never at the first block; the
-- stored epoch is the last block's. Where the reference timestamps do not go
-- back, every call moves to a later epoch.
import Mathlib
import PartnerChains.Domain
import PartnerChains.Lib.Runs
import PartnerChains.Lib.ListOrder

set_option autoImplicit false

namespace sidechain_domain

/-- `ScEpochNumber(u64)` -/
abbrev ScEpochNumber := UInt64

/-- `ScEpochDuration(u64)`: a Partner Chain epoch's duration in milliseconds. -/
structure ScEpochDuration where
  millis : UInt64
  deriving DecidableEq

/-- `ScEpochDuration::default`: a minute. -/
instance : Inhabited ScEpochDuration := ⟨⟨60000⟩⟩

end sidechain_domain

namespace pallet_sidechain

open sidechain_domain partner_chains.runs partner_chains.list_order

/-- The pallet's storage, and the calls it made to `T::OnNewEpoch::on_new_epoch`, oldest first. -/
structure State where
  /-- `EpochNumber`, as `try_get` reads it: `none` until the first block stores an epoch. -/
  EpochNumber : Option ScEpochNumber
  EpochDurationMillis : ScEpochDuration
  GenesisUtxo : UtxoId
  on_new_epoch : List (ScEpochNumber × ScEpochNumber)

/-- `Pallet::genesis_utxo` -/
def genesis_utxo (s : State) : UtxoId := s.GenesisUtxo

/-- `Pallet::epoch_duration_millis` -/
def epoch_duration_millis (s : State) : UInt64 := s.EpochDurationMillis.millis

/-- `Pallet::current_epoch_number`: the reference timestamp divided by the epoch duration; the
division panics on a duration of zero. -/
def current_epoch_number (s : State) (reference_timestamp_millis : UInt64) :
    Option ScEpochNumber :=
  if epoch_duration_millis s = 0 then none
  else some (reference_timestamp_millis / epoch_duration_millis s)

/-- `GenesisConfig` -/
structure GenesisConfig where
  genesis_utxo : UtxoId
  epoch_duration : ScEpochDuration

/-- `GenesisConfig::default`: the zero UTXO and epochs of a minute. -/
instance : Inhabited GenesisConfig :=
  ⟨⟨⟨⟨List.replicate 32 0, FixedBytes.length_zeros_32⟩, 0⟩, default⟩⟩

/-- `GenesisConfig::build`: no epoch is stored yet. -/
def GenesisConfig.build (config : GenesisConfig) : State :=
  ⟨none, config.epoch_duration, config.genesis_utxo, []⟩

/-- `Hooks::on_initialize`, in a block whose `T::reference_timestamp_millis()` is
`reference_timestamp_millis`. The returned weight and the log line are left out. -/
def on_initialize (s : State) (reference_timestamp_millis : UInt64) : Option State := do
  let real_epoch ← current_epoch_number s reference_timestamp_millis
  match s.EpochNumber with
  | some saved_epoch =>
    if saved_epoch ≠ real_epoch then
      some { s with EpochNumber := some real_epoch,
                    on_new_epoch := s.on_new_epoch ++ [(saved_epoch, real_epoch)] }
    else some s
  | none => some { s with EpochNumber := some real_epoch }

/-! ## One block -/

section step

variable {s : State} (reference_timestamp_millis : UInt64)

theorem current_epoch_number_of_ne_zero (hd : epoch_duration_millis s ≠ 0) :
    current_epoch_number s reference_timestamp_millis =
      some (reference_timestamp_millis / epoch_duration_millis s) := by
  simp [current_epoch_number, hd]

/-- The first block stores its epoch and calls no handler. -/
theorem on_initialize_of_none (he : s.EpochNumber = none) (hd : epoch_duration_millis s ≠ 0) :
    on_initialize s reference_timestamp_millis =
      some { s with EpochNumber := some (reference_timestamp_millis / epoch_duration_millis s) } := by
  unfold on_initialize
  simp [current_epoch_number_of_ne_zero _ hd, he]

/-- A later block stores its epoch, and calls the handler once if that epoch is not the stored
one: with the change from the stored epoch to its own, if there is one. -/
theorem on_initialize_of_some {e : ScEpochNumber} (he : s.EpochNumber = some e)
    (hd : epoch_duration_millis s ≠ 0) :
    on_initialize s reference_timestamp_millis =
      some { s with EpochNumber := some (reference_timestamp_millis / epoch_duration_millis s),
                    on_new_epoch := s.on_new_epoch ++
                      changes e [reference_timestamp_millis / epoch_duration_millis s] } := by
  unfold on_initialize
  simp only [current_epoch_number_of_ne_zero _ hd, he, Option.bind_eq_bind, Option.bind_some]
  by_cases heq : e = reference_timestamp_millis / epoch_duration_millis s
  · -- the same epoch: the `_` arm, nothing is written
    rw [if_neg (not_not.mpr heq), ← heq, changes_cons_self, changes_nil, List.append_nil, ← he]
  · rw [if_pos heq, changes_cons_of_ne heq, changes_nil]

end step

/-! ## Runs of blocks -/

/-- From a state with a stored epoch `e`, a run of blocks stores the last block's epoch and
calls the handler with each change along `e` and the blocks' epochs. The induction is on the
blocks, from any such state. -/
theorem runAll_on_initialize (s : State) (e : ScEpochNumber) (he : s.EpochNumber = some e)
    (hd : epoch_duration_millis s ≠ 0) (timestamps : List UInt64) :
    runAll on_initialize s timestamps =
      some { s with
        EpochNumber := some ((timestamps.map (· / epoch_duration_millis s)).getLastD e),
        on_new_epoch := s.on_new_epoch ++
          changes e (timestamps.map (· / epoch_duration_millis s)) } := by
  induction timestamps generalizing s e with
  | nil => simp [← he]
  | cons t timestamps ih =>
    -- the state after the first block, which has its epoch stored
    let s₁ : State := { s with
      EpochNumber := some (t / epoch_duration_millis s),
      on_new_epoch := s.on_new_epoch ++ changes e [t / epoch_duration_millis s] }
    have hd₁ : epoch_duration_millis s₁ = epoch_duration_millis s := rfl
    rw [runAll_cons, on_initialize_of_some t he hd, Option.bind_some,
      ih s₁ _ rfl (hd₁ ▸ hd), hd₁]
    simp only [s₁, List.map_cons, List.getLastD_cons, List.append_assoc, ← changes_cons]

/-- Timestamps that do not go back give epochs that do not go back. -/
theorem isChain_div_of_isChain (d : UInt64) {timestamps : List UInt64}
    (h : timestamps.IsChain (· ≤ ·)) : (timestamps.map (· / d)).IsChain (· ≤ ·) := by
  rw [List.isChain_map]
  refine h.imp fun a b hab => ?_
  rw [UInt64.le_iff_toNat_le, UInt64.toNat_div, UInt64.toNat_div]
  exact Nat.div_le_div_right (UInt64.le_iff_toNat_le.mp hab)

/-- The epoch clock over a run from genesis. Along any blocks, with reference timestamps
`timestamps` and an epoch duration that is not zero, no block panics; the stored epoch is the last
block's; and the handler is called exactly with the adjacent pairs of the blocks' epochs once
repeats are dropped, that is once per change of epoch, with the epoch before and the epoch after.
Where the timestamps do not go back, every call is to a later epoch. -/
theorem on_new_epoch_called_once_per_epoch_change (config : GenesisConfig)
    (hd : config.epoch_duration.millis ≠ 0) (timestamps : List UInt64) :
    ∃ s, runAll on_initialize config.build timestamps = some s ∧
      s.EpochNumber = (timestamps.map (· / config.epoch_duration.millis)).getLast? ∧
      s.on_new_epoch =
        ((timestamps.map (· / config.epoch_duration.millis)).destutter (· ≠ ·)).zip
          ((timestamps.map (· / config.epoch_duration.millis)).destutter (· ≠ ·)).tail ∧
      (timestamps.IsChain (· ≤ ·) → ∀ call ∈ s.on_new_epoch, call.1 < call.2) := by
  cases timestamps with
  | nil =>
    refine ⟨config.build, rfl, rfl, rfl, fun _ call hcall => ?_⟩
    simp [GenesisConfig.build] at hcall
  | cons t timestamps =>
    -- the first block stores its epoch; from there on the run lemma applies
    have hd' : epoch_duration_millis config.build ≠ 0 := hd
    have hrun := runAll_on_initialize
      { config.build with EpochNumber := some (t / epoch_duration_millis config.build) }
      (t / epoch_duration_millis config.build) rfl hd' timestamps
    refine ⟨_, by rw [runAll_cons, on_initialize_of_none t rfl hd', Option.bind_some, hrun], ?_,
      ?_, fun hchain call hcall => ?_⟩
    · simp [List.getLast?_cons, List.getLastD_eq_getLast?, epoch_duration_millis,
        GenesisConfig.build]
    · simp only [List.map_cons, List.destutter_cons']
      rfl
    · obtain ⟨hle, hne⟩ := rel_of_mem_changes
        (isChain_div_of_isChain config.epoch_duration.millis hchain) call hcall
      exact UInt64.lt_of_le_of_ne hle hne
/-- Five blocks, half a minute apart but for the last, in epochs 0, 0, 1, 1 and 3. -/
def fiveTimestamps : List UInt64 := [0, 30000, 60000, 90000, 180000]

-- The handler is called at the third block and at the fifth.
example : (runAll on_initialize (default : GenesisConfig).build fiveTimestamps).map
    (·.on_new_epoch) = some [(0, 1), (1, 3)] := rfl

theorem on_new_epoch_called_once_per_epoch_change_default_config :
    (default : GenesisConfig).epoch_duration.millis ≠ 0 ∧
      ∃ s, runAll on_initialize (default : GenesisConfig).build fiveTimestamps = some s ∧
        s.EpochNumber =
          (fiveTimestamps.map (· / (default : GenesisConfig).epoch_duration.millis)).getLast? ∧
        s.on_new_epoch =
          ((fiveTimestamps.map (· / (default : GenesisConfig).epoch_duration.millis)).destutter
              (· ≠ ·)).zip
            ((fiveTimestamps.map (· / (default : GenesisConfig).epoch_duration.millis)).destutter
              (· ≠ ·)).tail ∧
        (fiveTimestamps.IsChain (· ≤ ·) → ∀ call ∈ s.on_new_epoch, call.1 < call.2) := by
  have hd : (default : GenesisConfig).epoch_duration.millis ≠ 0 := by decide
  exact ⟨hd, on_new_epoch_called_once_per_epoch_change default hd fiveTimestamps⟩

end pallet_sidechain
