-- Cardano epochs and slots (toolkit/sidechain/domain, mainchain_epoch.rs): the
-- conversions between a timestamp, an epoch and a slot that
-- `MainchainEpochDerivation` implements for `MainchainEpochConfig`. The
-- arithmetic is the code's: `u64` and `u32` wrap as in a release build, a
-- division by zero is a panic (`none`), `checked_sub` and `try_into` give the
-- errors. Time counts from `first_epoch_timestamp_millis` and epochs from
-- `first_epoch_number` everywhere but in `mainchain_epoch_to_timestamp`, which
-- multiplies the absolute epoch number; and `slots_per_epoch` counts one slot
-- a second, whatever `slot_duration_millis` says.
import Mathlib

set_option autoImplicit false

namespace sidechain_domain.mainchain_epoch

/-- `MainchainEpochConfig`: durations (`Duration::millis`) and the timestamp in milliseconds. -/
structure MainchainEpochConfig where
  epoch_duration_millis : UInt64
  slot_duration_millis : UInt64
  first_epoch_timestamp_millis : UInt64
  first_epoch_number : UInt32
  first_slot_number : UInt64
  deriving DecidableEq

/-- `EpochDerivationError` -/
inductive EpochDerivationError where
  | TimestampTooSmall
  | EpochTooBig
  | EpochTooSmall
  | SlotTooSmall
  deriving DecidableEq

/-- `u32::saturating_add` -/
def saturating_add (a b : UInt32) : UInt32 :=
  if a.toNat + b.toNat < 2 ^ 32 then a + b else 4294967295

namespace MainchainEpochConfig

variable (cfg : MainchainEpochConfig)

/-- `MainchainEpochConfig::slots_per_epoch`: the seconds of an epoch. -/
def slots_per_epoch : UInt64 := cfg.epoch_duration_millis / 1000

/-- `epochs_passed`: the whole epochs from the first epoch's start to `timestamp`, at most
`i32::MAX`. The outer `None` is the panic of a division by a zero epoch duration. -/
def epochs_passed (timestamp : UInt64) : Option (Except EpochDerivationError UInt32) :=
  if timestamp < cfg.first_epoch_timestamp_millis then some (.error .TimestampTooSmall)
  else if cfg.epoch_duration_millis = 0 then none
  else
    let time_elapsed := timestamp - cfg.first_epoch_timestamp_millis
    let res := time_elapsed / cfg.epoch_duration_millis
    -- `try_into` a `u32`, then the bound of `i32::MAX`
    if 2 ^ 32 ≤ res.toNat then some (.error .EpochTooBig)
    else if res.toUInt32 > 2147483647 then some (.error .EpochTooBig)
    else some (.ok res.toUInt32)

/-- `timestamp_to_mainchain_epoch` -/
def timestamp_to_mainchain_epoch (timestamp : UInt64) :
    Option (Except EpochDerivationError UInt32) :=
  (cfg.epochs_passed timestamp).map (·.map (saturating_add cfg.first_epoch_number))

/-- `timestamp_to_mainchain_slot_number`. The outer `None` is the panic of a division by a zero
slot duration. -/
def timestamp_to_mainchain_slot_number (timestamp : UInt64) :
    Option (Except EpochDerivationError UInt64) :=
  if timestamp < cfg.first_epoch_timestamp_millis then some (.error .TimestampTooSmall)
  else if cfg.slot_duration_millis = 0 then none
  else
    let time_elapsed := timestamp - cfg.first_epoch_timestamp_millis
    some (.ok (cfg.first_slot_number + time_elapsed / cfg.slot_duration_millis))

/-- `mainchain_epoch_to_timestamp` -/
def mainchain_epoch_to_timestamp (epoch : UInt32) : UInt64 :=
  let time_elapsed := cfg.epoch_duration_millis * epoch.toUInt64
  cfg.first_epoch_timestamp_millis + time_elapsed

/-- `first_slot_of_epoch` -/
def first_slot_of_epoch (epoch : UInt32) : Except EpochDerivationError UInt64 :=
  if epoch < cfg.first_epoch_number then .error .EpochTooSmall
  else
    let epochs_since_first_epoch := epoch - cfg.first_epoch_number
    let slots_since_first_epoch := epochs_since_first_epoch.toUInt64 * cfg.slots_per_epoch
    .ok (slots_since_first_epoch + cfg.first_slot_number)

/-- `epoch_for_slot`. The outer `None` is the panic of a division by zero slots an epoch. -/
def epoch_for_slot (slot : UInt64) : Option (Except EpochDerivationError UInt32) :=
  if slot < cfg.first_slot_number then some (.error .SlotTooSmall)
  else if cfg.slots_per_epoch = 0 then none
  else
    let slots_since_first_slot := slot - cfg.first_slot_number
    let epochs_since_first_epoch := slots_since_first_slot / cfg.slots_per_epoch
    if 2 ^ 32 ≤ epochs_since_first_epoch.toNat then some (.error .EpochTooBig)
    else some (.ok (cfg.first_epoch_number + epochs_since_first_epoch.toUInt32))

/-! ## The conversions over the natural numbers

Each conversion, where it neither fails nor wraps, as the arithmetic it stands for. -/

variable {cfg}

theorem saturating_add_of_lt {a b : UInt32} (h : a.toNat + b.toNat < 2 ^ 32) :
    saturating_add a b = UInt32.ofNat (a.toNat + b.toNat) := by
  rw [saturating_add, if_pos h]
  apply UInt32.toNat_inj.mp
  rw [UInt32.toNat_add, UInt32.toNat_ofNat']

/-- The elapsed time of a timestamp at or after the first epoch's start. -/
theorem toNat_time_elapsed {timestamp : UInt64}
    (hle : cfg.first_epoch_timestamp_millis.toNat ≤ timestamp.toNat) :
    (timestamp - cfg.first_epoch_timestamp_millis).toNat =
      timestamp.toNat - cfg.first_epoch_timestamp_millis.toNat :=
  UInt64.toNat_sub_of_le _ _ (UInt64.le_iff_toNat_le.mpr hle)

theorem epochs_passed_eq_ok {timestamp : UInt64}
    (hle : cfg.first_epoch_timestamp_millis.toNat ≤ timestamp.toNat)
    (hd : 0 < cfg.epoch_duration_millis.toNat)
    (hq : (timestamp.toNat - cfg.first_epoch_timestamp_millis.toNat) /
      cfg.epoch_duration_millis.toNat < 2 ^ 31) :
    cfg.epochs_passed timestamp = some (.ok (UInt32.ofNat
      ((timestamp.toNat - cfg.first_epoch_timestamp_millis.toNat) /
        cfg.epoch_duration_millis.toNat))) := by
  have hres : ((timestamp - cfg.first_epoch_timestamp_millis) / cfg.epoch_duration_millis).toNat =
      (timestamp.toNat - cfg.first_epoch_timestamp_millis.toNat) /
        cfg.epoch_duration_millis.toNat := by
    rw [UInt64.toNat_div, toNat_time_elapsed hle]
  have hnot : ¬ timestamp < cfg.first_epoch_timestamp_millis := by
    rw [UInt64.lt_iff_toNat_lt]
    omega
  have hne : cfg.epoch_duration_millis ≠ 0 := by
    intro h
    rw [h] at hd
    exact absurd hd (by decide)
  have hcast : ((timestamp - cfg.first_epoch_timestamp_millis) /
      cfg.epoch_duration_millis).toUInt32.toNat =
      (timestamp.toNat - cfg.first_epoch_timestamp_millis.toNat) /
        cfg.epoch_duration_millis.toNat := by
    rw [UInt64.toNat_toUInt32, hres, Nat.mod_eq_of_lt (by omega)]
  have heq : ((timestamp - cfg.first_epoch_timestamp_millis) / cfg.epoch_duration_millis).toUInt32 =
      UInt32.ofNat ((timestamp.toNat - cfg.first_epoch_timestamp_millis.toNat) /
        cfg.epoch_duration_millis.toNat) := by
    apply UInt32.toNat_inj.mp
    rw [hcast, UInt32.toNat_ofNat', Nat.mod_eq_of_lt (by omega)]
  rw [epochs_passed, if_neg hnot, if_neg hne]
  simp only [hres, UInt32.lt_iff_toNat_lt, hcast]
  rw [if_neg (by omega), if_neg (by simp; omega), heq]

theorem timestamp_to_mainchain_epoch_eq_ok {timestamp : UInt64}
    (hle : cfg.first_epoch_timestamp_millis.toNat ≤ timestamp.toNat)
    (hd : 0 < cfg.epoch_duration_millis.toNat)
    (hq : (timestamp.toNat - cfg.first_epoch_timestamp_millis.toNat) /
      cfg.epoch_duration_millis.toNat < 2 ^ 31)
    (hsum : cfg.first_epoch_number.toNat +
      (timestamp.toNat - cfg.first_epoch_timestamp_millis.toNat) /
        cfg.epoch_duration_millis.toNat < 2 ^ 32) :
    cfg.timestamp_to_mainchain_epoch timestamp = some (.ok (UInt32.ofNat
      (cfg.first_epoch_number.toNat + (timestamp.toNat - cfg.first_epoch_timestamp_millis.toNat) /
        cfg.epoch_duration_millis.toNat))) := by
  have hcast : (UInt32.ofNat ((timestamp.toNat - cfg.first_epoch_timestamp_millis.toNat) /
      cfg.epoch_duration_millis.toNat)).toNat =
      (timestamp.toNat - cfg.first_epoch_timestamp_millis.toNat) /
        cfg.epoch_duration_millis.toNat := by
    rw [UInt32.toNat_ofNat', Nat.mod_eq_of_lt (by omega)]
  rw [timestamp_to_mainchain_epoch, epochs_passed_eq_ok hle hd hq, Option.map_some]
  simp only [Except.map, saturating_add_of_lt (a := cfg.first_epoch_number)
    (b := UInt32.ofNat _) (by rw [hcast]; exact hsum), hcast]

theorem timestamp_to_mainchain_slot_number_eq_ok {timestamp : UInt64}
    (hle : cfg.first_epoch_timestamp_millis.toNat ≤ timestamp.toNat)
    (hs : 0 < cfg.slot_duration_millis.toNat)
    (hover : cfg.first_slot_number.toNat +
      (timestamp.toNat - cfg.first_epoch_timestamp_millis.toNat) /
        cfg.slot_duration_millis.toNat < 2 ^ 64) :
    cfg.timestamp_to_mainchain_slot_number timestamp = some (.ok (UInt64.ofNat
      (cfg.first_slot_number.toNat + (timestamp.toNat - cfg.first_epoch_timestamp_millis.toNat) /
        cfg.slot_duration_millis.toNat))) := by
  have hnot : ¬ timestamp < cfg.first_epoch_timestamp_millis := by
    rw [UInt64.lt_iff_toNat_lt]
    omega
  have hne : cfg.slot_duration_millis ≠ 0 := by
    intro h
    rw [h] at hs
    exact absurd hs (by decide)
  rw [timestamp_to_mainchain_slot_number, if_neg hnot, if_neg hne]
  dsimp only
  congr 2
  apply UInt64.toNat_inj.mp
  rw [UInt64.toNat_add, UInt64.toNat_div, toNat_time_elapsed hle, UInt64.toNat_ofNat',
    Nat.mod_eq_of_lt hover]

theorem toNat_mainchain_epoch_to_timestamp {epoch : UInt32}
    (hover : cfg.first_epoch_timestamp_millis.toNat +
      cfg.epoch_duration_millis.toNat * epoch.toNat < 2 ^ 64) :
    (cfg.mainchain_epoch_to_timestamp epoch).toNat =
      cfg.first_epoch_timestamp_millis.toNat + cfg.epoch_duration_millis.toNat * epoch.toNat := by
  have hmul : cfg.epoch_duration_millis.toNat * epoch.toNat < 2 ^ 64 := by omega
  rw [mainchain_epoch_to_timestamp, UInt64.toNat_add, UInt64.toNat_mul, UInt32.toNat_toUInt64,
    Nat.mod_eq_of_lt hmul, Nat.mod_eq_of_lt hover]

theorem toNat_slots_per_epoch : cfg.slots_per_epoch.toNat = cfg.epoch_duration_millis.toNat / 1000 := by
  rw [slots_per_epoch, UInt64.toNat_div]
  rfl

theorem epoch_for_slot_eq_ok {slot : UInt64} (hle : cfg.first_slot_number.toNat ≤ slot.toNat)
    (hspe : 0 < cfg.epoch_duration_millis.toNat / 1000)
    (hsum : cfg.first_epoch_number.toNat + (slot.toNat - cfg.first_slot_number.toNat) /
      (cfg.epoch_duration_millis.toNat / 1000) < 2 ^ 32) :
    cfg.epoch_for_slot slot = some (.ok (UInt32.ofNat (cfg.first_epoch_number.toNat +
      (slot.toNat - cfg.first_slot_number.toNat) / (cfg.epoch_duration_millis.toNat / 1000)))) := by
  have hres : ((slot - cfg.first_slot_number) / cfg.slots_per_epoch).toNat =
      (slot.toNat - cfg.first_slot_number.toNat) / (cfg.epoch_duration_millis.toNat / 1000) := by
    rw [UInt64.toNat_div, UInt64.toNat_sub_of_le _ _ (UInt64.le_iff_toNat_le.mpr hle),
      toNat_slots_per_epoch]
  have hnot : ¬ slot < cfg.first_slot_number := by
    rw [UInt64.lt_iff_toNat_lt]
    omega
  have hne : cfg.slots_per_epoch ≠ 0 := by
    intro h
    have h' := congrArg UInt64.toNat h
    rw [toNat_slots_per_epoch, UInt64.toNat_zero] at h'
    omega
  rw [epoch_for_slot, if_neg hnot, if_neg hne]
  dsimp only
  rw [hres, if_neg (by omega)]
  congr 2
  apply UInt32.toNat_inj.mp
  rw [UInt32.toNat_add, UInt64.toNat_toUInt32, hres, UInt32.toNat_ofNat',
    Nat.mod_eq_of_lt (a := (slot.toNat - cfg.first_slot_number.toNat) /
      (cfg.epoch_duration_millis.toNat / 1000)) (by omega)]

theorem first_slot_of_epoch_eq_ok {epoch : UInt32} (hle : cfg.first_epoch_number.toNat ≤ epoch.toNat)
    (hover : (epoch.toNat - cfg.first_epoch_number.toNat) * (cfg.epoch_duration_millis.toNat / 1000) +
      cfg.first_slot_number.toNat < 2 ^ 64) :
    cfg.first_slot_of_epoch epoch = .ok (UInt64.ofNat ((epoch.toNat - cfg.first_epoch_number.toNat) *
      (cfg.epoch_duration_millis.toNat / 1000) + cfg.first_slot_number.toNat)) := by
  have hnot : ¬ epoch < cfg.first_epoch_number := by
    rw [UInt32.lt_iff_toNat_lt]
    omega
  have hmul : (epoch.toNat - cfg.first_epoch_number.toNat) *
      (cfg.epoch_duration_millis.toNat / 1000) < 2 ^ 64 := by omega
  rw [first_slot_of_epoch, if_neg hnot]
  dsimp only
  congr 1
  apply UInt64.toNat_inj.mp
  rw [UInt64.toNat_add, UInt64.toNat_mul, UInt32.toNat_toUInt64,
    UInt32.toNat_sub_of_le _ _ (UInt32.le_iff_toNat_le.mpr hle), toNat_slots_per_epoch,
    Nat.mod_eq_of_lt hmul, Nat.mod_eq_of_lt hover, UInt64.toNat_ofNat', Nat.mod_eq_of_lt hover]

/-! ## Epochs and their timestamps -/

/-- Back from the start of an epoch, the epoch number comes out shifted by the first epoch's
number: `mainchain_epoch_to_timestamp` counts epochs from zero, `timestamp_to_mainchain_epoch`
from `first_epoch_number`. For every configuration with a positive epoch duration and every
epoch where nothing overflows and the epochs passed stay within `i32::MAX`. -/
theorem mainchain_epoch_round_trip_adds_first_epoch {epoch : UInt32}
    (hd : 0 < cfg.epoch_duration_millis.toNat)
    (hover : cfg.first_epoch_timestamp_millis.toNat +
      cfg.epoch_duration_millis.toNat * epoch.toNat < 2 ^ 64)
    (hepoch : epoch.toNat < 2 ^ 31)
    (hsum : cfg.first_epoch_number.toNat + epoch.toNat < 2 ^ 32) :
    cfg.timestamp_to_mainchain_epoch (cfg.mainchain_epoch_to_timestamp epoch) =
      some (.ok (cfg.first_epoch_number + epoch)) := by
  have hts := toNat_mainchain_epoch_to_timestamp hover
  -- the whole epochs passed are the epoch number itself
  have hpassed : ((cfg.mainchain_epoch_to_timestamp epoch).toNat -
      cfg.first_epoch_timestamp_millis.toNat) / cfg.epoch_duration_millis.toNat = epoch.toNat := by
    rw [hts, Nat.add_sub_cancel_left, Nat.mul_div_cancel_left _ hd]
  rw [timestamp_to_mainchain_epoch_eq_ok (by omega) hd (by omega) (by omega), hpassed]
  -- `UInt32.ofNat` of the sum of the two numbers is their `u32` sum
  congr 2

/-- The preprod configuration of the tests: epoch 117 comes back as epoch 121. -/
theorem mainchain_epoch_round_trip_preprod_117 :
    0 < (⟨432000000, 1000, 1655798400000, 4, 86400⟩ : MainchainEpochConfig).epoch_duration_millis.toNat ∧
      (⟨432000000, 1000, 1655798400000, 4, 86400⟩ : MainchainEpochConfig).first_epoch_timestamp_millis.toNat +
        (⟨432000000, 1000, 1655798400000, 4, 86400⟩ :
          MainchainEpochConfig).epoch_duration_millis.toNat * (117 : UInt32).toNat < 2 ^ 64 ∧
      (117 : UInt32).toNat < 2 ^ 31 ∧
      (⟨432000000, 1000, 1655798400000, 4, 86400⟩ :
        MainchainEpochConfig).first_epoch_number.toNat + (117 : UInt32).toNat < 2 ^ 32 ∧
      (⟨432000000, 1000, 1655798400000, 4, 86400⟩ : MainchainEpochConfig).timestamp_to_mainchain_epoch
        ((⟨432000000, 1000, 1655798400000, 4, 86400⟩ :
          MainchainEpochConfig).mainchain_epoch_to_timestamp 117) = some (.ok (4 + 117)) :=
  ⟨by decide, by decide, by decide, by decide,
    mainchain_epoch_round_trip_adds_first_epoch (by decide) (by decide) (by decide) (by decide)⟩

/-! ## Slots and their epochs -/

/-- The epoch `epoch_for_slot` finds for the slot of a timestamp: the slots since the first one
over `slots_per_epoch`, the seconds of an epoch. For every configuration with a positive slot
duration and at least one second an epoch, and every timestamp from the first epoch's start where
nothing overflows. -/
theorem epoch_for_slot_counts_seconds {timestamp : UInt64}
    (hle : cfg.first_epoch_timestamp_millis.toNat ≤ timestamp.toNat)
    (hs : 0 < cfg.slot_duration_millis.toNat)
    (hspe : 1000 ≤ cfg.epoch_duration_millis.toNat)
    (hover : cfg.first_slot_number.toNat +
      (timestamp.toNat - cfg.first_epoch_timestamp_millis.toNat) /
        cfg.slot_duration_millis.toNat < 2 ^ 64)
    (hsum : cfg.first_epoch_number.toNat +
      (timestamp.toNat - cfg.first_epoch_timestamp_millis.toNat) /
        cfg.slot_duration_millis.toNat / (cfg.epoch_duration_millis.toNat / 1000) < 2 ^ 32) :
    ∃ slot, cfg.timestamp_to_mainchain_slot_number timestamp = some (.ok slot) ∧
      cfg.epoch_for_slot slot = some (.ok (UInt32.ofNat (cfg.first_epoch_number.toNat +
        (timestamp.toNat - cfg.first_epoch_timestamp_millis.toNat) /
          cfg.slot_duration_millis.toNat / (cfg.epoch_duration_millis.toNat / 1000)))) := by
  refine ⟨_, timestamp_to_mainchain_slot_number_eq_ok hle hs hover, ?_⟩
  have hslot : (UInt64.ofNat (cfg.first_slot_number.toNat +
      (timestamp.toNat - cfg.first_epoch_timestamp_millis.toNat) /
        cfg.slot_duration_millis.toNat)).toNat = cfg.first_slot_number.toNat +
      (timestamp.toNat - cfg.first_epoch_timestamp_millis.toNat) /
        cfg.slot_duration_millis.toNat := by
    rw [UInt64.toNat_ofNat', Nat.mod_eq_of_lt hover]
  have hspe' : 0 < cfg.epoch_duration_millis.toNat / 1000 := Nat.div_pos hspe (by decide)
  have hsince : (UInt64.ofNat (cfg.first_slot_number.toNat +
      (timestamp.toNat - cfg.first_epoch_timestamp_millis.toNat) /
        cfg.slot_duration_millis.toNat)).toNat - cfg.first_slot_number.toNat =
      (timestamp.toNat - cfg.first_epoch_timestamp_millis.toNat) /
        cfg.slot_duration_millis.toNat := by
    rw [hslot, Nat.add_sub_cancel_left]
  rw [epoch_for_slot_eq_ok (by rw [hslot]; omega) hspe' (by rw [hsince]; exact hsum), hsince]

/-- Slots of two seconds, epochs of four: the slot of the second epoch's start is slot 2, which
`epoch_for_slot` places in epoch 0, while the timestamp lies in epoch 1. -/
theorem epoch_for_slot_two_second_slots :
    (⟨4000, 2000, 0, 0, 0⟩ : MainchainEpochConfig).first_epoch_timestamp_millis.toNat ≤
        (4000 : UInt64).toNat ∧
      0 < (⟨4000, 2000, 0, 0, 0⟩ : MainchainEpochConfig).slot_duration_millis.toNat ∧
      1000 ≤ (⟨4000, 2000, 0, 0, 0⟩ : MainchainEpochConfig).epoch_duration_millis.toNat ∧
      (⟨4000, 2000, 0, 0, 0⟩ : MainchainEpochConfig).first_slot_number.toNat +
        ((4000 : UInt64).toNat -
          (⟨4000, 2000, 0, 0, 0⟩ : MainchainEpochConfig).first_epoch_timestamp_millis.toNat) /
          (⟨4000, 2000, 0, 0, 0⟩ : MainchainEpochConfig).slot_duration_millis.toNat < 2 ^ 64 ∧
      (⟨4000, 2000, 0, 0, 0⟩ : MainchainEpochConfig).first_epoch_number.toNat +
        ((4000 : UInt64).toNat -
          (⟨4000, 2000, 0, 0, 0⟩ : MainchainEpochConfig).first_epoch_timestamp_millis.toNat) /
          (⟨4000, 2000, 0, 0, 0⟩ : MainchainEpochConfig).slot_duration_millis.toNat /
          ((⟨4000, 2000, 0, 0, 0⟩ : MainchainEpochConfig).epoch_duration_millis.toNat / 1000) <
            2 ^ 32 ∧
      (∃ slot, (⟨4000, 2000, 0, 0, 0⟩ : MainchainEpochConfig).timestamp_to_mainchain_slot_number
          4000 = some (.ok slot) ∧
        (⟨4000, 2000, 0, 0, 0⟩ : MainchainEpochConfig).epoch_for_slot slot = some (.ok
          (UInt32.ofNat ((0 : UInt32).toNat + ((4000 : UInt64).toNat - (0 : UInt64).toNat) /
            (2000 : UInt64).toNat / ((4000 : UInt64).toNat / 1000))))) ∧
      UInt32.ofNat ((0 : UInt32).toNat + ((4000 : UInt64).toNat - (0 : UInt64).toNat) /
        (2000 : UInt64).toNat / ((4000 : UInt64).toNat / 1000)) = 0 ∧
      (⟨4000, 2000, 0, 0, 0⟩ : MainchainEpochConfig).timestamp_to_mainchain_epoch 4000 =
        some (.ok 1) :=
  ⟨by decide, by decide, by decide, by decide, by decide,
    epoch_for_slot_counts_seconds (by decide) (by decide) (by decide) (by decide) (by decide),
    by decide, by decide⟩

/-- The preprod configuration of the tests. -/
def preprodConfig : MainchainEpochConfig := ⟨432000000, 1000, 1655798400000, 4, 86400⟩

/-- With one-second slots and whole seconds an epoch, the slot of a timestamp lies in the epoch
of the timestamp. -/
theorem epoch_for_slot_of_second_slots {timestamp : UInt64}
    (hsecond : cfg.slot_duration_millis.toNat = 1000)
    (hdvd : 1000 ∣ cfg.epoch_duration_millis.toNat)
    (hle : cfg.first_epoch_timestamp_millis.toNat ≤ timestamp.toNat)
    (hspe : 1000 ≤ cfg.epoch_duration_millis.toNat)
    (hover : cfg.first_slot_number.toNat +
      (timestamp.toNat - cfg.first_epoch_timestamp_millis.toNat) / 1000 < 2 ^ 64)
    (hq : (timestamp.toNat - cfg.first_epoch_timestamp_millis.toNat) /
      cfg.epoch_duration_millis.toNat < 2 ^ 31)
    (hsum : cfg.first_epoch_number.toNat +
      (timestamp.toNat - cfg.first_epoch_timestamp_millis.toNat) /
        cfg.epoch_duration_millis.toNat < 2 ^ 32) :
    ∃ slot, cfg.timestamp_to_mainchain_slot_number timestamp = some (.ok slot) ∧
      cfg.epoch_for_slot slot = cfg.timestamp_to_mainchain_epoch timestamp := by
  -- counting seconds, then epochs of whole seconds, counts epochs
  have hdiv : (timestamp.toNat - cfg.first_epoch_timestamp_millis.toNat) / 1000 /
      (cfg.epoch_duration_millis.toNat / 1000) =
      (timestamp.toNat - cfg.first_epoch_timestamp_millis.toNat) /
        cfg.epoch_duration_millis.toNat := by
    rw [Nat.div_div_eq_div_mul, Nat.mul_div_cancel' hdvd]
  obtain ⟨slot, hslot, hepoch⟩ := epoch_for_slot_counts_seconds hle (by omega) hspe
    (by rw [hsecond]; exact hover) (by rw [hsecond, hdiv]; exact hsum)
  refine ⟨slot, hslot, ?_⟩
  rw [hepoch, hsecond, hdiv, timestamp_to_mainchain_epoch_eq_ok hle (by omega) hq hsum]

/-- On preprod, five seconds into the epoch 117 epochs after the first: the slot's epoch is the
timestamp's, epoch 121. -/
theorem epoch_for_slot_of_second_slots_preprod :
    preprodConfig.slot_duration_millis.toNat = 1000 ∧
      1000 ∣ preprodConfig.epoch_duration_millis.toNat ∧
      preprodConfig.first_epoch_timestamp_millis.toNat ≤ (1706342405000 : UInt64).toNat ∧
      1000 ≤ preprodConfig.epoch_duration_millis.toNat ∧
      preprodConfig.first_slot_number.toNat + ((1706342405000 : UInt64).toNat -
        preprodConfig.first_epoch_timestamp_millis.toNat) / 1000 < 2 ^ 64 ∧
      ((1706342405000 : UInt64).toNat - preprodConfig.first_epoch_timestamp_millis.toNat) /
        preprodConfig.epoch_duration_millis.toNat < 2 ^ 31 ∧
      preprodConfig.first_epoch_number.toNat + ((1706342405000 : UInt64).toNat -
        preprodConfig.first_epoch_timestamp_millis.toNat) /
          preprodConfig.epoch_duration_millis.toNat < 2 ^ 32 ∧
      (∃ slot, preprodConfig.timestamp_to_mainchain_slot_number 1706342405000 = some (.ok slot) ∧
        preprodConfig.epoch_for_slot slot =
          preprodConfig.timestamp_to_mainchain_epoch 1706342405000) ∧
      preprodConfig.timestamp_to_mainchain_epoch 1706342405000 = some (.ok 121) :=
  ⟨by decide, by decide, by decide, by decide, by decide, by decide, by decide,
    epoch_for_slot_of_second_slots (by decide) (by decide) (by decide) (by decide) (by decide)
      (by decide) (by decide), by decide⟩

/-- `first_slot_of_epoch` and `epoch_for_slot` agree with each other: a slot lies between the
first slot of its epoch and the first slot of the next, whenever an epoch has at least one
second and nothing overflows. -/
theorem first_slot_of_epoch_for_slot {slot : UInt64}
    (hle : cfg.first_slot_number.toNat ≤ slot.toNat)
    (hspe : 1000 ≤ cfg.epoch_duration_millis.toNat)
    (hnext : cfg.first_epoch_number.toNat + (slot.toNat - cfg.first_slot_number.toNat) /
      (cfg.epoch_duration_millis.toNat / 1000) + 1 < 2 ^ 32)
    (hover : ((slot.toNat - cfg.first_slot_number.toNat) /
      (cfg.epoch_duration_millis.toNat / 1000) + 1) * (cfg.epoch_duration_millis.toNat / 1000) +
        cfg.first_slot_number.toNat < 2 ^ 64) :
    ∃ epoch first next, cfg.epoch_for_slot slot = some (.ok epoch) ∧
      cfg.first_slot_of_epoch epoch = .ok first ∧ cfg.first_slot_of_epoch (epoch + 1) = .ok next ∧
      first ≤ slot ∧ slot < next := by
  have hspe' : 0 < cfg.epoch_duration_millis.toNat / 1000 := Nat.div_pos hspe (by decide)
  -- the slots since the first slot: `q` whole epochs and fewer slots than an epoch
  obtain ⟨q, hq⟩ : ∃ q, (slot.toNat - cfg.first_slot_number.toNat) /
      (cfg.epoch_duration_millis.toNat / 1000) = q := ⟨_, rfl⟩
  have hdiv := Nat.div_add_mod (slot.toNat - cfg.first_slot_number.toNat)
    (cfg.epoch_duration_millis.toNat / 1000)
  have hrest := Nat.mod_lt (slot.toNat - cfg.first_slot_number.toNat) hspe'
  rw [hq, Nat.mul_comm] at hdiv
  rw [hq] at hnext hover
  have hepoch : (UInt32.ofNat (cfg.first_epoch_number.toNat + q)).toNat =
      cfg.first_epoch_number.toNat + q := by
    rw [UInt32.toNat_ofNat', Nat.mod_eq_of_lt (by omega)]
  have hnext' : (UInt32.ofNat (cfg.first_epoch_number.toNat + q) + 1).toNat =
      cfg.first_epoch_number.toNat + (q + 1) := by
    rw [UInt32.toNat_add, hepoch, UInt32.toNat_one, Nat.mod_eq_of_lt hnext, Nat.add_assoc]
  have hmul : (q + 1) * (cfg.epoch_duration_millis.toNat / 1000) =
      q * (cfg.epoch_duration_millis.toNat / 1000) + cfg.epoch_duration_millis.toNat / 1000 :=
    Nat.succ_mul _ _
  refine ⟨UInt32.ofNat (cfg.first_epoch_number.toNat + q), _, _, ?_,
    first_slot_of_epoch_eq_ok (by rw [hepoch]; omega) (by rw [hepoch, Nat.add_sub_cancel_left]; omega),
    first_slot_of_epoch_eq_ok (by rw [hnext']; omega)
      (by rw [hnext', Nat.add_sub_cancel_left]; exact hover), ?_, ?_⟩
  · rw [epoch_for_slot_eq_ok hle hspe' (by rw [hq]; omega), hq]
  · rw [hepoch, Nat.add_sub_cancel_left, UInt64.le_iff_toNat_le, UInt64.toNat_ofNat',
      Nat.mod_eq_of_lt (by omega)]
    omega
  · rw [hnext', Nat.add_sub_cancel_left, UInt64.lt_iff_toNat_lt, UInt64.toNat_ofNat',
      Nat.mod_eq_of_lt hover]
    omega

/-- On preprod, slot 1382417 lies in epoch 7, which starts at slot 1382400, before epoch 8 starts
at slot 1814400. -/
theorem first_slot_of_epoch_for_slot_preprod :
    preprodConfig.first_slot_number.toNat ≤ (1382417 : UInt64).toNat ∧
      1000 ≤ preprodConfig.epoch_duration_millis.toNat ∧
      preprodConfig.first_epoch_number.toNat + ((1382417 : UInt64).toNat -
        preprodConfig.first_slot_number.toNat) / (preprodConfig.epoch_duration_millis.toNat / 1000) +
          1 < 2 ^ 32 ∧
      (((1382417 : UInt64).toNat - preprodConfig.first_slot_number.toNat) /
        (preprodConfig.epoch_duration_millis.toNat / 1000) + 1) *
          (preprodConfig.epoch_duration_millis.toNat / 1000) +
        preprodConfig.first_slot_number.toNat < 2 ^ 64 ∧
      (∃ epoch first next, preprodConfig.epoch_for_slot 1382417 = some (.ok epoch) ∧
        preprodConfig.first_slot_of_epoch epoch = .ok first ∧
        preprodConfig.first_slot_of_epoch (epoch + 1) = .ok next ∧ first ≤ 1382417 ∧
        1382417 < next) ∧
      preprodConfig.epoch_for_slot 1382417 = some (.ok 7) ∧
      preprodConfig.first_slot_of_epoch 7 = .ok 1382400 ∧
      preprodConfig.first_slot_of_epoch 8 = .ok 1814400 :=
  ⟨by decide, by decide, by decide, by decide,
    first_slot_of_epoch_for_slot (by decide) (by decide) (by decide) (by decide),
    by decide, by decide, by decide⟩

end MainchainEpochConfig

end sidechain_domain.mainchain_epoch
