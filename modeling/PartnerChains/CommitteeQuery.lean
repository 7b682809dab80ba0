-- The search of the committee query for a block of a sidechain epoch
-- (toolkit/committee-selection/query, block_search.rs): a binary search
-- over the block numbers from 1 to the best block, reading the epoch of each
-- block it visits through the runtime API. Its `u32` arithmetic is the
-- source's; on fewer than `2 ^ 31` blocks nothing wraps, and the loop is the
-- binary search of Lib/BinarySearch over the blocks' epochs. So on a chain
-- whose epochs do not decrease it finds a block of the epoch exactly when
-- there is one, within 32 rounds.
import Mathlib
import PartnerChains.Lib.BinarySearch
import PartnerChains.SidechainPallet

set_option autoImplicit false

namespace sp_session_validator_management_query

open sidechain_domain partner_chains.binary_search

/-- `ApiError`, with what the search raises: `UnknownBlock` for a block number without a hash,
`Application` for a failed search, and the errors of the client's calls. -/
inductive ApiError (E : Type) where
  | UnknownBlock (message : String)
  | Application (message : String)
  | Client (e : E)
  deriving DecidableEq

/-- What the search reads of the node: the best block number, the hash of a block number
(`HeaderBackend::hash`), and the epoch of `get_sidechain_status` at a block. -/
structure Client (Hash E : Type) where
  best_number : UInt32
  hash : UInt32 → Except E (Option Hash)
  get_sidechain_status_epoch : Hash → Except E ScEpochNumber

variable {Hash E : Type} (client : Client Hash E)

/-- `SidechainInfo::get_epoch_of_block` -/
def get_epoch_of_block (block_number : UInt32) : Except (ApiError E) ScEpochNumber := do
  let some block_hash ← (client.hash block_number).mapError .Client
    | throw (.UnknownBlock ("Block Number " ++ toString block_number ++ " does not exist"))
  (client.get_sidechain_status_epoch block_hash).mapError .Client

/-- The loop `while left <= right` of `find_any_block_in_epoch`, for at most `fuel` rounds: the
block found, or `None` when the range runs out; the outer `None` when the fuel does. -/
def find_loop (epoch : ScEpochNumber) : Nat → UInt32 → UInt32 →
    Option (Except (ApiError E) (Option UInt32))
  | 0, left, right => if left ≤ right then none else some (.ok none)
  | fuel + 1, left, right =>
    if left ≤ right then
      let middle := (left + right) / 2
      match get_epoch_of_block client middle with
      | .error e => some (.error e)
      | .ok block_epoch =>
        match compare block_epoch epoch with
        | .lt => find_loop epoch fuel (middle + 1) right
        | .gt => find_loop epoch fuel left (middle - 1)
        | .eq => some (.ok (some middle))
    else some (.ok none)

/-- `FindSidechainBlock::find_any_block_in_epoch`. The loop gets 32 rounds, which a range of `u32`
block numbers that does not wrap never uses up; the outer `None` is that fuel running out, or the
panic of `expect` on a found block without a hash. -/
def find_any_block_in_epoch (epoch : ScEpochNumber) : Option (Except (ApiError E) Hash) :=
  match find_loop client epoch 32 1 client.best_number with
  | none => none
  | some (.error e) => some (.error e)
  | some (.ok none) => some (.error (.Application "Could not find block"))
  | some (.ok (some middle)) =>
    match client.hash middle with
    | .error e => some (.error (.Client e))
    | .ok none => none
    | .ok (some block_hash) => some (.ok block_hash)

/-! ## The loop is the binary search -/

/-- A block whose epoch the runtime reports has a hash. -/
theorem hash_of_get_epoch_of_block {block_number : UInt32} {epoch : ScEpochNumber}
    (h : get_epoch_of_block client block_number = .ok epoch) :
    ∃ block_hash, client.hash block_number = .ok (some block_hash) ∧
      client.get_sidechain_status_epoch block_hash = .ok epoch := by
  unfold get_epoch_of_block at h
  cases hhash : client.hash block_number with
  | error e => simp [hhash, Except.mapError, bind, Except.bind] at h
  | ok block_hash? =>
    cases block_hash? with
    | none => simp [hhash, Except.mapError, bind, Except.bind, throw, throwThe,
        MonadExceptOf.throw] at h
    | some block_hash =>
      refine ⟨block_hash, rfl, ?_⟩
      simp only [hhash, Except.mapError, bind, Except.bind] at h
      cases hstatus : client.get_sidechain_status_epoch block_hash with
      | error e => simp [hstatus] at h
      | ok epoch' => simpa [hstatus] using h

section refinement

variable {client} (epochOf : Nat → ScEpochNumber)
  (hbest : client.best_number.toNat < 2 ^ 31)
  (hepochs : ∀ block_number : UInt32, 1 ≤ block_number.toNat →
    block_number.toNat ≤ client.best_number.toNat →
    get_epoch_of_block client block_number = .ok (epochOf block_number.toNat))
include hbest hepochs

/-- Below `2 ^ 31` blocks the `u32` loop is the binary search over the epochs' numbers: each round
computes the midpoint, and the bounds after it, without wrapping. The induction is on the fuel,
over ranges from block 1 on within the chain. -/
theorem find_loop_eq_search (epoch : ScEpochNumber) :
    ∀ (fuel : Nat) (left right : UInt32), 1 ≤ left.toNat →
      right.toNat ≤ client.best_number.toNat →
      find_loop client epoch fuel left right =
        (search (fun i => (epochOf i).toNat) epoch.toNat fuel left.toNat right.toNat).map
          fun r => .ok (r.map UInt32.ofNat)
  | 0, left, right, _, _ => by
    by_cases hle : left ≤ right
    · simp [find_loop, search, hle, UInt32.le_iff_toNat_le.mp hle]
    · simp [find_loop, search, hle, UInt32.le_iff_toNat_le.not.mp hle]
  | fuel + 1, left, right, hl, hr => by
    by_cases hle : left ≤ right
    · have hle' := UInt32.le_iff_toNat_le.mp hle
      -- the midpoint, and the bounds after it, computed without wrapping
      have hmid : ((left + right) / 2).toNat = (left.toNat + right.toNat) / 2 := by
        rw [UInt32.toNat_div, UInt32.toNat_add, Nat.mod_eq_of_lt (by omega)]
        rfl
      have hup : ((left + right) / 2 + 1).toNat = (left.toNat + right.toNat) / 2 + 1 := by
        rw [UInt32.toNat_add, hmid, Nat.mod_eq_of_lt (by simp; omega)]
        rfl
      have hdown : ((left + right) / 2 - 1).toNat = (left.toNat + right.toNat) / 2 - 1 := by
        rw [UInt32.toNat_sub_of_le _ _ (UInt32.le_iff_toNat_le.mpr (by simp [hmid]; omega)), hmid]
        rfl
      have hepoch := hepochs ((left + right) / 2) (by omega) (by omega)
      simp only [find_loop, search, if_pos hle, if_pos hle', hepoch, hmid,
        UInt64.compare_eq_toNat_compare_toNat]
      cases compare (epochOf ((left.toNat + right.toNat) / 2)).toNat epoch.toNat with
      | lt =>
        rw [find_loop_eq_search epoch fuel _ right (by omega) hr, hup]
      | gt =>
        rw [find_loop_eq_search epoch fuel left _ hl (by omega), hdown]
      | eq =>
        simp only [Option.map_some, Option.map_some, ← hmid, UInt32.ofNat_toNat]
    · simp [find_loop, search, hle, UInt32.le_iff_toNat_le.not.mp hle]

variable (hmono : MonotoneOn (fun i => (epochOf i).toNat) (Set.Icc 1 client.best_number.toNat))
include hmono

/-- On a chain of fewer than `2 ^ 31` blocks, each with a hash and an epoch, and with epochs that
do not decrease, the search for a block of an epoch neither panics nor runs out of rounds: it
returns the hash of a block of the chain whose status reports that epoch, or, exactly when no
block of the chain is in that epoch, fails with "Could not find block". -/
theorem find_any_block_in_epoch_finds_block_iff_present (epoch : ScEpochNumber) :
    (∃ (block_number : UInt32) (block_hash : Hash),
      find_any_block_in_epoch client epoch = some (.ok block_hash) ∧
      1 ≤ block_number.toNat ∧ block_number.toNat ≤ client.best_number.toNat ∧
      client.hash block_number = .ok (some block_hash) ∧
      client.get_sidechain_status_epoch block_hash = .ok epoch) ∨
    (find_any_block_in_epoch client epoch = some (.error (.Application "Could not find block")) ∧
      ∀ i, 1 ≤ i → i ≤ client.best_number.toNat → epochOf i ≠ epoch) := by
  obtain ⟨r, hr, hfound⟩ := @search_found _ _ (fun i => (epochOf i).toNat) epoch.toNat
    32 1 client.best_number.toNat le_rfl hmono (by omega)
  have hloop := find_loop_eq_search epochOf hbest hepochs epoch 32 1 client.best_number
    (by simp) le_rfl
  rw [UInt32.toNat_one, hr] at hloop
  cases r with
  | none =>
    -- the range ran out: no block of the chain has the epoch
    right
    refine ⟨by simp [find_any_block_in_epoch, hloop], fun i hi hib heq => ?_⟩
    exact hfound i hi hib (congrArg UInt64.toNat heq)
  | some i =>
    -- block `i` has the epoch, and its hash is the answer
    obtain ⟨hi, hib, hkey⟩ := hfound
    have hnat : (UInt32.ofNat i).toNat = i := UInt32.toNat_ofNat_of_lt' (by rw [UInt32.size]; omega)
    obtain ⟨block_hash, hhash, hstatus⟩ := hash_of_get_epoch_of_block client
      (hepochs (UInt32.ofNat i) (by omega) (by omega))
    have hepoch : epochOf i = epoch := UInt64.toNat_inj.mp hkey
    left
    refine ⟨UInt32.ofNat i, block_hash, ?_, by omega, by omega, hhash, ?_⟩
    · simp [find_any_block_in_epoch, hloop, hhash]
    · rw [hstatus, hnat, hepoch]

end refinement

/-- A chain of five blocks, two to an epoch: block `n` has hash `n` and is in epoch `n / 2`. -/
def fiveBlockClient : Client Nat Unit :=
  ⟨5, fun block_number => .ok (some block_number.toNat),
    fun block_hash => .ok (UInt64.ofNat (block_hash / 2))⟩

-- Two rounds: block 3 is in epoch 1, block 4 in epoch 2.
example : find_any_block_in_epoch fiveBlockClient 2 = some (.ok 4) := rfl
example : find_any_block_in_epoch fiveBlockClient 3 =
    some (.error (.Application "Could not find block")) := rfl

theorem find_any_block_in_epoch_finds_block_iff_present_five_blocks :
    fiveBlockClient.best_number.toNat < 2 ^ 31 ∧
      (∀ block_number : UInt32, 1 ≤ block_number.toNat →
        block_number.toNat ≤ fiveBlockClient.best_number.toNat →
        get_epoch_of_block fiveBlockClient block_number =
          .ok (UInt64.ofNat (block_number.toNat / 2))) ∧
      MonotoneOn (fun i => (UInt64.ofNat (i / 2)).toNat)
        (Set.Icc 1 fiveBlockClient.best_number.toNat) ∧
      ((∃ (block_number : UInt32) (block_hash : Nat),
        find_any_block_in_epoch fiveBlockClient 2 = some (.ok block_hash) ∧
        1 ≤ block_number.toNat ∧ block_number.toNat ≤ fiveBlockClient.best_number.toNat ∧
        fiveBlockClient.hash block_number = .ok (some block_hash) ∧
        fiveBlockClient.get_sidechain_status_epoch block_hash = .ok 2) ∨
      (find_any_block_in_epoch fiveBlockClient 2 =
          some (.error (.Application "Could not find block")) ∧
        ∀ i, 1 ≤ i → i ≤ fiveBlockClient.best_number.toNat → UInt64.ofNat (i / 2) ≠ 2)) := by
  have hbest : fiveBlockClient.best_number.toNat < 2 ^ 31 := by decide
  have hepochs : ∀ block_number : UInt32, 1 ≤ block_number.toNat →
      block_number.toNat ≤ fiveBlockClient.best_number.toNat →
      get_epoch_of_block fiveBlockClient block_number =
        .ok (UInt64.ofNat (block_number.toNat / 2)) := fun _ _ _ => rfl
  have hmono : MonotoneOn (fun i => (UInt64.ofNat (i / 2)).toNat)
      (Set.Icc 1 fiveBlockClient.best_number.toNat) := by
    intro a ha b hb hab
    have hb5 : b ≤ 5 := hb.2
    simp only [UInt64.toNat_ofNat_of_lt' (show a / 2 < UInt64.size by rw [UInt64.size]; omega),
      UInt64.toNat_ofNat_of_lt' (show b / 2 < UInt64.size by rw [UInt64.size]; omega)]
    omega
  exact ⟨hbest, hepochs, hmono, find_any_block_in_epoch_finds_block_iff_present
    (fun i => UInt64.ofNat (i / 2)) hbest hepochs hmono 2⟩

end sp_session_validator_management_query
