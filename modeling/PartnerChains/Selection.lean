-- The selection algorithms of toolkit/committee-selection/selection: weighted
-- random selection with repetitions (weighted_random.rs), and Ariadne v2
-- (ariadne_v2.rs), which first gives each candidate the seats its weight
-- guarantees and draws the rest at random. Arithmetic is that of a release
-- build for wasm32: `u16` and `u128` wrap, `usize` has 32 bits, and every
-- `expect` or `panic!` is `none`. `ChaCha20Rng` is outside the repository:
-- its seeding and its draws are parameters.
import Mathlib
import PartnerChains.Lib.ListOrder
import PartnerChains.Domain

namespace selection

open partner_chains.list_order sidechain_domain

/-- `Weight = u128` -/
abbrev Weight := Nat

/-- `u128` addition and multiplication of a release build. -/
def wrap128 (n : Nat) : Weight := n % 2 ^ 128

/-- What the selection uses of `rand_chacha::ChaCha20Rng` and of `rand`: `from_seed`,
`get_seed` (which reads the seed back and draws nothing), `random_range(0..bound)` on
`u128`, and the swaps `SliceRandom::shuffle` makes on a slice of a given length. The draws
advance the state. -/
structure ChaCha20Rng where
  State : Type
  from_seed : FixedBytes 32 → State
  get_seed : State → FixedBytes 32
  random_range : State → Nat → Nat × State
  shuffle_swaps : State → Nat → List (Nat × Nat) × State

variable (R : ChaCha20Rng) {T : Type}

/-- `slice::swap`. -/
def swap (l : List T) (i j : Nat) : List T :=
  match l[i]?, l[j]? with
  | some a, some b => (l.set i b).set j a
  | _, _ => l

/-- `SliceRandom::shuffle`: the swaps the generator draws for a slice of this length. -/
def shuffle (rng : R.State) (l : List T) : List T × R.State :=
  let (swaps, rng) := R.shuffle_swaps rng l.length
  (swaps.foldl (fun l (i, j) => swap l i j) l, rng)

namespace weighted_random

/-- The loop of `select_with_weight`: the index of the first candidate whose cumulative weight
exceeds the random number. -/
def firstAbove (random_number : Nat) : List (T × Weight) → Weight → Nat → Option Nat
  | [], _, _ => none
  | (_, weight) :: candidates, cumulative_weight, index =>
    let cumulative_weight := wrap128 (cumulative_weight + weight)
    if cumulative_weight > random_number then some index
    else firstAbove random_number candidates cumulative_weight (index + 1)

/-- `select_with_weight`. `None` is the `panic!` after the loop, or the panic of
`random_range` on an empty range. -/
def select_with_weight (candidates : List (T × Weight)) (total_weight : Weight)
    (rand : R.State) : Option (Nat × R.State) :=
  if total_weight = 0 then none
  else
    let (random_number, rand) := R.random_range rand total_weight
    (firstAbove random_number candidates 0 0).map (·, rand)

/-- The `while` loop of `select_authorities`: it adds one member a turn, so `size` turns bound
it. -/
def selectLoop (weighted_candidates : List (T × Weight)) (total_weight : Weight) :
    Nat → R.State → List T → Option (List T)
  | 0, _, committee => some committee
  | fuel + 1, rng, committee =>
    if weighted_candidates.isEmpty then some committee
    else do
      let (selected_index, rng) ← select_with_weight R weighted_candidates total_weight rng
      let (selected, _) ← weighted_candidates[selected_index]?
      selectLoop weighted_candidates total_weight fuel rng (committee ++ [selected])

/-- `weighted_random::select_authorities`. The outer `Option` is a panic, the inner one the
source's: `None` when there are fewer candidates than seats to fill, that is none. -/
def select_authorities (weighted_candidates : List (T × Weight)) (seed : FixedBytes 32)
    (size : UInt16) : Option (Option (List T)) := do
  let size := size.toNat
  let total_weight := wrap128 (weighted_candidates.map (·.2)).sum
  let rng := R.from_seed seed
  let committee ← selectLoop R weighted_candidates total_weight size rng []
  return if size ≤ committee.length then some committee else none

end weighted_random

namespace ariadne_v2

/-- `SelectGuaranteedResult` -/
structure SelectGuaranteedResult (T : Type) where
  selected : List T
  remaining : List (T × Weight)

/-- One turn of the loop of `select_guaranteed`: `weight / threshold` seats for the candidate,
and the rest of its weight for the random draw. `None` is the division by zero, or the
`expect` of the conversion to `usize`. -/
def guaranteedStep (threshold : Weight) (acc : SelectGuaranteedResult T) (cw : T × Weight) :
    Option (SelectGuaranteedResult T) :=
  let (c, weight) := cw
  if threshold = 0 then none
  else
    let guaranteed := weight / threshold
    if 2 ^ 32 ≤ guaranteed then none
    else
      let remaining_weight := weight % threshold
      some ⟨acc.selected ++ List.replicate guaranteed c,
        if remaining_weight > 0 then acc.remaining ++ [(c, remaining_weight)] else acc.remaining⟩

/-- `select_guaranteed`: weights scaled by the number of seats, over their sum. -/
def select_guaranteed (weighted_candidates : List (T × Weight)) (n : UInt16) :
    Option (SelectGuaranteedResult T) :=
  let threshold := wrap128 (weighted_candidates.map (·.2)).sum
  let scale := n.toNat
  let scaled_candidates := (weighted_candidates.filter fun cw => cw.2 > 0).map
    fun cw => (cw.1, wrap128 (cw.2 * scale))
  scaled_candidates.foldlM (guaranteedStep threshold) ⟨[], []⟩

/-- `select_remaining`: the random draw, seeded with the seed of `rng`; a failed draw gives
no one. -/
def select_remaining (weighted_candidates : List (T × Weight)) (n : UInt16) (rng : R.State) :
    Option (List T) :=
  (weighted_random.select_authorities R weighted_candidates (R.get_seed rng) n).map
    (·.getD [])

variable [LinearOrder T]

/-- `weighted_with_guaranteed_assignment`. The candidates are sorted first, by the order of
`(T, Weight)` pairs: `T`'s, then the weight's. `rng` only gives its seed here, so the caller's
generator does not move. -/
def weighted_with_guaranteed_assignment (candidates : List (T × Weight)) (n : UInt16)
    (rng : R.State) : Option (List T) :=
  if candidates.isEmpty || n == 0 then some []
  else do
    let candidates := candidates.mergeSort (keyLE toLex)
    let ⟨selected, remaining⟩ ← select_guaranteed candidates n
    -- `selected.len().try_into().expect(..)`
    if 2 ^ 16 ≤ selected.length then none
    else
      let selected_count : UInt16 := selected.length.toUInt16
      let rest ← select_remaining R remaining (n - selected_count) rng
      return selected ++ rest

/-- `ariadne_v2::select_authorities`. Both pools draw from the generator seeded with `seed`,
which then shuffles the committee. The outer `Option` is a panic. -/
def select_authorities (registered_seats permissioned_seats : UInt16)
    (registered_candidates : List (T × Weight)) (permissioned_candidates : List T)
    (seed : FixedBytes 32) : Option (Option (List T)) := do
  let seats_total := permissioned_seats + registered_seats
  let rng := R.from_seed seed
  let permissioned_candidates : List (T × Weight) := permissioned_candidates.map (·, 1)
  let selected ←
    if !registered_candidates.isEmpty && !permissioned_candidates.isEmpty then do
      let registered_selected ←
        weighted_with_guaranteed_assignment R registered_candidates registered_seats rng
      let permissioned_selected ←
        weighted_with_guaranteed_assignment R permissioned_candidates permissioned_seats rng
      pure (registered_selected ++ permissioned_selected)
    -- in absence of registered candidates try to fill their seats with permissioned
    else if registered_candidates.isEmpty then
      weighted_with_guaranteed_assignment R permissioned_candidates seats_total rng
    -- in absence of permissioned candidate try to fill their seats with registered
    else weighted_with_guaranteed_assignment R registered_candidates seats_total rng
  let (selected, _) := shuffle R rng selected
  return if selected.isEmpty && seats_total > 0 then none else some selected

/-! ## The order of the candidates does not matter -/

theorem isEmpty_eq_of_perm {α : Type} {l l' : List α} (h : l.Perm l') :
    l.isEmpty = l'.isEmpty := by
  cases l with
  | nil => rw [List.nil_perm.mp h]
  | cons a l =>
    cases l' with
    | nil => exact absurd (List.perm_nil.mp h) (List.cons_ne_nil a l)
    | cons b l' => rfl

/-- The guaranteed assignment reads its candidates only once sorted. -/
theorem weighted_with_guaranteed_assignment_perm {l l' : List (T × Weight)} (h : l.Perm l')
    (n : UInt16) (rng : R.State) :
    weighted_with_guaranteed_assignment R l n rng =
      weighted_with_guaranteed_assignment R l' n rng := by
  have hsort : l.mergeSort (keyLE toLex) = l'.mergeSort (keyLE toLex) :=
    mergeSort_eq_of_perm _ toLex.injective h
  simp only [weighted_with_guaranteed_assignment, isEmpty_eq_of_perm h, hsort]

/-- Ariadne v2 gives the same answer for every order of either pool. -/
theorem select_authorities_perm (registered_seats permissioned_seats : UInt16)
    {registered registered' : List (T × Weight)} {permissioned permissioned' : List T}
    (hreg : registered.Perm registered') (hperm : permissioned.Perm permissioned')
    (seed : FixedBytes 32) :
    select_authorities R registered_seats permissioned_seats registered permissioned seed =
      select_authorities R registered_seats permissioned_seats registered' permissioned' seed := by
  have hperm₁ : (permissioned.map (·, (1 : Weight))).Perm (permissioned'.map (·, 1)) :=
    hperm.map _
  simp only [select_authorities, isEmpty_eq_of_perm hreg, isEmpty_eq_of_perm hperm₁,
    weighted_with_guaranteed_assignment_perm R hreg,
    weighted_with_guaranteed_assignment_perm R hperm₁]

end ariadne_v2

end selection
