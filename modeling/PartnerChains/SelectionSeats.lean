-- What the selections of toolkit/committee-selection/selection return: how
-- many members, drawn from which candidates, and how many seats a candidate
-- is sure of. `ChaCha20Rng` stays a parameter; the one fact of it the
-- results use is that `random_range(0..bound)` draws below `bound`.
import Mathlib
import PartnerChains.Selection

set_option autoImplicit false

namespace selection

open partner_chains.list_order

/-- `random_range(0..bound)` on a non-empty range draws a number in it. -/
def ChaCha20Rng.RangeSound (R : ChaCha20Rng) : Prop :=
  ∀ (rng : R.State) (bound : Nat), 0 < bound → (R.random_range rng bound).1 < bound

section Shuffle

variable (R : ChaCha20Rng) {T : Type}

/-- `slice::swap` only reorders the slice. -/
theorem swap_perm (l : List T) (i j : Nat) : (swap l i j).Perm l := by
  unfold swap
  split
  · rename_i a b hi hj
    -- the swap writes `b` at `i`, where `a` was, then `a` at `j`, where `b` still is
    have hj' : (l.set i b)[j]? = some b := by
      by_cases hij : i = j
      · subst hij
        exact List.getElem?_set_self (List.getElem?_eq_some_iff.mp hi).1
      · rw [List.getElem?_set_ne hij, hj]
    have hfirst : (a :: l.set i b).Perm (b :: l) := by
      simpa [hi] using List.getD_set_perm_cons l i b
    have hsecond : (b :: (l.set i b).set j a).Perm (a :: l.set i b) := by
      simpa [hj'] using List.getD_set_perm_cons (l.set i b) j a
    exact (hsecond.trans hfirst).cons_inv
  · exact List.Perm.refl l

/-- A run of swaps only reorders the slice. -/
theorem foldl_swap_perm (swaps : List (Nat × Nat)) :
    ∀ l : List T, (swaps.foldl (fun l (i, j) => swap l i j) l).Perm l := by
  induction swaps with
  | nil => exact List.Perm.refl
  | cons ij swaps ih => exact fun l => (ih _).trans (swap_perm _ _ _)

/-- `SliceRandom::shuffle` only reorders the slice, whatever swaps the generator draws. -/
theorem shuffle_perm (rng : R.State) (l : List T) : (shuffle R rng l).1.Perm l :=
  foldl_swap_perm _ l

/-- A shuffled committee of some members is not empty. -/
theorem shuffle_ne_nil (rng : R.State) {selected : List T} (hne : 0 < selected.length) :
    (shuffle R rng selected).1 ≠ [] :=
  List.ne_nil_of_length_pos ((shuffle_perm R rng selected).length_eq ▸ hne)

end Shuffle

namespace weighted_random

variable (R : ChaCha20Rng) {T : Type}

/-! ## One draw -/

/-- The loop of `select_with_weight` only stops on a candidate of positive weight: the
cumulative weight stays at or below the random number until it passes it. -/
theorem firstAbove_weight_pos {random_number : Nat} :
    ∀ (candidates : List (T × Weight)) (cumulative_weight index k : Nat),
      cumulative_weight ≤ random_number → cumulative_weight < 2 ^ 128 →
      firstAbove random_number candidates cumulative_weight index = some k →
      ∃ j, ∃ h : j < candidates.length, k = index + j ∧ 0 < candidates[j].2
  | [], _, _, _, _, _, h => nomatch h
  | (c, weight) :: candidates, cumulative_weight, index, k, hle, hlt, h => by
    unfold firstAbove at h
    dsimp only at h
    split at h
    · -- stopped here: the weight carried the sum past the random number
      rename_i habove
      cases h
      refine ⟨0, by simp, rfl, ?_⟩
      by_contra hzero
      have hw : weight = 0 := by simpa using hzero
      rw [hw, Nat.add_zero, wrap128, Nat.mod_eq_of_lt hlt] at habove
      exact absurd hle (Nat.not_le.mpr habove)
    · rename_i hbelow
      obtain ⟨j, hj, rfl, hpos⟩ := firstAbove_weight_pos candidates _ (index + 1) k
        (Nat.not_lt.mp hbelow) (Nat.mod_lt _ (by decide)) h
      exact ⟨j + 1, by simp [hj], by omega, by simpa using hpos⟩

/-- Below the sum of the weights, the loop of `select_with_weight` always stops, when no
cumulative weight wraps. -/
theorem firstAbove_isSome {random_number : Nat} :
    ∀ (candidates : List (T × Weight)) (cumulative_weight index : Nat),
      cumulative_weight ≤ random_number →
      random_number < cumulative_weight + (candidates.map (·.2)).sum →
      cumulative_weight + (candidates.map (·.2)).sum < 2 ^ 128 →
      (firstAbove random_number candidates cumulative_weight index).isSome
  | [], cumulative_weight, _, hle, hlt, _ => by
    simp only [List.map_nil, List.sum_nil, Nat.add_zero] at hlt
    exact absurd hle (Nat.not_le.mpr hlt)
  | (c, weight) :: candidates, cumulative_weight, index, hle, hlt, hfit => by
    simp only [List.map_cons, List.sum_cons] at hlt hfit
    have hsum : wrap128 (cumulative_weight + weight) = cumulative_weight + weight :=
      Nat.mod_eq_of_lt (by omega)
    unfold firstAbove
    dsimp only
    rw [hsum]
    split
    · rfl
    · rename_i hbelow
      exact firstAbove_isSome candidates _ _ (Nat.not_lt.mp hbelow) (by omega) (by omega)

/-- A draw picks the index of a candidate of positive weight. -/
theorem select_with_weight_weight_pos {candidates : List (T × Weight)} {total_weight : Weight}
    {rand rand' : R.State} {selected_index : Nat}
    (h : select_with_weight R candidates total_weight rand = some (selected_index, rand')) :
    ∃ hi : selected_index < candidates.length, 0 < candidates[selected_index].2 := by
  unfold select_with_weight at h
  split at h
  · cases h
  · obtain ⟨k, hk, hkeq⟩ := Option.map_eq_some_iff.mp h
    cases hkeq
    obtain ⟨j, hj, rfl, hpos⟩ := firstAbove_weight_pos candidates 0 0 _ (Nat.zero_le _)
      (by decide) hk
    simp only [Nat.zero_add]
    exact ⟨hj, hpos⟩

/-- With a total weight that is the unwrapped, positive sum of the weights, a draw does not
panic. -/
theorem select_with_weight_isSome (hR : R.RangeSound) {candidates : List (T × Weight)}
    (hpos : 0 < (candidates.map (·.2)).sum) (hfit : (candidates.map (·.2)).sum < 2 ^ 128)
    (rand : R.State) :
    (select_with_weight R candidates (candidates.map (·.2)).sum rand).isSome := by
  unfold select_with_weight
  rw [if_neg (Nat.pos_iff_ne_zero.mp hpos)]
  dsimp only
  rw [Option.isSome_map]
  exact firstAbove_isSome candidates 0 0 (Nat.zero_le _) (by simpa using hR rand _ hpos)
    (by simpa using hfit)

/-! ## The loop -/

/-- What the `while` loop adds to the committee: a member for each turn, unless there is no
candidate, each a candidate of positive weight. -/
theorem selectLoop_picks {weighted_candidates : List (T × Weight)} {total_weight : Weight} :
    ∀ (fuel : Nat) (rng : R.State) (committee committee' : List T),
      selectLoop R weighted_candidates total_weight fuel rng committee = some committee' →
      ∃ picks, committee' = committee ++ picks ∧
        picks.length = (if weighted_candidates.isEmpty then 0 else fuel) ∧
        ∀ x ∈ picks, ∃ weight, 0 < weight ∧ (x, weight) ∈ weighted_candidates
  | 0, _, committee, committee', h => by
    cases h
    exact ⟨[], by simp, by simp, by simp⟩
  | fuel + 1, rng, committee, committee', h => by
    unfold selectLoop at h
    split at h
    · rename_i hempty
      cases h
      exact ⟨[], by simp, by simp [hempty], by simp⟩
    · rename_i hne
      -- one draw, then the rest of the loop
      cases hdraw : select_with_weight R weighted_candidates total_weight rng with
      | none => simp [hdraw] at h
      | some draw =>
        obtain ⟨selected_index, rng'⟩ := draw
        obtain ⟨hi, hpos⟩ := select_with_weight_weight_pos R hdraw
        simp only [hdraw, Option.bind_eq_bind, Option.bind_some, List.getElem?_eq_getElem hi]
          at h
        obtain ⟨picks, rfl, hlen, hmem⟩ := selectLoop_picks fuel rng' _ committee' h
        refine ⟨weighted_candidates[selected_index].1 :: picks, by simp, ?_, ?_⟩
        · simp only [hne] at hlen ⊢
          simp [hlen]
        · intro x hx
          rcases List.mem_cons.mp hx with rfl | hx
          · exact ⟨_, hpos, List.getElem_mem hi⟩
          · exact hmem x hx

/-- With a positive total weight that does not wrap, the loop does not panic. -/
theorem selectLoop_isSome (hR : R.RangeSound) {weighted_candidates : List (T × Weight)}
    (hpos : 0 < (weighted_candidates.map (·.2)).sum)
    (hfit : (weighted_candidates.map (·.2)).sum < 2 ^ 128) :
    ∀ (fuel : Nat) (rng : R.State) (committee : List T),
      (selectLoop R weighted_candidates (weighted_candidates.map (·.2)).sum fuel rng
        committee).isSome
  | 0, _, _ => rfl
  | fuel + 1, rng, committee => by
    unfold selectLoop
    split
    · rfl
    · obtain ⟨⟨selected_index, rng'⟩, hdraw⟩ :=
        Option.isSome_iff_exists.mp (select_with_weight_isSome R hR hpos hfit rng)
      obtain ⟨hi, -⟩ := select_with_weight_weight_pos R hdraw
      simp only [hdraw, Option.bind_eq_bind, Option.bind_some, List.getElem?_eq_getElem hi]
      exact selectLoop_isSome hR hpos hfit fuel rng' _

/-- Without candidates the loop adds no one. -/
theorem selectLoop_nil (total_weight : Weight) :
    ∀ (fuel : Nat) (rng : R.State) (committee : List T),
      selectLoop R [] total_weight fuel rng committee = some committee
  | 0, _, _ => rfl
  | _ + 1, _, _ => rfl

/-! ## `select_authorities` -/

/-- `select_authorities` when the sum of the weights does not wrap: the loop's committee, if it
has `size` members. -/
theorem select_authorities_eq {weighted_candidates : List (T × Weight)}
    (hfit : (weighted_candidates.map (·.2)).sum < 2 ^ 128) (seed : sidechain_domain.FixedBytes 32)
    (size : UInt16) :
    select_authorities R weighted_candidates seed size =
      (selectLoop R weighted_candidates (weighted_candidates.map (·.2)).sum size.toNat
        (R.from_seed seed) []).map fun committee =>
          if size.toNat ≤ committee.length then some committee else none := by
  simp only [select_authorities, wrap128, Nat.mod_eq_of_lt hfit, Option.bind_eq_bind]
  cases selectLoop R weighted_candidates (weighted_candidates.map (·.2)).sum size.toNat
    (R.from_seed seed) [] <;> rfl

/-- Whatever committee `select_authorities` returns has `size` members, each a candidate of
positive weight. -/
theorem select_authorities_sound {weighted_candidates : List (T × Weight)}
    (hfit : (weighted_candidates.map (·.2)).sum < 2 ^ 128) {seed : sidechain_domain.FixedBytes 32}
    {size : UInt16} {committee : List T}
    (h : select_authorities R weighted_candidates seed size = some (some committee)) :
    committee.length = size.toNat ∧
      ∀ c ∈ committee, ∃ weight, 0 < weight ∧ (c, weight) ∈ weighted_candidates := by
  rw [select_authorities_eq R hfit] at h
  obtain ⟨committee', hloop, hsome⟩ := Option.map_eq_some_iff.mp h
  obtain ⟨picks, rfl, hlen, hmem⟩ := selectLoop_picks R size.toNat _ [] committee' hloop
  split at hsome
  · rename_i hsize
    cases hsome
    refine ⟨?_, by simpa using hmem⟩
    -- the loop fills the seats unless there is no candidate, and then there is no seat
    split at hlen <;> omega
  · cases hsome

/-- With a positive total weight that does not wrap, `select_authorities` returns a
committee. -/
theorem select_authorities_isSome_some (hR : R.RangeSound)
    {weighted_candidates : List (T × Weight)} (hpos : 0 < (weighted_candidates.map (·.2)).sum)
    (hfit : (weighted_candidates.map (·.2)).sum < 2 ^ 128) (seed : sidechain_domain.FixedBytes 32)
    (size : UInt16) :
    ∃ committee, select_authorities R weighted_candidates seed size = some (some committee) := by
  rw [select_authorities_eq R hfit]
  obtain ⟨committee, hloop⟩ := Option.isSome_iff_exists.mp
    (selectLoop_isSome R hR hpos hfit size.toNat (R.from_seed seed) [])
  have hne : weighted_candidates.isEmpty = false := by
    cases weighted_candidates with
    | nil => simp at hpos
    | cons _ _ => rfl
  obtain ⟨picks, rfl, hlen, -⟩ := selectLoop_picks R size.toNat _ [] committee hloop
  rw [hne, if_neg Bool.false_ne_true] at hlen
  exact ⟨committee, by simp [hloop, hlen]⟩

/-- Weighted random selection is total and sound. For every list of weighted candidates whose
weights add up without wrapping, every seed and every size: it returns `None` exactly when
there are seats but no candidates; it does not panic when the total weight is positive; and
whatever committee it returns has `size` members, each a candidate of positive weight. -/
theorem weighted_random_selection_total_and_sound (hR : R.RangeSound)
    (weighted_candidates : List (T × Weight)) (seed : sidechain_domain.FixedBytes 32)
    (size : UInt16) (hfit : (weighted_candidates.map (·.2)).sum < 2 ^ 128) :
    (select_authorities R weighted_candidates seed size = some none ↔
        0 < size.toNat ∧ weighted_candidates = []) ∧
      (0 < (weighted_candidates.map (·.2)).sum →
        ∃ committee, select_authorities R weighted_candidates seed size = some (some committee)) ∧
      ∀ committee, select_authorities R weighted_candidates seed size = some (some committee) →
        committee.length = size.toNat ∧
          ∀ c ∈ committee, ∃ weight, 0 < weight ∧ (c, weight) ∈ weighted_candidates := by
  refine ⟨?_, fun hpos => select_authorities_isSome_some R hR hpos hfit seed size,
    fun committee h => select_authorities_sound R hfit h⟩
  rw [select_authorities_eq R hfit]
  cases weighted_candidates with
  | nil =>
    -- no candidate: an empty committee, enough only for no seat
    rw [selectLoop_nil]
    by_cases hsize : size.toNat = 0 <;> simp [hsize, Nat.pos_iff_ne_zero]
  | cons cw rest =>
    -- a committee of the loop always has its `size` members
    simp only [reduceCtorEq, and_false, iff_false]
    intro h
    obtain ⟨committee, hloop, hnone⟩ := Option.map_eq_some_iff.mp h
    obtain ⟨picks, rfl, hlen, -⟩ := selectLoop_picks R size.toNat _ [] committee hloop
    simp only [List.isEmpty_cons, Bool.false_eq_true, if_false] at hlen
    simp [hlen] at hnone

/-- Whatever committee `select_authorities` returns, however its weights add up, each member is
one of the candidates. -/
theorem select_authorities_mem {weighted_candidates : List (T × Weight)}
    {seed : sidechain_domain.FixedBytes 32} {size : UInt16} {committee : List T}
    (h : select_authorities R weighted_candidates seed size = some (some committee)) :
    ∀ c ∈ committee, ∃ weight, (c, weight) ∈ weighted_candidates := by
  simp only [select_authorities, Option.bind_eq_bind] at h
  obtain ⟨committee', hloop, hsome⟩ := Option.bind_eq_some_iff.mp h
  obtain ⟨picks, hpicks, -, hmem⟩ := selectLoop_picks R _ _ [] committee' hloop
  have hcommittee : committee = picks := by
    split at hsome
    · simpa [hpicks] using hsome.symm
    · cases hsome
  intro c hc
  obtain ⟨weight, -, hcw⟩ := hmem c (hcommittee ▸ hc)
  exact ⟨weight, hcw⟩

end weighted_random

namespace ariadne_v2

variable (R : ChaCha20Rng) {T : Type}

/-! ## The guaranteed seats -/

/-- The loop of `select_guaranteed` over weights already scaled: each candidate gets the whole
multiples of the threshold in its weight as seats, and the rest of its weight for the draw. -/
theorem foldlM_guaranteedStep {threshold : Weight} (hpos : 0 < threshold) :
    ∀ (scaled : List (T × Weight)) (acc : SelectGuaranteedResult T),
      (∀ cw ∈ scaled, cw.2 / threshold < 2 ^ 32) →
      scaled.foldlM (guaranteedStep threshold) acc =
        some ⟨acc.selected ++ scaled.flatMap (fun cw => List.replicate (cw.2 / threshold) cw.1),
          acc.remaining ++ scaled.filterMap fun cw =>
            if cw.2 % threshold > 0 then some (cw.1, cw.2 % threshold) else none⟩
  | [], acc, _ => by simp
  | (c, weight) :: scaled, acc, hfits => by
    have hfit : weight / threshold < 2 ^ 32 := hfits _ List.mem_cons_self
    have hstep : guaranteedStep threshold acc (c, weight) = some ⟨acc.selected ++
        List.replicate (weight / threshold) c, if weight % threshold > 0 then
          acc.remaining ++ [(c, weight % threshold)] else acc.remaining⟩ := by
      simp only [guaranteedStep, if_neg (Nat.pos_iff_ne_zero.mp hpos), if_neg (Nat.not_le.mpr hfit)]
    rw [List.foldlM_cons, hstep, Option.bind_eq_bind, Option.bind_some,
      foldlM_guaranteedStep hpos scaled _ (fun cw h => hfits cw (List.mem_cons_of_mem _ h))]
    -- the candidate's rest of weight is kept for the draw only when it is not zero
    by_cases hrest : weight % threshold > 0
    · simp [hrest]
    · simp [hrest]

/-- A weight of the list is at most their sum. -/
theorem weight_le_sum {candidates : List (T × Weight)} {cw : T × Weight} (h : cw ∈ candidates) :
    cw.2 ≤ (candidates.map (·.2)).sum :=
  List.le_sum_of_mem (List.mem_map_of_mem h)

/-- `select_guaranteed` when neither the scaled weights nor their sum wrap: for each candidate
of positive weight, `weight * n / threshold` seats, and the rest `weight * n % threshold` for the
draw where it is not zero. -/
theorem select_guaranteed_eq {candidates : List (T × Weight)} {n : UInt16}
    (hW : 0 < (candidates.map (·.2)).sum) (hn : 0 < n.toNat)
    (hfit : (candidates.map (·.2)).sum * n.toNat < 2 ^ 128) :
    select_guaranteed candidates n = some
      ⟨(candidates.filter fun cw => cw.2 > 0).flatMap (fun cw =>
          List.replicate (cw.2 * n.toNat / (candidates.map (·.2)).sum) cw.1),
        (candidates.filter fun cw => cw.2 > 0).filterMap fun cw =>
          if cw.2 * n.toNat % (candidates.map (·.2)).sum > 0 then
            some (cw.1, cw.2 * n.toNat % (candidates.map (·.2)).sum) else none⟩ := by
  have hthreshold : wrap128 (candidates.map (·.2)).sum = (candidates.map (·.2)).sum :=
    Nat.mod_eq_of_lt (lt_of_le_of_lt (Nat.le_mul_of_pos_right _ hn) hfit)
  -- no scaled weight wraps: each is at most the scaled sum
  have hscaled : ((candidates.filter fun cw => cw.2 > 0).map fun cw => (cw.1, wrap128 (cw.2 * n.toNat))) =
      (candidates.filter fun cw => cw.2 > 0).map fun cw => (cw.1, cw.2 * n.toNat) := by
    refine List.map_congr_left fun cw hcw => ?_
    have hle := Nat.mul_le_mul_right n.toNat (weight_le_sum (List.mem_of_mem_filter hcw))
    rw [wrap128, Nat.mod_eq_of_lt (lt_of_le_of_lt hle hfit)]
  have hfits : ∀ cw ∈ (candidates.filter fun cw => cw.2 > 0).map (fun cw => (cw.1, cw.2 * n.toNat)),
      cw.2 / (candidates.map (·.2)).sum < 2 ^ 32 := by
    intro cw hcw
    obtain ⟨c, hc, rfl⟩ := List.mem_map.mp hcw
    have hle : c.2 * n.toNat / (candidates.map (·.2)).sum ≤ n.toNat :=
      Nat.div_le_of_le_mul (Nat.mul_le_mul_right _ (weight_le_sum (List.mem_of_mem_filter hc)))
    have hn32 : n.toNat < 2 ^ 32 := lt_trans n.toNat_lt (by decide)
    exact lt_of_le_of_lt hle hn32
  simp only [select_guaranteed, hthreshold, hscaled]
  rw [foldlM_guaranteedStep hW _ _ hfits]
  simp [List.flatMap_map, List.filterMap_map]

/-! ## Counting the seats -/

/-- The rests kept for the draw weigh what the rests add up to: a rest of zero is dropped. -/
theorem sum_filterMap_rest (rest : T × Nat → Nat) (candidates : List (T × Nat)) :
    ((candidates.filterMap fun cw => if rest cw > 0 then some (cw.1, rest cw) else none).map
      (·.2)).sum = (candidates.map rest).sum := by
  induction candidates with
  | nil => rfl
  | cons cw candidates ih =>
    by_cases h : rest cw > 0
    · simp [h, ih]
    · simp [ih, Nat.eq_zero_of_not_pos h]

/-- Seats and rests together: scaled by `n`, the weights are their seats times the threshold
plus their rests. -/
theorem sum_div_mul_add_sum_mod (threshold n : Nat) (candidates : List (T × Nat)) :
    (candidates.map fun cw => cw.2 * n / threshold).sum * threshold +
        (candidates.map fun cw => cw.2 * n % threshold).sum =
      (candidates.map (·.2)).sum * n := by
  induction candidates with
  | nil => simp
  | cons cw candidates ih =>
    -- the candidate's own seats and rest make up its scaled weight
    have hcw := Nat.div_add_mod' (cw.2 * n) threshold
    simp only [List.map_cons, List.sum_cons, Nat.add_mul]
    omega

/-- A candidate of positive weight makes the total weight positive. -/
theorem sum_pos_of_weight_pos {candidates : List (T × Nat)} (hne : candidates ≠ [])
    (hpos : ∀ cw ∈ candidates, 0 < cw.2) : 0 < (candidates.map (·.2)).sum := by
  obtain ⟨cw, rest, rfl⟩ := List.exists_cons_of_ne_nil hne
  have hcw := hpos cw List.mem_cons_self
  simp only [List.map_cons, List.sum_cons]
  omega

/-- A candidate of a pool holds at least the seats the pool gives it. -/
theorem le_count_flatMap_replicate [BEq T] [LawfulBEq T] (seats : T × Nat → Nat)
    {candidates : List (T × Nat)} {cw : T × Nat} (h : cw ∈ candidates) :
    seats cw ≤ (candidates.flatMap fun cw => List.replicate (seats cw) cw.1).count cw.1 := by
  rw [List.count_flatMap]
  calc seats cw = (List.replicate (seats cw) cw.1).count cw.1 := List.count_replicate_self.symm
    _ ≤ _ := List.le_sum_of_mem (List.mem_map_of_mem (f := List.count cw.1 ∘ fun cw =>
        List.replicate (seats cw) cw.1) h)

/-- The guaranteed seats go to the pool's candidates. -/
theorem mem_flatMap_replicate {seats : T × Nat → Nat} {candidates : List (T × Nat)} {c : T}
    (h : c ∈ candidates.flatMap fun cw => List.replicate (seats cw) cw.1) :
    ∃ weight, (c, weight) ∈ candidates := by
  obtain ⟨cw, hcw, hc⟩ := List.mem_flatMap.mp h
  rw [(List.mem_replicate.mp hc).2]
  exact ⟨cw.2, hcw⟩

/-- The rests kept for the draw are positive rests of the pool's candidates. -/
theorem mem_filterMap_rest {rest : T × Nat → Nat} {candidates : List (T × Nat)} {cw : T × Nat}
    (h : cw ∈ candidates.filterMap fun cw =>
      if rest cw > 0 then some (cw.1, rest cw) else none) :
    0 < cw.2 ∧ ∃ weight, (cw.1, weight) ∈ candidates := by
  obtain ⟨cw', hcw', hsome⟩ := List.mem_filterMap.mp h
  by_cases hrest : rest cw' > 0
  · rw [if_pos hrest, Option.some_inj] at hsome
    subst hsome
    exact ⟨hrest, cw'.2, hcw'⟩
  · rw [if_neg hrest] at hsome
    cases hsome

/-- `select_guaranteed` over candidates of positive weight, at least one seat and no overflow:
the seats it gives and the weight it leaves for the draw make up the `n` seats; each seat goes
to a candidate, each rest is a candidate's positive rest, and each candidate gets
`weight * n / total` seats. -/
theorem select_guaranteed_spec [DecidableEq T] {candidates : List (T × Weight)} {n : UInt16}
    (hpos : ∀ cw ∈ candidates, 0 < cw.2) (hne : candidates ≠ []) (hn : 0 < n.toNat)
    (hfit : (candidates.map (·.2)).sum * n.toNat < 2 ^ 128) :
    ∃ selected remaining, select_guaranteed candidates n = some ⟨selected, remaining⟩ ∧
      selected.length * (candidates.map (·.2)).sum + (remaining.map (·.2)).sum =
        (candidates.map (·.2)).sum * n.toNat ∧
      (∀ c ∈ selected, ∃ weight, (c, weight) ∈ candidates) ∧
      (∀ cw ∈ remaining, 0 < cw.2 ∧ ∃ weight, (cw.1, weight) ∈ candidates) ∧
      ∀ cw ∈ candidates, cw.2 * n.toNat / (candidates.map (·.2)).sum ≤ selected.count cw.1 := by
  have hall : (candidates.filter fun cw => cw.2 > 0) = candidates :=
    List.filter_eq_self.mpr fun cw hcw => by simpa using hpos cw hcw
  rw [select_guaranteed_eq (sum_pos_of_weight_pos hne hpos) hn hfit, hall]
  refine ⟨_, _, rfl, ?_, fun c hc => mem_flatMap_replicate hc,
    fun cw hcw => mem_filterMap_rest hcw, fun cw hcw => le_count_flatMap_replicate
      (fun cw => cw.2 * n.toNat / (candidates.map (·.2)).sum) hcw⟩
  -- the seats given and the rests left add up to the scaled total
  rw [List.length_flatMap, sum_filterMap_rest]
  simp only [List.length_replicate]
  exact sum_div_mul_add_sum_mod _ _ candidates

/-- One turn of `select_guaranteed` gives seats to its candidate only, and keeps a rest for its
candidate only. -/
theorem guaranteedStep_mem {threshold : Weight} {acc acc' : SelectGuaranteedResult T}
    {cw : T × Weight} (h : guaranteedStep threshold acc cw = some acc') :
    (∀ c ∈ acc'.selected, c ∈ acc.selected ∨ c = cw.1) ∧
      ∀ rest ∈ acc'.remaining, rest ∈ acc.remaining ∨ rest.1 = cw.1 := by
  obtain ⟨c, weight⟩ := cw
  simp only [guaranteedStep] at h
  split_ifs at h with hzero hbig hrest <;> cases h
  · refine ⟨fun x hx => ?_, fun rest hrest' => ?_⟩
    · rcases List.mem_append.mp hx with hx | hx
      · exact .inl hx
      · exact .inr (List.mem_replicate.mp hx).2
    · rcases List.mem_append.mp hrest' with hrest' | hrest'
      · exact .inl hrest'
      · exact .inr (by rw [List.mem_singleton.mp hrest'])
  · refine ⟨fun x hx => ?_, fun rest hrest' => .inl hrest'⟩
    rcases List.mem_append.mp hx with hx | hx
    · exact .inl hx
    · exact .inr (List.mem_replicate.mp hx).2

/-- The loop of `select_guaranteed`, whatever its threshold: the seats and the rests it adds are
those of candidates of the list. The induction is on the list, from any accumulator. -/
theorem foldlM_guaranteedStep_mem {threshold : Weight} :
    ∀ (scaled : List (T × Weight)) (acc r : SelectGuaranteedResult T),
      scaled.foldlM (guaranteedStep threshold) acc = some r →
      (∀ c ∈ r.selected, c ∈ acc.selected ∨ ∃ weight, (c, weight) ∈ scaled) ∧
        ∀ rest ∈ r.remaining, rest ∈ acc.remaining ∨ ∃ weight, (rest.1, weight) ∈ scaled
  | [], acc, r, h => by
    cases h
    exact ⟨fun c hc => .inl hc, fun rest hrest => .inl hrest⟩
  | (c, weight) :: scaled, acc, r, h => by
    rw [List.foldlM_cons] at h
    obtain ⟨acc', hstep, hloop⟩ := Option.bind_eq_some_iff.mp h
    obtain ⟨hsel₁, hrem₁⟩ := guaranteedStep_mem hstep
    obtain ⟨hsel, hrem⟩ := foldlM_guaranteedStep_mem scaled acc' r hloop
    refine ⟨fun x hx => ?_, fun rest hrest => ?_⟩
    · rcases hsel x hx with hx | ⟨w, hw⟩
      · rcases hsel₁ x hx with hx | rfl
        · exact .inl hx
        · exact .inr ⟨weight, List.mem_cons_self⟩
      · exact .inr ⟨w, List.mem_cons_of_mem _ hw⟩
    · rcases hrem rest hrest with hrest | ⟨w, hw⟩
      · rcases hrem₁ rest hrest with hrest | hc
        · exact .inl hrest
        · exact .inr ⟨weight, hc ▸ List.mem_cons_self⟩
      · exact .inr ⟨w, List.mem_cons_of_mem _ hw⟩

/-- Whatever `select_guaranteed` returns, its seats and its rests are the candidates'. -/
theorem select_guaranteed_mem {candidates : List (T × Weight)} {n : UInt16}
    {r : SelectGuaranteedResult T} (h : select_guaranteed candidates n = some r) :
    (∀ c ∈ r.selected, ∃ weight, (c, weight) ∈ candidates) ∧
      ∀ rest ∈ r.remaining, ∃ weight, (rest.1, weight) ∈ candidates := by
  obtain ⟨hsel, hrem⟩ := foldlM_guaranteedStep_mem _ ⟨[], []⟩ r h
  -- a scaled candidate is a candidate with another weight
  have hscaled : ∀ c weight, (c, weight) ∈ (candidates.filter fun cw => cw.2 > 0).map
      (fun cw => (cw.1, wrap128 (cw.2 * n.toNat))) → ∃ weight', (c, weight') ∈ candidates := by
    intro c weight hcw
    obtain ⟨cw, hcw', heq⟩ := List.mem_map.mp hcw
    rw [← (Prod.mk.inj heq).1]
    exact ⟨cw.2, (List.mem_filter.mp hcw').1⟩
  refine ⟨fun c hc => ?_, fun rest hrest => ?_⟩
  · rcases hsel c hc with hc | ⟨weight, hw⟩
    · cases hc
    · exact hscaled c weight hw
  · rcases hrem rest hrest with hrest | ⟨weight, hw⟩
    · cases hrest
    · exact hscaled rest.1 weight hw

/-! ## The random seats -/

/-- `select_remaining` fills the seats left with candidates of positive remaining weight, and
with no one when no seat is left. -/
theorem select_remaining_spec (hR : R.RangeSound) {remaining : List (T × Weight)} {seats : UInt16}
    (hpos : ∀ cw ∈ remaining, 0 < cw.2) (hempty : remaining = [] → seats.toNat = 0)
    (hfit : (remaining.map (·.2)).sum < 2 ^ 128) (rng : R.State) :
    ∃ rest, select_remaining R remaining seats rng = some rest ∧ rest.length = seats.toNat ∧
      ∀ c ∈ rest, ∃ weight, 0 < weight ∧ (c, weight) ∈ remaining := by
  by_cases hnil : remaining = []
  · -- no rest to draw from, and no seat left
    subst hnil
    have hseats := hempty rfl
    refine ⟨[], ?_, by simp [hseats], by simp⟩
    simp [select_remaining, weighted_random.select_authorities_eq R hfit,
      weighted_random.selectLoop_nil, hseats]
  · obtain ⟨rest, hrest⟩ := weighted_random.select_authorities_isSome_some R hR
      (sum_pos_of_weight_pos hnil hpos) hfit (R.get_seed rng) seats
    obtain ⟨hlen, hmem⟩ := weighted_random.select_authorities_sound R hfit hrest
    exact ⟨rest, by simp [select_remaining, hrest], hlen, hmem⟩

/-! ## One pool -/

/-- Whoever `select_remaining` draws is one of the candidates left for the draw. -/
theorem select_remaining_mem {remaining : List (T × Weight)} {seats : UInt16} {rng : R.State}
    {rest : List T} (h : select_remaining R remaining seats rng = some rest) :
    ∀ c ∈ rest, ∃ weight, (c, weight) ∈ remaining := by
  obtain ⟨drawn, hdraw, rfl⟩ := Option.map_eq_some_iff.mp h
  intro c hc
  cases drawn with
  | none => cases hc
  | some committee => exact weighted_random.select_authorities_mem R hdraw c hc

section Pool

variable [LinearOrder T]

/-- Whatever committee the guaranteed assignment returns, each member is one of the
candidates. -/
theorem weighted_with_guaranteed_assignment_mem {candidates : List (T × Weight)} {n : UInt16}
    {rng : R.State} {committee : List T}
    (h : weighted_with_guaranteed_assignment R candidates n rng = some committee) :
    ∀ c ∈ committee, ∃ weight, (c, weight) ∈ candidates := by
  unfold weighted_with_guaranteed_assignment at h
  split at h
  · cases h
    intro c hc
    cases hc
  · -- the source sorts the candidates first; the sorted list is a permutation of them
    have hperm := List.mergeSort_perm candidates (keyLE toLex)
    obtain ⟨⟨selected, remaining⟩, hsel, h⟩ := Option.bind_eq_some_iff.mp h
    obtain ⟨hselmem, hremmem⟩ := select_guaranteed_mem hsel
    by_cases hbig : 2 ^ 16 ≤ selected.length
    · -- the `expect` of the conversion to `u16`
      simp at h
      omega
    · simp only [hbig] at h
      obtain ⟨rest, hrest, h⟩ := Option.bind_eq_some_iff.mp h
      cases h
      intro c hc
      rcases List.mem_append.mp hc with hc | hc
      · obtain ⟨weight, hw⟩ := hselmem c hc
        exact ⟨weight, hperm.mem_iff.mp hw⟩
      · obtain ⟨weight, hw⟩ := select_remaining_mem R hrest c hc
        obtain ⟨weight', hw'⟩ := hremmem _ hw
        exact ⟨weight', hperm.mem_iff.mp hw'⟩

/-- `weighted_with_guaranteed_assignment` over candidates of positive weight whose total scaled
by `n` fits: a committee of `n` candidates in which each holds at least its guaranteed seats,
`weight * n / total`. With no candidate there must be no seat. -/
theorem weighted_with_guaranteed_assignment_spec (hR : R.RangeSound)
    {candidates : List (T × Weight)} {n : UInt16} (hpos : ∀ cw ∈ candidates, 0 < cw.2)
    (hempty : candidates = [] → n.toNat = 0)
    (hfit : (candidates.map (·.2)).sum * n.toNat < 2 ^ 128) (rng : R.State) :
    ∃ committee, weighted_with_guaranteed_assignment R candidates n rng = some committee ∧
      committee.length = n.toNat ∧ (∀ c ∈ committee, ∃ weight, (c, weight) ∈ candidates) ∧
      ∀ cw ∈ candidates, cw.2 * n.toNat / (candidates.map (·.2)).sum ≤ committee.count cw.1 := by
  by_cases htriv : (candidates.isEmpty || n == 0) = true
  · -- no candidate or no seat: an empty committee, and no seat was due
    have hn : n.toNat = 0 := by
      rcases Bool.or_eq_true_iff.mp htriv with h | h
      · exact hempty (List.isEmpty_iff.mp h)
      · rw [beq_iff_eq.mp h, UInt16.toNat_zero]
    refine ⟨[], by simp [weighted_with_guaranteed_assignment, htriv], by simp [hn], by simp,
      fun cw _ => by simp [hn]⟩
  · have hne : candidates ≠ [] := fun h => htriv (by simp [h])
    have hn : 0 < n.toNat := Nat.pos_iff_ne_zero.mpr fun h =>
      htriv (by simp [UInt16.toNat_inj.mp (h.trans UInt16.toNat_zero.symm)])
    -- the source sorts the candidates first; the sorted list is a permutation of them
    have hperm := List.mergeSort_perm candidates (keyLE toLex)
    have hsum : ((candidates.mergeSort (keyLE toLex)).map (·.2)).sum =
        (candidates.map (·.2)).sum := (hperm.map _).sum_eq
    obtain ⟨selected, remaining, hsel, hseats, hselmem, hremmem, hcount⟩ :=
      select_guaranteed_spec (fun cw hcw => hpos cw (hperm.mem_iff.mp hcw))
        (fun h => hne (List.Perm.nil_eq (h ▸ hperm)).symm) hn (hsum ▸ hfit)
    rw [hsum] at hseats hcount
    have hW := sum_pos_of_weight_pos hne hpos
    -- the guaranteed seats do not exceed `n`, and the rests weigh the seats left
    have hle : selected.length ≤ n.toNat := by
      apply Nat.le_of_mul_le_mul_right _ hW
      calc selected.length * (candidates.map (·.2)).sum
          ≤ selected.length * (candidates.map (·.2)).sum + (remaining.map (·.2)).sum :=
            Nat.le_add_right _ _
        _ = (candidates.map (·.2)).sum * n.toNat := hseats
        _ = n.toNat * (candidates.map (·.2)).sum := Nat.mul_comm _ _
    have hrest : (remaining.map (·.2)).sum =
        (candidates.map (·.2)).sum * (n.toNat - selected.length) := by
      rw [Nat.mul_sub, Nat.mul_comm _ selected.length]
      exact Nat.eq_sub_of_add_eq' hseats
    have hcount16 : selected.length.toUInt16.toNat = selected.length := by
      rw [Nat.toUInt16, UInt16.toNat_ofNat', Nat.mod_eq_of_lt (by have := n.toNat_lt; omega)]
    have hleft : (n - selected.length.toUInt16).toNat = n.toNat - selected.length := by
      rw [UInt16.toNat_sub_of_le _ _ (UInt16.le_iff_toNat_le.mpr (by omega)), hcount16]
    have hempty' : remaining = [] → (n - selected.length.toUInt16).toNat = 0 := by
      intro h
      rw [h, List.map_nil, List.sum_nil] at hrest
      rw [hleft]
      exact (Nat.mul_eq_zero.mp hrest.symm).resolve_left (Nat.pos_iff_ne_zero.mp hW)
    obtain ⟨rest, hdraw, hlen, hmem⟩ := select_remaining_spec R hR
      (fun cw hcw => (hremmem cw hcw).1) hempty'
      (by rw [hrest]; exact lt_of_le_of_lt (Nat.mul_le_mul_left _ (Nat.sub_le _ _)) hfit) rng
    refine ⟨selected ++ rest, ?_, ?_, ?_, ?_⟩
    · -- the guaranteed seats fit the `u16` of the source's `try_into`
      have hfits16 : selected.length < 65536 := by have := n.toNat_lt; omega
      simp [weighted_with_guaranteed_assignment, htriv, hsel, hfits16, hdraw]
    · rw [List.length_append, hlen, hleft]
      omega
    · intro c hc
      rcases List.mem_append.mp hc with hc | hc
      · obtain ⟨weight, hcw⟩ := hselmem c hc
        exact ⟨weight, hperm.mem_iff.mp hcw⟩
      · obtain ⟨weight, -, hcw⟩ := hmem c hc
        obtain ⟨weight', hcw'⟩ := (hremmem _ hcw).2
        exact ⟨weight', hperm.mem_iff.mp hcw'⟩
    · intro cw hcw
      rw [List.count_append]
      exact le_trans (hcount cw (hperm.mem_iff.mpr hcw)) (Nat.le_add_right _ _)

/-- The permissioned pool, every candidate of weight one: `n` seats of which each candidate
holds at least `n / length`. -/
theorem weighted_with_guaranteed_assignment_permissioned (hR : R.RangeSound)
    {permissioned_candidates : List T} {n : UInt16}
    (hempty : permissioned_candidates = [] → n.toNat = 0)
    (hfit : permissioned_candidates.length * n.toNat < 2 ^ 128) (rng : R.State) :
    ∃ committee, weighted_with_guaranteed_assignment R (permissioned_candidates.map (·, 1)) n rng =
        some committee ∧ committee.length = n.toNat ∧ (∀ c ∈ committee, c ∈ permissioned_candidates) ∧
      ∀ c ∈ permissioned_candidates, n.toNat / permissioned_candidates.length ≤ committee.count c := by
  have hsum : ((permissioned_candidates.map (·, (1 : Weight))).map (·.2)).sum =
      permissioned_candidates.length := by
    simp [Function.comp_def]
  have hpos : ∀ cw ∈ permissioned_candidates.map (·, (1 : Weight)), 0 < cw.2 := by
    intro cw hcw
    obtain ⟨c, -, rfl⟩ := List.mem_map.mp hcw
    exact Nat.one_pos
  obtain ⟨committee, hwwga, hlen, hmem, hcount⟩ := weighted_with_guaranteed_assignment_spec R hR
    hpos (fun h => hempty (List.map_eq_nil_iff.mp h)) (by rw [hsum]; exact hfit) rng
  refine ⟨committee, hwwga, hlen, fun c hc => ?_, fun c hc => ?_⟩
  · obtain ⟨weight, hcw⟩ := hmem c hc
    obtain ⟨c', hc', hcw'⟩ := List.mem_map.mp hcw
    rw [← (Prod.mk.inj hcw').1]
    exact hc'
  · have := hcount (c, 1) (List.mem_map_of_mem hc)
    rw [hsum, Nat.one_mul] at this
    exact this

end Pool

section Committee

variable [LinearOrder T]

/-- Ariadne v2 allocates every seat of the D-parameter. When `registered_seats +
permissioned_seats` is positive and fits the source's `u16`, the registered weights are
positive, the pools are not both empty and their totals scaled by the seats fit a `u128`: the
committee has all the seats, each member a candidate; with both pools, `registered_seats` of
its members come from the registered pool and `permissioned_seats` from the permissioned one;
and each candidate of a pool given `n` seats holds at least `weight * n / total` of them. -/
theorem select_authorities_allocates_seats (hR : R.RangeSound)
    (registered_seats permissioned_seats : UInt16) (registered_candidates : List (T × Weight))
    (permissioned_candidates : List T) (seed : sidechain_domain.FixedBytes 32)
    (hseats : 0 < registered_seats.toNat + permissioned_seats.toNat)
    (hseats_fit : registered_seats.toNat + permissioned_seats.toNat < 2 ^ 16)
    (hpos : ∀ cw ∈ registered_candidates, 0 < cw.2)
    (hne : registered_candidates ≠ [] ∨ permissioned_candidates ≠ [])
    (hreg_fit : (registered_candidates.map (·.2)).sum *
      (registered_seats.toNat + permissioned_seats.toNat) < 2 ^ 128)
    (hperm_fit : permissioned_candidates.length *
      (registered_seats.toNat + permissioned_seats.toNat) < 2 ^ 128) :
    ∃ committee, select_authorities R registered_seats permissioned_seats registered_candidates
        permissioned_candidates seed = some (some committee) ∧
      committee.length = registered_seats.toNat + permissioned_seats.toNat ∧
      (∀ c ∈ committee, c ∈ registered_candidates.map (·.1) ∨ c ∈ permissioned_candidates) ∧
      (registered_candidates ≠ [] → permissioned_candidates ≠ [] →
        ∃ registered permissioned, committee.Perm (registered ++ permissioned) ∧
          registered.length = registered_seats.toNat ∧
          permissioned.length = permissioned_seats.toNat ∧
          (∀ c ∈ registered, c ∈ registered_candidates.map (·.1)) ∧
          ∀ c ∈ permissioned, c ∈ permissioned_candidates) ∧
      (∀ cw ∈ registered_candidates, cw.2 * (if permissioned_candidates = [] then
          registered_seats.toNat + permissioned_seats.toNat else registered_seats.toNat) /
          (registered_candidates.map (·.2)).sum ≤ committee.count cw.1) ∧
      ∀ c ∈ permissioned_candidates, (if registered_candidates = [] then
          registered_seats.toNat + permissioned_seats.toNat else permissioned_seats.toNat) /
          permissioned_candidates.length ≤ committee.count c := by
  -- `seats_total` does not wrap
  have htotal : (permissioned_seats + registered_seats).toNat =
      registered_seats.toNat + permissioned_seats.toNat := by
    rw [UInt16.toNat_add, Nat.mod_eq_of_lt (by omega), Nat.add_comm]
  have hregistered_mem : ∀ {c : T} {weight : Weight}, (c, weight) ∈ registered_candidates →
      c ∈ registered_candidates.map (·.1) := fun h => List.mem_map_of_mem h
  by_cases hrc : registered_candidates = []
  · -- no registered candidate: the permissioned pool takes every seat
    have hpc : permissioned_candidates ≠ [] := hne.resolve_left (not_not.mpr hrc)
    subst hrc
    obtain ⟨B, hB, hlen, hmem, hcount⟩ := weighted_with_guaranteed_assignment_permissioned R hR
      (n := permissioned_seats + registered_seats) (fun h => absurd h hpc)
      (by rw [htotal]; exact hperm_fit) (R.from_seed seed)
    have hperm := shuffle_perm R (R.from_seed seed) B
    have hshuffled := shuffle_ne_nil R (R.from_seed seed) (by rw [hlen, htotal]; exact hseats)
    refine ⟨(shuffle R (R.from_seed seed) B).1, by simp [select_authorities, hB, hshuffled],
      ?_, fun c hc => Or.inr (hmem c (hperm.mem_iff.mp hc)), fun h => absurd rfl h,
      fun cw hcw => absurd hcw List.not_mem_nil, fun c hc => ?_⟩
    · rw [hperm.length_eq, hlen, htotal]
    · rw [if_pos rfl, hperm.count_eq, ← htotal]
      exact hcount c hc
  · by_cases hpc : permissioned_candidates = []
    · -- no permissioned candidate: the registered pool takes every seat
      subst hpc
      obtain ⟨A, hA, hlen, hmem, hcount⟩ := weighted_with_guaranteed_assignment_spec R hR
        (n := permissioned_seats + registered_seats) hpos (fun h => absurd h hrc)
        (by rw [htotal]; exact hreg_fit) (R.from_seed seed)
      have hperm := shuffle_perm R (R.from_seed seed) A
      have hshuffled := shuffle_ne_nil R (R.from_seed seed) (by rw [hlen, htotal]; exact hseats)
      refine ⟨(shuffle R (R.from_seed seed) A).1,
        by simp [select_authorities, hrc, hA, hshuffled], ?_, fun c hc => ?_,
        fun _ h => absurd rfl h, fun cw hcw => ?_, fun c hc => absurd hc List.not_mem_nil⟩
      · rw [hperm.length_eq, hlen, htotal]
      · obtain ⟨weight, hcw⟩ := hmem c (hperm.mem_iff.mp hc)
        exact Or.inl (hregistered_mem hcw)
      · rw [if_pos rfl, hperm.count_eq, ← htotal]
        exact hcount cw hcw
    · -- both pools: each fills its own seats
      obtain ⟨A, hA, hlenA, hmemA, hcountA⟩ := weighted_with_guaranteed_assignment_spec R hR
        (n := registered_seats) hpos (fun h => absurd h hrc)
        (lt_of_le_of_lt (Nat.mul_le_mul_left _ (Nat.le_add_right _ _)) hreg_fit)
        (R.from_seed seed)
      obtain ⟨B, hB, hlenB, hmemB, hcountB⟩ := weighted_with_guaranteed_assignment_permissioned R
        hR (n := permissioned_seats) (fun h => absurd h hpc)
        (lt_of_le_of_lt (Nat.mul_le_mul_left _ (Nat.le_add_left _ _)) hperm_fit)
        (R.from_seed seed)
      have hperm := shuffle_perm R (R.from_seed seed) (A ++ B)
      have hshuffled := shuffle_ne_nil R (R.from_seed seed)
        (show 0 < (A ++ B).length by rw [List.length_append, hlenA, hlenB]; exact hseats)
      refine ⟨(shuffle R (R.from_seed seed) (A ++ B)).1,
        by simp [select_authorities, hrc, hpc, hA, hB, hshuffled], ?_, fun c hc => ?_,
        fun _ _ => ⟨A, B, hperm, hlenA, hlenB, fun c hc => ?_, hmemB⟩, fun cw hcw => ?_,
        fun c hc => ?_⟩
      · rw [hperm.length_eq, List.length_append, hlenA, hlenB]
      · rcases List.mem_append.mp (hperm.mem_iff.mp hc) with hc | hc
        · obtain ⟨weight, hcw⟩ := hmemA c hc
          exact Or.inl (hregistered_mem hcw)
        · exact Or.inr (hmemB c hc)
      · obtain ⟨weight, hcw⟩ := hmemA c hc
        exact hregistered_mem hcw
      · rw [if_neg hpc, hperm.count_eq, List.count_append]
        exact le_trans (hcountA cw hcw) (Nat.le_add_right _ _)
      · rw [if_neg hrc, hperm.count_eq, List.count_append]
        exact le_trans (hcountB c hc) (Nat.le_add_left _ _)

/-- Whatever committee Ariadne v2 returns, for any seats and any generator, each member is a
candidate of the registered pool or of the permissioned one. -/
theorem select_authorities_mem {registered_seats permissioned_seats : UInt16}
    {registered_candidates : List (T × Weight)} {permissioned_candidates : List T}
    {seed : sidechain_domain.FixedBytes 32} {committee : List T}
    (h : select_authorities R registered_seats permissioned_seats registered_candidates
      permissioned_candidates seed = some (some committee)) :
    ∀ c ∈ committee, (∃ weight, (c, weight) ∈ registered_candidates) ∨
      c ∈ permissioned_candidates := by
  -- the permissioned pool weighs one each
  have hone : ∀ c weight, (c, weight) ∈ permissioned_candidates.map (·, (1 : Weight)) →
      c ∈ permissioned_candidates := by
    intro c weight hcw
    obtain ⟨c', hc', heq⟩ := List.mem_map.mp hcw
    rw [← (Prod.mk.inj heq).1]
    exact hc'
  -- the committee is the drawn members shuffled, and the shuffle only reorders them
  have hshuffled : ∀ selected : List T,
      (pure (if ((shuffle R (R.from_seed seed) selected).1.isEmpty &&
          decide (permissioned_seats + registered_seats > 0)) = true then none
        else some (shuffle R (R.from_seed seed) selected).1) : Option (Option (List T))) =
        some (some committee) → ∀ c ∈ committee, c ∈ selected := by
    intro selected hsel c hc
    split at hsel
    · cases hsel
    · cases hsel
      exact (shuffle_perm R _ selected).mem_iff.mp hc
  simp only [select_authorities, Option.bind_eq_bind] at h
  split at h
  · obtain ⟨registered_selected, hreg, h⟩ := Option.bind_eq_some_iff.mp h
    obtain ⟨permissioned_selected, hperm, h⟩ := Option.bind_eq_some_iff.mp h
    intro c hc
    rcases List.mem_append.mp (hshuffled _ h c hc) with hc | hc
    · exact .inl (weighted_with_guaranteed_assignment_mem R hreg c hc)
    · obtain ⟨weight, hw⟩ := weighted_with_guaranteed_assignment_mem R hperm c hc
      exact .inr (hone c weight hw)
  · split at h
    · obtain ⟨selected, hperm, h⟩ := Option.bind_eq_some_iff.mp h
      intro c hc
      obtain ⟨weight, hw⟩ := weighted_with_guaranteed_assignment_mem R hperm c (hshuffled _ h c hc)
      exact .inr (hone c weight hw)
    · obtain ⟨selected, hreg, h⟩ := Option.bind_eq_some_iff.mp h
      exact fun c hc => .inl (weighted_with_guaranteed_assignment_mem R hreg c (hshuffled _ h c hc))

/-- `seats_total` is a `u16` sum. When the seats of the D-parameter add up to `2 ^ 16` it wraps
to no seat at all: with a pool empty the committee is empty, for every generator and seed, while
with both pools each fills its own seats and the committee has all `2 ^ 16` of them. -/
theorem select_authorities_seats_total_wrap (hR : R.RangeSound)
    (registered_seats permissioned_seats : UInt16)
    (hwrap : registered_seats.toNat + permissioned_seats.toNat = 2 ^ 16)
    (seed : sidechain_domain.FixedBytes 32) :
    (∀ (registered_candidates : List (T × Weight)) (permissioned_candidates : List T),
      registered_candidates = [] ∨ permissioned_candidates = [] →
      select_authorities R registered_seats permissioned_seats registered_candidates
        permissioned_candidates seed = some (some [])) ∧
    ∀ (registered_candidates : List (T × Weight)) (permissioned_candidates : List T),
      registered_candidates ≠ [] → permissioned_candidates ≠ [] →
      (∀ cw ∈ registered_candidates, 0 < cw.2) →
      (registered_candidates.map (·.2)).sum * registered_seats.toNat < 2 ^ 128 →
      permissioned_candidates.length * permissioned_seats.toNat < 2 ^ 128 →
      ∃ committee, select_authorities R registered_seats permissioned_seats
          registered_candidates permissioned_candidates seed = some (some committee) ∧
        committee.length = 2 ^ 16 := by
  -- `seats_total` wraps to zero
  have hzero : permissioned_seats + registered_seats = 0 := by
    apply UInt16.toNat_inj.mp
    rw [UInt16.toNat_add, Nat.add_comm, hwrap]
    rfl
  have hshuffle : (shuffle R (R.from_seed seed) ([] : List T)).1 = [] :=
    List.perm_nil.mp (shuffle_perm R _ [])
  refine ⟨fun registered_candidates permissioned_candidates hpool => ?_,
    fun registered_candidates permissioned_candidates hrc hpc hpos hreg_fit hperm_fit => ?_⟩
  · -- one pool is to take all the seats, and there are none
    rcases hpool with rfl | rfl
    · simp [select_authorities, weighted_with_guaranteed_assignment, hzero, hshuffle]
    · simp [select_authorities, weighted_with_guaranteed_assignment, hzero, hshuffle]
  · -- both pools: each fills its own seats, which do not wrap
    obtain ⟨A, hA, hlenA, -, -⟩ := weighted_with_guaranteed_assignment_spec R hR
      (n := registered_seats) hpos (fun h => absurd h hrc) hreg_fit (R.from_seed seed)
    obtain ⟨B, hB, hlenB, -, -⟩ := weighted_with_guaranteed_assignment_permissioned R hR
      (n := permissioned_seats) (fun h => absurd h hpc) hperm_fit (R.from_seed seed)
    have hperm := shuffle_perm R (R.from_seed seed) (A ++ B)
    refine ⟨(shuffle R (R.from_seed seed) (A ++ B)).1,
      by simp [select_authorities, hrc, hpc, hA, hB, hzero], ?_⟩
    rw [hperm.length_eq, List.length_append, hlenA, hlenB, hwrap]

end Committee

end ariadne_v2

/-- A generator for tests: the state counts the draws, and a draw is the count modulo the
bound; `get_seed` and `shuffle` do nothing. -/
def counterRng : ChaCha20Rng where
  State := Nat
  from_seed _ := 0
  get_seed _ := ⟨List.replicate 32 0, sidechain_domain.FixedBytes.length_zeros_32⟩
  random_range rng bound := (rng % bound, rng + 1)
  shuffle_swaps rng _ := ([], rng)

theorem counterRng_rangeSound : counterRng.RangeSound := fun rng _ hbound =>
  Nat.mod_lt rng hbound

/-- The candidates of the source's test of zero weights, one seat. -/
theorem weighted_random_selection_zero_weight_test :
    counterRng.RangeSound ∧ (([("zero_weight", 0), ("non_zero_weight_1", 1),
        ("non_zero_weight_2", 2)] : List (String × Weight)).map (·.2)).sum < 2 ^ 128 ∧
      ((weighted_random.select_authorities counterRng [("zero_weight", 0), ("non_zero_weight_1", 1),
          ("non_zero_weight_2", 2)] ⟨List.replicate 32 0, List.length_replicate⟩ 1 = some none ↔
        0 < (1 : UInt16).toNat ∧ ([("zero_weight", 0), ("non_zero_weight_1", 1),
          ("non_zero_weight_2", 2)] : List (String × Weight)) = []) ∧
      (0 < (([("zero_weight", 0), ("non_zero_weight_1", 1), ("non_zero_weight_2", 2)] :
          List (String × Weight)).map (·.2)).sum →
        ∃ committee, weighted_random.select_authorities counterRng [("zero_weight", 0),
          ("non_zero_weight_1", 1), ("non_zero_weight_2", 2)]
            ⟨List.replicate 32 0, List.length_replicate⟩ 1 = some (some committee)) ∧
      ∀ committee, weighted_random.select_authorities counterRng [("zero_weight", 0),
          ("non_zero_weight_1", 1), ("non_zero_weight_2", 2)]
            ⟨List.replicate 32 0, List.length_replicate⟩ 1 = some (some committee) →
        committee.length = (1 : UInt16).toNat ∧
          ∀ c ∈ committee, ∃ weight, 0 < weight ∧ (c, weight) ∈
            ([("zero_weight", 0), ("non_zero_weight_1", 1), ("non_zero_weight_2", 2)] :
              List (String × Weight))) :=
  ⟨counterRng_rangeSound, by decide,
    weighted_random.weighted_random_selection_total_and_sound counterRng counterRng_rangeSound
      _ _ 1 (by decide)⟩

/-- The pools of the source's test of guaranteed places, five registered and three
permissioned seats: a committee of eight in which `R1`, of twice the stake of the others, holds
at least two seats, and `R2` and `P1` at least one. -/
theorem select_authorities_guaranteed_places_test :
    counterRng.RangeSound ∧ 0 < (5 : UInt16).toNat + (3 : UInt16).toNat ∧
      (5 : UInt16).toNat + (3 : UInt16).toNat < 2 ^ 16 ∧
      (∀ cw ∈ ([("R1", 9223372036854775807 * 2), ("R2", 9223372036854775807),
        ("R3", 9223372036854775807)] : List (String × Weight)), 0 < cw.2) ∧
      (([("R1", 9223372036854775807 * 2), ("R2", 9223372036854775807),
        ("R3", 9223372036854775807)] : List (String × Weight)) ≠ [] ∨ ["P1", "P2"] ≠ []) ∧
      (([("R1", 9223372036854775807 * 2), ("R2", 9223372036854775807),
        ("R3", 9223372036854775807)] : List (String × Weight)).map (·.2)).sum *
          ((5 : UInt16).toNat + (3 : UInt16).toNat) < 2 ^ 128 ∧
      ["P1", "P2"].length * ((5 : UInt16).toNat + (3 : UInt16).toNat) < 2 ^ 128 ∧
      ∃ committee, ariadne_v2.select_authorities counterRng 5 3
          [("R1", 9223372036854775807 * 2), ("R2", 9223372036854775807),
            ("R3", 9223372036854775807)] ["P1", "P2"]
          ⟨List.replicate 32 0, List.length_replicate⟩ = some (some committee) ∧
        committee.length = 8 ∧ 2 ≤ committee.count "R1" ∧ 1 ≤ committee.count "R2" ∧
        1 ≤ committee.count "P1" := by
  obtain ⟨committee, hselect, hlen, -, -, hregistered, hpermissioned⟩ :=
    ariadne_v2.select_authorities_allocates_seats counterRng counterRng_rangeSound 5 3
      [("R1", 9223372036854775807 * 2), ("R2", 9223372036854775807),
        ("R3", 9223372036854775807)] ["P1", "P2"] ⟨List.replicate 32 0, List.length_replicate⟩
      (by decide) (by decide) (by decide) (by decide) (by decide) (by decide)
  refine ⟨counterRng_rangeSound, by decide, by decide, by decide, by decide, by decide, by decide,
    committee, hselect, hlen, ?_, ?_, ?_⟩
  · exact le_trans (by decide) (hregistered ("R1", 9223372036854775807 * 2) (by simp))
  · exact le_trans (by decide) (hregistered ("R2", 9223372036854775807) (by simp))
  · exact le_trans (by decide) (hpermissioned "P1" (by simp))

/-- The D-parameter of 65535 registered and one permissioned seat. With one permissioned
candidate and no registered one the committee is empty; with a registered candidate as well it
has 65536 members. -/
theorem select_authorities_seats_total_wraps :
    counterRng.RangeSound ∧ (65535 : UInt16).toNat + (1 : UInt16).toNat = 2 ^ 16 ∧
      ariadne_v2.select_authorities counterRng 65535 1 ([] : List (String × Weight))
        ["permissioned"] ⟨List.replicate 32 0, List.length_replicate⟩ = some (some []) ∧
      ∃ committee, ariadne_v2.select_authorities counterRng 65535 1 [("registered", 1)]
          ["permissioned"] ⟨List.replicate 32 0, List.length_replicate⟩ = some (some committee) ∧
        committee.length = 2 ^ 16 := by
  have hwrap : (65535 : UInt16).toNat + (1 : UInt16).toNat = 2 ^ 16 := by decide
  obtain ⟨hempty, hboth⟩ := ariadne_v2.select_authorities_seats_total_wrap (T := String)
    counterRng counterRng_rangeSound 65535 1 hwrap ⟨List.replicate 32 0, List.length_replicate⟩
  exact ⟨counterRng_rangeSound, hwrap, hempty [] ["permissioned"] (.inl rfl),
    hboth [("registered", 1)] ["permissioned"] (by simp) (by simp) (by simp) (by decide)
      (by decide)⟩

example : weighted_random.select_authorities counterRng [("zero_weight", 0),
    ("non_zero_weight_1", 1), ("non_zero_weight_2", 2)]
      ⟨List.replicate 32 0, List.length_replicate⟩ 1 = some (some ["non_zero_weight_1"]) := by
  rfl

end selection
