-- Binary search over a range of indices: the loop `while left <= right`
-- that compares the key at the midpoint with the target and keeps the half
-- that can still hold it. Over keys that do not decrease on the range, it
-- finds an index of the target exactly when the range has one; a range of
-- fewer than `2 ^ fuel` indices needs at most `fuel` rounds, each round at
-- least halving it. The range starts at index 1 or later, so that the
-- midpoint minus one is exact.
import Mathlib

set_option autoImplicit false

namespace partner_chains.binary_search

variable {α : Type} [LinearOrder α] (key : Nat → α) (target : α)

/-- At most `fuel` rounds of the search among the indices `left ..= right`: `some (some i)` for an
index of the target, `some none` when the range runs out, `none` when the fuel does. -/
def search : Nat → Nat → Nat → Option (Option Nat)
  | 0, left, right => if left ≤ right then none else some none
  | fuel + 1, left, right =>
    if left ≤ right then
      let middle := (left + right) / 2
      match compare (key middle) target with
      | .lt => search fuel (middle + 1) right
      | .gt => search fuel left (middle - 1)
      | .eq => some (some middle)
    else some none

/-- What the search gives: an index of the range holding the target, or, when none does, the end
of the range. -/
def Found (left right : Nat) : Option Nat → Prop
  | some i => left ≤ i ∧ i ≤ right ∧ key i = target
  | none => ∀ i, left ≤ i → i ≤ right → key i ≠ target

variable {key target}

/-- Below a midpoint whose key is short of the target, no key reaches it. -/
theorem ne_of_le_of_key_lt {left right middle : Nat}
    (hmono : MonotoneOn key (Set.Icc left right)) (hm : middle ≤ right)
    (hlt : key middle < target) {i : Nat} (hi : left ≤ i) (him : i ≤ middle) : key i ≠ target :=
  fun heq => absurd (heq ▸ hmono ⟨hi, him.trans hm⟩ ⟨hi.trans him, hm⟩ him) (not_le.mpr hlt)

/-- Above a midpoint whose key passes the target, no key is back at it. -/
theorem ne_of_ge_of_key_gt {left right middle : Nat}
    (hmono : MonotoneOn key (Set.Icc left right)) (hm : left ≤ middle)
    (hgt : target < key middle) {i : Nat} (hmi : middle ≤ i) (hi : i ≤ right) : key i ≠ target :=
  fun heq => absurd (heq ▸ hmono ⟨hm, hmi.trans hi⟩ ⟨hm.trans hmi, hi⟩ hmi) (not_le.mpr hgt)

/-- The search is right, and needs no more than `fuel` rounds on a range of fewer than `2 ^ fuel`
indices from 1 on, where the keys do not decrease. The induction is on the fuel; each round keeps
a half of at most half the length, where the target must be if it is in the range. -/
theorem search_found :
    ∀ (fuel left right : Nat), 1 ≤ left → MonotoneOn key (Set.Icc left right) →
      right + 1 - left < 2 ^ fuel →
      ∃ r, search key target fuel left right = some r ∧ Found key target left right r
  | 0, left, right, _, _, hfuel => by
    have hlt : right < left := by simp at hfuel; omega
    refine ⟨none, by simp [search, not_le.mpr hlt], fun i hi hir => absurd (hi.trans hir) ?_⟩
    exact not_le.mpr hlt
  | fuel + 1, left, right, hl, hmono, hfuel => by
    by_cases hle : left ≤ right
    · have hpow : 2 ^ (fuel + 1) = 2 * 2 ^ fuel := by ring
      have hml : left ≤ (left + right) / 2 := by omega
      have hmr : (left + right) / 2 ≤ right := by omega
      cases hcmp : compare (key ((left + right) / 2)) target with
      | lt =>
        -- the target is above the midpoint, if anywhere
        have hlt := compare_lt_iff_lt.mp hcmp
        obtain ⟨r, hr, hfound⟩ := search_found fuel ((left + right) / 2 + 1) right (by omega)
          (hmono.mono (Set.Icc_subset_Icc (by omega) le_rfl)) (by omega)
        refine ⟨r, by simp [search, hle, hcmp, hr], ?_⟩
        cases r with
        | some i => exact ⟨by have := hfound.1; omega, hfound.2.1, hfound.2.2⟩
        | none =>
          intro i hi hir
          by_cases him : i ≤ (left + right) / 2
          · exact ne_of_le_of_key_lt hmono hmr hlt hi him
          · exact hfound i (by omega) hir
      | gt =>
        -- the target is below the midpoint, if anywhere
        have hgt := compare_gt_iff_gt.mp hcmp
        obtain ⟨r, hr, hfound⟩ := search_found fuel left ((left + right) / 2 - 1) hl
          (hmono.mono (Set.Icc_subset_Icc le_rfl (by omega))) (by omega)
        refine ⟨r, by simp [search, hle, hcmp, hr], ?_⟩
        cases r with
        | some i => exact ⟨hfound.1, by have := hfound.2.1; omega, hfound.2.2⟩
        | none =>
          intro i hi hir
          by_cases hmi : (left + right) / 2 ≤ i
          · exact ne_of_ge_of_key_gt hmono hml hgt hmi hir
          · exact hfound i hi (by omega)
      | eq =>
        exact ⟨some ((left + right) / 2), by simp [search, hle, hcmp],
          hml, hmr, compare_eq_iff_eq.mp hcmp⟩
    · exact ⟨none, by simp [search, hle], fun i hi hir => absurd (hi.trans hir) hle⟩

end partner_chains.binary_search
