-- `slice::partition_point` of Rust's core library, as `binary_search_by`
-- computes it: a loop whose iteration count depends only on the length,
-- halving `size` and moving `base` up to the middle when the predicate holds
-- there. On a slice where the predicate holds on a prefix only, the result is
-- the length of that prefix.
import Mathlib

namespace partner_chains.partition_point

variable {α : Type} (p : α → Bool)

/-- The `while size > 1` loop of `binary_search_by`, with `if p x { Less } else { Greater }`
as the comparison; `fuel` bounds the iterations. Returns the final `base`. -/
def searchLoop (l : List α) : Nat → Nat → Nat → Nat
  | 0, base, _ => base
  | fuel + 1, base, size =>
    if size > 1 then
      let half := size / 2
      let mid := base + half
      let base := if (l[mid]?).any p then mid else base
      searchLoop l fuel base (size - half)
    else base

/-- `slice::partition_point`: `binary_search_by(..).unwrap_or_else(|i| i)`. The comparison never
answers `Equal`, so the result is `base`, plus one when the predicate holds at `base`. -/
def partitionPoint (l : List α) : Nat :=
  if l.length = 0 then 0
  else
    let base := searchLoop p l l.length 0 l.length
    base + if (l[base]?).any p then 1 else 0

/-- The predicate holds on a prefix of the list and nowhere after it. -/
def Partitioned (l : List α) : Prop := l.Pairwise fun a b => p b = true → p a = true

variable {p}

/-- On a partitioned list the predicate holds exactly below the length of the prefix. -/
theorem any_getElem?_eq {l : List α} (h : Partitioned p l) (i : Nat) :
    (l[i]?).any p = decide (i < (l.takeWhile p).length) := by
  induction l generalizing i with
  | nil => simp
  | cons a l ih =>
    rw [Partitioned, List.pairwise_cons] at h
    obtain ⟨hhead, htail⟩ := h
    cases hpa : p a with
    | true =>
      cases i with
      | zero => simp [hpa]
      | succ j => simp [hpa, ih htail j]
    | false =>
      cases i with
      | zero => simp [hpa]
      | succ j =>
        -- nothing after a failing head satisfies the predicate
        cases hj : l[j]? with
        | none => simp [hpa, hj]
        | some b =>
          have hpb : p b = false := by
            cases hb : p b with
            | false => rfl
            | true => rw [hhead b (List.mem_of_getElem? hj) hb] at hpa; cases hpa
          simp [hpa, hj, hpb]

/-- The loop keeps the partition point `k` within `[base, base + size]`; it ends with
`size = 1`. -/
theorem searchLoop_bounds (l : List α) (k : Nat)
    (hk : ∀ i, (l[i]?).any p = decide (i < k)) :
    ∀ fuel base size, 1 ≤ size → size ≤ fuel + 1 → base ≤ k → k ≤ base + size →
      searchLoop p l fuel base size ≤ k ∧ k ≤ searchLoop p l fuel base size + 1
  | 0, base, size, hsize, hfuel, hlo, hhi => by
    rw [searchLoop]
    omega
  | fuel + 1, base, size, hsize, hfuel, hlo, hhi => by
    rw [searchLoop]
    split
    · rename_i hgt
      have hhalf : 1 ≤ size / 2 ∧ size / 2 ≤ size - size / 2 := by omega
      -- the middle is below `k` exactly when the predicate holds there
      by_cases hmid : base + size / 2 < k
      · have hany : (l[base + size / 2]?).any p = true := by rw [hk]; simpa using hmid
        simp only [hany, if_true]
        exact searchLoop_bounds l k hk fuel _ _ (by omega) (by omega) (by omega) (by omega)
      · have hany : (l[base + size / 2]?).any p = false := by rw [hk]; simpa using hmid
        simp only [hany, Bool.false_eq_true, if_false]
        exact searchLoop_bounds l k hk fuel _ _ (by omega) (by omega) hlo (by omega)
    · omega

/-- On a partitioned list, `partition_point` is the length of the prefix where the predicate
holds. -/
theorem partitionPoint_eq {l : List α} (h : Partitioned p l) :
    partitionPoint p l = (l.takeWhile p).length := by
  have hk := any_getElem?_eq h
  have hle : (l.takeWhile p).length ≤ l.length := (List.takeWhile_sublist p).length_le
  unfold partitionPoint
  split
  · rename_i hlen
    omega
  · rename_i hlen
    obtain ⟨hlo, hhi⟩ := searchLoop_bounds l _ hk l.length 0 l.length (by omega) (by omega)
      (Nat.zero_le _) (by omega)
    simp only [hk]
    split <;> rename_i hb <;> simp only [decide_eq_true_eq] at hb <;> omega

/-- Sorted by a key, the entries at or below a bound form a prefix. -/
theorem partitioned_of_sorted {β : Type} [LinearOrder β] (key : α → β) (bound : β) {l : List α}
    (h : l.Pairwise fun a b => key a ≤ key b) :
    Partitioned (fun a => decide (key a ≤ bound)) l :=
  h.imp fun hab hb => by
    simp only [decide_eq_true_eq] at hb ⊢
    exact le_trans hab hb

end partner_chains.partition_point
