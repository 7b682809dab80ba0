-- Orders on lists: sorting by a key into a linear order gives one result
-- for all permutations of the input, and `max_by_key` of Rust's iterators
-- (the last element of greatest key) does too when no two keys are equal.
-- On a list sorted by strictly increasing keys, the elements of a set that
-- is closed upward (or downward) in key order form a suffix (or a prefix),
-- so `skip_while` and `take_while` select them as a filter does. A filter
-- commutes with a stable sort and with dropping repeated elements. The
-- changes of a sequence, its adjacent entries that differ, are the adjacent
-- pairs of the sequence with its repeats dropped (Mathlib's `destutter'`).
import Mathlib

namespace partner_chains.list_order

variable {α β : Type}

/-! ## Sorting -/

section sort

variable [LinearOrder β] (key : α → β)

/-- The comparison of a sort by `key`. -/
def keyLE (a b : α) : Bool := decide (key a ≤ key b)

theorem pairwise_mergeSort_keyLE (l : List α) :
    (l.mergeSort (keyLE key)).Pairwise fun a b => keyLE key a b = true :=
  List.pairwise_mergeSort
    (fun a b c hab hbc => by simp only [keyLE, decide_eq_true_eq] at *; exact hab.trans hbc)
    (fun a b => by simp only [keyLE, Bool.or_eq_true, decide_eq_true_eq]; exact le_total _ _) l

/-- A sort by an injective key does not see the order of its input. -/
theorem mergeSort_eq_of_perm (hkey : Function.Injective key) {l l' : List α}
    (h : l.Perm l') : l.mergeSort (keyLE key) = l'.mergeSort (keyLE key) := by
  have hperm : (l.mergeSort (keyLE key)).Perm (l'.mergeSort (keyLE key)) :=
    ((List.mergeSort_perm l _).trans h).trans (List.mergeSort_perm l' _).symm
  refine hperm.eq_of_pairwise (fun a b _ _ hab hba => hkey ?_)
    (pairwise_mergeSort_keyLE key l) (pairwise_mergeSort_keyLE key l')
  simp only [keyLE, decide_eq_true_eq] at hab hba
  exact le_antisymm hab hba

/-- Inserting into a list sorted by `key` and then filtering: the element goes where it goes in
the filtered list. -/
theorem filter_orderedInsert (p : α → Bool) (a : α) :
    ∀ {l : List α}, l.Pairwise (fun x y => key x ≤ key y) →
      (l.orderedInsert (fun x y => key x ≤ key y) a).filter p =
        if p a then (l.filter p).orderedInsert (fun x y => key x ≤ key y) a else l.filter p
  | [], _ => by cases hp : p a <;> simp [hp]
  | b :: l, h => by
    rw [List.pairwise_cons] at h
    by_cases hab : key a ≤ key b
    · -- `a` goes first, and stays before every element that the filter keeps
      have hfirst : ∀ c ∈ (b :: l).filter p, key a ≤ key c := by
        intro c hc
        rcases List.mem_cons.mp (List.mem_of_mem_filter hc) with rfl | hc
        · exact hab
        · exact hab.trans (h.1 c hc)
      rw [List.orderedInsert_cons, if_pos hab]
      cases hp : p a with
      | false => simp [List.filter_cons, hp]
      | true =>
        cases hl : (b :: l).filter p with
        | nil => simp [hp, hl]
        | cons c cs =>
          have hc := hfirst c (hl ▸ List.mem_cons_self)
          rw [List.filter_cons_of_pos hp, hl, if_pos rfl, List.orderedInsert_cons, if_pos hc]
    · -- `a` goes after `b`
      rw [List.orderedInsert_cons, if_neg hab, List.filter_cons, filter_orderedInsert p a h.2]
      cases hb : p b with
      | false => simp [hb]
      | true => cases p a <;> simp [hb, hab]

/-- Filtering a list sorted by `key` (a stable sort) is sorting the filtered list. -/
theorem filter_insertionSort (p : α → Bool) :
    ∀ l : List α, (l.insertionSort fun x y => key x ≤ key y).filter p =
      (l.filter p).insertionSort fun x y => key x ≤ key y
  | [] => rfl
  | a :: l => by
    have : Std.Total fun x y : α => key x ≤ key y := ⟨fun x y => le_total _ _⟩
    have : IsTrans α fun x y : α => key x ≤ key y := ⟨fun _ _ _ hxy hyz => hxy.trans hyz⟩
    rw [List.insertionSort_cons, filter_orderedInsert key p a (List.pairwise_insertionSort _ l),
      filter_insertionSort p l]
    cases hp : p a <;> simp [hp]

end sort

/-- Dropping repeated elements and filtering, in either order. -/
theorem filter_dedup [DecidableEq α] (p : α → Bool) :
    ∀ l : List α, l.dedup.filter p = (l.filter p).dedup
  | [] => rfl
  | a :: l => by
    by_cases hmem : a ∈ l
    · -- `a` is dropped here and kept later, where the filter sees it too
      rw [List.dedup_cons_of_mem hmem, filter_dedup p l]
      cases hp : p a with
      | false => rw [List.filter_cons_of_neg (by simp [hp])]
      | true =>
        rw [List.filter_cons_of_pos hp, List.dedup_cons_of_mem (List.mem_filter.mpr ⟨hmem, hp⟩)]
    · have hmem' : a ∉ l.filter p := fun h => hmem (List.mem_of_mem_filter h)
      rw [List.dedup_cons_of_notMem hmem, List.filter_cons, filter_dedup p l]
      cases hp : p a with
      | false => rw [if_neg (by simp), List.filter_cons_of_neg (by simp [hp])]
      | true => rw [if_pos rfl, List.filter_cons_of_pos hp, List.dedup_cons_of_notMem hmem']

/-! ## `max_by_key` -/

section maxByKey

variable [LinearOrder β] (key : α → β)

/-- `Iterator::max_by_key`: `reduce` with `cmp::max_by`, which keeps the later of two elements
unless the earlier has the greater key. -/
def maxByKey : List α → Option α
  | [] => none
  | a :: l => some (l.foldl (fun x y => if key y < key x then x else y) a)

@[simp] theorem maxByKey_nil : maxByKey key ([] : List α) = none := rfl

theorem maxByKey_eq_none_iff (l : List α) : maxByKey key l = none ↔ l = [] := by
  cases l <;> simp [maxByKey]

/-- The fold keeps an element of the list whose key no element exceeds. -/
theorem foldl_max_spec (a : α) (l : List α) :
    l.foldl (fun x y => if key y < key x then x else y) a ∈ a :: l ∧
      ∀ y ∈ a :: l, key y ≤ key (l.foldl (fun x y => if key y < key x then x else y) a) := by
  induction l generalizing a with
  | nil => simp
  | cons b l ih =>
    rw [List.foldl_cons]
    obtain ⟨hmem, hmax⟩ := ih (if key b < key a then a else b)
    have hsel : ∀ y ∈ [a, b], key y ≤ key (if key b < key a then a else b) := by
      intro y hy
      simp only [List.mem_cons, List.not_mem_nil, or_false] at hy
      split
      · rcases hy with rfl | rfl
        · exact le_rfl
        · exact le_of_lt ‹_›
      · rcases hy with rfl | rfl
        · exact not_lt.mp ‹_›
        · exact le_rfl
    refine ⟨?_, fun y hy => ?_⟩
    · rcases List.mem_cons.mp hmem with h | h
      · rw [h]; split <;> simp
      · exact List.mem_cons_of_mem _ (List.mem_cons_of_mem _ h)
    · rcases List.mem_cons.mp hy with rfl | hy
      · exact (hsel y (by simp)).trans (hmax _ List.mem_cons_self)
      rcases List.mem_cons.mp hy with rfl | hy
      · exact (hsel y (by simp)).trans (hmax _ List.mem_cons_self)
      · exact hmax y (List.mem_cons_of_mem _ hy)

theorem maxByKey_spec {l : List α} {x : α} (h : maxByKey key l = some x) :
    x ∈ l ∧ ∀ y ∈ l, key y ≤ key x := by
  cases l with
  | nil => cases h
  | cons a l =>
    rw [maxByKey, Option.some.injEq] at h
    subst h
    exact foldl_max_spec key a l

/-- With pairwise distinct keys the greatest element is unique, so `max_by_key` does not see
the order of its input. -/
theorem maxByKey_eq_of_perm {l l' : List α} (h : l.Perm l') (hkey : (l.map key).Nodup) :
    maxByKey key l = maxByKey key l' := by
  cases hx : maxByKey key l with
  | none =>
    rw [maxByKey_eq_none_iff] at hx
    subst hx
    rw [List.nil_perm.mp h]; rfl
  | some x =>
    cases hx' : maxByKey key l' with
    | none =>
      rw [maxByKey_eq_none_iff] at hx'
      subst hx'
      rw [List.perm_nil.mp h] at hx; cases hx
    | some x' =>
      obtain ⟨hxl, hxmax⟩ := maxByKey_spec key hx
      obtain ⟨hxl', hxmax'⟩ := maxByKey_spec key hx'
      have hx'l : x' ∈ l := h.symm.subset hxl'
      have hkeq : key x = key x' :=
        le_antisymm (hxmax' x (h.subset hxl)) (hxmax x' hx'l)
      rw [List.inj_on_of_nodup_map hkey hxl hx'l hkeq]

end maxByKey

/-! ## Strictly sorted lists -/

section strict

variable [LinearOrder β] (key : α → β)

/-- The keys increase strictly along the list. -/
def StrictlySorted (l : List α) : Prop := l.Pairwise fun a b => key a < key b

variable {key}

theorem StrictlySorted.nodup {l : List α} (h : StrictlySorted key l) : l.Nodup :=
  h.imp fun {a b} hab (heq : a = b) => lt_irrefl (key b) (heq ▸ hab)

theorem StrictlySorted.filter {l : List α} (h : StrictlySorted key l) (p : α → Bool) :
    StrictlySorted key (l.filter p) :=
  List.Pairwise.filter p h

theorem StrictlySorted.take {l : List α} (h : StrictlySorted key l) (n : Nat) :
    StrictlySorted key (l.take n) :=
  List.Pairwise.sublist (List.take_sublist n l) h

/-- Two lists sorted by strictly increasing keys with the same elements are equal. -/
theorem eq_of_strictlySorted {l l' : List α} (hl : StrictlySorted key l)
    (hl' : StrictlySorted key l') (h : ∀ x, x ∈ l ↔ x ∈ l') : l = l' := by
  have hperm : l.Perm l' := (List.perm_ext_iff_of_nodup hl.nodup hl'.nodup).mpr h
  exact hperm.eq_of_pairwise (fun a b _ _ hab hba => absurd (hab.trans hba) (lt_irrefl _)) hl hl'

/-- A sort by a key that no two elements share sorts strictly. -/
theorem strictlySorted_mergeSort {l : List α} (hkeys : (l.map key).Nodup) :
    StrictlySorted key (l.mergeSort (keyLE key)) := by
  have hne : (l.mergeSort (keyLE key)).Pairwise fun a b => key a ≠ key b :=
    List.pairwise_map.mp (((List.mergeSort_perm l _).map key).nodup_iff.mpr hkeys)
  refine ((pairwise_mergeSort_keyLE key l).and hne).imp fun ⟨hle, hne⟩ => ?_
  simp only [keyLE, decide_eq_true_eq] at hle
  exact lt_of_le_of_ne hle hne

/-- Filtering commutes with a sort by distinct keys. -/
theorem filter_mergeSort {l : List α} (hkeys : (l.map key).Nodup) (p : α → Bool) :
    (l.mergeSort (keyLE key)).filter p = (l.filter p).mergeSort (keyLE key) := by
  have hkeys' : ((l.filter p).map key).Nodup :=
    List.Nodup.sublist ((List.filter_sublist (p := p) (l := l)).map key) hkeys
  refine eq_of_strictlySorted ((strictlySorted_mergeSort hkeys).filter p)
    (strictlySorted_mergeSort hkeys') fun x => ?_
  simp [List.mem_filter, List.mem_mergeSort]

/-- A prefix of a strictly sorted list is the elements with a key up to its last one. -/
theorem take_eq_filter_le_last {l : List α} (h : StrictlySorted key l) {n : Nat} {x : α}
    (hx : (l.take n).getLast? = some x) :
    l.take n = l.filter fun a => decide (key a ≤ key x) := by
  have hsplit : StrictlySorted key (l.take n ++ l.drop n) := by rwa [List.take_append_drop]
  rw [StrictlySorted, List.pairwise_append] at hsplit
  have hmem : x ∈ l.take n := List.mem_of_getLast? hx
  -- the prefix ends with `x`, so every element of it is at most `x`
  have hle : ∀ a ∈ l.take n, decide (key a ≤ key x) = true := by
    have hinit := h.take n
    rw [← List.dropLast_append_getLast? x hx, StrictlySorted, List.pairwise_append] at hinit
    intro a ha
    rw [← List.dropLast_append_getLast? x hx, List.mem_append, List.mem_singleton] at ha
    rcases ha with ha | rfl
    · exact decide_eq_true (le_of_lt (hinit.2.2 a ha x (List.mem_singleton_self x)))
    · exact decide_eq_true le_rfl
  -- and every element after it is above `x`
  have hgt : ∀ b ∈ l.drop n, ¬decide (key b ≤ key x) = true := fun b hb hbx =>
    absurd (of_decide_eq_true hbx) (not_le_of_gt (hsplit.2.2 x hmem b hb))
  calc l.take n = (l.take n).filter fun a => decide (key a ≤ key x) :=
        (List.filter_eq_self.mpr hle).symm
    _ = (l.take n).filter (fun a => decide (key a ≤ key x)) ++
          (l.drop n).filter fun a => decide (key a ≤ key x) := by
        rw [List.filter_eq_nil_iff.mpr hgt, List.append_nil]
    _ = l.filter fun a => decide (key a ≤ key x) := by
        rw [← List.filter_append, List.take_append_drop]

end strict

/-! ## Prefixes and suffixes selected by a predicate -/

section whiles

variable {p q : α → Bool}

/-- Where a predicate, once it holds, holds for the rest of the list, skipping the elements
where it fails is filtering. -/
theorem dropWhile_not_eq_filter :
    ∀ {l : List α}, l.Pairwise (fun a b => p a → p b) →
      l.dropWhile (fun a => !p a) = l.filter p
  | [], _ => rfl
  | a :: l, h => by
    rw [List.pairwise_cons] at h
    by_cases ha : p a
    · -- the rest of the list satisfies `p`
      have hall : l.filter p = l := List.filter_eq_self.mpr fun b hb => h.1 b hb ha
      simp [ha, hall]
    · simp [ha, dropWhile_not_eq_filter h.2]

/-- Where a predicate, once it fails, fails for the rest of the list, taking the elements
while it holds is filtering. -/
theorem takeWhile_eq_filter :
    ∀ {l : List α}, l.Pairwise (fun a b => p b → p a) → l.takeWhile p = l.filter p
  | [], _ => rfl
  | a :: l, h => by
    rw [List.pairwise_cons] at h
    by_cases ha : p a
    · simp [ha, takeWhile_eq_filter h.2]
    · -- nothing after a failing element satisfies `p`
      have hnone : l.filter p = [] :=
        List.filter_eq_nil_iff.mpr fun b hb hpb => ha (h.1 b hb hpb)
      simp [ha, hnone]

/-- Where no element of `q` comes before an element of `p`, the elements of either are those
of `p` followed by those of `q`. -/
theorem filter_or_eq_append :
    ∀ {l : List α}, l.Pairwise (fun a b => q a → p b → False) → (∀ a ∈ l, p a → q a → False) →
      l.filter (fun a => p a || q a) = l.filter p ++ l.filter q
  | [], _, _ => rfl
  | a :: l, h, hdisj => by
    rw [List.pairwise_cons] at h
    have ih := filter_or_eq_append h.2 fun b hb => hdisj b (List.mem_cons_of_mem a hb)
    by_cases hpa : p a
    · have hqa : q a = false := by
        cases hq : q a
        · rfl
        · exact absurd (hdisj a List.mem_cons_self hpa hq) id
      simp [hpa, hqa, ih]
    · by_cases hqa : q a
      · -- after an element of `q` there is none of `p`
        have hnone : l.filter p = [] :=
          List.filter_eq_nil_iff.mpr fun b hb hpb => h.1 b hb hqa hpb
        simp [hpa, hqa, ih, hnone]
      · simp [hpa, hqa, ih]

/-- Segments between upward closed sets: on a strictly sorted list, the elements in `A` and not
in `B`, followed by those in `B` and not in `C`, are those in `A` and not in `C`, where
`C ⊆ B ⊆ A` and `B` is closed upward in the order of the keys. -/
theorem filter_diff_append [LinearOrder β] {key : α → β} {l : List α}
    (h : StrictlySorted key l) {A B C : α → Bool} (hup : ∀ a b, key a < key b → B a → B b)
    (hBA : ∀ a, B a → A a) (hCB : ∀ a, C a → B a) :
    l.filter (fun a => A a && !B a) ++ l.filter (fun a => B a && !C a) =
      l.filter fun a => A a && !C a := by
  have hpair : l.Pairwise fun a b => (B a && !C a) → (A b && !B b) → False :=
    h.imp fun {a b} hab hqa hpb => by
      simp only [Bool.and_eq_true, Bool.not_eq_true'] at hqa hpb
      simp [hup a b hab hqa.1] at hpb
  have hdisj : ∀ a ∈ l, (A a && !B a) → (B a && !C a) → False := fun a _ hpa hqa => by
    simp only [Bool.and_eq_true, Bool.not_eq_true'] at hpa hqa
    simp [hqa.1] at hpa
  rw [← filter_or_eq_append hpair hdisj]
  refine List.filter_congr fun a _ => ?_
  have hba := hBA a
  have hcb := hCB a
  revert hba hcb
  cases A a <;> cases B a <;> cases C a <;> simp

end whiles

/-! ## Keys through `filterMap` -/

/-- Dropping elements keeps the keys distinct. -/
theorem nodup_map_filterMap {γ : Type} (f : α → Option γ) (key : α → β) (key' : γ → β)
    {l : List α}
    (hf : ∀ a c, f a = some c → key' c = key a) (h : (l.map key).Nodup) :
    ((l.filterMap f).map key').Nodup := by
  induction l with
  | nil => simp
  | cons a l ih =>
    rw [List.map_cons, List.nodup_cons] at h
    rw [List.filterMap_cons]
    cases hfa : f a with
    | none => exact ih h.2
    | some c =>
      rw [List.map_cons, List.nodup_cons, hf a c hfa]
      refine ⟨fun hmem => h.1 ?_, ih h.2⟩
      obtain ⟨c', hc', hkc'⟩ := List.mem_map.mp hmem
      obtain ⟨a', ha', hfa'⟩ := List.mem_filterMap.mp hc'
      rw [← hkc', hf a' c' hfa']
      exact List.mem_map_of_mem ha'

/-! ## The changes of a sequence -/

section changes

/-- Dropping repeats keeps the first entry in front. -/
theorem exists_destutter'_eq_cons (R : α → α → Prop) [DecidableRel R] :
    ∀ (a : α) (l : List α), ∃ t, l.destutter' R a = a :: t
  | a, [] => ⟨[], List.destutter'_nil R⟩
  | a, b :: l => by
    by_cases h : R a b
    · exact ⟨l.destutter' R b, List.destutter'_cons_pos l h⟩
    · rw [List.destutter'_cons_neg l h]
      exact exists_destutter'_eq_cons R a l

variable [DecidableEq α]

/-- The changes of the sequence `a :: l`: the pairs of adjacent entries that differ, in order.
They are the adjacent pairs of `l.destutter' (· ≠ ·) a`, the sequence with its repeats dropped. -/
def changes (a : α) (l : List α) : List (α × α) :=
  (l.destutter' (· ≠ ·) a).zip (l.destutter' (· ≠ ·) a).tail

@[simp] theorem changes_nil (a : α) : changes a [] = [] := rfl

theorem changes_cons_of_ne {a b : α} (h : a ≠ b) (l : List α) :
    changes a (b :: l) = (a, b) :: changes b l := by
  obtain ⟨t, ht⟩ := exists_destutter'_eq_cons (· ≠ ·) b l
  simp [changes, List.destutter'_cons_pos l h, ht]

@[simp] theorem changes_cons_self (a : α) (l : List α) : changes a (a :: l) = changes a l := by
  simp [changes]

/-- The changes of a longer sequence: the change to its second entry, if any, then the rest. -/
theorem changes_cons (a b : α) (l : List α) :
    changes a (b :: l) = changes a [b] ++ changes b l := by
  by_cases h : a = b
  · subst h
    simp
  · rw [changes_cons_of_ne h, changes_cons_of_ne h, changes_nil, List.singleton_append]

/-- Each change is between adjacent entries: related, where the sequence is a chain of the
relation, and different. -/
theorem rel_of_mem_changes {r : α → α → Prop} :
    ∀ {a : α} {l : List α}, (a :: l).IsChain r → ∀ p ∈ changes a l, r p.1 p.2 ∧ p.1 ≠ p.2
  | _, [], _, p, hp => by simp at hp
  | a, b :: l, hchain, p, hp => by
    rw [List.isChain_cons_cons] at hchain
    by_cases h : a = b
    · subst h
      rw [changes_cons_self] at hp
      exact rel_of_mem_changes hchain.2 p hp
    · rw [changes_cons_of_ne h, List.mem_cons] at hp
      rcases hp with rfl | hp
      · exact ⟨hchain.1, h⟩
      · exact rel_of_mem_changes hchain.2 p hp

end changes

end partner_chains.list_order
