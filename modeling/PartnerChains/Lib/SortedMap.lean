-- Maps as `BTreeMap` keeps them: the entries in increasing order of their
-- keys, no key twice. A map is its list of entries, so two maps with the
-- same lookups are equal, and a loop over a map visits the keys in order.
-- Changes to a map are key-value pairs applied in order, a value writing
-- the key and `none` removing it; the last write to a key wins.
import Mathlib
import PartnerChains.Lib.ListOrder

set_option autoImplicit false

namespace partner_chains.sorted_map

open partner_chains.list_order

/-! ## Lookups in lists of entries -/

section lists

variable {α β : Type}

/-- No key occurs twice. -/
def KeysNodup (l : List (α × β)) : Prop := l.Pairwise fun a b => a.1 ≠ b.1

theorem KeysNodup.reverse {l : List (α × β)} (h : KeysNodup l) : KeysNodup l.reverse :=
  List.pairwise_reverse.mpr (h.imp fun hab heq => hab heq.symm)

theorem KeysNodup.filter {l : List (α × β)} (h : KeysNodup l) (p : α × β → Bool) :
    KeysNodup (l.filter p) :=
  List.Pairwise.filter p h

theorem KeysNodup.perm {l l' : List (α × β)} (h : KeysNodup l) (hp : l.Perm l') : KeysNodup l' :=
  hp.pairwise h fun hab heq => hab heq.symm

/-- Entries with a new key after them keep no key twice. -/
theorem KeysNodup.append_singleton {l : List (α × β)} (h : KeysNodup l) {k : α} (v : β)
    (hk : ∀ e ∈ l, e.1 ≠ k) : KeysNodup (l ++ [(k, v)]) :=
  List.pairwise_append.mpr ⟨h, List.pairwise_singleton _ _, fun a ha b hb => by
    rw [List.mem_singleton] at hb
    subst hb
    exact hk a ha⟩

theorem KeysNodup.map_filter {l : List (α × β)} (h : KeysNodup l) (p : α × β → Bool)
    {γ : Type} (f : α × β → γ) : KeysNodup ((l.filter p).map fun e => (e.1, f e)) :=
  List.pairwise_map.mpr (h.filter p)

variable [DecidableEq α]

theorem lookup_cons_eq (k k' : α) (v : β) (l : List (α × β)) :
    ((k', v) :: l).lookup k = if k = k' then some v else l.lookup k := by
  by_cases h : k = k'
  · subst h
    simp
  · rw [List.lookup_cons, beq_false_of_ne h, if_neg h]

/-- In a list with no key twice, the value at a key is the value of its entry. -/
theorem lookup_eq_some_iff {l : List (α × β)} (h : KeysNodup l) {k : α} {v : β} :
    l.lookup k = some v ↔ (k, v) ∈ l := by
  induction l with
  | nil => simp
  | cons e l ih =>
    obtain ⟨k', v'⟩ := e
    rw [KeysNodup, List.pairwise_cons] at h
    rw [lookup_cons_eq, List.mem_cons]
    by_cases hk : k = k'
    · subst hk
      -- the key is not in the rest
      have hnot : (k, v) ∉ l := fun hmem => h.1 (k, v) hmem rfl
      simp [hnot, eq_comm]
    · simp [hk, ih h.2]

theorem lookup_reverse {l : List (α × β)} (h : KeysNodup l) (k : α) :
    l.reverse.lookup k = l.lookup k := by
  cases hl : l.lookup k with
  | none =>
    rw [List.lookup_eq_none_iff] at hl ⊢
    exact fun p hp => hl p (List.mem_reverse.mp hp)
  | some v =>
    rw [lookup_eq_some_iff h.reverse, List.mem_reverse, ← lookup_eq_some_iff h, hl]

/-- In a list with no key twice, the order of the entries does not change a lookup. -/
theorem lookup_perm {l l' : List (α × β)} (h : KeysNodup l) (hp : l.Perm l') (k : α) :
    l'.lookup k = l.lookup k := by
  cases hl : l.lookup k with
  | none =>
    rw [List.lookup_eq_none_iff] at hl ⊢
    exact fun p hp' => hl p (hp.mem_iff.mpr hp')
  | some v => rw [lookup_eq_some_iff (h.perm hp), ← hp.mem_iff, ← lookup_eq_some_iff h, hl]

/-- Dropping the entries of a key. -/
theorem lookup_filter_ne (l : List (α × β)) (k k' : α) :
    (l.filter fun e => e.1 != k).lookup k' = if k' = k then none else l.lookup k' := by
  induction l with
  | nil => simp
  | cons e l ih =>
    obtain ⟨k'', v⟩ := e
    by_cases hk : k'' = k
    · subst hk
      rw [List.filter_cons_of_neg (by simp), ih, lookup_cons_eq]
      by_cases hk' : k' = k'' <;> simp [hk']
    · rw [List.filter_cons_of_pos (by simpa using hk), lookup_cons_eq, lookup_cons_eq, ih]
      by_cases hk' : k' = k
      · subst hk'
        simp [Ne.symm hk]
      · simp [hk']

/-- The entries of some keys, all with one value. -/
theorem lookup_map_const (L : List α) {γ : Type} (c : γ) (k : α) :
    (L.map fun x => (x, c)).lookup k = if k ∈ L then some c else none := by
  induction L with
  | nil => simp
  | cons x L ih =>
    rw [List.map_cons, lookup_cons_eq, ih]
    by_cases hk : k = x <;> simp [hk]

/-- The entries with values computed from them. -/
theorem lookup_map_snd (l : List (α × β)) {γ : Type} (f : α × β → γ) (k : α) :
    (l.map fun e => (e.1, f e)).lookup k = (l.lookup k).map fun v => f (k, v) := by
  induction l with
  | nil => simp
  | cons e l ih =>
    obtain ⟨k', v⟩ := e
    rw [List.map_cons, lookup_cons_eq, lookup_cons_eq, ih]
    by_cases hk : k = k' <;> simp [hk]

/-- The entries that pass a test, with values computed from them, in a list with no key twice. -/
theorem lookup_map_filter {l : List (α × β)} (h : KeysNodup l) (p : α × β → Bool) {γ : Type}
    (f : α × β → γ) (k : α) :
    ((l.filter p).map fun e => (e.1, f e)).lookup k =
      ((l.lookup k).filter fun v => p (k, v)).map fun v => f (k, v) := by
  induction l with
  | nil => simp
  | cons e l ih =>
    obtain ⟨k', v'⟩ := e
    rw [KeysNodup, List.pairwise_cons] at h
    have ih' := ih h.2
    by_cases hk : k = k'
    · subst hk
      -- the key is not in the rest
      have hnone : l.lookup k = none :=
        List.lookup_eq_none_iff.mpr fun q hq => bne_iff_ne.mpr (h.1 q hq)
      rw [hnone] at ih'
      by_cases hp : p (k, v')
      · simp [hp]
      · simp [hp, ih']
    · by_cases hp : p (k', v') <;> simp [hp, lookup_cons_eq, hk, ih']

end lists

/-! ## Maps -/

variable {α β γ : Type} [LinearOrder α]

/-- A map whose entries are in increasing order of their keys (`BTreeMap`). -/
structure SortedMap (α β : Type) [LinearOrder α] where
  entries : List (α × β)
  sorted : StrictlySorted Prod.fst entries

namespace SortedMap

instance [DecidableEq β] : DecidableEq (SortedMap α β) := fun a b =>
  decidable_of_iff (a.entries = b.entries) (by cases a; cases b; simp)

theorem keysNodup (m : SortedMap α β) : KeysNodup m.entries :=
  m.sorted.imp ne_of_lt

/-- The map with no entry. -/
def empty : SortedMap α β := ⟨[], List.Pairwise.nil⟩

/-- The value at a key (`get`). -/
def lookup (m : SortedMap α β) (k : α) : Option β := m.entries.lookup k

/-- `contains_key` -/
def contains (m : SortedMap α β) (k : α) : Bool := (m.lookup k).isSome

/-- `len` -/
def size (m : SortedMap α β) : Nat := m.entries.length

/-- `is_empty` -/
def isEmpty (m : SortedMap α β) : Bool := m.entries.isEmpty

/-- `keys`, in increasing order. -/
def keys (m : SortedMap α β) : List α := m.entries.map Prod.fst

@[simp] theorem lookup_empty (k : α) : (empty : SortedMap α β).lookup k = none := rfl

theorem lookup_eq_some_iff (m : SortedMap α β) {k : α} {v : β} :
    m.lookup k = some v ↔ (k, v) ∈ m.entries :=
  partner_chains.sorted_map.lookup_eq_some_iff m.keysNodup

/-- Two maps with the same values at every key are equal. -/
theorem ext {m₁ m₂ : SortedMap α β} (h : ∀ k, m₁.lookup k = m₂.lookup k) : m₁ = m₂ := by
  obtain ⟨l₁, h₁⟩ := m₁
  obtain ⟨l₂, h₂⟩ := m₂
  have hl : l₁ = l₂ := eq_of_strictlySorted h₁ h₂ fun ⟨k, v⟩ => by
    rw [← lookup_eq_some_iff ⟨l₁, h₁⟩, ← lookup_eq_some_iff ⟨l₂, h₂⟩, h k]
  subst hl
  rfl

theorem isEmpty_iff (m : SortedMap α β) : m.isEmpty ↔ ∀ k, m.lookup k = none := by
  constructor
  · intro h k
    simp only [isEmpty, List.isEmpty_iff] at h
    simp [lookup, h]
  · intro h
    cases hm : m.entries with
    | nil => simp [isEmpty, hm]
    | cons e es =>
      have := (m.lookup_eq_some_iff).mpr (hm ▸ List.mem_cons_self : e ∈ m.entries)
      simp [h] at this

theorem contains_eq (m : SortedMap α β) (k : α) : m.contains k = (m.lookup k).isSome := rfl

theorem lookup_entries (m : SortedMap α β) (k : α) : m.entries.lookup k = m.lookup k := rfl

theorem mem_keys (m : SortedMap α β) (k : α) : k ∈ m.keys ↔ (m.lookup k).isSome := by
  simp only [keys, List.mem_map, Option.isSome_iff_exists, lookup_eq_some_iff]
  constructor
  · rintro ⟨⟨k', v⟩, hmem, rfl⟩
    exact ⟨v, hmem⟩
  · rintro ⟨v, hmem⟩
    exact ⟨(k, v), hmem, rfl⟩

/-! ## Insertion and removal -/

/-- Puts an entry where its key belongs, replacing the entry of the same key. -/
def insertEntry (k : α) (v : β) : List (α × β) → List (α × β)
  | [] => [(k, v)]
  | e :: es =>
    if k < e.1 then (k, v) :: e :: es
    else if k = e.1 then (k, v) :: es
    else e :: insertEntry k v es

/-- Removes the entry of a key. -/
def eraseEntry (k : α) : List (α × β) → List (α × β)
  | [] => []
  | e :: es => if e.1 = k then es else e :: eraseEntry k es

/-- Inserting keeps a bound that both the key and the entries satisfy. -/
theorem forall_insertEntry {p : α → Prop} {k : α} (v : β) (hk : p k) :
    ∀ {l : List (α × β)}, (∀ e ∈ l, p e.1) → ∀ e ∈ insertEntry k v l, p e.1
  | [], _, e, he => by
    rw [insertEntry, List.mem_singleton] at he
    exact he ▸ hk
  | e' :: es, hl, e, he => by
    unfold insertEntry at he
    split at he
    · rcases List.mem_cons.mp he with rfl | he
      · exact hk
      · exact hl e he
    · split at he
      · rcases List.mem_cons.mp he with rfl | he
        · exact hk
        · exact hl e (List.mem_cons_of_mem e' he)
      · rcases List.mem_cons.mp he with rfl | he
        · exact hl e List.mem_cons_self
        · exact forall_insertEntry v hk (fun e'' h => hl e'' (List.mem_cons_of_mem e' h)) e he

theorem insertEntry_sorted (k : α) (v : β) :
    ∀ {l : List (α × β)}, StrictlySorted Prod.fst l → StrictlySorted Prod.fst (insertEntry k v l)
  | [], _ => List.pairwise_singleton _ _
  | e :: es, h => by
    rw [StrictlySorted, List.pairwise_cons] at h
    unfold insertEntry
    split
    · -- a new least key
      rename_i hlt
      refine List.pairwise_cons.mpr ⟨fun e' he' => ?_, List.pairwise_cons.mpr h⟩
      rcases List.mem_cons.mp he' with rfl | he'
      · exact hlt
      · exact lt_trans hlt (h.1 e' he')
    · split
      · -- the key's entry is replaced
        rename_i _ heq
        exact List.pairwise_cons.mpr ⟨fun e' he' => heq ▸ h.1 e' he', h.2⟩
      · rename_i hge hne
        have hlt : e.1 < k := lt_of_le_of_ne (not_lt.mp hge) (Ne.symm hne)
        exact List.pairwise_cons.mpr ⟨forall_insertEntry v hlt h.1, insertEntry_sorted k v h.2⟩

theorem lookup_insertEntry (k : α) (v : β) (k' : α) :
    ∀ l : List (α × β), (insertEntry k v l).lookup k' = if k' = k then some v else l.lookup k'
  | [] => by simp [insertEntry, lookup_cons_eq]
  | ⟨ek, ev⟩ :: es => by
    unfold insertEntry
    split
    · simp only [lookup_cons_eq]
    · split
      · rename_i heq
        simp only at heq
        subst heq
        by_cases hk : k' = k <;> simp [lookup_cons_eq, hk]
      · rename_i hne
        simp only at hne
        by_cases hk : k' = ek
        · subst hk
          simp [Ne.symm hne]
        · rw [lookup_cons_eq, if_neg hk, lookup_insertEntry k v k' es, lookup_cons_eq, if_neg hk]

theorem eraseEntry_sublist (k : α) : ∀ l : List (α × β), (eraseEntry k l).Sublist l
  | [] => List.Sublist.slnil
  | e :: es => by
    unfold eraseEntry
    split
    · exact List.sublist_cons_self e es
    · exact (eraseEntry_sublist k es).cons_cons e

theorem lookup_eraseEntry (k k' : α) :
    ∀ {l : List (α × β)}, StrictlySorted Prod.fst l →
      (eraseEntry k l).lookup k' = if k' = k then none else l.lookup k'
  | [], _ => by simp [eraseEntry]
  | ⟨ek, ev⟩ :: es, h => by
    rw [StrictlySorted, List.pairwise_cons] at h
    unfold eraseEntry
    split
    · rename_i heq
      simp only at heq
      subst heq
      by_cases hk : k' = ek
      · -- no later entry has the key
        subst hk
        simp only [if_true, List.lookup_eq_none_iff]
        intro p hp
        simpa using ne_of_lt (h.1 p hp)
      · simp [lookup_cons_eq, hk]
    · rename_i hne
      simp only at hne
      by_cases hk : k' = ek
      · subst hk
        simp [hne]
      · rw [lookup_cons_eq, if_neg hk, lookup_eraseEntry k k' h.2, lookup_cons_eq, if_neg hk]

/-- Inserting changes a sum over the entries by the new entry, less the entry it replaces. -/
theorem sum_insertEntry {M : Type} [AddCommMonoid M] (g : α × β → M) (k : α) (v : β) :
    ∀ {l : List (α × β)}, StrictlySorted Prod.fst l →
      ((insertEntry k v l).map g).sum + ((l.lookup k).map fun v' => g (k, v')).getD 0 =
        (l.map g).sum + g (k, v)
  | [], _ => by simp [insertEntry]
  | ⟨ek, ev⟩ :: es, h => by
    rw [StrictlySorted, List.pairwise_cons] at h
    unfold insertEntry
    split
    · -- a new least key, which no entry had
      rename_i hlt
      have hnone : ((ek, ev) :: es).lookup k = none := by
        rw [List.lookup_eq_none_iff]
        intro p hp
        rcases List.mem_cons.mp hp with rfl | hp
        · simpa using ne_of_lt hlt
        · simpa using ne_of_lt (lt_trans hlt (h.1 p hp))
      rw [hnone, Option.map_none, Option.getD_none, add_zero, List.map_cons, List.sum_cons,
        add_comm]
    · split
      · -- the entry of the key is replaced
        rename_i _ heq
        simp only at heq
        subst heq
        simp only [List.map_cons, List.sum_cons, lookup_cons_eq, if_true, Option.map_some,
          Option.getD_some]
        rw [add_right_comm, add_comm (g (k, v)), add_right_comm]
      · rename_i _ hne
        simp only at hne
        rw [List.map_cons, List.sum_cons, lookup_cons_eq, if_neg hne, add_assoc,
          sum_insertEntry g k v h.2, List.map_cons, List.sum_cons, add_assoc]

/-- Removing takes the entry of the key out of a sum over the entries. -/
theorem sum_eraseEntry {M : Type} [AddCommMonoid M] (g : α × β → M) (k : α) :
    ∀ l : List (α × β),
      ((eraseEntry k l).map g).sum + ((l.lookup k).map fun v' => g (k, v')).getD 0 =
        (l.map g).sum
  | [] => by simp [eraseEntry]
  | ⟨ek, ev⟩ :: es => by
    unfold eraseEntry
    split
    · rename_i heq
      simp only at heq
      subst heq
      simp only [lookup_cons_eq, if_true, Option.map_some, Option.getD_some, List.map_cons,
        List.sum_cons]
      exact add_comm _ _
    · rename_i hne
      simp only at hne
      rw [lookup_cons_eq, if_neg (Ne.symm hne), List.map_cons, List.sum_cons, List.map_cons,
        List.sum_cons, add_assoc, sum_eraseEntry g k es]

/-- `insert`: the value at the key becomes `v`. -/
def insert (m : SortedMap α β) (k : α) (v : β) : SortedMap α β :=
  ⟨insertEntry k v m.entries, insertEntry_sorted k v m.sorted⟩

/-- `remove` -/
def erase (m : SortedMap α β) (k : α) : SortedMap α β :=
  ⟨eraseEntry k m.entries, m.sorted.sublist (eraseEntry_sublist k m.entries)⟩

@[simp] theorem lookup_insert (m : SortedMap α β) (k : α) (v : β) (k' : α) :
    (m.insert k v).lookup k' = if k' = k then some v else m.lookup k' :=
  lookup_insertEntry k v k' m.entries

@[simp] theorem lookup_erase (m : SortedMap α β) (k k' : α) :
    (m.erase k).lookup k' = if k' = k then none else m.lookup k' :=
  lookup_eraseEntry k k' m.sorted

theorem sum_insert {M : Type} [AddCommMonoid M] (g : α × β → M) (m : SortedMap α β) (k : α)
    (v : β) :
    ((m.insert k v).entries.map g).sum + ((m.lookup k).map fun v' => g (k, v')).getD 0 =
      (m.entries.map g).sum + g (k, v) :=
  sum_insertEntry g k v m.sorted

theorem sum_erase {M : Type} [AddCommMonoid M] (g : α × β → M) (m : SortedMap α β) (k : α) :
    ((m.erase k).entries.map g).sum + ((m.lookup k).map fun v' => g (k, v')).getD 0 =
      (m.entries.map g).sum :=
  sum_eraseEntry g k m.entries

/-! ## Building a map by insertions -/

/-- Inserting the entries of a list in order: the last entry of a key wins. -/
theorem lookup_foldl_insert (l : List (α × β)) (m : SortedMap α β) (k : α) :
    (l.foldl (fun m e => m.insert e.1 e.2) m).lookup k = (l.reverse.lookup k).or (m.lookup k) := by
  induction l generalizing m with
  | nil => simp
  | cons e l ih =>
    obtain ⟨k', v⟩ := e
    rw [List.foldl_cons, ih, List.reverse_cons, List.lookup_append, lookup_insert,
      lookup_cons_eq]
    by_cases hk : k = k' <;> simp [hk]

/-- A loop that inserts the items that pass a test. -/
theorem lookup_foldl_insert_if (p : γ → Bool) (key : γ → α) (val : γ → β) (l : List γ)
    (m : SortedMap α β) (k : α) :
    (l.foldl (fun m x => if p x then m.insert (key x) (val x) else m) m).lookup k =
      (((l.filter p).map fun x => (key x, val x)).reverse.lookup k).or (m.lookup k) := by
  induction l generalizing m with
  | nil => simp
  | cons x l ih =>
    rw [List.foldl_cons, ih]
    by_cases hp : p x
    · rw [if_pos hp, lookup_insert, List.filter_cons_of_pos hp, List.map_cons, List.reverse_cons,
        List.lookup_append, lookup_cons_eq]
      by_cases hk : k = key x <;> simp [hk]
    · rw [if_neg hp, List.filter_cons_of_neg hp]

/-! ## Changes -/

/-- One change: a value writes the key, `none` removes it. -/
def set (m : SortedMap α β) (k : α) : Option β → SortedMap α β
  | some v => m.insert k v
  | none => m.erase k

/-- Changes applied in order. -/
def applyChanges (m : SortedMap α β) (changes : List (α × Option β)) : SortedMap α β :=
  changes.foldl (fun m c => m.set c.1 c.2) m

@[simp] theorem applyChanges_nil (m : SortedMap α β) : m.applyChanges [] = m := rfl

@[simp] theorem lookup_set (m : SortedMap α β) (k k' : α) (w : Option β) :
    (m.set k w).lookup k' = if k' = k then w else m.lookup k' := by
  cases w <;> simp [set]

/-- After changes, a key has the value of its last change, or its old value if none changed it. -/
theorem lookup_applyChanges (m : SortedMap α β) (changes : List (α × Option β)) (k : α) :
    (m.applyChanges changes).lookup k = (changes.reverse.lookup k).getD (m.lookup k) := by
  induction changes generalizing m with
  | nil => simp [applyChanges]
  | cons c changes ih =>
    obtain ⟨k', w⟩ := c
    simp only [applyChanges, List.foldl_cons] at ih ⊢
    rw [ih, List.reverse_cons, List.lookup_append, lookup_set, lookup_cons_eq]
    cases changes.reverse.lookup k <;> by_cases hk : k = k' <;> simp [hk]

/-- The changes of a map of changes, each key once, are applied as the map says. -/
theorem lookup_applyChanges_entries (m : SortedMap α β) (changes : SortedMap α (Option β))
    (k : α) : (m.applyChanges changes.entries).lookup k = (changes.lookup k).getD (m.lookup k) := by
  rw [lookup_applyChanges, lookup_reverse changes.keysNodup]
  rfl

/-- Collecting changes into a map, the last change of a key winning, and applying the map is
applying the changes. -/
theorem applyChanges_foldl_insert (m : SortedMap α β) (changes : List (α × Option β)) :
    m.applyChanges (changes.foldl (fun c e => c.insert e.1 e.2) empty).entries =
      m.applyChanges changes := by
  refine ext fun k => ?_
  rw [lookup_applyChanges_entries, lookup_foldl_insert, lookup_applyChanges]
  simp

end SortedMap

end partner_chains.sorted_map
