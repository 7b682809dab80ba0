-- Maps as `HashMap` keeps them: the list of the live entries, no key twice,
-- in an order that nothing may rely on. `entry(k).or_default()` followed by
-- an update changes an entry in place or adds one. A map of maps is read as
-- one map keyed by pairs; counting keys into it gives, in some order, each
-- distinct key with its number of occurrences.
import PartnerChains.Lib.SortedMap

set_option autoImplicit false

namespace partner_chains.hash_map

open partner_chains.sorted_map

variable {α β γ : Type} [DecidableEq α]

/-! ## Entries -/

/-- `map.entry(k).or_default()`, then `f` on the value: an entry already there changes in place,
a new one is added last. -/
def entryOrDefault [Inhabited β] (k : α) (f : β → β) : List (α × β) → List (α × β)
  | [] => [(k, f default)]
  | (k', v) :: m => if k' = k then (k', f v) :: m else (k', v) :: entryOrDefault k f m

section entry

variable [Inhabited β]

theorem lookup_entryOrDefault (k : α) (f : β → β) (m : List (α × β)) (k' : α) :
    (entryOrDefault k f m).lookup k' =
      if k' = k then some (f ((m.lookup k).getD default)) else m.lookup k' := by
  induction m with
  | nil => by_cases hk : k' = k <;> simp [entryOrDefault, lookup_cons_eq, hk]
  | cons e m ih =>
    obtain ⟨k'', v⟩ := e
    unfold entryOrDefault
    split
    · -- the key is there: its value changes in place
      rename_i hk
      subst hk
      by_cases h : k' = k'' <;> simp [lookup_cons_eq, h]
    · rename_i hk
      by_cases h : k' = k''
      · subst h
        simp [hk]
      · simp [lookup_cons_eq, h, ih, Ne.symm hk]

/-- The keys after the update: the key updated, or a key that was there. -/
theorem fst_mem_entryOrDefault (k : α) (f : β → β) :
    ∀ {m : List (α × β)} {e : α × β}, e ∈ entryOrDefault k f m → e.1 = k ∨ e.1 ∈ m.map (·.1)
  | [], e, he => by
    rw [entryOrDefault, List.mem_singleton] at he
    exact .inl (by rw [he])
  | (k', v) :: m, e, he => by
    unfold entryOrDefault at he
    split at he
    · rcases List.mem_cons.mp he with rfl | he
      · exact .inr List.mem_cons_self
      · exact .inr (List.mem_cons_of_mem _ (List.mem_map_of_mem he))
    · rcases List.mem_cons.mp he with rfl | he
      · exact .inr List.mem_cons_self
      · rcases fst_mem_entryOrDefault k f he with hk | hk
        · exact .inl hk
        · exact .inr (List.mem_cons_of_mem _ hk)

theorem keysNodup_entryOrDefault (k : α) (f : β → β) :
    ∀ {m : List (α × β)}, KeysNodup m → KeysNodup (entryOrDefault k f m)
  | [], _ => List.pairwise_singleton _ _
  | (k', v) :: m, h => by
    rw [KeysNodup, List.pairwise_cons] at h
    unfold entryOrDefault
    split
    · exact List.pairwise_cons.mpr ⟨h.1, h.2⟩
    · rename_i hk
      refine List.pairwise_cons.mpr ⟨fun e he heq => ?_, keysNodup_entryOrDefault k f h.2⟩
      -- a key of the rest is the new key or one of the old ones, and neither is `k'`
      rcases fst_mem_entryOrDefault k f he with he' | he'
      · exact hk (heq.trans he')
      · obtain ⟨e', he'm, hfst⟩ := List.mem_map.mp he'
        exact h.1 e' he'm (heq.trans hfst.symm)

end entry

/-! ## Maps of maps -/

/-- A map of maps as one map keyed by pairs. -/
def flatten (m : List (α × List (β × γ))) : List ((α × β) × γ) :=
  m.flatMap fun e => e.2.map fun x => ((e.1, x.1), x.2)

omit [DecidableEq α] in
theorem keysNodup_flatten {m : List (α × List (β × γ))} (h : KeysNodup m)
    (hinner : ∀ e ∈ m, KeysNodup e.2) : KeysNodup (flatten m) := by
  induction m with
  | nil => exact List.Pairwise.nil
  | cons e m ih =>
    obtain ⟨a, inner⟩ := e
    rw [KeysNodup, List.pairwise_cons] at h
    rw [KeysNodup, flatten, List.flatMap_cons, List.pairwise_append, ← flatten]
    refine ⟨?_, ih h.2 fun e he => hinner e (List.mem_cons_of_mem _ he), ?_⟩
    · -- the entries of one inner map differ in their second key
      refine List.pairwise_map.mpr ((hinner _ List.mem_cons_self).imp fun hne heq => ?_)
      exact hne (Prod.ext_iff.mp heq).2
    · -- an entry of a later inner map has another first key
      intro x hx y hy heq
      obtain ⟨z, -, rfl⟩ := List.mem_map.mp hx
      obtain ⟨e', he', hy'⟩ := List.mem_flatMap.mp hy
      obtain ⟨w, -, rfl⟩ := List.mem_map.mp hy'
      exact h.1 e' he' (congrArg (fun k => k.1) heq)

variable [DecidableEq β]

/-- The value at `b` of the inner map at `a`. -/
def lookup₂ (m : List (α × List (β × γ))) (a : α) (b : β) : Option γ :=
  (m.lookup a).bind fun inner => inner.lookup b

/-- An entry of the flat map is an entry of an inner map, under its key. -/
theorem mem_flatten_iff {m : List (α × List (β × γ))} (h : KeysNodup m)
    (hinner : ∀ e ∈ m, KeysNodup e.2) {x : (α × β) × γ} :
    x ∈ flatten m ↔ lookup₂ m x.1.1 x.1.2 = some x.2 := by
  obtain ⟨⟨a, b⟩, c⟩ := x
  simp only [flatten, List.mem_flatMap, List.mem_map, lookup₂, Option.bind_eq_some_iff]
  constructor
  · rintro ⟨⟨a', inner⟩, he, ⟨b', c'⟩, hx, heq⟩
    simp only [Prod.mk.injEq] at heq
    obtain ⟨⟨rfl, rfl⟩, rfl⟩ := heq
    exact ⟨inner, (lookup_eq_some_iff h).mpr he, (lookup_eq_some_iff (hinner _ he)).mpr hx⟩
  · rintro ⟨inner, he, hx⟩
    have he' := (lookup_eq_some_iff h).mp he
    exact ⟨(a, inner), he', (b, c), (lookup_eq_some_iff (hinner _ he')).mp hx, rfl⟩

section entry

variable [Inhabited γ]

/-- `entry(a).or_default().entry(b).or_default()`, then `f`, changes the one value at `(a, b)`. -/
theorem lookup₂_entryOrDefault (a : α) (b : β) (f : γ → γ) (m : List (α × List (β × γ)))
    (a' : α) (b' : β) :
    lookup₂ (entryOrDefault a (entryOrDefault b f) m) a' b' =
      if a' = a ∧ b' = b then some (f ((lookup₂ m a b).getD default)) else lookup₂ m a' b' := by
  have hdefault : (default : List (β × γ)) = [] := rfl
  unfold lookup₂
  rw [lookup_entryOrDefault]
  by_cases ha : a' = a
  · subst ha
    rw [if_pos rfl, Option.bind_some, lookup_entryOrDefault]
    cases m.lookup a' with
    | none => by_cases hb : b' = b <;> simp [hb, hdefault]
    | some inner => by_cases hb : b' = b <;> simp [hb]
  · simp [ha]

theorem inner_keysNodup_entryOrDefault (a : α) (b : β) (f : γ → γ)
    {m : List (α × List (β × γ))} (hinner : ∀ e ∈ m, KeysNodup e.2) :
    ∀ e ∈ entryOrDefault a (entryOrDefault b f) m, KeysNodup e.2 := by
  induction m with
  | nil =>
    intro e he
    rw [entryOrDefault, List.mem_singleton] at he
    subst he
    exact List.pairwise_singleton _ _
  | cons e m ih =>
    obtain ⟨a', inner⟩ := e
    intro e he
    unfold entryOrDefault at he
    split at he
    · rcases List.mem_cons.mp he with rfl | he
      · exact keysNodup_entryOrDefault b f (hinner _ List.mem_cons_self)
      · exact hinner e (List.mem_cons_of_mem _ he)
    · rcases List.mem_cons.mp he with rfl | he
      · exact hinner _ List.mem_cons_self
      · exact ih (fun e he => hinner e (List.mem_cons_of_mem _ he)) e he

end entry

/-! ## Counting in a map of maps -/

/-- `*map.entry(a).or_default().entry(b).or_default() += 1`, on `u32` counts. -/
def bumpCount (m : List (α × List (β × UInt32))) (k : α × β) : List (α × List (β × UInt32)) :=
  entryOrDefault k.1 (entryOrDefault k.2 (· + 1)) m

/-- Counting keys adds to each pair its number of occurrences, modulo `2 ^ 32`. -/
theorem lookup₂_foldl_bumpCount (keys : List (α × β)) :
    ∀ (m : List (α × List (β × UInt32))) (a : α) (b : β),
      lookup₂ (keys.foldl bumpCount m) a b =
        if (a, b) ∈ keys then some ((lookup₂ m a b).getD 0 + UInt32.ofNat (keys.count (a, b)))
        else lookup₂ m a b := by
  induction keys with
  | nil => intro m a b; simp
  | cons k keys ih =>
    intro m a b
    rw [List.foldl_cons, ih, bumpCount, lookup₂_entryOrDefault]
    by_cases hk : (a, b) = k
    · -- the pair counted now: one more occurrence
      subst hk
      have hdefault : (default : UInt32) = 0 := rfl
      by_cases hmem : (a, b) ∈ keys
      · simp only [hmem, and_self, if_true, Option.getD_some, List.mem_cons_self, List.count_cons,
          beq_self_eq_true, hdefault, UInt32.ofNat_add, UInt32.add_assoc, UInt32.add_comm 1]
        rfl
      · simp [hmem, List.count_eq_zero_of_not_mem hmem, hdefault]
    · have hk' : ¬ (a = k.1 ∧ b = k.2) := fun ⟨ha, hb⟩ => hk (by rw [ha, hb])
      have hcount : (k :: keys).count (a, b) = keys.count (a, b) := by
        rw [List.count_cons, if_neg (by simpa using Ne.symm hk), Nat.add_zero]
      simp only [hk', if_false, List.mem_cons, hk, false_or, hcount]

theorem keysNodup_foldl_bumpCount (keys : List (α × β)) :
    ∀ {m : List (α × List (β × UInt32))}, KeysNodup m → (∀ e ∈ m, KeysNodup e.2) →
      KeysNodup (keys.foldl bumpCount m) ∧ ∀ e ∈ keys.foldl bumpCount m, KeysNodup e.2 := by
  induction keys with
  | nil => exact fun h hinner => ⟨h, hinner⟩
  | cons k keys ih =>
    intro m h hinner
    exact ih (keysNodup_entryOrDefault _ _ h) (inner_keysNodup_entryOrDefault _ _ _ hinner)

/-- The counts of a list of keys, read as one map keyed by pairs: each distinct pair with its
number of occurrences, modulo `2 ^ 32`. -/
theorem flatten_foldl_bumpCount_perm (keys : List (α × β)) :
    (flatten (keys.foldl bumpCount [])).Perm
      (keys.dedup.map fun k => (k, UInt32.ofNat (keys.count k))) := by
  obtain ⟨h, hinner⟩ := keysNodup_foldl_bumpCount keys (m := []) List.Pairwise.nil
    (fun e he => nomatch he)
  have hnodup : (flatten (keys.foldl bumpCount [])).Nodup :=
    (keysNodup_flatten h hinner).imp fun hne heq => hne (congrArg Prod.fst heq)
  have hnodup' : (keys.dedup.map fun k => (k, UInt32.ofNat (keys.count k))).Nodup :=
    (List.nodup_dedup keys).map fun k k' heq => congrArg Prod.fst heq
  refine (List.perm_ext_iff_of_nodup hnodup hnodup').mpr fun x => ?_
  obtain ⟨⟨a, b⟩, c⟩ := x
  rw [mem_flatten_iff h hinner, lookup₂_foldl_bumpCount]
  by_cases hmem : (a, b) ∈ keys
  · simp [hmem, lookup₂, eq_comm]
  · simp [hmem, lookup₂]

end partner_chains.hash_map
