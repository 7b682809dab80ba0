-- Computations that stop at the first error: a sequence in `Except`
-- succeeds when its first part does and then its rest, and a loop,
-- `List.mapM`, succeeds when every item does. The loop's results are the
-- items' results in order, and over a permutation of the items it returns a
-- permutation of the results (the error of a failing loop may differ with
-- the order). The same loop in `Option` whose every item succeeds gives the
-- items' values.
import Mathlib

set_option autoImplicit false

namespace partner_chains.except_list

variable {ε α β : Type} {f : α → Except ε β}

@[simp] theorem ok_bind (a : α) (g : α → Except ε β) : (Except.ok a >>= g) = g a := rfl

theorem bind_eq_ok {x : Except ε α} {g : α → Except ε β} {r : β} :
    x >>= g = .ok r ↔ ∃ a, x = .ok a ∧ g a = .ok r := by
  cases x <;> simp [bind, Except.bind]

theorem mapM_eq_ok_iff : ∀ {l : List α} {r : List β},
    l.mapM f = .ok r ↔ List.Forall₂ (fun a b => f a = .ok b) l r
  | [], r => by
    cases r with
    | nil => simp [pure, Except.pure]
    | cons b r => simp [pure, Except.pure]
  | a :: l, r => by
    rw [List.mapM_cons]
    cases hfa : f a with
    | error e => cases r <;> simp [hfa, bind, Except.bind]
    | ok b =>
      -- the first result, then the loop over the rest
      cases hl : l.mapM f with
      | error e =>
        have hno : ¬ ∃ r', List.Forall₂ (fun a b => f a = .ok b) l r' :=
          fun ⟨r', hr'⟩ => by rw [← mapM_eq_ok_iff, hl] at hr'; cases hr'
        cases r with
        | nil => simp [bind, Except.bind]
        | cons b' r =>
          simp only [bind, Except.bind, List.forall₂_cons, reduceCtorEq, false_iff, not_and]
          exact fun _ hr' => hno ⟨r, hr'⟩
      | ok r' =>
        have hr' := mapM_eq_ok_iff.mp hl
        cases r with
        | nil => simp [bind, Except.bind, pure, Except.pure]
        | cons b'' r =>
          simp only [bind, Except.bind, pure, Except.pure, Except.ok.injEq,
            List.cons.injEq, List.forall₂_cons]
          constructor
          · rintro ⟨rfl, rfl⟩
            exact ⟨hfa, hr'⟩
          · rintro ⟨hb, hr⟩
            -- each item has one result
            have hunique : ∀ a b b', f a = .ok b → f a = .ok b' → b = b' :=
              fun _ _ _ h₁ h₂ => Except.ok.inj (h₁.symm.trans h₂)
            exact ⟨hunique a b b'' hfa hb, List.right_unique_forall₂' hunique hr' hr⟩

/-- Loops whose bodies agree on the items give the same result. -/
theorem mapM_congr {g : α → Except ε β} : ∀ {l : List α}, (∀ a ∈ l, f a = g a) →
    l.mapM f = l.mapM g
  | [], _ => rfl
  | a :: l, h => by
    rw [List.mapM_cons, List.mapM_cons, h a List.mem_cons_self,
      mapM_congr fun a' ha' => h a' (List.mem_cons_of_mem _ ha')]

/-- The loop succeeds when every item does. -/
theorem mapM_ok_of_forall : ∀ {l : List α}, (∀ a ∈ l, ∃ b, f a = .ok b) →
    ∃ r, l.mapM f = .ok r
  | [], _ => ⟨[], rfl⟩
  | a :: l, h => by
    obtain ⟨b, hb⟩ := h a List.mem_cons_self
    obtain ⟨r, hr⟩ := mapM_ok_of_forall fun a' ha' => h a' (List.mem_cons_of_mem _ ha')
    exact ⟨b :: r, mapM_eq_ok_iff.mpr (List.Forall₂.cons hb (mapM_eq_ok_iff.mp hr))⟩

/-- Over a permutation of the items, a permutation of the results. -/
theorem mapM_perm {l l' : List α} (hperm : l.Perm l') {r : List β} (h : l.mapM f = .ok r) :
    ∃ r', l'.mapM f = .ok r' ∧ r'.Perm r := by
  obtain ⟨r', hr', hperm'⟩ := List.perm_comp_forall₂ hperm.symm (mapM_eq_ok_iff.mp h)
  exact ⟨r', mapM_eq_ok_iff.mpr hr', hperm'⟩

/-- What a loop's results show of themselves, the items show. -/
theorem mapM_eq_ok_map {γ : Type} {g : α → γ} {h : β → γ}
    (hfield : ∀ a b, f a = .ok b → h b = g a) {l : List α} {r : List β}
    (hm : l.mapM f = .ok r) : r.map h = l.map g := by
  have hitems : ∀ {l : List α} {r : List β}, List.Forall₂ (fun a b => f a = .ok b) l r →
      r.map h = l.map g := by
    intro l r hlr
    induction hlr with
    | nil => rfl
    | cons hab _ ih => rw [List.map_cons, List.map_cons, hfield _ _ hab, ih]
  exact hitems (mapM_eq_ok_iff.mp hm)

/-- Bodies whose results are related item by item give related results. -/
theorem mapM_rel {γ : Type} {g : α → Except ε γ} {R : γ → β → Prop}
    (hrel : ∀ a b, f a = .ok b → ∃ c, g a = .ok c ∧ R c b) {l : List α} {r : List β}
    (h : l.mapM f = .ok r) : ∃ r', l.mapM g = .ok r' ∧ List.Forall₂ R r' r := by
  -- item by item, along the results of `f`
  have hitems : ∀ {l : List α} {r : List β}, List.Forall₂ (fun a b => f a = .ok b) l r →
      ∃ r', List.Forall₂ (fun a c => g a = .ok c) l r' ∧ List.Forall₂ R r' r := by
    intro l r hlr
    induction hlr with
    | nil => exact ⟨[], List.Forall₂.nil, List.Forall₂.nil⟩
    | cons hab _ ih =>
      obtain ⟨c, hc, hR⟩ := hrel _ _ hab
      obtain ⟨r', hl', hr'⟩ := ih
      exact ⟨c :: r', List.Forall₂.cons hc hl', List.Forall₂.cons hR hr'⟩
  obtain ⟨r', hl', hr'⟩ := hitems (mapM_eq_ok_iff.mp h)
  exact ⟨r', mapM_eq_ok_iff.mpr hl', hr'⟩

/-- A loop in `Option` whose every item succeeds gives the items' values. -/
theorem option_mapM_eq_filterMap {g : α → Option β} :
    ∀ {l : List α}, (∀ a ∈ l, (g a).isSome) → l.mapM g = some (l.filterMap g)
  | [], _ => rfl
  | a :: l, h => by
    obtain ⟨b, hb⟩ := Option.isSome_iff_exists.mp (h a List.mem_cons_self)
    rw [List.mapM_cons, hb, option_mapM_eq_filterMap fun a' ha' => h a' (List.mem_cons_of_mem a ha'),
      List.filterMap_cons_some hb]
    rfl

end partner_chains.except_list
