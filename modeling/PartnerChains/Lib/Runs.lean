-- Runs of a partial step function. The inputs are applied one after the
-- other, and a step that gives `none` (a panic) stops the run. An
-- invariant that every admitted step keeps holds after every prefix of a
-- run, and no step of such a run panics.
import Mathlib

namespace partner_chains.runs

variable {σ α : Type} (step : σ → α → Option σ)

/-- Applies the inputs in order; `none` as soon as one step panics. -/
def runAll : σ → List α → Option σ
  | s, [] => some s
  | s, a :: as => (step s a).bind fun s' => runAll s' as

@[simp] theorem runAll_nil (s : σ) : runAll step s [] = some s := rfl

@[simp] theorem runAll_cons (s : σ) (a : α) (as : List α) :
    runAll step s (a :: as) = (step s a).bind fun s' => runAll step s' as := rfl

theorem runAll_append (s : σ) (as bs : List α) :
    runAll step s (as ++ bs) = (runAll step s as).bind fun s' => runAll step s' bs := by
  induction as generalizing s with
  | nil => rfl
  | cons a as ih =>
    simp only [List.cons_append, runAll_cons, ih]
    cases step s a <;> rfl

/-- A run whose every input is admitted at the state where it is applied. -/
def Admitted (adm : σ → α → Prop) : σ → List α → Prop
  | _, [] => True
  | s, a :: as => adm s a ∧ ∀ s', step s a = some s' → Admitted adm s' as

section invariant

variable {step} (Inv : σ → Prop) (adm : σ → α → Prop)

/-- The invariant rule: a state invariant that every admitted step keeps, and under which
no admitted step panics, holds after the whole run, and the run does not panic. -/
theorem runAll_inv
    (hstep : ∀ s a, Inv s → adm s a → ∃ s', step s a = some s' ∧ Inv s') :
    ∀ (as : List α) (s : σ), Inv s → Admitted step adm s as →
      ∃ s', runAll step s as = some s' ∧ Inv s'
  | [], s, hs, _ => ⟨s, rfl, hs⟩
  | a :: as, s, hs, ⟨ha, hrest⟩ => by
    obtain ⟨s₁, h₁, hi₁⟩ := hstep s a hs ha
    obtain ⟨s', h', hi'⟩ := runAll_inv hstep as s₁ hi₁ (hrest s₁ h₁)
    exact ⟨s', by simp [h₁, h'], hi'⟩

theorem admitted_append {s : σ} {as bs : List α} (h : Admitted step adm s (as ++ bs)) :
    Admitted step adm s as := by
  induction as generalizing s with
  | nil => trivial
  | cons a as ih => exact ⟨h.1, fun s' hs' => ih (h.2 s' hs')⟩

/-- The invariant holds after every prefix of an admitted run. -/
theorem runAll_take_inv
    (hstep : ∀ s a, Inv s → adm s a → ∃ s', step s a = some s' ∧ Inv s')
    (as : List α) (s : σ) (hs : Inv s) (h : Admitted step adm s as) (k : Nat) :
    ∃ s', runAll step s (as.take k) = some s' ∧ Inv s' := by
  have hsplit : as = as.take k ++ as.drop k := (List.take_append_drop k as).symm
  rw [hsplit] at h
  exact runAll_inv Inv adm hstep _ s hs (admitted_append adm h)

end invariant

end partner_chains.runs

namespace partner_chains.runs

variable {σ α β : Type} {step : σ → α → Option σ}

/-- Prefixes of `xs ++ ys`: a property of every prefix of `xs`, and of every prefix of `ys`
run from where `xs` ends, holds of every prefix of the whole. -/
theorem runAll_take_append (P : σ → Prop) (xs ys : List α) (s : σ)
    (hx : ∀ k, ∃ s', runAll step s (xs.take k) = some s' ∧ P s')
    (hy : ∀ s', runAll step s xs = some s' →
      ∀ k, ∃ s'', runAll step s' (ys.take k) = some s'' ∧ P s'')
    (k : Nat) : ∃ s', runAll step s ((xs ++ ys).take k) = some s' ∧ P s' := by
  rw [List.take_append, runAll_append]
  by_cases hk : k ≤ xs.length
  · obtain ⟨s', h', hp⟩ := hx k
    have h0 : k - xs.length = 0 := by omega
    exact ⟨s', by simp [h', h0], hp⟩
  · have hfull : xs.take k = xs := List.take_of_length_le (by omega)
    obtain ⟨s₁, h₁, _⟩ := hx xs.length
    rw [List.take_length] at h₁
    obtain ⟨s', h', hp⟩ := hy s₁ h₁ (k - xs.length)
    exact ⟨s', by simp [hfull, h₁, h'], hp⟩

/-- The block rule: runs made of blocks, each a list of inputs. What holds at block
boundaries (`Inv`) and is kept by every admitted block, where every prefix of the block
satisfies `Mid`, gives `Mid` after every prefix of the whole run. -/
theorem runAll_flatMap_take (events : β → List α) (Inv Mid : σ → Prop) (adm : σ → β → Prop)
    (hblock : ∀ s b, Inv s → adm s b →
      (∀ k, ∃ s', runAll step s ((events b).take k) = some s' ∧ Mid s') ∧
        ∃ s', runAll step s (events b) = some s' ∧ Inv s')
    (hmid : ∀ s, Inv s → Mid s) :
    ∀ (bs : List β) (s : σ), Inv s → Admitted (fun s b => runAll step s (events b)) adm s bs →
      ∀ k, ∃ s', runAll step s ((bs.flatMap events).take k) = some s' ∧ Mid s'
  | [], s, hs, _, k => ⟨s, by simp, hmid s hs⟩
  | b :: bs, s, hs, ⟨hadm, hrest⟩, k => by
    obtain ⟨hpre, _⟩ := hblock s b hs hadm
    rw [List.flatMap_cons]
    refine runAll_take_append Mid (events b) (bs.flatMap events) s hpre ?_ k
    intro s₁ h₁
    have hi₁ : Inv s₁ := by
      obtain ⟨s', h', hi⟩ := (hblock s b hs hadm).2
      rw [h₁] at h'; cases h'; exact hi
    exact runAll_flatMap_take events Inv Mid adm hblock hmid bs s₁ hi₁ (hrest s₁ h₁)

end partner_chains.runs

namespace partner_chains.runs

variable {σ α : Type} {step : σ → α → Option σ}

/-- Every run of inputs that are all admitted everywhere is admitted. -/
theorem admitted_of_forall (adm : σ → α → Prop) :
    ∀ (as : List α) (s : σ), (∀ s, ∀ a ∈ as, adm s a) → Admitted step adm s as
  | [], _, _ => trivial
  | a :: as, s, h =>
    ⟨h s a List.mem_cons_self, fun s' _ =>
      admitted_of_forall adm as s' fun t b hb => h t b (List.mem_cons_of_mem a hb)⟩

/-- A property that every step of the run keeps holds where the run ends. -/
theorem runAll_preserves (P : σ → Prop) :
    ∀ (as : List α) (s s' : σ), (∀ t a t', a ∈ as → P t → step t a = some t' → P t') →
      P s → runAll step s as = some s' → P s'
  | [], s, s', _, hs, h => by cases h; exact hs
  | a :: as, s, s', hkeep, hs, h => by
    simp only [runAll_cons] at h
    cases h₁ : step s a with
    | none => simp [h₁] at h
    | some s₁ =>
      simp only [h₁, Option.bind_some] at h
      exact runAll_preserves P as s₁ s' (fun t b t' hb => hkeep t b t' (List.mem_cons_of_mem a hb))
        (hkeep s a s₁ List.mem_cons_self hs h₁) h

end partner_chains.runs

namespace partner_chains.runs

variable {σ τ α β γ : Type}

/-- A run of a step that answers each input and moves to a new state: the answers in order, and
the state where the run ends. -/
def transduce (step : σ → α → β × σ) : σ → List α → List β × σ
  | s, [] => ([], s)
  | s, a :: as =>
    let (b, s') := step s a
    let (bs, s'') := transduce step s' as
    (b :: bs, s'')

@[simp] theorem transduce_nil (step : σ → α → β × σ) (s : σ) : transduce step s [] = ([], s) := rfl

@[simp] theorem transduce_cons (step : σ → α → β × σ) (s : σ) (a : α) (as : List α) :
    transduce step s (a :: as) =
      ((step s a).1 :: (transduce step (step s a).2 as).1, (transduce step (step s a).2 as).2) :=
  rfl

/-- Answers changed by a function after each step are the answers of the run, changed by it. -/
theorem transduce_map (g : β → γ) (step : σ → α → β × σ) :
    ∀ (as : List α) (s : σ), transduce (fun s a => (g (step s a).1, (step s a).2)) s as =
      ((transduce step s as).1.map g, (transduce step s as).2)
  | [], _ => rfl
  | a :: as, s => by
    simp only [transduce_cons, transduce_map g step as, List.map_cons]

/-- The lockstep simulation rule: two steps that, from related states and on an admitted input,
give the same answer and lead to related states, give the same answers over every run of
admitted inputs, and end in related states. -/
theorem transduce_rel (R : σ → τ → Prop) (adm : α → Prop) {step₁ : σ → α → β × σ}
    {step₂ : τ → α → β × τ}
    (hstep : ∀ s t a, R s t → adm a →
      (step₁ s a).1 = (step₂ t a).1 ∧ R (step₁ s a).2 (step₂ t a).2) :
    ∀ (as : List α) (s : σ) (t : τ), R s t → (∀ a ∈ as, adm a) →
      (transduce step₁ s as).1 = (transduce step₂ t as).1 ∧
        R (transduce step₁ s as).2 (transduce step₂ t as).2
  | [], _, _, h, _ => ⟨rfl, h⟩
  | a :: as, s, t, h, hadm => by
    obtain ⟨hout, hrel⟩ := hstep s t a h (hadm a List.mem_cons_self)
    obtain ⟨hrest, hend⟩ := transduce_rel R adm hstep as _ _ hrel
      fun b hb => hadm b (List.mem_cons_of_mem a hb)
    exact ⟨by simp [hout, hrest], hend⟩

end partner_chains.runs

namespace partner_chains.runs

variable {σ ε α β : Type}

/-- The simulation rule against answers that need no state, in an environment that moves
between inputs: each input is answered in its own environment (`env`), and consecutive
environments are related by `next`. A step that, from a state related to the previous
environment, answers as `spec` does and leaves a state related to the input's environment,
answers as `spec` over every run whose environments follow `next`. -/
theorem transduce_eq_map_of_isChain (R : ε → σ → Prop) (next : ε → ε → Prop) (env : α → ε)
    (spec : α → β) {step : σ → α → β × σ}
    (hstep : ∀ e s a, R e s → next e (env a) → (step s a).1 = spec a ∧ R (env a) (step s a).2) :
    ∀ (as : List α) (e : ε) (s : σ), R e s → List.IsChain next (e :: as.map env) →
      (transduce step s as).1 = as.map spec
  | [], _, _, _, _ => rfl
  | a :: as, e, s, h, hchain => by
    rw [List.map_cons, List.isChain_cons_cons] at hchain
    obtain ⟨hout, hrel⟩ := hstep e s a h hchain.1
    rw [transduce_cons, hout,
      transduce_eq_map_of_isChain R next env spec hstep as (env a) _ hrel hchain.2, List.map_cons]

end partner_chains.runs
