-- Encoders and the decoders that undo them. A list is decoded item by item
-- and fails as soon as one item does, as Rust's `collect::<Option<Vec<_>>>()`
-- does over an iterator of decoded items: `List.mapM` in `Option`. A loop
-- that skips the items it cannot read and panics on some is
-- `List.filterMapM` in `Option`: selecting items by a test their readings
-- keep selects the readings.
import Mathlib

namespace partner_chains.codec

variable {α β γ : Type}

/-- `decode` undoes `encode`. -/
def RoundTrip (encode : α → β) (decode : β → Option α) : Prop := ∀ x, decode (encode x) = some x

/-- Decoding a list of encoded items reads each item as the item alone is read. -/
theorem mapM_map_eq_map {encode : α → β} {decode : β → Option γ} {read : α → γ} :
    ∀ {xs : List α}, (∀ x ∈ xs, decode (encode x) = some (read x)) →
      (xs.map encode).mapM decode = some (xs.map read)
  | [], _ => rfl
  | x :: xs, h => by
    have hx := h x List.mem_cons_self
    have hxs := mapM_map_eq_map fun y hy => h y (List.mem_cons_of_mem x hy)
    simp [List.mapM_cons, hx, hxs]

/-- Decoding item by item undoes encoding item by item. -/
theorem RoundTrip.list {encode : α → β} {decode : β → Option α} (h : RoundTrip encode decode) :
    RoundTrip (List.map encode) (List.mapM decode) := fun xs => by
  have hid : ∀ x ∈ xs, decode (encode x) = some (id x) := fun x _ => h x
  simpa using mapM_map_eq_map hid

/-- A reading of every item that does not panic reads the list. -/
theorem filterMapM_isSome {f : α → Option (Option β)} :
    ∀ {xs : List α}, (∀ x ∈ xs, (f x).isSome) → ∃ ys, xs.filterMapM f = some ys
  | [], _ => ⟨[], rfl⟩
  | x :: xs, h => by
    obtain ⟨y, hy⟩ := Option.isSome_iff_exists.mp (h x List.mem_cons_self)
    obtain ⟨ys, hys⟩ := filterMapM_isSome fun z hz => h z (List.mem_cons_of_mem x hz)
    cases y with
    | none => exact ⟨ys, by simp [hy, hys]⟩
    | some y => exact ⟨y :: ys, by simp [hy, hys]⟩

/-- A reading of every item that does not panic reads the list: the items it keeps. -/
theorem filterMapM_eq_some_filterMap {f : α → Option (Option β)} :
    ∀ {xs : List α}, (∀ x ∈ xs, (f x).isSome) →
      xs.filterMapM f = some (xs.filterMap fun x => (f x).join)
  | [], _ => rfl
  | x :: xs, h => by
    obtain ⟨y, hy⟩ := Option.isSome_iff_exists.mp (h x List.mem_cons_self)
    have hxs := filterMapM_eq_some_filterMap fun z hz => h z (List.mem_cons_of_mem x hz)
    cases y <;> simp [hy, hxs]

/-- Reading the items that pass a test, where each reading passes a test of its own exactly when
its item passes: the readings that pass. -/
theorem filterMapM_filter {f : α → Option (Option β)} (p : α → Bool) (q : β → Bool)
    (hpq : ∀ x y, f x = some (some y) → q y = p x) :
    ∀ {xs : List α} {ys : List β}, xs.filterMapM f = some ys →
      (xs.filter p).filterMapM f = some (ys.filter q)
  | [], _, h => by
    cases h
    rfl
  | x :: xs, ys, h => by
    simp only [List.filterMapM_cons] at h
    cases hx : f x with
    | none => simp [hx] at h
    | some y =>
      cases y with
      | none =>
        -- an item that is skipped, kept or not
        simp only [hx] at h
        cases hp : p x <;> simp [hp, hx, filterMapM_filter p q hpq h]
      | some y =>
        simp only [hx] at h
        obtain ⟨ys', hys', rfl⟩ : ∃ ys', xs.filterMapM f = some ys' ∧ ys = y :: ys' := by
          cases hxs : xs.filterMapM f with
          | none => simp [hxs] at h
          | some ys' => exact ⟨ys', rfl, by simpa [hxs] using h.symm⟩
        have hq := hpq x y hx
        cases hp : p x <;> simp [hp, hx, hq, filterMapM_filter p q hpq hys']

end partner_chains.codec
