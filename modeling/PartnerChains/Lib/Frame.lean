-- What the pallets use of FRAME: the bounded collections of `frame_support`,
-- a vector, a set and a map that carry their bound (`truncate_from` cuts a list to
-- the bound; `try_from` fails when the collection is too large, as the
-- `TryFrom` impls do), and the origin of a call of `frame_system`.
import Mathlib
import PartnerChains.Lib.SortedMap

namespace frame_support

/-- `BoundedVec<T, S>`: a list of at most `S` items. -/
structure BoundedVec (α : Type) (S : Nat) where
  val : List α
  bound : val.length ≤ S

instance {α : Type} [DecidableEq α] {S : Nat} : DecidableEq (BoundedVec α S) := fun a b =>
  decidable_of_iff (a.val = b.val) (by cases a; cases b; simp)

namespace BoundedVec

variable {α : Type} {S : Nat}

/-- `BoundedVec::truncate_from`: the first `S` items. -/
def truncate_from (l : List α) : BoundedVec α S := ⟨l.take S, List.length_take_le S l⟩

/-- `BoundedVec::new`. -/
def new : BoundedVec α S := ⟨[], Nat.zero_le S⟩

@[simp] theorem truncate_from_val (l : List α) :
    (truncate_from l : BoundedVec α S).val = l.take S := rfl

@[simp] theorem new_val : (new : BoundedVec α S).val = [] := rfl

theorem ext {a b : BoundedVec α S} (h : a.val = b.val) : a = b := by
  cases a; cases b; simp only at h; subst h; rfl

end BoundedVec

/-- `BoundedBTreeSet<T, S>`: a set of at most `S` items. -/
structure BoundedBTreeSet (α : Type) (S : Nat) where
  val : Finset α
  bound : val.card ≤ S

namespace BoundedBTreeSet

variable {α : Type} {S : Nat}

/-- `BoundedBTreeSet::new`. -/
def new : BoundedBTreeSet α S := ⟨∅, by simp⟩

/-- `TryFrom<BTreeSet<T>>`: fails when the set has more than `S` items. -/
def try_from (s : Finset α) : Option (BoundedBTreeSet α S) :=
  if h : s.card ≤ S then some ⟨s, h⟩ else none

theorem try_from_of_card_le {s : Finset α} (h : s.card ≤ S) :
    try_from s = some (⟨s, h⟩ : BoundedBTreeSet α S) := by
  simp [try_from, h]

end BoundedBTreeSet

open partner_chains.sorted_map in
/-- `BoundedBTreeMap<K, V, S>`: a map of at most `S` entries. -/
structure BoundedBTreeMap (α β : Type) [LinearOrder α] (S : Nat) where
  val : SortedMap α β
  bound : val.size ≤ S

end frame_support

namespace frame_system

/-- `RawOrigin`: who makes a call. Inherents have the origin `None`. -/
inductive RawOrigin (AccountId : Type) where
  | root
  | signed (who : AccountId)
  | none

end frame_system
