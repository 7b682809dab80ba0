-- The currency a pallet names in its Config (`T::Currency`), as the pallets
-- of this repository call it: `fungible::Inspect` and `InspectHold` read the
-- free balance and the balance on hold of an account, `MutateHold::hold` and
-- a best-effort `release` move funds on and off hold for one reason, and an
-- exact `Mutate::burn_from` destroys free funds. The implementation is the
-- runtime's balances pallet, outside this repository, so here it is a
-- parameter: the calls, and as named fields what the balances pallet
-- guarantees of them. Each call fails, or moves exactly what it says between
-- the free balance and the hold of one account, touching no other account.
-- A ledger of free and held balances meets these guarantees, and serves the
-- examples.
import Mathlib

set_option autoImplicit false

namespace frame_support.fungible

open Function

/-- `T::Currency`: the calls on a currency whose balances are `Balances`, and what the balances
pallet guarantees of them. `none` is the call's `DispatchError`. -/
structure Fungible (AccountId Balances : Type) [DecidableEq AccountId] where
  /-- `Inspect::balance`: the free balance of an account. -/
  balance : Balances → AccountId → Nat
  /-- `InspectHold::balance_on_hold`, for the pallet's hold reason. -/
  balance_on_hold : Balances → AccountId → Nat
  /-- `MutateHold::hold` -/
  hold : Balances → AccountId → Nat → Option Balances
  /-- `MutateHold::release` with `Precision::BestEffort`, and the amount released. -/
  release : Balances → AccountId → Nat → Option (Nat × Balances)
  /-- `Mutate::burn_from` with `Preservation::Preserve`, `Precision::Exact` and
  `Fortitude::Force`. -/
  burn_from : Balances → AccountId → Nat → Option Balances
  /-- A hold puts `amount` of the free balance of `who` on hold. -/
  hold_eq_some : ∀ {b b' : Balances} {who : AccountId} {amount : Nat},
    hold b who amount = some b' → amount ≤ balance b who ∧
      balance b' = update (balance b) who (balance b who - amount) ∧
      balance_on_hold b' = update (balance_on_hold b) who (balance_on_hold b who + amount)
  /-- A best-effort release moves as much of `amount` as is on hold back to the free balance. -/
  release_eq_some : ∀ {b b' : Balances} {who : AccountId} {amount actual : Nat},
    release b who amount = some (actual, b') → actual = min amount (balance_on_hold b who) ∧
      balance b' = update (balance b) who (balance b who + actual) ∧
      balance_on_hold b' = update (balance_on_hold b) who (balance_on_hold b who - actual)
  /-- An exact burn destroys `amount` of the free balance of `who`, and touches no hold. -/
  burn_from_eq_some : ∀ {b b' : Balances} {who : AccountId} {amount : Nat},
    burn_from b who amount = some b' → amount ≤ balance b who ∧
      balance b' = update (balance b) who (balance b who - amount) ∧
      balance_on_hold b' = balance_on_hold b

namespace Fungible

variable {AccountId Balances : Type} [DecidableEq AccountId] (F : Fungible AccountId Balances)
  {b b' : Balances} {who : AccountId} {amount : Nat}

/-- A release of no more than is on hold releases all of it. -/
theorem release_eq_some_of_le {actual : Nat} (hle : amount ≤ F.balance_on_hold b who)
    (h : F.release b who amount = some (actual, b')) :
    actual = amount ∧ F.balance b' = update (F.balance b) who (F.balance b who + amount) ∧
      F.balance_on_hold b' =
        update (F.balance_on_hold b) who (F.balance_on_hold b who - amount) := by
  obtain ⟨hactual, hfree, hheld⟩ := F.release_eq_some h
  rw [Nat.min_eq_left hle] at hactual
  subst hactual
  exact ⟨rfl, hfree, hheld⟩

/-- A burn destroys `amount` of the free balances of all accounts, and touches no hold. -/
theorem sum_balance_burn_from [Fintype AccountId] (h : F.burn_from b who amount = some b') :
    ∑ a, F.balance b' a + amount = ∑ a, F.balance b a ∧
      F.balance_on_hold b' = F.balance_on_hold b := by
  obtain ⟨hle, hfree, hheld⟩ := F.burn_from_eq_some h
  refine ⟨?_, hheld⟩
  -- the sums differ only at `who`
  have hrest := Finset.add_sum_erase Finset.univ (F.balance b) (Finset.mem_univ who)
  rw [hfree, Finset.sum_update_of_mem (Finset.mem_univ who), Finset.sdiff_singleton_eq_erase,
    ← hrest]
  omega

end Fungible

/-! ## A ledger that meets the guarantees -/

/-- The free balance of every account, and what it has on hold for one reason. -/
structure Ledger (AccountId : Type) where
  free : AccountId → Nat
  held : AccountId → Nat

namespace Ledger

variable {AccountId : Type} [DecidableEq AccountId]

/-- A hold that fails when the free balance is short. -/
def hold (l : Ledger AccountId) (who : AccountId) (amount : Nat) : Option (Ledger AccountId) :=
  if amount ≤ l.free who then
    some ⟨update l.free who (l.free who - amount), update l.held who (l.held who + amount)⟩
  else none

/-- A best-effort release, which does not fail. -/
def release (l : Ledger AccountId) (who : AccountId) (amount : Nat) :
    Option (Nat × Ledger AccountId) :=
  let actual := min amount (l.held who)
  some (actual, ⟨update l.free who (l.free who + actual), update l.held who (l.held who - actual)⟩)

/-- A burn that fails when it would leave less than `minimum_balance`, the existential deposit
that `Preserve` keeps. -/
def burn_from (l : Ledger AccountId) (who : AccountId) (amount minimum_balance : Nat) :
    Option (Ledger AccountId) :=
  if amount + minimum_balance ≤ l.free who then
    some { l with free := update l.free who (l.free who - amount) }
  else none

/-- The ledger as the currency of a runtime whose existential deposit is `minimum_balance`. -/
def currency (minimum_balance : Nat) : Fungible AccountId (Ledger AccountId) where
  balance := free
  balance_on_hold := held
  hold := hold
  release := release
  burn_from l who amount := burn_from l who amount minimum_balance
  hold_eq_some := by
    intro l l' who amount h
    rw [hold, Option.ite_none_right_eq_some, Option.some.injEq] at h
    obtain ⟨hle, rfl⟩ := h
    exact ⟨hle, rfl, rfl⟩
  release_eq_some := by
    intro l l' who amount actual h
    simp only [release, Option.some.injEq, Prod.mk.injEq] at h
    obtain ⟨rfl, rfl⟩ := h
    exact ⟨rfl, rfl, rfl⟩
  burn_from_eq_some := by
    intro l l' who amount h
    rw [burn_from, Option.ite_none_right_eq_some, Option.some.injEq] at h
    obtain ⟨hle, rfl⟩ := h
    exact ⟨by omega, rfl, rfl⟩

end Ledger

end frame_support.fungible
