-- The block producer fees pallet (toolkit/block-producer-fees): a block
-- producer sets its margin fee, in ten-thousandths, and the pallet keeps a
-- short history of the changes of each producer, newest first. `set_fee`
-- drops the oldest change when the history holds more than
-- `HistoricalChangesPerProducer` of them, then puts the new one in front, so
-- a history that starts empty keeps the last `HistoricalChangesPerProducer + 1`
-- changes. A call that fails changes nothing. Over every run of calls no
-- stored history is empty, so reading the latest fee of every producer never
-- panics.
import Mathlib
import PartnerChains.Lib.Frame
import PartnerChains.Lib.SortedMap
import PartnerChains.Lib.ExceptList

set_option autoImplicit false

namespace sp_block_producer_fees

/-- `PerTenThousands`: a fee numerator over 10000. -/
abbrev PerTenThousands := UInt16

end sp_block_producer_fees

namespace pallet_block_producer_fees

open frame_system partner_chains.sorted_map partner_chains.except_list sp_block_producer_fees

/-- The pallet's `Config`: how many past changes of a producer `set_fee` keeps before it drops
the oldest. -/
structure Config where
  HistoricalChangesPerProducer : UInt16

/-- The storage `FeesChanges`, from an account to its changes, newest first. -/
structure State (AccountId Moment : Type) [LinearOrder AccountId] where
  FeesChanges : SortedMap AccountId (List (Moment × PerTenThousands))

/-- `DispatchError`; the pallet has no `Error<T>`. -/
inductive DispatchError where
  | BadOrigin
  | Other (message : String)
  deriving DecidableEq

/-- The pallet's `Call`. -/
inductive Call where
  | set_fee (fee_numerator : PerTenThousands)
  deriving DecidableEq

variable {AccountId Moment : Type} [LinearOrder AccountId] (T : Config)

/-- `ensure_signed` -/
def ensure_signed : RawOrigin AccountId → Except DispatchError AccountId
  | .signed who => .ok who
  | _ => .error .BadOrigin

/-- `FeesChanges::get`, a `ValueQuery`: no changes where none are stored. -/
def get (s : State AccountId Moment) (id : AccountId) : List (Moment × PerTenThousands) :=
  (s.FeesChanges.lookup id).getD []

/-- The closure `set_fee` passes to `FeesChanges::mutate`: `pop_back` when the log holds more
than `HistoricalChangesPerProducer` changes, then `push_front`. -/
def push_fee_change (change : Moment × PerTenThousands)
    (fees_log : List (Moment × PerTenThousands)) : List (Moment × PerTenThousands) :=
  let fees_log := if fees_log.length > T.HistoricalChangesPerProducer.toNat then fees_log.dropLast
    else fees_log
  change :: fees_log

/-- `set_fee`, in a block of moment `current_moment`. -/
def set_fee (current_moment : Moment) (origin : RawOrigin AccountId)
    (fee_numerator : PerTenThousands) (s : State AccountId Moment) :
    Except DispatchError (State AccountId Moment) := do
  let account_id ← ensure_signed origin
  if fee_numerator > 10000 then
    throw (.Other "fee numerator must be in range from 0 to 10000")
  return ⟨s.FeesChanges.insert account_id
    (push_fee_change T (current_moment, fee_numerator) (get s account_id))⟩

/-- `get_all`, in the order of the accounts (the source's is the order of their hashes). -/
def get_all (s : State AccountId Moment) : List (AccountId × List (Moment × PerTenThousands)) :=
  s.FeesChanges.entries

/-- `get_all_latest`; `None` is the panic of `expect` on an empty history. -/
def get_all_latest (s : State AccountId Moment) :
    Option (List (AccountId × (Moment × PerTenThousands))) :=
  (get_all s).mapM fun (account_id, changes) => changes.head?.map fun change => (account_id, change)

/-- `get_latest` -/
def get_latest (s : State AccountId Moment) (id : AccountId) : Option (Moment × PerTenThousands) :=
  (get s id).head?

/-- The dispatch of a call in a block of moment `current_moment`. -/
def dispatch (current_moment : Moment) (origin : RawOrigin AccountId) :
    Call → State AccountId Moment → Except DispatchError (State AccountId Moment)
  | .set_fee fee_numerator => set_fee T current_moment origin fee_numerator

/-- An extrinsic, a call with its origin in a block of the given moment. Extrinsics are
transactional: one that fails leaves the state as it was. -/
def apply_extrinsic (s : State AccountId Moment) (xt : Moment × RawOrigin AccountId × Call) :
    State AccountId Moment :=
  match dispatch T xt.1 xt.2.1 xt.2.2 s with
  | .ok s' => s'
  | .error _ => s

/-- The state after extrinsics, in order. -/
def run (s : State AccountId Moment) (xts : List (Moment × RawOrigin AccountId × Call)) :
    State AccountId Moment :=
  xts.foldl (apply_extrinsic T) s

/-- The empty storage of genesis. -/
def genesis : State AccountId Moment := ⟨SortedMap.empty⟩

/-! ## What the pallet is for -/

/-- The change an extrinsic makes to the fee of `a`, if `set_fee` accepts it: the call is signed
by `a` with a numerator of at most 10000. -/
def acceptedChange (a : AccountId) : Moment × RawOrigin AccountId × Call →
    Option (Moment × PerTenThousands)
  | (moment, .signed who, .set_fee fee_numerator) =>
    if who = a ∧ fee_numerator ≤ 10000 then some (moment, fee_numerator) else none
  | _ => none

/-- The changes of `a` accepted along the extrinsics, oldest first. -/
def acceptedChanges (a : AccountId) (xts : List (Moment × RawOrigin AccountId × Call)) :
    List (Moment × PerTenThousands) :=
  xts.filterMap (acceptedChange a)

/-! ## One call -/

/-- Cutting the older part of a list to `n` before cutting the whole to `n` changes nothing. -/
theorem take_append_take_self {α : Type} (l m : List α) (n : Nat) :
    (l ++ m.take n).take n = (l ++ m).take n := by
  simp [List.take_append, List.take_take]

/-- On a log of at most `HistoricalChangesPerProducer + 1` changes, `mutate` keeps the newest
`HistoricalChangesPerProducer + 1` of the log with the new change in front. -/
theorem push_fee_change_eq_take (change : Moment × PerTenThousands)
    {fees_log : List (Moment × PerTenThousands)}
    (h : fees_log.length ≤ T.HistoricalChangesPerProducer.toNat + 1) :
    push_fee_change T change fees_log =
      (change :: fees_log).take (T.HistoricalChangesPerProducer.toNat + 1) := by
  unfold push_fee_change
  split
  · -- a full log loses its oldest change
    rename_i hfull
    have hlen : fees_log.length = T.HistoricalChangesPerProducer.toNat + 1 := by omega
    rw [List.take_succ_cons, List.dropLast_eq_take, hlen]
    rfl
  · rw [List.take_of_length_le (by simp; omega)]

/-- A call that `set_fee` accepts: signed, with a numerator of at most 10000. -/
theorem apply_extrinsic_of_accepted (s : State AccountId Moment) (moment : Moment)
    (who : AccountId) {fee_numerator : PerTenThousands} (hfee : fee_numerator ≤ 10000) :
    apply_extrinsic T s (moment, .signed who, .set_fee fee_numerator) =
      ⟨s.FeesChanges.insert who (push_fee_change T (moment, fee_numerator) (get s who))⟩ := by
  have hnot : ¬fee_numerator > 10000 := UInt16.not_lt.mpr hfee
  simp [apply_extrinsic, dispatch, set_fee, ensure_signed, hnot, bind, Except.bind, pure,
    Except.pure]

/-- A call that `set_fee` rejects changes nothing. -/
theorem apply_extrinsic_of_rejected (s : State AccountId Moment)
    (xt : Moment × RawOrigin AccountId × Call)
    (h : ∀ who fee_numerator, xt.2 = (.signed who, .set_fee fee_numerator) →
      10000 < fee_numerator) :
    apply_extrinsic T s xt = s := by
  obtain ⟨moment, origin, call⟩ := xt
  cases call with
  | set_fee fee_numerator =>
    cases origin with
    | signed who =>
      have hfee : fee_numerator > 10000 := h who fee_numerator rfl
      simp [apply_extrinsic, dispatch, set_fee, ensure_signed, hfee, bind, Except.bind,
        throw, throwThe, MonadExceptOf.throw]
    | root => rfl
    | none => rfl

/-- The history of `a` after one extrinsic: its accepted change pushed in front, or as it was. -/
theorem get_apply_extrinsic (s : State AccountId Moment)
    (xt : Moment × RawOrigin AccountId × Call) (a : AccountId) :
    get (apply_extrinsic T s xt) a =
      ((acceptedChange a xt).map fun change => push_fee_change T change (get s a)).getD
        (get s a) := by
  obtain ⟨moment, origin, ⟨fee_numerator⟩⟩ := xt
  cases origin with
  | signed who =>
    by_cases hfee : fee_numerator ≤ 10000
    · rw [apply_extrinsic_of_accepted T s moment who hfee]
      by_cases hwho : who = a
      · subst hwho
        simp [get, acceptedChange, hfee]
      · simp [get, acceptedChange, hwho, Ne.symm hwho]
    · rw [apply_extrinsic_of_rejected T s _ fun _ _ h => by
        cases h
        exact UInt16.not_le.mp hfee]
      simp [acceptedChange, hfee]
  | root => rfl
  | none => rfl

/-! ## Runs -/

/-- The run lemma of a history: from a history of at most `HistoricalChangesPerProducer + 1`
changes, the history of `a` after a run is its accepted changes, newest first, in front of the
history it had, cut to `HistoricalChangesPerProducer + 1`. -/
theorem get_run (a : AccountId) :
    ∀ (xts : List (Moment × RawOrigin AccountId × Call)) (s : State AccountId Moment),
      (get s a).length ≤ T.HistoricalChangesPerProducer.toNat + 1 →
      get (run T s xts) a =
        ((acceptedChanges a xts).reverse ++ get s a).take (T.HistoricalChangesPerProducer.toNat + 1)
  | [], s, h => by simp [run, acceptedChanges, List.take_of_length_le h]
  | xt :: xts, s, h => by
    have hstep := get_apply_extrinsic T s xt a
    rw [show run T s (xt :: xts) = run T (apply_extrinsic T s xt) xts from rfl]
    cases hxt : acceptedChange a xt with
    | none =>
      -- the extrinsic leaves the history of `a` alone
      rw [hxt, Option.map_none, Option.getD_none] at hstep
      rw [get_run a xts _ (hstep ▸ h), hstep]
      simp only [acceptedChanges, List.filterMap_cons, hxt]
    | some change =>
      rw [hxt, Option.map_some, Option.getD_some, push_fee_change_eq_take T change h] at hstep
      have hbound : (get (apply_extrinsic T s xt) a).length ≤
          T.HistoricalChangesPerProducer.toNat + 1 := by
        rw [hstep]
        exact List.length_take_le _ _
      rw [get_run a xts _ hbound, hstep, take_append_take_self]
      simp [acceptedChanges, hxt]

/-- The storage never holds an empty history. -/
def NoEmptyHistory (s : State AccountId Moment) : Prop :=
  ∀ a changes, s.FeesChanges.lookup a = some changes → changes ≠ []

theorem noEmptyHistory_apply_extrinsic {s : State AccountId Moment} (hs : NoEmptyHistory s)
    (xt : Moment × RawOrigin AccountId × Call) : NoEmptyHistory (apply_extrinsic T s xt) := by
  obtain ⟨moment, origin, ⟨fee_numerator⟩⟩ := xt
  by_cases hacc : ∃ who, origin = .signed who ∧ fee_numerator ≤ 10000
  · obtain ⟨who, rfl, hfee⟩ := hacc
    rw [apply_extrinsic_of_accepted T s moment who hfee]
    intro a changes ha
    simp only [SortedMap.lookup_insert] at ha
    split at ha
    · cases ha
      simp [push_fee_change]
    · exact hs a changes ha
  · rw [apply_extrinsic_of_rejected T s _ fun who fee h => by
      cases h
      exact UInt16.not_le.mp fun hfee => hacc ⟨who, rfl, hfee⟩]
    exact hs

theorem noEmptyHistory_run :
    ∀ (xts : List (Moment × RawOrigin AccountId × Call)) (s : State AccountId Moment),
      NoEmptyHistory s → NoEmptyHistory (run T s xts)
  | [], _, hs => hs
  | xt :: xts, _, hs => noEmptyHistory_run xts _ (noEmptyHistory_apply_extrinsic T hs xt)

theorem noEmptyHistory_genesis : NoEmptyHistory (genesis : State AccountId Moment) :=
  fun _ _ h => nomatch h

/-- On a storage with no empty history, `get_all_latest` does not panic: it gives the newest
change of every producer that has one. -/
theorem get_all_latest_of_noEmptyHistory {s : State AccountId Moment} (hs : NoEmptyHistory s) :
    ∃ latest, get_all_latest s = some latest ∧
      ∀ a change, (a, change) ∈ latest ↔ get_latest s a = some change := by
  have hsome : ∀ entry ∈ get_all s,
      (entry.2.head?.map fun change => (entry.1, change)).isSome := by
    intro entry hentry
    have hne := hs entry.1 entry.2 ((s.FeesChanges.lookup_eq_some_iff).mpr hentry)
    cases hhead : entry.2 with
    | nil => exact absurd hhead hne
    | cons change rest => rfl
  refine ⟨_, option_mapM_eq_filterMap hsome, fun a change => ?_⟩
  rw [List.mem_filterMap]
  constructor
  · rintro ⟨⟨a', changes⟩, hentry, hmap⟩
    rw [Option.map_eq_some_iff] at hmap
    obtain ⟨change', hhead, hpair⟩ := hmap
    cases hpair
    rw [get_latest, get, (s.FeesChanges.lookup_eq_some_iff).mpr hentry]
    exact hhead
  · intro hlatest
    rw [get_latest, get] at hlatest
    cases hlookup : s.FeesChanges.lookup a with
    | none => simp [hlookup] at hlatest
    | some changes =>
      rw [hlookup, Option.getD_some] at hlatest
      exact ⟨(a, changes), (s.FeesChanges.lookup_eq_some_iff).mp hlookup, by simp [hlatest]⟩

/-- The history a producer has after any run of calls from genesis: its last
`HistoricalChangesPerProducer + 1` accepted changes, newest first, one more than the name of the
bound says. -/
theorem fee_history_keeps_latest_changes (xts : List (Moment × RawOrigin AccountId × Call))
    (a : AccountId) :
    get (run T genesis xts) a =
      (acceptedChanges a xts).reverse.take (T.HistoricalChangesPerProducer.toNat + 1) := by
  have h := get_run T a xts genesis (by simp [get, genesis])
  simpa [get, genesis] using h

/-- With a bound of one, a producer's three changes leave two in its history. -/
example : get (run ⟨1⟩ (genesis : State Nat Nat) [(0, .signed 7, .set_fee 10),
    (1, .signed 7, .set_fee 20), (2, .signed 7, .set_fee 30)]) 7 = [(2, 30), (1, 20)] := by
  decide

/-- Reading the latest fees after any run of calls from genesis never panics, and gives each
producer that ever had a change accepted its last accepted change. -/
theorem latest_fees_are_last_accepted (xts : List (Moment × RawOrigin AccountId × Call)) :
    ∃ latest, get_all_latest (run T genesis xts) = some latest ∧
      ∀ a change, (a, change) ∈ latest ↔ (acceptedChanges a xts).getLast? = some change := by
  obtain ⟨latest, hlatest, hmem⟩ :=
    get_all_latest_of_noEmptyHistory (noEmptyHistory_run T xts genesis noEmptyHistory_genesis)
  refine ⟨latest, hlatest, fun a change => ?_⟩
  -- the newest change kept is the newest accepted one
  have hget := get_run T a xts genesis (by simp [get, genesis])
  rw [show get (genesis : State AccountId Moment) a = [] from rfl, List.append_nil] at hget
  rw [hmem, get_latest, hget, List.head?_take, if_neg (Nat.succ_ne_zero _), List.head?_reverse]

end pallet_block_producer_fees
