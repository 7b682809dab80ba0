-- The provider counts the pallet raises and lowers for the accounts of its
-- committees (`provide_account` / `unprovide_account` in
-- pallet_session_support.rs). Along any run, `ProvidedAccounts` is the set
-- of accounts of the current committee, the pallet's net count is 1 exactly
-- for them, and every decrement meets a count the pallet raised before.
import PartnerChains.CommitteeRotation

namespace pallet_session_validator_management

open frame_support sp_session_validator_management partner_chains.runs

variable {T : Config}

/-- What a call adds to the pallet's provider count of account `a`. -/
def ExternalCall.providerDelta (a : T.AccountId) : ExternalCall T → Int
  | .inc_providers b => if b = a then 1 else 0
  | .dec_providers b => if b = a then -1 else 0
  | .purge_keys _ => 0
  | .set_keys _ _ => 0

/-- The net number of `inc_providers` minus `dec_providers` the pallet made for `a`. -/
def providerBalance (calls : List (ExternalCall T)) (a : T.AccountId) : Int :=
  (calls.map (·.providerDelta a)).sum

@[simp] theorem providerBalance_nil (a : T.AccountId) :
    providerBalance ([] : List (ExternalCall T)) a = 0 := rfl

@[simp] theorem providerBalance_append (xs ys : List (ExternalCall T)) (a : T.AccountId) :
    providerBalance (xs ++ ys) a = providerBalance xs a + providerBalance ys a := by
  simp [providerBalance]

@[simp] theorem providerBalance_cons (c : ExternalCall T) (cs : List (ExternalCall T))
    (a : T.AccountId) :
    providerBalance (c :: cs) a = c.providerDelta a + providerBalance cs a := by
  simp [providerBalance]

/-- Run from the balances `b`, every `dec_providers` meets a balance of 1. -/
def DecsBalanced : (T.AccountId → Int) → List (ExternalCall T) → Prop
  | _, [] => True
  | b, c :: cs => (∀ a, c = .dec_providers a → b a = 1) ∧
      DecsBalanced (fun a => b a + c.providerDelta a) cs

theorem decsBalanced_append (b : T.AccountId → Int) (xs ys : List (ExternalCall T)) :
    DecsBalanced b (xs ++ ys) ↔
      DecsBalanced b xs ∧ DecsBalanced (fun a => b a + providerBalance xs a) ys := by
  induction xs generalizing b with
  | nil => simp [DecsBalanced]
  | cons c cs ih =>
    simp only [List.cons_append, DecsBalanced, ih, providerBalance_cons, and_assoc]
    simp only [Int.add_assoc]

/-- The running form and the prefix form of "every decrement meets a count of 1". -/
theorem decsBalanced_iff_forall_dec (b : T.AccountId → Int) (calls : List (ExternalCall T)) :
    DecsBalanced b calls ↔
      ∀ pre a rest, calls = pre ++ .dec_providers a :: rest → b a + providerBalance pre a = 1 := by
  induction calls generalizing b with
  | nil => simp [DecsBalanced]
  | cons c cs ih =>
    simp only [DecsBalanced, ih]
    constructor
    · rintro ⟨hc, hcs⟩ pre a rest h
      cases pre with
      | nil =>
        simp only [List.nil_append, List.cons.injEq] at h
        simpa using hc a h.1
      | cons p pre =>
        simp only [List.cons_append, List.cons.injEq] at h
        obtain ⟨rfl, h⟩ := h
        have := hcs pre a rest h
        simp only [providerBalance_cons]
        omega
    · intro h
      refine ⟨fun a hc => by simpa using h [] a cs (by simp [hc]), fun pre a rest hpre => ?_⟩
      have := h (c :: pre) a rest (by simp [hpre])
      simp only [providerBalance_cons] at this
      omega

/-- Calls with no `dec_providers` never break the balance rule. -/
theorem decsBalanced_of_no_dec (b : T.AccountId → Int) (calls : List (ExternalCall T))
    (h : ∀ a, .dec_providers a ∉ calls) : DecsBalanced b calls := by
  induction calls generalizing b with
  | nil => trivial
  | cons c cs ih =>
    refine ⟨fun a hc => absurd (hc ▸ List.mem_cons_self) (h a), ih _ fun a ha => ?_⟩
    exact h a (List.mem_cons_of_mem c ha)

/-! ## The calls of one `new_session` -/

/-- The member loop only raises counts: once for each account of the new committee that it
meets first and that the old committee did not have. -/
theorem foldl_provideMember_calls (lk : T.AccountId → Option T.Keys) (old : Finset T.AccountId) :
    ∀ (c : List (CommitteeMemberOf T)) (acc : Finset T.AccountId × List (ExternalCall T)),
      ∃ extra, (c.foldl (provideMember lk old) acc).2 = acc.2 ++ extra ∧
        (∀ a, .dec_providers a ∉ extra) ∧
        ∀ a, providerBalance extra a =
          if a ∈ committeeAccounts c ∧ a ∉ acc.1 ∧ a ∉ old then 1 else 0
  | [], acc => ⟨[], by simp, by simp, by simp [committeeAccounts]⟩
  | m :: c, acc => by
    rw [List.foldl_cons]
    by_cases hm : accountOf m ∈ acc.1
    · -- an account seen before: the loop moves on
      have hstep : provideMember lk old acc m = acc := by simp [provideMember, hm]
      obtain ⟨extra, he, hdec, hbal⟩ := foldl_provideMember_calls lk old c acc
      refine ⟨extra, by rw [hstep, he], hdec, fun a => ?_⟩
      rw [hbal a]
      by_cases ha : a = accountOf m
      · subst ha; simp [hm]
      · simp [mem_committeeAccounts, ha, eq_comm]
    · -- a new account: provided unless the old committee had it, keys set if they differ
      obtain ⟨extra, he, hdec, hbal⟩ :=
        foldl_provideMember_calls lk old c (provideMember lk old acc m)
      set keys : List (ExternalCall T) :=
        if lk (accountOf m) ≠ some (T.into_keys m.authority_keys) then
          [.purge_keys (accountOf m), .set_keys (accountOf m) m.authority_keys]
        else [] with hkeys
      set provided : List (ExternalCall T) :=
        if accountOf m ∈ old then [] else [.inc_providers (accountOf m)] with hprovided
      have hstep : provideMember lk old acc m =
          (insert (accountOf m) acc.1, acc.2 ++ provided ++ keys) := by
        simp [provideMember, hm, hkeys, hprovided]
      have hkeys_bal : ∀ a, providerBalance keys a = 0 := by
        intro a; rw [hkeys]; split <;> simp [ExternalCall.providerDelta]
      have hkeys_dec : ∀ a, .dec_providers a ∉ keys := by
        intro a; rw [hkeys]; split <;> simp
      have hprov_bal : ∀ a, providerBalance provided a =
          if a = accountOf m ∧ accountOf m ∉ old then 1 else 0 := by
        intro a; rw [hprovided]
        by_cases ho : accountOf m ∈ old
        · simp [ho]
        · by_cases ha : a = accountOf m
          · simp [ho, ha, ExternalCall.providerDelta]
          · simp [ho, ha, ExternalCall.providerDelta, Ne.symm ha]
      have hprov_dec : ∀ a, .dec_providers a ∉ provided := by
        intro a; rw [hprovided]; split <;> simp
      refine ⟨provided ++ keys ++ extra, by rw [he, hstep]; simp, fun a h => ?_, fun a => ?_⟩
      · simp only [List.mem_append] at h
        exact h.elim (fun h => h.elim (hprov_dec a) (hkeys_dec a)) (hdec a)
      · rw [hstep] at hbal
        simp only [providerBalance_append, hprov_bal, hkeys_bal, hbal, Finset.mem_insert]
        by_cases ha : a = accountOf m
        · subst ha; simp [hm, mem_committeeAccounts]
        · simp [ha, mem_committeeAccounts, eq_comm]

/-- Calls made once for each account of a duplicate-free list, those for `x` moving the count
of `x` alone, by `d`. -/
theorem providerBalance_flatMap (l : List T.AccountId) (hl : l.Nodup)
    (f : T.AccountId → List (ExternalCall T)) (d : Int)
    (hf : ∀ x a, providerBalance (f x) a = if x = a then d else 0) (a : T.AccountId) :
    providerBalance (l.flatMap f) a = if a ∈ l then d else 0 := by
  induction l with
  | nil => simp
  | cons x l ih =>
    rw [List.nodup_cons] at hl
    rw [List.flatMap_cons, providerBalance_append, ih hl.2, hf]
    by_cases hx : x = a
    · subst hx; simp [hl.1]
    · simp [hx, Ne.symm hx]

theorem release_list_decs (l : List T.AccountId) (hl : l.Nodup) :
    ∀ b : T.AccountId → Int, (∀ a ∈ l, b a = 1) →
      DecsBalanced b (l.flatMap fun x => [.purge_keys x, .dec_providers x]) := by
  induction l with
  | nil => intro b _; trivial
  | cons x l ih =>
    intro b hb
    rw [List.nodup_cons] at hl
    simp only [List.flatMap_cons, List.cons_append, List.nil_append, DecsBalanced]
    refine ⟨fun a h => (nomatch h), fun a h => ?_, ?_⟩
    · -- the one decrement of `x` meets its count of 1; the purge before it changes nothing
      cases h
      simpa [ExternalCall.providerDelta] using hb x List.mem_cons_self
    · refine ih hl.2 _ fun a ha => ?_
      have hax : x ≠ a := fun h => hl.1 (h ▸ ha)
      simp [ExternalCall.providerDelta, hax, hb a (List.mem_cons_of_mem x ha)]

theorem releaseCalls_balance (S : Finset T.AccountId) (a : T.AccountId) :
    providerBalance (releaseCalls S) a = if a ∈ S then -1 else 0 := by
  have hf : ∀ x b : T.AccountId,
      providerBalance [.purge_keys x, .dec_providers x] b = if x = b then -1 else 0 := by
    intro x b; by_cases h : x = b <;> simp [ExternalCall.providerDelta, h]
  rw [releaseCalls, providerBalance_flatMap _ (Finset.sort_nodup _ _) _ (-1) hf]
  simp

theorem releaseCalls_decs (S : Finset T.AccountId) (b : T.AccountId → Int)
    (hb : ∀ a ∈ S, b a = 1) : DecsBalanced b (releaseCalls S) :=
  release_list_decs _ (Finset.sort_nodup _ _) b fun a ha => hb a ((Finset.mem_sort _).mp ha)

/-! ## The invariant -/

/-- The provided-accounts invariant: the provided accounts are those of the current committee,
the pallet's net provider count is 1 exactly for them, and every decrement so far met a count
of 1. -/
structure ProvidedInv (r : Runtime T) : Prop where
  provided_eq :
    r.pallet.ProvidedAccounts.val = committeeAccounts r.pallet.CurrentCommittee.committee.val
  balance : ∀ a, providerBalance r.issued a = if a ∈ r.pallet.ProvidedAccounts.val then 1 else 0
  decs : DecsBalanced (fun _ => 0) r.issued

/-- A step that keeps the provided accounts, the members of the current committee and the
calls keeps the invariant. -/
theorem ProvidedInv.frame {r r' : Runtime T} (hi : ProvidedInv r)
    (hp : r'.pallet.ProvidedAccounts = r.pallet.ProvidedAccounts)
    (hc : r'.pallet.CurrentCommittee.committee = r.pallet.CurrentCommittee.committee)
    (hs : r'.issued = r.issued) : ProvidedInv r' where
  provided_eq := by rw [hp, hc]; exact hi.provided_eq
  balance := by rw [hs, hp]; exact hi.balance
  decs := by rw [hs]; exact hi.decs

theorem providedInv_genesis (initial_authorities : List (CommitteeMemberOf T)) (r : Runtime T)
    (h : genesis initial_authorities = some r) : ProvidedInv r := by
  obtain ⟨r₀, hr₀, -, -, -, hprov, -, -, hissued, hcom⟩ := genesis_eq initial_authorities
  rw [h, Option.some.injEq] at hr₀
  subst hr₀
  have hf : ∀ x a, providerBalance [ExternalCall.inc_providers (T := T) x] a =
      if x = a then 1 else 0 := by
    intro x a; by_cases hx : x = a <;> simp [ExternalCall.providerDelta, hx]
  refine ⟨by rw [hprov, hcom], fun a => ?_, ?_⟩
  · rw [hissued, List.map_eq_flatMap, providerBalance_flatMap _ (Finset.sort_nodup _ _) _ 1 hf,
      hprov]
    simp only [Finset.mem_sort]
  · rw [hissued]
    exact decsBalanced_of_no_dec _ _ fun a => by simp

/-- `new_session` from a state with the provided accounts and current committee of `r`. -/
theorem providedInv_afterNewSession (lk : T.AccountId → Option T.Keys) (r : Runtime T)
    (p : PalletState T) (ns : NewSession T) (hi : ProvidedInv r)
    (hp : p.ProvidedAccounts = r.pallet.ProvidedAccounts)
    (hc : p.CurrentCommittee = r.pallet.CurrentCommittee) (h : new_session lk p = some ns) :
    ProvidedInv (r.afterNewSession ns) := by
  by_cases hst : p.CommitteeRotationStage = .AdditionalSession
  · -- an additional session calls nothing
    rw [new_session_additional lk p hst, Option.some.injEq] at h
    subst h
    exact hi.frame hp (by simp [Runtime.afterNewSession, hc]) (by simp [Runtime.afterNewSession])
  cases hn : p.NextCommittee with
  | none =>
    have := (new_session_isSome lk p).mp (by rw [h]; rfl)
    simp [hst, hn] at this
  | some next =>
    obtain ⟨provided, hprov, hns⟩ := new_session_rotate lk p next hst hn
    rw [hns, Option.some.injEq] at h
    subst h
    obtain ⟨extra, he, hdec, hbal⟩ :=
      foldl_provideMember_calls lk p.ProvidedAccounts.val next.committee.val (∅, [])
    set old := p.ProvidedAccounts.val with hold
    set new := committeeAccounts next.committee.val with hnew
    have hold_bal : ∀ a, providerBalance r.issued a = if a ∈ old then 1 else 0 := by
      rw [hold, hp]; exact hi.balance
    refine ⟨by simp [Runtime.afterNewSession, hprov, hnew], fun a => ?_, ?_⟩
    · -- old count + the loop's raise - the release: 1 exactly for the new committee
      simp only [Runtime.afterNewSession, providerBalance_append, he, List.nil_append, hbal,
        releaseCalls_balance, hold_bal, hprov, Finset.mem_sdiff, Finset.notMem_empty]
      by_cases ho : a ∈ old <;> by_cases hn : a ∈ new <;> simp [ho, hn]
    · simp only [Runtime.afterNewSession, decsBalanced_append, he, List.nil_append]
      refine ⟨hi.decs, decsBalanced_of_no_dec _ _ hdec, releaseCalls_decs _ _ fun a ha => ?_⟩
      -- a released account still has the count its old committee gave it
      rw [Finset.mem_sdiff] at ha
      simp [hold_bal, hbal, ha.1, ha.2]

/-- Every event keeps the invariant. -/
theorem providedInv_step (r r' : Runtime T) (ev : Event T) (hi : ProvidedInv r)
    (h : applyEvent r ev = some r') : ProvidedInv r' := by
  cases ev with
  | initialize_block e =>
    rw [applyEvent, Option.some.injEq] at h
    subst h
    exact hi.frame rfl rfl rfl
  | on_initialize =>
    rw [applyEvent, Option.some.injEq] at h
    subst h
    exact hi.frame (by simp) (by simp) rfl
  | session_on_initialize lk =>
    rcases hsh : should_end_session r.current_epoch_number r.pallet with ⟨b, p⟩
    have hp : p.ProvidedAccounts = r.pallet.ProvidedAccounts := by
      simpa [hsh] using should_end_session_ProvidedAccounts r.current_epoch_number r.pallet
    have hc : p.CurrentCommittee = r.pallet.CurrentCommittee := by
      simpa [hsh] using should_end_session_CurrentCommittee r.current_epoch_number r.pallet
    simp only [applyEvent, hsh] at h
    cases b with
    | true =>
      obtain ⟨ns, hns, rfl⟩ := Option.map_eq_some_iff.mp h
      exact providedInv_afterNewSession lk r p ns hi hp hc hns
    | false =>
      rw [if_neg (by simp), Option.some.injEq] at h
      subst h
      exact hi.frame hp (by rw [hc]) rfl
  | new_session lk =>
    obtain ⟨ns, hns, rfl⟩ := Option.map_eq_some_iff.mp h
    exact providedInv_afterNewSession lk r r.pallet ns hi rfl rfl hns
  | set c =>
    simp only [applyEvent] at h
    split at h
    · rename_i p hp
      rw [Option.some.injEq] at h
      subst h
      obtain ⟨-, -, rfl⟩ := set_ok hp
      exact hi.frame rfl rfl rfl
    · rw [Option.some.injEq] at h
      subst h
      exact hi

/-- Provider reference-count balance. After genesis and any sequence of events that does not
panic, `ProvidedAccounts` is the set of accounts of the current committee, the pallet's net
provider count is 1 for these accounts and 0 for every other, and each `dec_providers` it
issued met a count of 1 that it had raised itself. -/
theorem provided_accounts_balanced (initial_authorities : List (CommitteeMemberOf T))
    (events : List (Event T)) (r : Runtime T)
    (hr : (genesis initial_authorities).bind (fun r₀ => runAll applyEvent r₀ events) = some r) :
    r.pallet.ProvidedAccounts.val = committeeAccounts r.pallet.CurrentCommittee.committee.val ∧
    (∀ a, providerBalance r.issued a = if a ∈ r.pallet.ProvidedAccounts.val then 1 else 0) ∧
    ∀ pre a rest, r.issued = pre ++ .dec_providers a :: rest → providerBalance pre a = 1 := by
  obtain ⟨r₀, hr₀, hrun⟩ := Option.bind_eq_some_iff.mp hr
  have hi : ProvidedInv r :=
    runAll_preserves ProvidedInv events r₀ r (fun t _ t' _ ht hstep => providedInv_step t t' _ ht hstep)
      (providedInv_genesis initial_authorities r₀ hr₀) hrun
  refine ⟨hi.provided_eq, hi.balance, fun pre a rest he => ?_⟩
  have := (decsBalanced_iff_forall_dec _ _).mp hi.decs pre a rest he
  simpa using this

/-- Block 1 of epoch 1 stores the committee of account 2 for epoch 2; the session hook of
block 2 rotates to it, releasing account 1 and providing account 2. -/
def handoverEvents : List (Event natConfig) :=
  [.initialize_block 1, Event.on_initialize,
   .set ⟨.none, ⟨[.Permissioned (2 : Nat) (2 : Nat)], by decide⟩, 2, ⟨List.replicate 32 0, sidechain_domain.FixedBytes.length_zeros_32⟩⟩,
   .initialize_block 2, Event.session_on_initialize fun _ => none]

theorem provided_accounts_balanced_handover :
    ∃ r, (genesis [(.Permissioned (1 : Nat) (1 : Nat) : CommitteeMemberOf natConfig)]).bind
        (fun r₀ => runAll applyEvent r₀ handoverEvents) = some r ∧
      r.pallet.ProvidedAccounts.val = committeeAccounts r.pallet.CurrentCommittee.committee.val ∧
      (∀ a, providerBalance r.issued a = if a ∈ r.pallet.ProvidedAccounts.val then 1 else 0) ∧
      ∀ pre a rest, r.issued = pre ++ .dec_providers a :: rest → providerBalance pre a = 1 := by
  obtain ⟨r, hr⟩ := Option.isSome_iff_exists.mp
    (show ((genesis [(.Permissioned (1 : Nat) (1 : Nat) : CommitteeMemberOf natConfig)]).bind
      (fun r₀ => runAll applyEvent r₀ handoverEvents)).isSome by decide)
  exact ⟨r, hr, provided_accounts_balanced _ _ r hr⟩

end pallet_session_validator_management
