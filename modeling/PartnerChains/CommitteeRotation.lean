-- The pallet inside the chain: its hooks, the `set` inherent and
-- `pallet_session`'s block hook, block after block, with the epoch clock
-- `T::current_epoch_number()`. The rotation invariant holds after every step
-- of every run whose clock does not go back.
import PartnerChains.SessionSupport
import PartnerChains.Lib.Runs

namespace pallet_session_validator_management

open sidechain_domain frame_support frame_system sp_session_validator_management partner_chains.runs

variable {T : Config}

/-- The chain as the pallet sees it: its storage, the epoch clock, the block number, and the
calls it made into `frame_system` and `pallet_session`, oldest first. -/
structure Runtime (T : Config) where
  pallet : PalletState T
  /-- `T::current_epoch_number()` -/
  current_epoch_number : UInt64
  /-- `frame_system::Pallet::block_number()` -/
  block_number : Nat
  issued : List (ExternalCall T)

/-- A `set` call, with any origin and any arguments. -/
structure SetCall (T : Config) where
  origin : RawOrigin T.AccountId
  validators : BoundedVec (CommitteeMemberOf T) T.MaxValidators
  for_epoch_number : UInt64
  selection_inputs_hash : SizedByteString 32

/-- What can happen to the pallet. `load_keys` stands for the keys `pallet_session` holds
at that moment. -/
inductive Event (T : Config) where
  /-- A new block starts, in epoch `current_epoch_number`. -/
  | initialize_block (current_epoch_number : UInt64)
  /-- The pallet's `on_initialize` hook. -/
  | on_initialize
  /-- `pallet_session`'s `on_initialize`: `should_end_session`, and `rotate_session`, which
  calls `new_session`, when it answers `true`. -/
  | session_on_initialize (load_keys : T.AccountId → Option T.Keys)
  /-- A direct call of `new_session`. -/
  | new_session (load_keys : T.AccountId → Option T.Keys)
  | set (call : SetCall T)

/-- The runtime after `new_session` returned. -/
def Runtime.afterNewSession (r : Runtime T) (ns : NewSession T) : Runtime T :=
  { r with pallet := ns.state, issued := r.issued ++ ns.calls }

/-- One event. `None` is a panic; a call that fails is rolled back and changes nothing. -/
def applyEvent (r : Runtime T) : Event T → Option (Runtime T)
  | .initialize_block e =>
    some { r with current_epoch_number := e, block_number := r.block_number + 1 }
  | Event.on_initialize =>
    some { r with pallet := Hooks.on_initialize r.current_epoch_number r.block_number r.pallet }
  | Event.session_on_initialize load_keys =>
    let (end_session, p) := should_end_session r.current_epoch_number r.pallet
    if end_session then
      (new_session load_keys p).map fun ns => r.afterNewSession ns
    else some { r with pallet := p }
  | .new_session load_keys => (new_session load_keys r.pallet).map fun ns => r.afterNewSession ns
  | .set c =>
    match set c.origin c.validators c.for_epoch_number c.selection_inputs_hash r.pallet with
    | .ok p => some { r with pallet := p }
    | .error _ => some r

/-- The chain right after genesis: block 0, epoch 0. -/
def genesis (initial_authorities : List (CommitteeMemberOf T)) : Option (Runtime T) :=
  (GenesisConfig.build initial_authorities).map fun (p, calls) => ⟨p, 0, 0, calls⟩

/-- A block: its epoch, the order of the two `on_initialize` hooks (the order of the pallets
in `construct_runtime!`), the keys `pallet_session` holds, and its `set` calls. -/
structure Block (T : Config) where
  current_epoch_number : UInt64
  session_first : Bool
  load_keys : T.AccountId → Option T.Keys
  inherents : List (SetCall T)

/-- The hooks of a block, in the order of the runtime. -/
def Block.hooks (b : Block T) : List (Event T) :=
  if b.session_first then [Event.session_on_initialize b.load_keys, Event.on_initialize]
  else [Event.on_initialize, Event.session_on_initialize b.load_keys]

/-- The events of a block: the block starts, the hooks run, then its extrinsics. -/
def Block.events (b : Block T) : List (Event T) :=
  .initialize_block b.current_epoch_number :: (b.hooks ++ b.inherents.map .set)

/-! ## Genesis -/

theorem genesis_eq (initial_authorities : List (CommitteeMemberOf T)) :
    ∃ r, genesis initial_authorities = some r ∧
      r.pallet.CurrentCommittee.epoch = 0 ∧ r.pallet.NextCommittee = none ∧
      r.pallet.CommitteeRotationStage = .AwaitEpochChange ∧
      r.pallet.ProvidedAccounts.val =
        committeeAccounts (initial_authorities.take T.MaxValidators) ∧
      r.current_epoch_number = 0 ∧ r.block_number = 0 ∧
      r.issued = ((committeeAccounts (initial_authorities.take T.MaxValidators)).sort
        (· ≤ ·)).map .inc_providers ∧
      r.pallet.CurrentCommittee.committee.val = initial_authorities.take T.MaxValidators := by
  have hcard : (committeeAccounts (initial_authorities.take T.MaxValidators)).card ≤
      T.MaxValidators :=
    (card_committeeAccounts_le _).trans (List.length_take_le _ _)
  simp only [genesis, GenesisConfig.build, BoundedVec.truncate_from_val]
  rw [BoundedBTreeSet.try_from_of_card_le hcard]
  exact ⟨_, rfl, rfl, rfl, rfl, rfl, rfl, rfl, rfl, rfl⟩

/-! ## What each event does -/

/-- Epoch arithmetic: the epoch after an epoch that is behind the clock is not ahead of it;
`+ 1` cannot wrap there. -/
theorem epoch_succ_le_of_lt {a b : UInt64} (h : a < b) : a + 1 ≤ b := by
  rw [UInt64.lt_iff_toNat_lt] at h
  have hb := b.toNat_lt_size
  rw [UInt64.le_iff_toNat_le, UInt64.toNat_add]
  simp only [UInt64.toNat_one, UInt64.size] at hb ⊢
  omega

/-- Only the start of a block moves the clock and the block number. -/
theorem applyEvent_frame {r r' : Runtime T} {ev : Event T}
    (hev : ∀ e, ev ≠ .initialize_block e) (h : applyEvent r ev = some r') :
    r'.current_epoch_number = r.current_epoch_number ∧ r'.block_number = r.block_number := by
  cases ev with
  | initialize_block e => exact absurd rfl (hev e)
  | on_initialize => simp only [applyEvent, Option.some.injEq] at h; subst h; simp
  | session_on_initialize lk =>
    simp only [applyEvent] at h
    split at h
    · obtain ⟨ns, -, rfl⟩ := Option.map_eq_some_iff.mp h
      simp [Runtime.afterNewSession]
    · cases h; simp
  | new_session lk =>
    obtain ⟨ns, -, rfl⟩ := Option.map_eq_some_iff.mp h
    simp [Runtime.afterNewSession]
  | set c =>
    simp only [applyEvent] at h
    split at h <;> cases h <;> simp

/-- (d) `new_session` is entered only after `should_end_session` answered `true`. Then
either the stage is `AdditionalSession`, or a next committee is stored and
`rotate_committee_to_next_epoch` returns it, so the `expect` of `new_session` never fires. -/
theorem rotate_isSome_of_should_end_session (E : UInt64) (p : PalletState T)
    (h : (should_end_session E p).1 = true)
    (hs : (should_end_session E p).2.CommitteeRotationStage ≠ .AdditionalSession) :
    (rotate_committee_to_next_epoch (should_end_session E p).2).isSome := by
  rcases should_end_session_cases E p with ⟨-, hn, he⟩ | ⟨-, -, he⟩ | ⟨hf, -⟩
  · rw [he, rotate_isSome]; exact hn
  · rw [he] at hs; exact absurd rfl hs
  · rw [hf] at h; cases h

/-! ## The rotation invariant -/

/-- Parts (a), (b) and (c) of the invariant: a stored next committee is for the epoch after
the current one, the current committee is not ahead of the clock, and no step leaves the
stage at `AdditionalSession`. -/
structure RotationInv (r : Runtime T) : Prop where
  next_epoch : ∀ n, r.pallet.NextCommittee = some n →
    n.epoch = r.pallet.CurrentCommittee.epoch + 1
  current_le : r.pallet.CurrentCommittee.epoch ≤ r.current_epoch_number
  not_additional : r.pallet.CommitteeRotationStage ≠ .AdditionalSession

/-- Between blocks also: before block 1 no committee waits for the next epoch, so the hook
of block 1 may move the current committee to the clock. -/
structure BoundaryInv (r : Runtime T) : Prop extends RotationInv r where
  genesis_next : r.block_number = 0 → r.pallet.NextCommittee = none

theorem boundaryInv_genesis (initial_authorities : List (CommitteeMemberOf T)) :
    ∃ r, genesis initial_authorities = some r ∧ BoundaryInv r := by
  obtain ⟨r, hr, he, hn, hst, -, hc, -, -⟩ := genesis_eq initial_authorities
  refine ⟨r, hr, ⟨⟨?_, ?_, ?_⟩, fun _ => hn⟩⟩
  · intro n h; rw [hn] at h; cases h
  · rw [he]; exact UInt64.zero_le
  · rw [hst]; simp

theorem rotationInv_initialize_block (r : Runtime T) (e : UInt64) (hi : RotationInv r)
    (he : r.current_epoch_number ≤ e) :
    RotationInv { r with current_epoch_number := e, block_number := r.block_number + 1 } :=
  ⟨hi.next_epoch, UInt64.le_trans hi.current_le he, hi.not_additional⟩

/-- The hook of block 1 sets the epoch of the genesis committee; no next committee is stored
yet at that point. -/
theorem rotationInv_hook (r : Runtime T) (hi : RotationInv r)
    (h1 : r.block_number = 1 → r.pallet.NextCommittee = none) :
    RotationInv
      { r with pallet := Hooks.on_initialize r.current_epoch_number r.block_number r.pallet } := by
  unfold Hooks.on_initialize
  by_cases hb : r.block_number = 1
  · have hn := h1 hb
    simp only [hb, if_true]
    refine ⟨?_, UInt64.le_refl _, hi.not_additional⟩
    intro n h
    rw [hn] at h; cases h
  · simp only [hb, if_false]
    exact hi

/-- The session hook keeps the invariant and never panics: it either rotates to the stored
next committee, whose epoch is behind the clock, or ends the additional session, or does
nothing. -/
theorem rotationInv_session (lk : T.AccountId → Option T.Keys) (r : Runtime T)
    (hi : RotationInv r) :
    ∃ r', applyEvent r (Event.session_on_initialize lk) = some r' ∧ RotationInv r' ∧
      (r.pallet.NextCommittee = none → r'.pallet.NextCommittee = none) := by
  rcases hsh : should_end_session r.current_epoch_number r.pallet with ⟨b, p⟩
  have happly : applyEvent r (Event.session_on_initialize lk) =
      if b then (new_session lk p).map r.afterNewSession else some { r with pallet := p } := by
    simp only [applyEvent, hsh]
  rw [happly]
  rcases should_end_session_cases r.current_epoch_number r.pallet with
    ⟨hE, hn, he⟩ | ⟨-, -, he⟩ | ⟨hf, hs⟩
  · -- the epoch moved on and a next committee is stored: rotate to it
    rw [hsh] at he
    obtain ⟨rfl, hp⟩ := Prod.mk.inj he
    obtain ⟨next, hnext⟩ := Option.isSome_iff_exists.mp hn
    have hpn : p.NextCommittee = some next := by rw [hp]; exact hnext
    obtain ⟨provided, -, hns⟩ := new_session_rotate lk p next (by rw [hp]; simp) hpn
    rw [if_pos rfl, hns, Option.map_some]
    refine ⟨_, rfl, ⟨?_, ?_, ?_⟩, fun h => ?_⟩
    · intro n h; simp [Runtime.afterNewSession] at h
    · simp only [Runtime.afterNewSession]
      rw [hi.next_epoch next hnext]
      exact epoch_succ_le_of_lt hE
    · simp [Runtime.afterNewSession, hp]
    · rw [hnext] at h; cases h
  · -- the session after the rotation: end the additional session
    rw [hsh] at he
    obtain ⟨rfl, hp⟩ := Prod.mk.inj he
    rw [if_pos rfl, new_session_additional lk p (by rw [hp]), Option.map_some]
    refine ⟨_, rfl, ⟨?_, ?_, ?_⟩, fun h => ?_⟩
    · simpa [Runtime.afterNewSession, hp] using hi.next_epoch
    · simpa [Runtime.afterNewSession, hp] using hi.current_le
    · simp [Runtime.afterNewSession]
    · simpa [Runtime.afterNewSession, hp] using h
  · rw [hsh] at hf hs
    simp only at hf hs
    subst hf hs
    exact ⟨r, by simp, hi, id⟩

/-- A `set` that succeeds stores the committee for the epoch after the current one; one that
fails is rolled back. -/
theorem rotationInv_set (c : SetCall T) (r : Runtime T) (hi : RotationInv r) :
    ∃ r', applyEvent r (.set c) = some r' ∧ RotationInv r' := by
  simp only [applyEvent]
  split
  · rename_i p hp
    obtain ⟨-, he, rfl⟩ := set_ok hp
    refine ⟨_, rfl, ?_, hi.current_le, hi.not_additional⟩
    intro n h
    simp only [Option.some.injEq] at h
    rw [← h]
    exact he
  · exact ⟨r, rfl, hi⟩

/-! ## A block -/

@[simp] theorem on_initialize_NextCommittee (E : UInt64) (n : Nat) (p : PalletState T) :
    (Hooks.on_initialize E n p).NextCommittee = p.NextCommittee := by
  unfold Hooks.on_initialize; split <;> rfl

/-- Within the hooks of a block: the invariant, the clock of the block, and no next committee
in block 1 until its hooks are over. -/
structure HookInv (E : UInt64) (r : Runtime T) : Prop extends RotationInv r where
  clock : r.current_epoch_number = E
  started : 1 ≤ r.block_number
  first_block : r.block_number = 1 → r.pallet.NextCommittee = none

/-- After the hooks, while the extrinsics of the block run. -/
structure CallInv (E : UInt64) (r : Runtime T) : Prop extends RotationInv r where
  clock : r.current_epoch_number = E
  started : 1 ≤ r.block_number

/-- Each hook keeps `HookInv`, in either order. -/
theorem hookInv_step (E : UInt64) (r : Runtime T) (ev : Event T) (hi : HookInv E r)
    (hev : ev = Event.on_initialize ∨ ∃ lk, ev = Event.session_on_initialize lk) :
    ∃ r', applyEvent r ev = some r' ∧ HookInv E r' := by
  rcases hev with rfl | ⟨lk, rfl⟩
  · refine ⟨_, rfl, ⟨rotationInv_hook r hi.toRotationInv hi.first_block, hi.clock,
      hi.started, ?_⟩⟩
    simpa using hi.first_block
  · obtain ⟨r', hr', hinv, hnone⟩ := rotationInv_session lk r hi.toRotationInv
    obtain ⟨hc, hb⟩ := applyEvent_frame (fun e h => by cases h) hr'
    exact ⟨r', hr', ⟨hinv, hc.trans hi.clock, hb ▸ hi.started,
      fun h => hnone (hi.first_block (hb ▸ h))⟩⟩

theorem callInv_step (E : UInt64) (r : Runtime T) (c : SetCall T) (hi : CallInv E r) :
    ∃ r', applyEvent r (.set c) = some r' ∧ CallInv E r' := by
  obtain ⟨r', hr', hinv⟩ := rotationInv_set c r hi.toRotationInv
  obtain ⟨hc, hb⟩ := applyEvent_frame (fun e h => by cases h) hr'
  exact ⟨r', hr', ⟨hinv, hc.trans hi.clock, hb ▸ hi.started⟩⟩

/-- The hooks of a block keep `HookInv` after each of them. -/
theorem hooks_run (b : Block T) (r : Runtime T) (hi : HookInv b.current_epoch_number r) :
    (∀ k, ∃ r', runAll applyEvent r (b.hooks.take k) = some r' ∧
      HookInv b.current_epoch_number r') ∧
    ∃ r', runAll applyEvent r b.hooks = some r' ∧ HookInv b.current_epoch_number r' := by
  let adm : Runtime T → Event T → Prop := fun _ ev =>
    ev = Event.on_initialize ∨ ∃ lk, ev = Event.session_on_initialize lk
  have hadm : Admitted applyEvent adm r b.hooks := by
    apply admitted_of_forall
    intro _ ev hev
    unfold Block.hooks at hev
    split at hev <;> simp only [List.mem_cons, List.not_mem_nil, or_false] at hev <;>
      rcases hev with rfl | rfl <;> simp [adm]
  have hstep : ∀ s ev, HookInv b.current_epoch_number s → adm s ev →
      ∃ s', applyEvent s ev = some s' ∧ HookInv b.current_epoch_number s' :=
    fun s ev hs hev => hookInv_step _ s ev hs hev
  exact ⟨runAll_take_inv _ adm hstep b.hooks r hi hadm,
    runAll_inv _ adm hstep b.hooks r hi hadm⟩

/-- The `set` calls of a block keep `CallInv` after each of them. -/
theorem calls_run (E : UInt64) (cs : List (SetCall T)) (r : Runtime T) (hi : CallInv E r) :
    (∀ k, ∃ r', runAll applyEvent r ((cs.map .set).take k) = some r' ∧ CallInv E r') ∧
    ∃ r', runAll applyEvent r (cs.map .set) = some r' ∧ CallInv E r' := by
  let adm : Runtime T → Event T → Prop := fun _ ev => ∃ c, ev = .set c
  have hadm : Admitted applyEvent adm r (cs.map .set) := by
    apply admitted_of_forall
    intro _ ev hev
    obtain ⟨c, -, rfl⟩ := List.mem_map.mp hev
    exact ⟨c, rfl⟩
  have hstep : ∀ s ev, CallInv E s → adm s ev → ∃ s', applyEvent s ev = some s' ∧ CallInv E s' := by
    rintro s ev hs ⟨c, rfl⟩
    exact callInv_step E s c hs
  exact ⟨runAll_take_inv _ adm hstep _ r hi hadm, runAll_inv _ adm hstep _ r hi hadm⟩

/-- One block, from a boundary state and with a clock that does not go back: every step
keeps the rotation invariant, none panics, and the block ends at its own epoch. -/
theorem block_inv (b : Block T) (r : Runtime T) (hi : BoundaryInv r)
    (hclock : r.current_epoch_number ≤ b.current_epoch_number) :
    (∀ k, ∃ r', runAll applyEvent r (b.events.take k) = some r' ∧ RotationInv r') ∧
    ∃ r', runAll applyEvent r b.events = some r' ∧ BoundaryInv r' ∧
      r'.current_epoch_number = b.current_epoch_number := by
  let r₁ : Runtime T :=
    { r with current_epoch_number := b.current_epoch_number, block_number := r.block_number + 1 }
  have h₁ : HookInv b.current_epoch_number r₁ :=
    ⟨rotationInv_initialize_block r _ hi.toRotationInv hclock, rfl, by simp [r₁],
      fun h => hi.genesis_next (by simpa [r₁] using h)⟩
  have hstart : runAll applyEvent r [.initialize_block b.current_epoch_number] = some r₁ := rfl
  obtain ⟨hhooks, r₂, hr₂, h₂⟩ := hooks_run b r₁ h₁
  obtain ⟨hcalls, r₃, hr₃, h₃⟩ := calls_run b.current_epoch_number b.inherents r₂
    ⟨h₂.toRotationInv, h₂.clock, h₂.started⟩
  have hevents : b.events =
      [.initialize_block b.current_epoch_number] ++ (b.hooks ++ b.inherents.map .set) := rfl
  refine ⟨?_, r₃, ?_, ⟨h₃.toRotationInv, fun h => absurd h (by have := h₃.started; omega)⟩,
    h₃.clock⟩
  · intro k
    rw [hevents]
    refine runAll_take_append RotationInv _ _ r ?_ ?_ k
    · intro j
      cases j with
      | zero => exact ⟨r, rfl, hi.toRotationInv⟩
      | succ j => exact ⟨r₁, by simp [r₁, applyEvent], h₁.toRotationInv⟩
    · intro s hs j
      rw [hstart] at hs; cases hs
      refine runAll_take_append RotationInv _ _ r₁ ?_ ?_ j
      · intro i
        obtain ⟨s', hs', hinv⟩ := hhooks i
        exact ⟨s', hs', hinv.toRotationInv⟩
      · intro s hs i
        rw [hr₂] at hs; cases hs
        obtain ⟨s', hs', hinv⟩ := hcalls i
        exact ⟨s', hs', hinv.toRotationInv⟩
  · rw [hevents, runAll_append, hstart, Option.bind_some, runAll_append, hr₂, Option.bind_some,
      hr₃]

/-! ## Runs of blocks -/

/-- Blocks whose epochs do not go back are admitted one after the other. -/
theorem admitted_of_pairwise :
    ∀ (bs : List (Block T)) (r : Runtime T),
      (∀ b ∈ bs, r.current_epoch_number ≤ b.current_epoch_number) →
      (bs.map (·.current_epoch_number)).Pairwise (· ≤ ·) → BoundaryInv r →
      Admitted (fun s b => runAll applyEvent s b.events)
        (fun s b => BoundaryInv s ∧ s.current_epoch_number ≤ b.current_epoch_number) r bs
  | [], _, _, _, _ => trivial
  | b :: bs, r, hle, hpw, hi => by
    rw [List.map_cons, List.pairwise_cons] at hpw
    refine ⟨⟨hi, hle b List.mem_cons_self⟩, fun r' hr' => ?_⟩
    obtain ⟨-, r'', hr'', hi'', hc''⟩ := block_inv b r hi (hle b List.mem_cons_self)
    simp only at hr'
    rw [hr'', Option.some.injEq] at hr'
    subst hr'
    refine admitted_of_pairwise bs r'' (fun b' hb' => ?_) hpw.2 hi''
    rw [hc'']
    exact hpw.1 _ (List.mem_map_of_mem hb')

/-- The committee-rotation invariant. From genesis, along any run of blocks whose epoch clock
does not go back, after every step (a) a stored next committee is for the epoch after the
current one, (b) the current committee is not ahead of the clock, (c) the rotation stage is
never `AdditionalSession`, and (d) where `new_session` would be entered with another stage,
`rotate_committee_to_next_epoch` returns a committee; no step panics. -/
theorem committee_rotation_invariant (initial_authorities : List (CommitteeMemberOf T))
    (blocks : List (Block T))
    (hmono : (blocks.map (·.current_epoch_number)).Pairwise (· ≤ ·)) (k : Nat) :
    ∃ r₀ r, genesis initial_authorities = some r₀ ∧
      runAll applyEvent r₀ ((blocks.flatMap Block.events).take k) = some r ∧
      (∀ n, r.pallet.NextCommittee = some n → n.epoch = r.pallet.CurrentCommittee.epoch + 1) ∧
      r.pallet.CurrentCommittee.epoch ≤ r.current_epoch_number ∧
      r.pallet.CommitteeRotationStage ≠ .AdditionalSession ∧
      ((should_end_session r.current_epoch_number r.pallet).1 = true →
        (should_end_session r.current_epoch_number r.pallet).2.CommitteeRotationStage ≠
          .AdditionalSession →
        (rotate_committee_to_next_epoch
          (should_end_session r.current_epoch_number r.pallet).2).isSome) := by
  obtain ⟨r₀, hr₀, hi₀⟩ := boundaryInv_genesis initial_authorities
  have hclock₀ : r₀.current_epoch_number = 0 := by
    obtain ⟨r, hr, -, -, -, -, hc, -⟩ := genesis_eq initial_authorities
    rw [hr₀] at hr; cases hr; exact hc
  have hadm := admitted_of_pairwise blocks r₀
    (fun b _ => by rw [hclock₀]; exact UInt64.zero_le) hmono hi₀
  obtain ⟨r, hr, hinv⟩ := runAll_flatMap_take Block.events BoundaryInv RotationInv
    (fun s b => BoundaryInv s ∧ s.current_epoch_number ≤ b.current_epoch_number)
    (fun s b _ hadm => by
      obtain ⟨hpre, r', hr', hi', -⟩ := block_inv b s hadm.1 hadm.2
      exact ⟨hpre, r', hr', hi'⟩)
    (fun s hs => hs.toRotationInv) blocks r₀ hi₀ hadm k
  exact ⟨r₀, r, hr₀, hr, hinv.next_epoch, hinv.current_le, hinv.not_additional,
    rotate_isSome_of_should_end_session _ _⟩

/-- A runtime with numbers for ids, keys and accounts, and at most four validators. -/
def natConfig : Config where
  AuthorityId := Nat
  AuthorityKeys := Nat
  AccountId := Nat
  Keys := Nat
  MaxValidators := 4
  into_account := id
  into_keys := id

/-- Two blocks of epochs 3 and 5 after a genesis committee of one member. -/
def twoBlocks : List (Block natConfig) :=
  [⟨3, false, fun _ => none, []⟩, ⟨5, true, fun _ => none, []⟩]

theorem committee_rotation_invariant_two_blocks :
    (twoBlocks.map (·.current_epoch_number)).Pairwise (· ≤ ·) ∧
    ∃ r₀ r, genesis [(.Permissioned (1 : Nat) (1 : Nat) : CommitteeMemberOf natConfig)] = some r₀ ∧
      runAll applyEvent r₀ ((twoBlocks.flatMap Block.events).take 4) = some r ∧
      (∀ n, r.pallet.NextCommittee = some n → n.epoch = r.pallet.CurrentCommittee.epoch + 1) ∧
      r.pallet.CurrentCommittee.epoch ≤ r.current_epoch_number ∧
      r.pallet.CommitteeRotationStage ≠ .AdditionalSession ∧
      ((should_end_session r.current_epoch_number r.pallet).1 = true →
        (should_end_session r.current_epoch_number r.pallet).2.CommitteeRotationStage ≠
          .AdditionalSession →
        (rotate_committee_to_next_epoch
          (should_end_session r.current_epoch_number r.pallet).2).isSome) :=
  ⟨by decide, committee_rotation_invariant _ twoBlocks (by decide) 4⟩

end pallet_session_validator_management
