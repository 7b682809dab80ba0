-- The committee inherent of `pallet_session_validator_management`
-- (toolkit/committee-selection/pallet/src/lib.rs): the block author builds the
-- `set` call with `create_inherent` after the hooks of its block have run,
-- and an importing node checks it with `check_inherent` in the parent state.
-- Both fall back to the same committee, so an honest block always passes.
import PartnerChains.CommitteeRotation

namespace pallet_session_validator_management

open sidechain_domain frame_support sp_session_validator_management partner_chains.runs

variable {T : Config}

/-- `Call<T>`. `set_main_chain_scripts` carries scripts that nothing here reads. -/
inductive Call (T : Config) where
  | set (validators : BoundedVec (CommitteeMemberOf T) T.MaxValidators)
      (for_epoch_number : UInt64) (selection_inputs_hash : SizedByteString 32)
  | set_main_chain_scripts

/-- `sp_session_validator_management::InherentError` -/
inductive InherentError where
  | InvalidValidators
  | CommitteeNeedsToBeStoredOneEpochInAdvance
  | InvalidValidatorsMatchingHash (hash : SizedByteString 32)
  | InvalidValidatorsHashMismatch (computed call : SizedByteString 32)
  deriving DecidableEq

/-! ## The inherent -/

section Inherent

/- What the inherent code reads from outside the pallet: `T::select_authorities`, the
decoding of the inherent data (`None` where either `expect` of the source panics), its SCALE
encoding and `blake2_256`. -/
variable {Input InherentData : Type}
  (select_authorities :
    Input → UInt64 → Option (BoundedVec (CommitteeMemberOf T) T.MaxValidators))
  (get_data : InherentData → Option Input) (encode : Input → List UInt8)
  (blake2_256 : List UInt8 → SizedByteString 32)

/-- `inherent_data_to_authority_selection_inputs`: the decoded inputs and the hash of their
encoding. -/
def inherent_data_to_authority_selection_inputs (data : InherentData) :
    Option (Input × SizedByteString 32) := do
  let decoded_data ← get_data data
  let data_hash := blake2_256 (encode decoded_data)
  return (decoded_data, data_hash)

/-- `ProvideInherent::create_inherent`, run after the hooks of the block. The outer `Option` is
a panic, the inner one the source's. Without a selected committee the call keeps the current
one. -/
def create_inherent (s : PalletState T) (data : InherentData) : Option (Option (Call T)) :=
  if s.NextCommittee.isSome then some none
  else do
    let for_epoch_number := s.CurrentCommittee.epoch + 1
    let (authority_selection_inputs, selection_inputs_hash) ←
      inherent_data_to_authority_selection_inputs get_data encode blake2_256 data
    match select_authorities authority_selection_inputs for_epoch_number with
    | some validators => return some (.set validators for_epoch_number selection_inputs_hash)
    | none =>
      let validators := s.CurrentCommittee.committee
      return some (.set validators for_epoch_number selection_inputs_hash)

/-- `ProvideInherent::check_inherent`, run in the parent state of the block, before its hooks.
Without a selected committee it expects the stored next committee, or the current one. -/
def check_inherent (s : PalletState T) (call : Call T) (data : InherentData) :
    Option (Except InherentError Unit) :=
  match call with
  | .set validators_param for_epoch_number_param call_selection_inputs_hash => do
    let (authority_selection_inputs, computed_selection_inputs_hash) ←
      inherent_data_to_authority_selection_inputs get_data encode blake2_256 data
    let validators :=
      (select_authorities authority_selection_inputs for_epoch_number_param).getD
        (s.NextCommittee.getD s.CurrentCommittee).committee
    if validators_param ≠ validators then
      if call_selection_inputs_hash = computed_selection_inputs_hash then
        return .error (.InvalidValidatorsMatchingHash computed_selection_inputs_hash)
      else
        return .error
          (.InvalidValidatorsHashMismatch computed_selection_inputs_hash call_selection_inputs_hash)
    return .ok ()
  | _ => some (.ok ())

/-- `ProvideInherent::is_inherent_required` -/
def is_inherent_required (s : PalletState T) : Option InherentError :=
  if s.NextCommittee.isNone then some .CommitteeNeedsToBeStoredOneEpochInAdvance else none

/-- With no next committee stored and decodable data, `create_inherent` builds the `set` call
for the next epoch, with the selected committee or else the current one. -/
theorem create_inherent_eq (s : PalletState T) (data : InherentData) (x : Input)
    (hn : s.NextCommittee = none) (hx : get_data data = some x) :
    create_inherent select_authorities get_data encode blake2_256 s data =
      some (some (.set ((select_authorities x (s.CurrentCommittee.epoch + 1)).getD
        s.CurrentCommittee.committee) (s.CurrentCommittee.epoch + 1) (blake2_256 (encode x)))) := by
  cases hsel : select_authorities x (s.CurrentCommittee.epoch + 1) <;>
    simp [create_inherent, hn, inherent_data_to_authority_selection_inputs, hx, hsel]

/-- `check_inherent` accepts a `set` call whose validators are those it computes. -/
theorem check_inherent_set_ok (s : PalletState T) (data : InherentData) (x : Input)
    (hx : get_data data = some x) (e : UInt64) (hash : SizedByteString 32) :
    check_inherent select_authorities get_data encode blake2_256 s
      (.set ((select_authorities x e).getD (s.NextCommittee.getD s.CurrentCommittee).committee)
        e hash) data = some (.ok ()) := by
  simp [check_inherent, inherent_data_to_authority_selection_inputs, hx]

end Inherent

/-! ## What the hooks do to the committees -/

/-- The hooks of a block either rotate to the stored next committee, or keep both
committees (the epoch of the current one may change). -/
def RotatedOrKept (s s' : PalletState T) : Prop :=
  (∃ n, s.NextCommittee = some n ∧ s'.CurrentCommittee.committee = n.committee ∧
    s'.NextCommittee = none) ∨
  (s'.CurrentCommittee.committee = s.CurrentCommittee.committee ∧
    s'.NextCommittee = s.NextCommittee)

theorem RotatedOrKept.refl (s : PalletState T) : RotatedOrKept s s := .inr ⟨rfl, rfl⟩

/-- Two rotations cannot follow each other: the first clears the next committee. -/
theorem RotatedOrKept.trans {s m s' : PalletState T} (h₁ : RotatedOrKept s m)
    (h₂ : RotatedOrKept m s') : RotatedOrKept s s' := by
  rcases h₁ with ⟨n, hn, hc, hm⟩ | ⟨hc, hm⟩
  · rcases h₂ with ⟨n', hn', -, -⟩ | ⟨hc', hm'⟩
    · rw [hm] at hn'; cases hn'
    · exact .inl ⟨n, hn, hc'.trans hc, hm'.trans hm⟩
  · rcases h₂ with ⟨n', hn', hc', hm'⟩ | ⟨hc', hm'⟩
    · exact .inl ⟨n', hm ▸ hn', hc', hm'⟩
    · exact .inr ⟨hc'.trans hc, hm'.trans hm⟩

/-- The fallback of `check_inherent` before the hooks is the fallback of `create_inherent`
after them. -/
theorem RotatedOrKept.fallback {s s' : PalletState T} (h : RotatedOrKept s s')
    (hn : s'.NextCommittee = none) :
    (s.NextCommittee.getD s.CurrentCommittee).committee = s'.CurrentCommittee.committee := by
  rcases h with ⟨n, hsn, hc, -⟩ | ⟨hc, hm⟩
  · rw [hsn, hc]; rfl
  · rw [← hm, hn, hc]; rfl

theorem new_session_rotatedOrKept (lk : T.AccountId → Option T.Keys) (s : PalletState T)
    (ns : NewSession T) (h : new_session lk s = some ns) : RotatedOrKept s ns.state := by
  by_cases hst : s.CommitteeRotationStage = .AdditionalSession
  · rw [new_session_additional lk s hst, Option.some.injEq] at h
    subst h
    exact .inr ⟨rfl, rfl⟩
  cases hn : s.NextCommittee with
  | none =>
    have := (new_session_isSome lk s).mp (by rw [h]; rfl)
    simp [hst, hn] at this
  | some next =>
    obtain ⟨provided, -, hns⟩ := new_session_rotate lk s next hst hn
    rw [hns, Option.some.injEq] at h
    subst h
    exact .inl ⟨next, hn, rfl, rfl⟩

/-- Every event but `set` rotates or keeps the committees. -/
theorem applyEvent_rotatedOrKept {r r' : Runtime T} {ev : Event T} (hev : ∀ c, ev ≠ .set c)
    (h : applyEvent r ev = some r') : RotatedOrKept r.pallet r'.pallet := by
  cases ev with
  | initialize_block e =>
    rw [applyEvent, Option.some.injEq] at h
    subst h
    exact .refl _
  | on_initialize =>
    rw [applyEvent, Option.some.injEq] at h
    subst h
    exact .inr ⟨by simp, by simp⟩
  | session_on_initialize lk =>
    rcases hsh : should_end_session r.current_epoch_number r.pallet with ⟨b, p⟩
    have hkeep : RotatedOrKept r.pallet p := by
      have hc := should_end_session_CurrentCommittee r.current_epoch_number r.pallet
      rcases should_end_session_cases r.current_epoch_number r.pallet with
        ⟨-, -, he⟩ | ⟨-, -, he⟩ | ⟨-, he⟩ <;>
      · simp only [hsh, Prod.mk.injEq] at he hc
        exact .inr ⟨by rw [hc], by first | rw [he.2] | rw [he]⟩
    simp only [applyEvent, hsh] at h
    cases b with
    | true =>
      obtain ⟨ns, hns, rfl⟩ := Option.map_eq_some_iff.mp h
      exact hkeep.trans (new_session_rotatedOrKept lk p ns hns)
    | false =>
      rw [if_neg (by simp), Option.some.injEq] at h
      subst h
      exact hkeep
  | new_session lk =>
    obtain ⟨ns, hns, rfl⟩ := Option.map_eq_some_iff.mp h
    exact new_session_rotatedOrKept lk r.pallet ns hns
  | set c => exact absurd rfl (hev c)

/-- The start of a block and its hooks rotate or keep the committees. -/
theorem hooks_rotatedOrKept (b : Block T) (r r' : Runtime T)
    (h : runAll applyEvent r (Event.initialize_block b.current_epoch_number :: b.hooks) =
      some r') : RotatedOrKept r.pallet r'.pallet := by
  refine runAll_preserves (fun t => RotatedOrKept r.pallet t.pallet) _ r r' ?_ (.refl _) h
  intro t ev t' hev ht hstep
  refine ht.trans (applyEvent_rotatedOrKept (fun c hc => ?_) hstep)
  subst hc
  simp only [List.mem_cons, Block.hooks] at hev
  split at hev <;> simp at hev

/-! ## Author and importer agree -/

section Agreement

variable {Input InherentData : Type}
  (select_authorities :
    Input → UInt64 → Option (BoundedVec (CommitteeMemberOf T) T.MaxValidators))
  (get_data : InherentData → Option Input) (encode : Input → List UInt8)
  (blake2_256 : List UInt8 → SizedByteString 32)

/-- Block producer and block verifier agree on the committee inherent. Let the start of a
block and its hooks take the runtime `r` to `r'`, with no next committee stored after them.
Then every call `create_inherent` makes in `r'` passes `check_inherent` in `r`, and the author
makes one whenever the inherent data decodes. -/
theorem create_check_inherent_agree (b : Block T) (r r' : Runtime T) (data : InherentData)
    (hhooks : runAll applyEvent r (Event.initialize_block b.current_epoch_number :: b.hooks) =
      some r')
    (hnext : r'.pallet.NextCommittee = none) :
    (∀ call, create_inherent select_authorities get_data encode blake2_256 r'.pallet data =
        some (some call) →
      check_inherent select_authorities get_data encode blake2_256 r.pallet call data =
        some (.ok ())) ∧
    ((get_data data).isSome →
      ∃ call, create_inherent select_authorities get_data encode blake2_256 r'.pallet data =
        some (some call)) := by
  have hrel := hooks_rotatedOrKept b r r' hhooks
  refine ⟨fun call hcall => ?_, fun hd => ?_⟩
  · -- the call is `set` with the committee the importer computes
    cases hx : get_data data with
    | none => simp [create_inherent, hnext, inherent_data_to_authority_selection_inputs, hx] at hcall
    | some x =>
      rw [create_inherent_eq select_authorities get_data encode blake2_256 _ data x hnext hx,
        Option.some.injEq, Option.some.injEq] at hcall
      subst hcall
      rw [← hrel.fallback hnext]
      exact check_inherent_set_ok select_authorities get_data encode blake2_256 _ data x hx _ _
  · obtain ⟨x, hx⟩ := Option.isSome_iff_exists.mp hd
    exact ⟨_, create_inherent_eq select_authorities get_data encode blake2_256 _ data x hnext hx⟩

end Agreement

/-- A selection that never finds a committee, the data as the inputs themselves, a one-byte
encoding and a constant hash. -/
def noSelection (_ : Nat) (_ : UInt64) :
    Option (BoundedVec (CommitteeMemberOf natConfig) natConfig.MaxValidators) := none

def natEncode (n : Nat) : List UInt8 := [n.toUInt8]

def constHash (_ : List UInt8) : SizedByteString 32 :=
  ⟨List.replicate 32 0, FixedBytes.length_zeros_32⟩

/-- Block 1, in epoch 3, after a genesis committee of one member: both sides fall back to the
genesis committee. -/
theorem create_check_inherent_agree_block_one :
    ∃ r r', genesis [(.Permissioned (1 : Nat) (1 : Nat) : CommitteeMemberOf natConfig)] = some r ∧
      runAll applyEvent r (Event.initialize_block (3 : UInt64) ::
        (⟨3, false, fun _ => none, []⟩ : Block natConfig).hooks) = some r' ∧
      r'.pallet.NextCommittee = none ∧
      (∀ call, create_inherent noSelection id natEncode constHash r'.pallet (some 7) =
          some (some call) →
        check_inherent noSelection id natEncode constHash r.pallet call (some 7) =
          some (.ok ())) ∧
      ((id (some 7)).isSome →
        ∃ call, create_inherent noSelection id natEncode constHash r'.pallet (some 7) =
          some (some call)) :=
  ⟨_, _, rfl, rfl, rfl, create_check_inherent_agree noSelection id natEncode constHash
    ⟨3, false, fun _ => none, []⟩ _ _ (some 7) rfl rfl⟩

end pallet_session_validator_management
