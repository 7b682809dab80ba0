-- `SessionManager` and `ShouldEndSession` for the pallet
-- (toolkit/committee-selection/pallet/src/pallet_session_support.rs). A
-- session ends in the first block of an epoch whose committee is stored, and
-- once more right after, so that `pallet_session` applies the new committee.
import PartnerChains.CommitteePallet

namespace pallet_session_validator_management

open frame_support sp_session_validator_management

variable {T : Config}

/-- `ShouldEndSession::should_end_session`: the answer, and the state with the new
rotation stage. -/
def should_end_session (current_epoch_number : UInt64) (s : PalletState T) :
    Bool × PalletState T :=
  let current_committee_epoch := s.CurrentCommittee.epoch
  let next_committee_is_defined := (next_committee s).isSome
  if current_epoch_number > current_committee_epoch then
    if next_committee_is_defined then
      (true, { s with CommitteeRotationStage := .NewSessionDueEpochChange })
    else (false, s)
  else if s.CommitteeRotationStage = .NewSessionDueEpochChange then
    (true, { s with CommitteeRotationStage := .AdditionalSession })
  else (false, s)

/-- One turn of the loop over the new committee in `new_session`: an account seen for the
first time is provided unless the old committee had it, and gets its keys set when
`pallet_session` holds other keys for it. The accumulator holds `new_committee_accounts`
and the calls made so far. -/
def provideMember (load_keys : T.AccountId → Option T.Keys)
    (old_committee_accounts : Finset T.AccountId)
    (acc : Finset T.AccountId × List (ExternalCall T)) (member : CommitteeMemberOf T) :
    Finset T.AccountId × List (ExternalCall T) :=
  let account := accountOf member
  if account ∈ acc.1 then acc
  else
    let provided := if account ∈ old_committee_accounts then [] else [.inc_providers account]
    let new_keys := member.authority_keys
    let current_keys := load_keys account
    let keys := if current_keys ≠ some (T.into_keys new_keys) then
        [.purge_keys account, .set_keys account new_keys]
      else []
    (insert account acc.1, acc.2 ++ provided ++ keys)

/-- The calls for the accounts of the old committee that left it: `purge_keys`, then
`unprovide_account`, in the order of the `BTreeSet`. -/
def releaseCalls (released : Finset T.AccountId) : List (ExternalCall T) :=
  (released.sort (· ≤ ·)).flatMap fun account => [.purge_keys account, .dec_providers account]

/-- What `new_session` leaves: the pallet state, the calls it made, and the validators it
plans for `pallet_session`. -/
structure NewSession (T : Config) where
  state : PalletState T
  calls : List (ExternalCall T)
  validators : List T.AccountId

/-- `SessionManager::new_session`. An additional session only moves the stage on;
otherwise the committee rotates and the provided accounts follow it. `None` when an
`expect` or `unwrap` of the source panics. -/
def new_session (load_keys : T.AccountId → Option T.Keys) (s : PalletState T) :
    Option (NewSession T) :=
  if s.CommitteeRotationStage = .AdditionalSession then
    some ⟨{ s with CommitteeRotationStage := .AwaitEpochChange }, [],
      s.CurrentCommittee.committee.val.map accountOf⟩
  else do
    -- `rotate_committee_to_next_epoch().expect(..)`
    let (new_committee, s₁) ← rotate_committee_to_next_epoch s
    -- `ProvidedAccounts::take()`
    let old_committee_accounts := s₁.ProvidedAccounts.val
    let (new_committee_accounts, calls) :=
      new_committee.foldl (provideMember load_keys old_committee_accounts) (∅, [])
    let calls := calls ++ releaseCalls (old_committee_accounts \ new_committee_accounts)
    -- `new_committee_accounts.try_into().unwrap()`
    let provided ← BoundedBTreeSet.try_from new_committee_accounts
    return ⟨{ s₁ with ProvidedAccounts := provided }, calls, new_committee.map accountOf⟩

/-! ## The loop over the new committee -/

/-- The accounts the loop has seen are those of the members it went through. -/
theorem foldl_provideMember_fst (load_keys : T.AccountId → Option T.Keys)
    (old : Finset T.AccountId) (c : List (CommitteeMemberOf T))
    (acc : Finset T.AccountId × List (ExternalCall T)) :
    (c.foldl (provideMember load_keys old) acc).1 = acc.1 ∪ committeeAccounts c := by
  induction c generalizing acc with
  | nil => simp [committeeAccounts]
  | cons m c ih =>
    rw [List.foldl_cons, ih]
    ext a
    simp only [provideMember, Finset.mem_union, mem_committeeAccounts, List.mem_cons]
    split
    · rename_i hm
      constructor
      · rintro (h | ⟨m', hm', rfl⟩)
        · exact .inl h
        · exact .inr ⟨m', .inr hm', rfl⟩
      · rintro (h | ⟨m', rfl | hm', rfl⟩)
        · exact .inl h
        · exact .inl hm
        · exact .inr ⟨m', hm', rfl⟩
    · simp only [Finset.mem_insert]
      constructor
      · rintro ((rfl | h) | ⟨m', hm', rfl⟩)
        · exact .inr ⟨m, .inl rfl, rfl⟩
        · exact .inl h
        · exact .inr ⟨m', .inr hm', rfl⟩
      · rintro (h | ⟨m', rfl | hm', rfl⟩)
        · exact .inl (.inr h)
        · exact .inl (.inl rfl)
        · exact .inr ⟨m', hm', rfl⟩

/-- The set of new committee accounts is the set of accounts of the new committee. -/
theorem new_committee_accounts_eq (load_keys : T.AccountId → Option T.Keys)
    (old : Finset T.AccountId) (c : List (CommitteeMemberOf T)) :
    (c.foldl (provideMember load_keys old) (∅, [])).1 = committeeAccounts c := by
  rw [foldl_provideMember_fst]
  simp

/-! ## What a session change does -/

theorem should_end_session_cases (E : UInt64) (s : PalletState T) :
    (E > s.CurrentCommittee.epoch ∧ s.NextCommittee.isSome ∧
      should_end_session E s =
        (true, { s with CommitteeRotationStage := .NewSessionDueEpochChange })) ∨
    (¬ E > s.CurrentCommittee.epoch ∧
      s.CommitteeRotationStage = .NewSessionDueEpochChange ∧
      should_end_session E s = (true, { s with CommitteeRotationStage := .AdditionalSession })) ∨
    (should_end_session E s).1 = false ∧ (should_end_session E s).2 = s := by
  unfold should_end_session
  by_cases hE : E > s.CurrentCommittee.epoch
  · by_cases hn : s.NextCommittee.isSome
    · exact .inl ⟨hE, hn, by simp [hE, hn]⟩
    · exact .inr (.inr (by simp [hE, hn]))
  · by_cases hst : s.CommitteeRotationStage = .NewSessionDueEpochChange
    · exact .inr (.inl ⟨hE, hst, by simp [hE, hst]⟩)
    · exact .inr (.inr (by simp [hE, hst]))

/-- `should_end_session` only moves the rotation stage. -/
@[simp] theorem should_end_session_ProvidedAccounts (E : UInt64) (s : PalletState T) :
    (should_end_session E s).2.ProvidedAccounts = s.ProvidedAccounts := by
  rcases should_end_session_cases E s with ⟨-, -, he⟩ | ⟨-, -, he⟩ | ⟨-, he⟩ <;> rw [he]

@[simp] theorem should_end_session_CurrentCommittee (E : UInt64) (s : PalletState T) :
    (should_end_session E s).2.CurrentCommittee = s.CurrentCommittee := by
  rcases should_end_session_cases E s with ⟨-, -, he⟩ | ⟨-, -, he⟩ | ⟨-, he⟩ <;> rw [he]

/-- `new_session` in an additional session: the stage moves on, nothing else changes. -/
theorem new_session_additional (load_keys : T.AccountId → Option T.Keys) (s : PalletState T)
    (h : s.CommitteeRotationStage = .AdditionalSession) :
    new_session load_keys s = some ⟨{ s with CommitteeRotationStage := .AwaitEpochChange }, [],
      s.CurrentCommittee.committee.val.map accountOf⟩ := by
  simp [new_session, h]

/-- `new_session` with a stored next committee: the committee rotates, the provided accounts
become those of the new committee, and the calls are those of the member loop followed by
the releases. -/
theorem new_session_rotate (load_keys : T.AccountId → Option T.Keys) (s : PalletState T)
    (next : CommitteeInfo T) (h : s.CommitteeRotationStage ≠ .AdditionalSession)
    (hn : s.NextCommittee = some next) :
    ∃ provided : BoundedBTreeSet T.AccountId T.MaxValidators,
      provided.val = committeeAccounts next.committee.val ∧
      new_session load_keys s = some
        ⟨{ s with NextCommittee := none, CurrentCommittee := next, ProvidedAccounts := provided },
         (next.committee.val.foldl (provideMember load_keys s.ProvidedAccounts.val) (∅, [])).2 ++
           releaseCalls (s.ProvidedAccounts.val \ committeeAccounts next.committee.val),
         next.committee.val.map accountOf⟩ := by
  have hcard : (committeeAccounts next.committee.val).card ≤ T.MaxValidators :=
    (card_committeeAccounts_le _).trans next.committee.bound
  refine ⟨⟨_, hcard⟩, rfl, ?_⟩
  simp only [new_session, h, if_false, rotate_eq_some hn, bind, Option.bind_some]
  rw [new_committee_accounts_eq, BoundedBTreeSet.try_from_of_card_le hcard]
  rfl

/-- `new_session` panics only when it has to rotate and no next committee is stored. -/
theorem new_session_isSome (load_keys : T.AccountId → Option T.Keys) (s : PalletState T) :
    (new_session load_keys s).isSome ↔
      s.CommitteeRotationStage = .AdditionalSession ∨ s.NextCommittee.isSome := by
  by_cases h : s.CommitteeRotationStage = .AdditionalSession
  · simp [new_session_additional _ _ h, h]
  · cases hn : s.NextCommittee with
    | none => simp [new_session, h, rotate_committee_to_next_epoch, hn]
    | some next =>
      obtain ⟨_, _, he⟩ := new_session_rotate load_keys s next h hn
      simp [he]

end pallet_session_validator_management
