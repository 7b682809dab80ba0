-- The storage and the entry points of `pallet_session_validator_management`
-- (toolkit/committee-selection/pallet/src/lib.rs): the genesis build, the
-- `on_initialize` hook, the `set` inherent and the committee rotation. The
-- runtime's `Config` gives the types and the conversions the pallet uses.
import Mathlib
import PartnerChains.Domain
import PartnerChains.Lib.Frame

namespace sp_session_validator_management

open sidechain_domain

/-- `CommitteeMember<AuthorityId, AuthorityKeys>`. -/
inductive CommitteeMember (AuthorityId AuthorityKeys : Type) where
  | Permissioned (id : AuthorityId) (keys : AuthorityKeys)
  | Registered (id : AuthorityId) (keys : AuthorityKeys) (stake_pool_pub_key : StakePoolPublicKey)
  deriving DecidableEq

namespace CommitteeMember

variable {AuthorityId AuthorityKeys : Type}

def authority_id : CommitteeMember AuthorityId AuthorityKeys → AuthorityId
  | Permissioned id _ => id
  | Registered id _ _ => id

def authority_keys : CommitteeMember AuthorityId AuthorityKeys → AuthorityKeys
  | Permissioned _ keys => keys
  | Registered _ keys _ => keys

end CommitteeMember

end sp_session_validator_management

namespace pallet_session_validator_management

open sidechain_domain frame_support frame_system sp_session_validator_management

/-- The part of the runtime's `Config` that the pallet reads: its types, `MaxValidators`, and
the conversions `AuthorityId: Into<AccountId>` and `Keys: From<AuthorityKeys>`. -/
structure Config where
  AuthorityId : Type
  AuthorityKeys : Type
  AccountId : Type
  /-- `<T as pallet_session::Config>::Keys` -/
  Keys : Type
  MaxValidators : Nat
  into_account : AuthorityId → AccountId
  into_keys : AuthorityKeys → Keys
  [authorityIdEq : DecidableEq AuthorityId]
  [authorityKeysEq : DecidableEq AuthorityKeys]
  [keysEq : DecidableEq Keys]
  [accountOrd : LinearOrder AccountId]

attribute [instance] Config.authorityIdEq Config.authorityKeysEq Config.keysEq Config.accountOrd

-- What `Finset.sort` asks of the order of accounts, stated once for every configuration, so
-- that each sort of accounts (the iteration order of a `BTreeSet`) cites these names.
instance Config.accountIsTrans (T : Config) : IsTrans T.AccountId (· ≤ ·) := inferInstance

instance Config.accountAntisymm (T : Config) : Std.Antisymm (α := T.AccountId) (· ≤ ·) :=
  inferInstance

instance Config.accountTotal (T : Config) : Std.Total (α := T.AccountId) (· ≤ ·) := inferInstance

variable {T : Config}

/-- `CommitteeMemberOf<T>` -/
abbrev CommitteeMemberOf (T : Config) := CommitteeMember T.AuthorityId T.AuthorityKeys

/-- `CommitteeInfoOf<T>`: a committee and the epoch it is selected for. Epochs are `u64`
values; `+` wraps, as in a release build of the runtime. -/
structure CommitteeInfo (T : Config) where
  epoch : UInt64
  committee : BoundedVec (CommitteeMemberOf T) T.MaxValidators

/-- `CommitteeRotationStages` -/
inductive CommitteeRotationStages where
  | AwaitEpochChange
  | NewSessionDueEpochChange
  | AdditionalSession
  deriving DecidableEq

/-- The storage of the pallet that its session logic reads and writes. -/
structure PalletState (T : Config) where
  ProvidedAccounts : BoundedBTreeSet T.AccountId T.MaxValidators
  CurrentCommittee : CommitteeInfo T
  NextCommittee : Option (CommitteeInfo T)
  CommitteeRotationStage : CommitteeRotationStages

/-- The calls the pallet makes into `frame_system` and `pallet_session` for an account. -/
inductive ExternalCall (T : Config) where
  /-- `frame_system::Pallet::inc_providers`, from `provide_account` -/
  | inc_providers (account : T.AccountId)
  /-- `frame_system::Pallet::dec_providers`, from `unprovide_account` -/
  | dec_providers (account : T.AccountId)
  /-- `pallet_session::Call::purge_keys` -/
  | purge_keys (account : T.AccountId)
  /-- `pallet_session::Call::set_keys` -/
  | set_keys (account : T.AccountId) (keys : T.AuthorityKeys)

/-- The account of a committee member: `member.authority_id().into()`. -/
def accountOf (m : CommitteeMemberOf T) : T.AccountId := T.into_account m.authority_id

/-- The accounts of a committee, as a set. -/
def committeeAccounts (c : List (CommitteeMemberOf T)) : Finset T.AccountId :=
  (c.map accountOf).toFinset

@[simp] theorem mem_committeeAccounts (c : List (CommitteeMemberOf T)) (a : T.AccountId) :
    a ∈ committeeAccounts c ↔ ∃ m ∈ c, accountOf m = a := by
  simp [committeeAccounts]

theorem card_committeeAccounts_le (c : List (CommitteeMemberOf T)) :
    (committeeAccounts c).card ≤ c.length :=
  (List.toFinset_card_le _).trans (by simp)

/-! ## Genesis -/

/-- `GenesisConfig::build`: the truncated initial committee for epoch 0, its accounts
provided, and the provider counts raised once per account. `None` when the `unwrap` of the
bounded set panics. -/
def GenesisConfig.build (initial_authorities : List (CommitteeMemberOf T)) :
    Option (PalletState T × List (ExternalCall T)) :=
  let initial : BoundedVec (CommitteeMemberOf T) T.MaxValidators :=
    BoundedVec.truncate_from initial_authorities
  let provided_accounts := committeeAccounts initial.val
  (BoundedBTreeSet.try_from provided_accounts).map fun provided =>
    ({ ProvidedAccounts := provided
       CurrentCommittee := ⟨0, initial⟩
       NextCommittee := none
       CommitteeRotationStage := .AwaitEpochChange },
     (provided_accounts.sort (· ≤ ·)).map .inc_providers)

/-! ## Hooks and calls -/

/-- `Hooks::on_initialize`: block 1 takes the genesis committee for the current epoch. -/
def Hooks.on_initialize (current_epoch_number : UInt64) (block_nr : Nat) (s : PalletState T) :
    PalletState T :=
  if block_nr = 1 then
    { s with CurrentCommittee := { s.CurrentCommittee with epoch := current_epoch_number } }
  else s

/-- The hook only sets the epoch of the current committee. -/
@[simp] theorem on_initialize_ProvidedAccounts (E : UInt64) (n : Nat) (s : PalletState T) :
    (Hooks.on_initialize E n s).ProvidedAccounts = s.ProvidedAccounts := by
  unfold Hooks.on_initialize; split <;> rfl

@[simp] theorem on_initialize_committee (E : UInt64) (n : Nat) (s : PalletState T) :
    (Hooks.on_initialize E n s).CurrentCommittee.committee = s.CurrentCommittee.committee := by
  unfold Hooks.on_initialize; split <;> rfl

/-- `DispatchError`, with the pallet's `Error<T>` as `Module` errors. -/
inductive DispatchError where
  | BadOrigin
  /-- `Error::InvalidEpoch` -/
  | InvalidEpoch
  /-- `Error::NextCommitteeAlreadySet` -/
  | NextCommitteeAlreadySet
  deriving DecidableEq

/-- `ensure_none` -/
def ensure_none {AccountId : Type} : RawOrigin AccountId → Except DispatchError Unit
  | .none => .ok ()
  | _ => .error .BadOrigin

/-- `Pallet::set`: stores the committee for the epoch after the current one, once. -/
def set (origin : RawOrigin T.AccountId)
    (validators : BoundedVec (CommitteeMemberOf T) T.MaxValidators)
    (for_epoch_number : UInt64) (_selection_inputs_hash : SizedByteString 32)
    (s : PalletState T) : Except DispatchError (PalletState T) := do
  ensure_none origin
  let expected_epoch_number := s.CurrentCommittee.epoch + 1
  if for_epoch_number ≠ expected_epoch_number then throw .InvalidEpoch
  if s.NextCommittee.isSome then throw .NextCommitteeAlreadySet
  return { s with NextCommittee := some ⟨for_epoch_number, validators⟩ }

/-- `Pallet::next_committee`: the ids of the next committee, if one is stored. -/
def next_committee (s : PalletState T) : Option (BoundedVec T.AuthorityId T.MaxValidators) :=
  s.NextCommittee.map fun n => BoundedVec.truncate_from (n.committee.val.map (·.authority_id))

/-- `Pallet::rotate_committee_to_next_epoch`: moves `NextCommittee` into
`CurrentCommittee` and returns its members. -/
def rotate_committee_to_next_epoch (s : PalletState T) :
    Option (List (CommitteeMemberOf T) × PalletState T) :=
  s.NextCommittee.map fun next =>
    (next.committee.val, { s with NextCommittee := none, CurrentCommittee := next })

@[simp] theorem next_committee_isSome (s : PalletState T) :
    (next_committee s).isSome = s.NextCommittee.isSome := by
  cases h : s.NextCommittee <;> simp [next_committee, h]

@[simp] theorem rotate_isSome (s : PalletState T) :
    (rotate_committee_to_next_epoch s).isSome = s.NextCommittee.isSome := by
  cases h : s.NextCommittee <;> simp [rotate_committee_to_next_epoch, h]

theorem rotate_eq_some {s : PalletState T} {next : CommitteeInfo T}
    (h : s.NextCommittee = some next) :
    rotate_committee_to_next_epoch s =
      some (next.committee.val, { s with NextCommittee := none, CurrentCommittee := next }) := by
  simp [rotate_committee_to_next_epoch, h]

/-- A `set` that succeeds stores the committee for the next epoch and changes nothing else. -/
theorem set_ok {origin : RawOrigin T.AccountId} {v : BoundedVec (CommitteeMemberOf T) T.MaxValidators}
    {e : UInt64} {hash : SizedByteString 32} {s s' : PalletState T}
    (h : set origin v e hash s = .ok s') :
    s.NextCommittee = none ∧ e = s.CurrentCommittee.epoch + 1 ∧
      s' = { s with NextCommittee := some ⟨e, v⟩ } := by
  cases origin with
  | none =>
    simp only [set, ensure_none, bind, Except.bind, pure, Except.pure] at h
    split at h
    · cases h
    · split at h
      · cases h
      · rename_i he hn
        cases h
        exact ⟨by simpa using hn, by simpa using he, rfl⟩
  | root => cases h
  | signed who => cases h

end pallet_session_validator_management
