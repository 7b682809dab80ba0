-- The block producer metadata pallet (toolkit/block-producer-metadata):
-- a block producer keeps metadata on chain under the hash of its cross-chain
-- key, signed with that key. The first `upsert_metadata` of a key holds a
-- deposit from the caller, who owns the entry from then on; only the owner
-- may update it, which holds nothing more, or delete it, which releases the
-- deposit. A call that fails changes nothing. Over every run of calls what
-- is on hold for an account is the deposits of the entries it owns.
import Mathlib
import PartnerChains.Lib.Frame
import PartnerChains.Lib.Fungible
import PartnerChains.Lib.ExceptList
import PartnerChains.Domain

set_option autoImplicit false

namespace sp_block_producer_metadata

open sidechain_domain

/-- `MetadataSignedMessage`: what the cross-chain key signs; `None` metadata asks for a
deletion. -/
structure MetadataSignedMessage (Metadata AccountId : Type) where
  cross_chain_pub_key : CrossChainPublicKey
  metadata : Option Metadata
  genesis_utxo : UtxoId
  valid_before : UInt64
  owner : AccountId

end sp_block_producer_metadata

namespace pallet_block_producer_metadata

open sidechain_domain frame_system frame_support.fungible partner_chains.sorted_map
  partner_chains.except_list sp_block_producer_metadata Function

/-- The pallet's `Config`, with what the calls read of the runtime: the currency, whose balances
are `Balances`, the genesis UTXO, the deposit, the hash of a cross-chain key (the storage key, of
type `KeyHash`) and the check of a signature over the SCALE encoding of a message. -/
structure Config (Metadata AccountId KeyHash Balances : Type) [DecidableEq AccountId] where
  Currency : Fungible AccountId Balances
  genesis_utxo : UtxoId
  HoldAmount : Nat
  /-- `CrossChainPublicKey::hash` -/
  hash : CrossChainPublicKey → KeyHash
  /-- `signature.verify(&cross_chain_pub_key, &message.encode()).is_ok()` -/
  verify : CrossChainSignature → CrossChainPublicKey → MetadataSignedMessage Metadata AccountId →
    Bool

/-- The storage `BlockProducerMetadataStorage`, from the hash of a cross-chain key to the metadata,
its owner and the deposit held for it, and the balances of `T::Currency`, whose holds for
`HoldReason::MetadataDeposit` no other code makes. -/
structure State (Metadata AccountId KeyHash Balances : Type) [LinearOrder KeyHash] where
  BlockProducerMetadataStorage : SortedMap KeyHash (Metadata × AccountId × Nat)
  balances : Balances

/-- `Error<T>` -/
inductive Error where
  | InvalidMainchainSignature
  | InsufficientBalance
  | NotTheOwner
  | PastValidityTime
  deriving DecidableEq, Repr

/-- `DispatchError`, with the pallet's `Error<T>` as `Module` errors, and the error that a failed
call of `T::Currency` returns. -/
inductive DispatchError where
  | BadOrigin
  | Module (e : Error)
  | Currency
  deriving DecidableEq, Repr

variable {Metadata AccountId KeyHash Balances : Type} [DecidableEq AccountId] [LinearOrder KeyHash]
  (T : Config Metadata AccountId KeyHash Balances)

/-- `ensure_signed` -/
def ensure_signed : RawOrigin AccountId → Except DispatchError AccountId
  | .signed who => .ok who
  | _ => .error .BadOrigin

/-- `ensure!(condition, error)` -/
def ensure (condition : Prop) [Decidable condition] (error : Error) : Except DispatchError Unit :=
  if condition then .ok () else .error (.Module error)

/-- `hold_deposit`: holds `HoldAmount` of the account, which is the deposit. -/
def hold_deposit (account : AccountId) (balances : Balances) :
    Except DispatchError (Nat × Balances) :=
  match T.Currency.hold balances account T.HoldAmount with
  | some balances' => .ok (T.HoldAmount, balances')
  | none => .error (.Module .InsufficientBalance)

/-- `release_deposit`: a best-effort release, whose error is passed on. -/
def release_deposit (depositor : AccountId) (amount : Nat) (balances : Balances) :
    Except DispatchError Balances :=
  match T.Currency.release balances depositor amount with
  | some (_, balances') => .ok balances'
  | none => .error .Currency

/-- `upsert_metadata`, in a block of time `current_time`. -/
def upsert_metadata (current_time : UInt64) (origin : RawOrigin AccountId) (metadata : Metadata)
    (signature : CrossChainSignature) (cross_chain_pub_key : CrossChainPublicKey)
    (valid_before : UInt64) (s : State Metadata AccountId KeyHash Balances) :
    Except DispatchError (State Metadata AccountId KeyHash Balances) := do
  let origin_account ← ensure_signed origin
  let cross_chain_key_hash := T.hash cross_chain_pub_key
  let metadata_message : MetadataSignedMessage Metadata AccountId :=
    ⟨cross_chain_pub_key, some metadata, T.genesis_utxo, valid_before, origin_account⟩
  let is_valid_signature := T.verify signature cross_chain_pub_key metadata_message
  ensure (current_time ≤ valid_before) .PastValidityTime
  ensure (is_valid_signature = true) .InvalidMainchainSignature
  match s.BlockProducerMetadataStorage.lookup cross_chain_key_hash with
  | none =>
    let (deposit, balances) ← hold_deposit T origin_account s.balances
    pure ⟨s.BlockProducerMetadataStorage.insert cross_chain_key_hash
      (metadata, origin_account, deposit), balances⟩
  | some (_, owner, deposit) =>
    ensure (owner = origin_account) .NotTheOwner
    pure { s with BlockProducerMetadataStorage :=
      s.BlockProducerMetadataStorage.insert cross_chain_key_hash (metadata, owner, deposit) }

/-- `delete_metadata`, in a block of time `current_time`. -/
def delete_metadata (current_time : UInt64) (origin : RawOrigin AccountId)
    (cross_chain_pub_key : CrossChainPublicKey) (signature : CrossChainSignature)
    (valid_before : UInt64) (s : State Metadata AccountId KeyHash Balances) :
    Except DispatchError (State Metadata AccountId KeyHash Balances) := do
  let origin_account ← ensure_signed origin
  let metadata_message : MetadataSignedMessage Metadata AccountId :=
    ⟨cross_chain_pub_key, none, T.genesis_utxo, valid_before, origin_account⟩
  let cross_chain_key_hash := T.hash cross_chain_pub_key
  let is_valid_signature := T.verify signature cross_chain_pub_key metadata_message
  ensure (current_time ≤ valid_before) .PastValidityTime
  ensure (is_valid_signature = true) .InvalidMainchainSignature
  match s.BlockProducerMetadataStorage.lookup cross_chain_key_hash with
  | some (_, owner, deposit) =>
    ensure (owner = origin_account) .NotTheOwner
    let balances ← release_deposit T owner deposit s.balances
    pure ⟨s.BlockProducerMetadataStorage.erase cross_chain_key_hash, balances⟩
  | none => pure s

/-- `get_metadata_for` -/
def get_metadata_for (cross_chain_pub_key : CrossChainPublicKey)
    (s : State Metadata AccountId KeyHash Balances) : Option Metadata :=
  (s.BlockProducerMetadataStorage.lookup (T.hash cross_chain_pub_key)).map (·.1)

/-- The pallet's calls. -/
inductive Call (Metadata AccountId : Type) where
  | upsert_metadata (origin : RawOrigin AccountId) (metadata : Metadata)
      (signature : CrossChainSignature) (cross_chain_pub_key : CrossChainPublicKey)
      (valid_before : UInt64)
  | delete_metadata (origin : RawOrigin AccountId) (cross_chain_pub_key : CrossChainPublicKey)
      (signature : CrossChainSignature) (valid_before : UInt64)

/-- The cross-chain key that a call names. -/
def Call.cross_chain_pub_key : Call Metadata AccountId → CrossChainPublicKey
  | .upsert_metadata _ _ _ cross_chain_pub_key _ => cross_chain_pub_key
  | .delete_metadata _ cross_chain_pub_key _ _ => cross_chain_pub_key

/-- The dispatch of a call, in a block of time `current_time`. -/
def dispatch (current_time : UInt64) :
    Call Metadata AccountId → State Metadata AccountId KeyHash Balances →
      Except DispatchError (State Metadata AccountId KeyHash Balances)
  | .upsert_metadata origin metadata signature cross_chain_pub_key valid_before =>
    upsert_metadata T current_time origin metadata signature cross_chain_pub_key valid_before
  | .delete_metadata origin cross_chain_pub_key signature valid_before =>
    delete_metadata T current_time origin cross_chain_pub_key signature valid_before

/-- An extrinsic, a call in a block of the given time. Extrinsics are transactional: one that
fails leaves the state as it was. -/
def apply_extrinsic (s : State Metadata AccountId KeyHash Balances) (xt : UInt64 × Call Metadata AccountId) :
    State Metadata AccountId KeyHash Balances :=
  match dispatch T xt.1 xt.2 s with
  | .ok s' => s'
  | .error _ => s

/-- The state after extrinsics, in order. -/
def run (s : State Metadata AccountId KeyHash Balances) (xts : List (UInt64 × Call Metadata AccountId)) :
    State Metadata AccountId KeyHash Balances :=
  xts.foldl (apply_extrinsic T) s

/-! ## What a call does -/

omit [DecidableEq AccountId] in
theorem ensure_signed_eq_ok {origin : RawOrigin AccountId} {who : AccountId} :
    ensure_signed origin = .ok who ↔ origin = .signed who := by
  cases origin <;> simp [ensure_signed]

theorem ensure_bind_eq_ok {condition : Prop} [Decidable condition] {error : Error} {β : Type}
    {f : Unit → Except DispatchError β} {r : β} :
    ensure condition error >>= f = .ok r ↔ condition ∧ f () = .ok r := by
  unfold ensure
  split <;> simp [*, bind, Except.bind]

omit [LinearOrder KeyHash] in
theorem hold_deposit_eq_ok {account : AccountId} {balances : Balances} {r : Nat × Balances} :
    hold_deposit T account balances = .ok r ↔
      ∃ balances', T.Currency.hold balances account T.HoldAmount = some balances' ∧
        r = (T.HoldAmount, balances') := by
  unfold hold_deposit
  split <;> simp [*, eq_comm]

omit [LinearOrder KeyHash] in
theorem release_deposit_eq_ok {depositor : AccountId} {amount : Nat} {balances balances' : Balances} :
    release_deposit T depositor amount balances = .ok balances' ↔
      ∃ actual, T.Currency.release balances depositor amount = some (actual, balances') := by
  unfold release_deposit
  split
  · rename_i actual balances'' hrelease
    simp [hrelease, eq_comm]
  · rename_i hrelease
    simp [hrelease]

section calls

variable {current_time : UInt64} {origin : RawOrigin AccountId} {metadata : Metadata}
  {signature : CrossChainSignature} {cross_chain_pub_key : CrossChainPublicKey}
  {valid_before : UInt64} {s s' : State Metadata AccountId KeyHash Balances}

/-- What a successful `upsert_metadata` does: the caller is a signed account, the time and the
signature pass, and either the key was free, the deposit is held from the caller and the caller
owns the new entry, or the caller owns the entry, whose deposit stays. -/
theorem upsert_metadata_eq_ok
    (h : upsert_metadata T current_time origin metadata signature cross_chain_pub_key valid_before
      s = .ok s') :
    ∃ who, origin = .signed who ∧ current_time ≤ valid_before ∧
      T.verify signature cross_chain_pub_key
        ⟨cross_chain_pub_key, some metadata, T.genesis_utxo, valid_before, who⟩ = true ∧
      ((s.BlockProducerMetadataStorage.lookup (T.hash cross_chain_pub_key) = none ∧
          ∃ balances, T.Currency.hold s.balances who T.HoldAmount = some balances ∧
            s' = ⟨s.BlockProducerMetadataStorage.insert (T.hash cross_chain_pub_key)
              (metadata, who, T.HoldAmount), balances⟩) ∨
        ∃ old deposit, s.BlockProducerMetadataStorage.lookup (T.hash cross_chain_pub_key) =
            some (old, who, deposit) ∧
          s' = ⟨s.BlockProducerMetadataStorage.insert (T.hash cross_chain_pub_key)
            (metadata, who, deposit), s.balances⟩) := by
  unfold upsert_metadata at h
  obtain ⟨who, hwho, h⟩ := bind_eq_ok.mp h
  dsimp only at h
  obtain ⟨htime, h⟩ := ensure_bind_eq_ok.mp h
  obtain ⟨hsig, h⟩ := ensure_bind_eq_ok.mp h
  refine ⟨who, ensure_signed_eq_ok.mp hwho, htime, hsig, ?_⟩
  split at h
  · rename_i hnone
    obtain ⟨⟨deposit, balances⟩, hhold, h⟩ := bind_eq_ok.mp h
    obtain ⟨balances', hbalances', hr⟩ := (hold_deposit_eq_ok T).mp hhold
    cases hr
    cases h
    exact .inl ⟨hnone, balances, hbalances', rfl⟩
  · rename_i old owner deposit hsome
    -- the name of the result differs from `h`: substituting the owner reorders the context
    obtain ⟨rfl, hpure⟩ := ensure_bind_eq_ok.mp h
    cases hpure
    exact .inr ⟨old, deposit, hsome, rfl⟩

/-- What a successful `delete_metadata` does: the caller is a signed account, the time and the
signature pass, and either there is no entry, or the caller owns it, its deposit is released and
it is removed. -/
theorem delete_metadata_eq_ok
    (h : delete_metadata T current_time origin cross_chain_pub_key signature valid_before s =
      .ok s') :
    ∃ who, origin = .signed who ∧ current_time ≤ valid_before ∧
      T.verify signature cross_chain_pub_key
        ⟨cross_chain_pub_key, none, T.genesis_utxo, valid_before, who⟩ = true ∧
      ((s.BlockProducerMetadataStorage.lookup (T.hash cross_chain_pub_key) = none ∧ s' = s) ∨
        ∃ old deposit balances, s.BlockProducerMetadataStorage.lookup (T.hash cross_chain_pub_key) =
            some (old, who, deposit) ∧ release_deposit T who deposit s.balances = .ok balances ∧
          s' = ⟨s.BlockProducerMetadataStorage.erase (T.hash cross_chain_pub_key), balances⟩) := by
  unfold delete_metadata at h
  obtain ⟨who, hwho, h⟩ := bind_eq_ok.mp h
  dsimp only at h
  obtain ⟨htime, h⟩ := ensure_bind_eq_ok.mp h
  obtain ⟨hsig, h⟩ := ensure_bind_eq_ok.mp h
  refine ⟨who, ensure_signed_eq_ok.mp hwho, htime, hsig, ?_⟩
  split at h
  · rename_i old owner deposit hsome
    -- as in the upsert, the result of substituting the owner gets a name of its own
    obtain ⟨rfl, hrest⟩ := ensure_bind_eq_ok.mp h
    -- the deposit is released, then the entry removed
    cases hrelease : release_deposit T owner deposit s.balances with
    | error e => simp [hrelease, bind, Except.bind] at hrest
    | ok balances =>
      simp only [hrelease, ok_bind, pure, Except.pure, Except.ok.injEq] at hrest
      exact .inr ⟨old, deposit, balances, hsome, hrelease, hrest.symm⟩
  · rename_i hnone
    cases h
    exact .inl ⟨hnone, rfl⟩

end calls

/-- What a successful call does, in four cases: a new entry with the deposit held from its
owner, an update by the owner, a deletion by the owner that releases the deposit, or nothing. -/
theorem dispatch_eq_ok {current_time : UInt64} {call : Call Metadata AccountId}
    {s s' : State Metadata AccountId KeyHash Balances} (h : dispatch T current_time call s = .ok s') :
    (∃ who metadata signature cross_chain_pub_key valid_before,
        call = .upsert_metadata (.signed who) metadata signature cross_chain_pub_key valid_before ∧
        s.BlockProducerMetadataStorage.lookup (T.hash cross_chain_pub_key) = none ∧
        T.Currency.hold s.balances who T.HoldAmount = some s'.balances ∧
        s'.BlockProducerMetadataStorage = s.BlockProducerMetadataStorage.insert
          (T.hash cross_chain_pub_key) (metadata, who, T.HoldAmount)) ∨
      (∃ who metadata signature cross_chain_pub_key valid_before old deposit,
        call = .upsert_metadata (.signed who) metadata signature cross_chain_pub_key valid_before ∧
        s.BlockProducerMetadataStorage.lookup (T.hash cross_chain_pub_key) =
          some (old, who, deposit) ∧
        s'.balances = s.balances ∧
        s'.BlockProducerMetadataStorage = s.BlockProducerMetadataStorage.insert
          (T.hash cross_chain_pub_key) (metadata, who, deposit)) ∨
      (∃ who cross_chain_pub_key signature valid_before old deposit,
        call = .delete_metadata (.signed who) cross_chain_pub_key signature valid_before ∧
        s.BlockProducerMetadataStorage.lookup (T.hash cross_chain_pub_key) =
          some (old, who, deposit) ∧
        release_deposit T who deposit s.balances = .ok s'.balances ∧
        s'.BlockProducerMetadataStorage =
          s.BlockProducerMetadataStorage.erase (T.hash cross_chain_pub_key)) ∨
      s' = s := by
  cases call with
  | upsert_metadata origin metadata signature cross_chain_pub_key valid_before =>
    obtain ⟨who, rfl, -, -, ⟨hnone, balances, hhold, rfl⟩ | ⟨old, deposit, hsome, rfl⟩⟩ :=
      upsert_metadata_eq_ok T h
    · exact .inl ⟨who, metadata, signature, cross_chain_pub_key, valid_before, rfl, hnone, hhold,
        rfl⟩
    · exact .inr (.inl ⟨who, metadata, signature, cross_chain_pub_key, valid_before, old, deposit,
        rfl, hsome, rfl, rfl⟩)
  | delete_metadata origin cross_chain_pub_key signature valid_before =>
    obtain ⟨who, rfl, -, -, ⟨-, rfl⟩ | ⟨old, deposit, balances, hsome, hrelease, rfl⟩⟩ :=
      delete_metadata_eq_ok T h
    · exact .inr (.inr (.inr rfl))
    · exact .inr (.inr (.inl ⟨who, cross_chain_pub_key, signature, valid_before, old, deposit, rfl,
        hsome, hrelease, rfl⟩))

/-- An extrinsic either fails and changes nothing, or its call succeeds. -/
theorem apply_extrinsic_cases (s : State Metadata AccountId KeyHash Balances)
    (xt : UInt64 × Call Metadata AccountId) :
    apply_extrinsic T s xt = s ∨ dispatch T xt.1 xt.2 s = .ok (apply_extrinsic T s xt) := by
  unfold apply_extrinsic
  split
  · rename_i s' h
    exact .inr h
  · exact .inl rfl

/-! ## Deposits -/

/-- The deposits of the entries that `a` owns. -/
def ownedDeposits (storage : SortedMap KeyHash (Metadata × AccountId × Nat)) (a : AccountId) :
    Nat :=
  (storage.entries.map fun e => if e.2.2.1 = a then e.2.2.2 else 0).sum

/-- What is on hold under `MetadataDeposit` for every account is the deposits of the entries it
owns. -/
def DepositsHeld (s : State Metadata AccountId KeyHash Balances) : Prop :=
  ∀ a, T.Currency.balance_on_hold s.balances a = ownedDeposits s.BlockProducerMetadataStorage a

section deposits

variable {storage : SortedMap KeyHash (Metadata × AccountId × Nat)} {k : KeyHash}
  {m : Metadata} {o : AccountId} {d : Nat}

theorem ownedDeposits_insert_of_none (h : storage.lookup k = none) (a : AccountId) :
    ownedDeposits (storage.insert k (m, o, d)) a = ownedDeposits storage a + if o = a then d else 0 := by
  have hsum := SortedMap.sum_insert
    (fun e : KeyHash × Metadata × AccountId × Nat => if e.2.2.1 = a then e.2.2.2 else 0) storage k
    (m, o, d)
  rw [h, Option.map_none, Option.getD_none, add_zero] at hsum
  exact hsum

/-- An update that keeps the owner and the deposit keeps the deposits of every account. -/
theorem ownedDeposits_insert_of_some {m' : Metadata} (h : storage.lookup k = some (m', o, d))
    (a : AccountId) : ownedDeposits (storage.insert k (m, o, d)) a = ownedDeposits storage a := by
  have hsum := SortedMap.sum_insert
    (fun e : KeyHash × Metadata × AccountId × Nat => if e.2.2.1 = a then e.2.2.2 else 0) storage k
    (m, o, d)
  rw [h, Option.map_some, Option.getD_some] at hsum
  exact Nat.add_right_cancel hsum

theorem ownedDeposits_erase (h : storage.lookup k = some (m, o, d)) (a : AccountId) :
    ownedDeposits (storage.erase k) a + (if o = a then d else 0) = ownedDeposits storage a := by
  have hsum := SortedMap.sum_erase
    (fun e : KeyHash × Metadata × AccountId × Nat => if e.2.2.1 = a then e.2.2.2 else 0) storage k
  rw [h, Option.map_some, Option.getD_some] at hsum
  exact hsum

end deposits

variable {s s' : State Metadata AccountId KeyHash Balances}

/-- The deposit of an entry is on hold for its owner. -/
theorem deposit_le_held (hs : DepositsHeld T s) {k : KeyHash} {m : Metadata} {o : AccountId}
    {d : Nat} (h : s.BlockProducerMetadataStorage.lookup k = some (m, o, d)) :
    d ≤ T.Currency.balance_on_hold s.balances o := by
  have herase := ownedDeposits_erase h o
  rw [if_pos rfl] at herase
  rw [hs o]
  omega

/-- A deletion releases the whole deposit: the invariant makes the best-effort release exact. -/
theorem release_deposit_of_entry (hs : DepositsHeld T s) {k : KeyHash} {m : Metadata}
    {o : AccountId} {d : Nat} (h : s.BlockProducerMetadataStorage.lookup k = some (m, o, d))
    {balances : Balances} (hrelease : release_deposit T o d s.balances = .ok balances) :
    T.Currency.balance balances = update (T.Currency.balance s.balances) o
        (T.Currency.balance s.balances o + d) ∧
      T.Currency.balance_on_hold balances = update (T.Currency.balance_on_hold s.balances) o
        (T.Currency.balance_on_hold s.balances o - d) := by
  obtain ⟨actual, hr⟩ := (release_deposit_eq_ok T).mp hrelease
  obtain ⟨-, hfree, hheld⟩ := T.Currency.release_eq_some_of_le (deposit_le_held T hs h) hr
  exact ⟨hfree, hheld⟩

/-- One step of the invariant: every successful call keeps it. -/
theorem depositsHeld_dispatch (hs : DepositsHeld T s) {current_time : UInt64}
    {call : Call Metadata AccountId} (h : dispatch T current_time call s = .ok s') :
    DepositsHeld T s' := by
  intro a
  rcases dispatch_eq_ok T h with
    ⟨who, metadata, signature, cross_chain_pub_key, valid_before, -, hnone, hhold, hstorage⟩ |
    ⟨who, metadata, signature, cross_chain_pub_key, valid_before, old, deposit, -, hsome, hcur,
      hstorage⟩ |
    ⟨who, cross_chain_pub_key, signature, valid_before, old, deposit, -, hsome, hcur, hstorage⟩ |
    rfl
  · -- a new entry: `HoldAmount` more on hold for its owner, and one more deposit
    obtain ⟨-, -, hheld⟩ := T.Currency.hold_eq_some hhold
    rw [hheld, hstorage, ownedDeposits_insert_of_none hnone]
    by_cases ha : a = who
    · subst ha
      simp [hs a]
    · simp [update_of_ne ha, hs a, Ne.symm ha]
  · rw [hcur, hstorage, ownedDeposits_insert_of_some hsome]
    exact hs a
  · -- a deletion: the deposit leaves both sides
    have herase := ownedDeposits_erase hsome a
    rw [(release_deposit_of_entry T hs hsome hcur).2, hstorage]
    by_cases ha : a = who
    · subst ha
      rw [if_pos rfl, ← hs a] at herase
      simp only [update_self]
      omega
    · rw [if_neg (Ne.symm ha), add_zero] at herase
      simp only [update_of_ne ha]
      rw [hs a, herase]
  · exact hs a

theorem depositsHeld_apply_extrinsic (hs : DepositsHeld T s)
    (xt : UInt64 × Call Metadata AccountId) : DepositsHeld T (apply_extrinsic T s xt) := by
  rcases apply_extrinsic_cases T s xt with h | h
  · rw [h]
    exact hs
  · exact depositsHeld_dispatch T hs h

/-- The invariant over a run: every prefix of a run of extrinsics keeps it. -/
theorem depositsHeld_run (hs : DepositsHeld T s) (xts : List (UInt64 × Call Metadata AccountId)) :
    DepositsHeld T (run T s xts) := by
  induction xts generalizing s with
  | nil => exact hs
  | cons xt xts ih => exact ih (depositsHeld_apply_extrinsic T hs xt)

/-- The state at genesis: no entry, and the given balances. -/
def genesis (balances : Balances) : State Metadata AccountId KeyHash Balances :=
  ⟨SortedMap.empty, balances⟩

/-- At genesis the deposits are held where the balances have nothing on hold. -/
theorem depositsHeld_genesis {balances : Balances}
    (h : ∀ a, T.Currency.balance_on_hold balances a = 0) :
    DepositsHeld T (genesis balances : State Metadata AccountId KeyHash Balances) :=
  fun a => h a

/-! ## Ownership -/

section ownership

variable {k : KeyHash} {m : Metadata} {o : AccountId} {d : Nat}

/-- A call changes no entry but the one of the key it names. -/
theorem lookup_apply_extrinsic_of_ne (xt : UInt64 × Call Metadata AccountId)
    (hk : k ≠ T.hash xt.2.cross_chain_pub_key) :
    (apply_extrinsic T s xt).BlockProducerMetadataStorage.lookup k =
      s.BlockProducerMetadataStorage.lookup k := by
  rcases apply_extrinsic_cases T s xt with hsame | hok
  · rw [hsame]
  rcases dispatch_eq_ok T hok with
    ⟨who, metadata, signature, cross_chain_pub_key, valid_before, hcall, -, -, hstorage⟩ |
    ⟨who, metadata, signature, cross_chain_pub_key, valid_before, old, deposit, hcall, -, -,
      hstorage⟩ |
    ⟨who, cross_chain_pub_key, signature, valid_before, old, deposit, hcall, -, -, hstorage⟩ |
    hsame
  · simp only [hcall, Call.cross_chain_pub_key] at hk
    rw [hstorage, SortedMap.lookup_insert, if_neg hk]
  · simp only [hcall, Call.cross_chain_pub_key] at hk
    rw [hstorage, SortedMap.lookup_insert, if_neg hk]
  · simp only [hcall, Call.cross_chain_pub_key] at hk
    rw [hstorage, SortedMap.lookup_erase, if_neg hk]
  · rw [hsame]

/-- What an extrinsic does at the key its call names: nothing, a new entry of the caller with
`HoldAmount` as its deposit, an update by the owner that keeps the deposit and the balances, or a
deletion by the owner that releases the deposit. -/
theorem lookup_apply_extrinsic_of_eq (xt : UInt64 × Call Metadata AccountId)
    (hk : k = T.hash xt.2.cross_chain_pub_key) :
    apply_extrinsic T s xt = s ∨
      (∃ who metadata signature cross_chain_pub_key valid_before,
        xt.2 = .upsert_metadata (.signed who) metadata signature cross_chain_pub_key valid_before ∧
        T.hash cross_chain_pub_key = k ∧ s.BlockProducerMetadataStorage.lookup k = none ∧
        (apply_extrinsic T s xt).BlockProducerMetadataStorage.lookup k =
          some (metadata, who, T.HoldAmount)) ∨
      (∃ who metadata signature cross_chain_pub_key valid_before old deposit,
        xt.2 = .upsert_metadata (.signed who) metadata signature cross_chain_pub_key valid_before ∧
        s.BlockProducerMetadataStorage.lookup k = some (old, who, deposit) ∧
        (apply_extrinsic T s xt).BlockProducerMetadataStorage.lookup k =
          some (metadata, who, deposit) ∧
        (apply_extrinsic T s xt).balances = s.balances) ∨
      (∃ who cross_chain_pub_key signature valid_before old deposit,
        xt.2 = .delete_metadata (.signed who) cross_chain_pub_key signature valid_before ∧
        T.hash cross_chain_pub_key = k ∧
        s.BlockProducerMetadataStorage.lookup k = some (old, who, deposit) ∧
        (apply_extrinsic T s xt).BlockProducerMetadataStorage.lookup k = none ∧
        release_deposit T who deposit s.balances = .ok (apply_extrinsic T s xt).balances) := by
  rcases apply_extrinsic_cases T s xt with hsame | hok
  · exact .inl hsame
  -- the call names `k`, so its effect on the storage is read at `k`
  rcases dispatch_eq_ok T hok with
    ⟨who, metadata, signature, cross_chain_pub_key, valid_before, hcall, hnone, -, hstorage⟩ |
    ⟨who, metadata, signature, cross_chain_pub_key, valid_before, old, deposit, hcall, hsome, hcur,
      hstorage⟩ |
    ⟨who, cross_chain_pub_key, signature, valid_before, old, deposit, hcall, hsome, hcur, hstorage⟩ |
    hsame
  · simp only [hcall, Call.cross_chain_pub_key] at hk
    subst hk
    refine .inr (.inl ⟨who, metadata, signature, cross_chain_pub_key, valid_before, hcall, rfl,
      hnone, ?_⟩)
    rw [hstorage, SortedMap.lookup_insert, if_pos rfl]
  · simp only [hcall, Call.cross_chain_pub_key] at hk
    subst hk
    refine .inr (.inr (.inl ⟨who, metadata, signature, cross_chain_pub_key, valid_before, old,
      deposit, hcall, hsome, ?_, hcur⟩))
    rw [hstorage, SortedMap.lookup_insert, if_pos rfl]
  · simp only [hcall, Call.cross_chain_pub_key] at hk
    subst hk
    refine .inr (.inr (.inr ⟨who, cross_chain_pub_key, signature, valid_before, old, deposit,
      hcall, rfl, hsome, ?_, hcur⟩))
    rw [hstorage, SortedMap.lookup_erase, if_pos rfl]
  · exact .inl hsame

/-- An entry keeps its owner and its deposit, or is removed. -/
theorem lookup_apply_extrinsic_of_some
    (h : s.BlockProducerMetadataStorage.lookup k = some (m, o, d))
    (xt : UInt64 × Call Metadata AccountId) :
    (apply_extrinsic T s xt).BlockProducerMetadataStorage.lookup k = none ∨
      ∃ m', (apply_extrinsic T s xt).BlockProducerMetadataStorage.lookup k = some (m', o, d) := by
  by_cases hk : k = T.hash xt.2.cross_chain_pub_key
  swap
  · exact .inr ⟨m, by rw [lookup_apply_extrinsic_of_ne T xt hk, h]⟩
  rcases lookup_apply_extrinsic_of_eq T xt hk with
    hsame | ⟨_, _, _, _, _, _, _, hnone, _⟩ | ⟨_, metadata, _, _, _, _, _, _, hsome, h', _⟩ |
      ⟨_, _, _, _, _, _, _, _, _, h', _⟩
  · rw [hsame]
    exact .inr ⟨m, h⟩
  · -- a new entry needs a free key
    rw [hnone] at h
    cases h
  · -- the update of this entry, by its owner
    rw [hsome] at h
    cases h
    exact .inr ⟨metadata, h'⟩
  · exact .inl h'

/-- A new entry is made by an `upsert_metadata` signed by its owner, with `HoldAmount` as its
deposit. -/
theorem lookup_apply_extrinsic_of_none (h : s.BlockProducerMetadataStorage.lookup k = none)
    {xt : UInt64 × Call Metadata AccountId}
    (h' : (apply_extrinsic T s xt).BlockProducerMetadataStorage.lookup k = some (m, o, d)) :
    d = T.HoldAmount ∧ ∃ signature cross_chain_pub_key valid_before,
      T.hash cross_chain_pub_key = k ∧
        xt.2 = .upsert_metadata (.signed o) m signature cross_chain_pub_key valid_before := by
  by_cases hk : k = T.hash xt.2.cross_chain_pub_key
  swap
  · rw [lookup_apply_extrinsic_of_ne T xt hk, h] at h'
    cases h'
  rcases lookup_apply_extrinsic_of_eq T xt hk with
    hsame | ⟨who, metadata, signature, cross_chain_pub_key, valid_before, hcall, hkey, _, hnew⟩ |
      ⟨_, _, _, _, _, _, _, _, hsome, _, _⟩ | ⟨_, _, _, _, _, _, _, _, _, hdel, _⟩
  · rw [hsame, h] at h'
    cases h'
  · rw [hnew] at h'
    cases h'
    exact ⟨rfl, signature, cross_chain_pub_key, valid_before, hkey, hcall⟩
  · -- an update needs an entry, and there is none
    rw [hsome] at h
    cases h
  · rw [hdel] at h'
    cases h'

/-- An entry is removed only by a `delete_metadata` signed by its owner, which releases exactly
its deposit. -/
theorem lookup_apply_extrinsic_eq_none (hs : DepositsHeld T s)
    (h : s.BlockProducerMetadataStorage.lookup k = some (m, o, d))
    {xt : UInt64 × Call Metadata AccountId}
    (h' : (apply_extrinsic T s xt).BlockProducerMetadataStorage.lookup k = none) :
    (∃ cross_chain_pub_key signature valid_before, T.hash cross_chain_pub_key = k ∧
        xt.2 = .delete_metadata (.signed o) cross_chain_pub_key signature valid_before) ∧
      T.Currency.balance (apply_extrinsic T s xt).balances =
        update (T.Currency.balance s.balances) o (T.Currency.balance s.balances o + d) ∧
      T.Currency.balance_on_hold (apply_extrinsic T s xt).balances =
        update (T.Currency.balance_on_hold s.balances) o
          (T.Currency.balance_on_hold s.balances o - d) := by
  by_cases hk : k = T.hash xt.2.cross_chain_pub_key
  swap
  · rw [lookup_apply_extrinsic_of_ne T xt hk, h] at h'
    cases h'
  rcases lookup_apply_extrinsic_of_eq T xt hk with
    hsame | ⟨_, _, _, _, _, _, _, _, hnew⟩ | ⟨_, _, _, _, _, _, _, _, _, hupd, _⟩ |
      ⟨who, cross_chain_pub_key, signature, valid_before, old, deposit, hcall, hkey, hsome, _,
        hcur⟩
  · rw [hsame, h] at h'
    cases h'
  · -- after an upsert its key has an entry
    rw [hnew] at h'
    cases h'
  · rw [hupd] at h'
    cases h'
  · rw [hsome] at h
    cases h
    exact ⟨⟨cross_chain_pub_key, signature, valid_before, hkey, hcall⟩,
      release_deposit_of_entry T hs hsome hcur⟩

/-- An `upsert_metadata` of a key that has an entry holds nothing. -/
theorem currency_apply_extrinsic_of_update {xt : UInt64 × Call Metadata AccountId}
    {origin : RawOrigin AccountId} {metadata : Metadata} {signature : CrossChainSignature}
    {cross_chain_pub_key : CrossChainPublicKey} {valid_before : UInt64}
    (hcall : xt.2 = .upsert_metadata origin metadata signature cross_chain_pub_key valid_before)
    (h : (s.BlockProducerMetadataStorage.lookup (T.hash cross_chain_pub_key)).isSome) :
    (apply_extrinsic T s xt).balances = s.balances := by
  have hk : T.hash cross_chain_pub_key = T.hash xt.2.cross_chain_pub_key := by
    rw [hcall, Call.cross_chain_pub_key]
  rcases lookup_apply_extrinsic_of_eq T xt hk with
    hsame | ⟨_, _, _, _, _, _, _, hnone, _⟩ | ⟨_, _, _, _, _, _, _, _, _, _, hcur⟩ |
      ⟨_, _, _, _, _, _, hdel, _⟩
  · rw [hsame]
  · -- a new entry would need the key to be free
    rw [hnone] at h
    cases h
  · exact hcur
  · rw [hcall] at hdel
    cases hdel

end ownership

/-- The states a run of extrinsics reaches from `s₀`. -/
def Reachable (s₀ s : State Metadata AccountId KeyHash Balances) : Prop :=
  ∃ xts, run T s₀ xts = s

theorem metadata_deposits_conserved_and_owned (s₀ s s' : State Metadata AccountId KeyHash Balances)
    (h₀ : DepositsHeld T s₀) (hreach : Reachable T s₀ s) (xt : UInt64 × Call Metadata AccountId)
    (hstep : apply_extrinsic T s xt = s') :
    DepositsHeld T s' ∧
      (∀ k m o d, s.BlockProducerMetadataStorage.lookup k = some (m, o, d) →
        s'.BlockProducerMetadataStorage.lookup k = none ∨
          ∃ m', s'.BlockProducerMetadataStorage.lookup k = some (m', o, d)) ∧
      (∀ k m o d, s.BlockProducerMetadataStorage.lookup k = none →
        s'.BlockProducerMetadataStorage.lookup k = some (m, o, d) →
        d = T.HoldAmount ∧ ∃ signature cross_chain_pub_key valid_before,
          T.hash cross_chain_pub_key = k ∧
            xt.2 = .upsert_metadata (.signed o) m signature cross_chain_pub_key valid_before) ∧
      (∀ k m o d, s.BlockProducerMetadataStorage.lookup k = some (m, o, d) →
        s'.BlockProducerMetadataStorage.lookup k = none →
        (∃ cross_chain_pub_key signature valid_before, T.hash cross_chain_pub_key = k ∧
          xt.2 = .delete_metadata (.signed o) cross_chain_pub_key signature valid_before) ∧
        d ≤ T.Currency.balance_on_hold s.balances o ∧
        T.Currency.balance s'.balances =
          update (T.Currency.balance s.balances) o (T.Currency.balance s.balances o + d) ∧
        T.Currency.balance_on_hold s'.balances = update (T.Currency.balance_on_hold s.balances) o
          (T.Currency.balance_on_hold s.balances o - d)) ∧
      (∀ origin metadata signature cross_chain_pub_key valid_before,
        xt.2 = .upsert_metadata origin metadata signature cross_chain_pub_key valid_before →
        (s.BlockProducerMetadataStorage.lookup (T.hash cross_chain_pub_key)).isSome →
        s'.balances = s.balances) := by
  obtain ⟨xts, rfl⟩ := hreach
  subst hstep
  have hs : DepositsHeld T (run T s₀ xts) := depositsHeld_run T h₀ xts
  refine ⟨depositsHeld_apply_extrinsic T hs xt, fun k m o d h => ?_, fun k m o d h h' => ?_,
    fun k m o d h h' => ?_, fun origin metadata signature cross_chain_pub_key valid_before => ?_⟩
  · exact lookup_apply_extrinsic_of_some T h xt
  · exact lookup_apply_extrinsic_of_none T h h'
  · obtain ⟨hdelete, hcur⟩ := lookup_apply_extrinsic_eq_none T hs h h'
    exact ⟨hdelete, deposit_le_held T hs h, hcur⟩
  · exact currency_apply_extrinsic_of_update T

/-- A runtime with the ledger as its currency, where every signature is valid, a key hashes to its
length and the deposit is 5. -/
def testConfig : Config Nat Nat Nat (Ledger Nat) :=
  ⟨Ledger.currency 0, ⟨⟨List.replicate 32 0, FixedBytes.length_zeros_32⟩, 0⟩, 5,
    fun key => key.val.length, fun _ _ _ => true⟩

/-- Every account has 10 free and nothing on hold. -/
def tenEach : Ledger Nat := ⟨fun _ => 10, fun _ => 0⟩

theorem metadata_deposit_held_after_first_upsert :
    DepositsHeld testConfig (genesis tenEach : State Nat Nat Nat (Ledger Nat)) ∧
      Reachable testConfig (genesis tenEach) (genesis tenEach) ∧
      DepositsHeld testConfig (apply_extrinsic testConfig (genesis tenEach)
        (0, .upsert_metadata (.signed 1) 7 ⟨[]⟩ ⟨[1, 2]⟩ 10)) :=
  ⟨depositsHeld_genesis testConfig fun _ => rfl, ⟨[], rfl⟩,
    (metadata_deposits_conserved_and_owned testConfig _ _ _
      (depositsHeld_genesis testConfig fun _ => rfl) ⟨[], rfl⟩ _ rfl).1⟩

end pallet_block_producer_metadata
