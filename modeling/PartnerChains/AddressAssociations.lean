-- The address associations pallet (toolkit/address-associations): the
-- holder of a Cardano stake key associates it with a Partner Chain address.
-- The call is signed by a Partner Chain account, which pays `BurnAmount`,
-- destroyed, and carries a signature of the stake key over the key, the
-- address and the chain's genesis UTXO. A key is associated once: a call for
-- a key that has an association fails. A call that fails changes nothing, the
-- burn included. Over every run of calls an association, once made, stays as
-- it is; each is backed by a valid signature of its key for this chain; the
-- handler hears of each association once; and what was burnt is `BurnAmount`
-- for each association.
import Mathlib
import PartnerChains.Lib.Frame
import PartnerChains.Lib.Fungible
import PartnerChains.Lib.SortedMap
import PartnerChains.Lib.ExceptList
import PartnerChains.Domain

set_option autoImplicit false

namespace sidechain_domain

/-- `StakePublicKey([u8; 32])`: a Cardano stake public key. -/
abbrev StakePublicKey := FixedBytes 32

/-- `StakeKeySignature([u8; 64])` -/
abbrev StakeKeySignature := FixedBytes 64

end sidechain_domain

namespace pallet_address_associations

open sidechain_domain frame_system frame_support.fungible partner_chains.sorted_map
  partner_chains.except_list Function

/-- `AddressAssociationSignedMessage`: what the stake key signs. -/
structure AddressAssociationSignedMessage (PartnerChainAddress : Type) where
  stake_public_key : StakePublicKey
  partnerchain_address : PartnerChainAddress
  genesis_utxo : UtxoId

/-- The pallet's `Config`, with what the call reads of the runtime: the currency, whose balances
are `Balances`, `BurnAmount`, the genesis UTXO, the hash of a stake key and the check of a
signature over the SCALE encoding of a message. -/
structure Config (AccountId PartnerChainAddress Balances : Type) [DecidableEq AccountId] where
  Currency : Fungible AccountId Balances
  BurnAmount : Nat
  genesis_utxo : UtxoId
  /-- `StakePublicKey::hash`, blake2b-224 -/
  hash : StakePublicKey → MainchainKeyHash
  /-- `signature.verify(&stake_public_key, &address_association_message.encode())` -/
  verify : StakeKeySignature → StakePublicKey → AddressAssociationSignedMessage PartnerChainAddress →
    Bool

/-- The storage `AddressAssociations`, as the list of its entries, newest first; the balances of
`T::Currency`; and what `OnNewAssociation::on_new_association` was called with, in order. -/
structure State (PartnerChainAddress Balances : Type) where
  AddressAssociations : List (MainchainKeyHash × PartnerChainAddress)
  balances : Balances
  on_new_association : List (PartnerChainAddress × MainchainKeyHash)

/-- `Error<T>` -/
inductive Error where
  /-- "Signals that the Cardano key is already associated" -/
  | MainchainKeyAlreadyAssociated
  /-- "Signals an invalid Cardano key signature" -/
  | InvalidMainchainSignature
  /-- "Could not burn additional fee for occupying space" -/
  | InsufficientBalance
  deriving DecidableEq

/-- `DispatchError`, with the pallet's `Error<T>` as `Module` errors. -/
inductive DispatchError where
  | BadOrigin
  | Module (e : Error)
  deriving DecidableEq

/-- The pallet's `Call`. -/
inductive Call (PartnerChainAddress : Type) where
  | associate_address (partnerchain_address : PartnerChainAddress)
      (signature : StakeKeySignature) (stake_public_key : StakePublicKey)

variable {AccountId PartnerChainAddress Balances : Type} [DecidableEq AccountId]
  (T : Config AccountId PartnerChainAddress Balances)

/-- `ensure_signed` -/
def ensure_signed : RawOrigin AccountId → Except DispatchError AccountId
  | .signed who => .ok who
  | _ => .error .BadOrigin

/-- `ensure!(condition, error)` -/
def ensure (condition : Prop) [Decidable condition] (error : Error) : Except DispatchError Unit :=
  if condition then .ok () else .error (.Module error)

/-- `AddressAssociations::get` -/
def get (AddressAssociations : List (MainchainKeyHash × PartnerChainAddress))
    (stake_key_hash : MainchainKeyHash) : Option PartnerChainAddress :=
  AddressAssociations.lookup stake_key_hash

/-- `AddressAssociations::contains_key` -/
def contains_key (AddressAssociations : List (MainchainKeyHash × PartnerChainAddress))
    (stake_key_hash : MainchainKeyHash) : Bool :=
  (get AddressAssociations stake_key_hash).isSome

/-- `AddressAssociations::insert`: the entry of the key replaced by the new one, in front. -/
def insert (stake_key_hash : MainchainKeyHash) (partnerchain_address : PartnerChainAddress)
    (AddressAssociations : List (MainchainKeyHash × PartnerChainAddress)) :
    List (MainchainKeyHash × PartnerChainAddress) :=
  (stake_key_hash, partnerchain_address) :: AddressAssociations.filter (·.1 ≠ stake_key_hash)

/-- `associate_address` -/
def associate_address (origin : RawOrigin AccountId) (partnerchain_address : PartnerChainAddress)
    (signature : StakeKeySignature) (stake_public_key : StakePublicKey)
    (s : State PartnerChainAddress Balances) :
    Except DispatchError (State PartnerChainAddress Balances) := do
  let origin_account_id ← ensure_signed origin
  let genesis_utxo := T.genesis_utxo
  let stake_key_hash := T.hash stake_public_key
  ensure (contains_key s.AddressAssociations stake_key_hash = false) .MainchainKeyAlreadyAssociated
  let some balances := T.Currency.burn_from s.balances origin_account_id T.BurnAmount
    | throw (.Module .InsufficientBalance)
  let address_association_message : AddressAssociationSignedMessage PartnerChainAddress :=
    ⟨stake_public_key, partnerchain_address, genesis_utxo⟩
  let is_valid_signature := T.verify signature stake_public_key address_association_message
  ensure (is_valid_signature = true) .InvalidMainchainSignature
  return ⟨insert stake_key_hash partnerchain_address s.AddressAssociations, balances,
    s.on_new_association ++ [(partnerchain_address, stake_key_hash)]⟩

/-- `get_partner_chain_address_for` -/
def get_partner_chain_address_for (stake_public_key : StakePublicKey)
    (s : State PartnerChainAddress Balances) : Option PartnerChainAddress :=
  get s.AddressAssociations (T.hash stake_public_key)

/-- The dispatch of a call made by `origin`. -/
def dispatch (origin : RawOrigin AccountId) :
    Call PartnerChainAddress → State PartnerChainAddress Balances →
      Except DispatchError (State PartnerChainAddress Balances)
  | .associate_address partnerchain_address signature stake_public_key =>
    associate_address T origin partnerchain_address signature stake_public_key

/-- An extrinsic, a call with its origin. Extrinsics are transactional: one that fails leaves
the state as it was, so a call with a bad signature burns nothing. -/
def apply_extrinsic (s : State PartnerChainAddress Balances)
    (xt : RawOrigin AccountId × Call PartnerChainAddress) : State PartnerChainAddress Balances :=
  match dispatch T xt.1 xt.2 s with
  | .ok s' => s'
  | .error _ => s

/-- The state after extrinsics, in order. -/
def run (s : State PartnerChainAddress Balances)
    (xts : List (RawOrigin AccountId × Call PartnerChainAddress)) :
    State PartnerChainAddress Balances :=
  xts.foldl (apply_extrinsic T) s

/-- The state at genesis: no association, and the given balances. -/
def genesis (balances : Balances) : State PartnerChainAddress Balances :=
  ⟨[], balances, []⟩

/-! ## The storage map -/

section storage

variable {m : List (MainchainKeyHash × PartnerChainAddress)} {k k' : MainchainKeyHash}
  {v : PartnerChainAddress}

/-- A new key adds one entry. -/
theorem insert_of_get_eq_none (h : get m k = none) : insert k v m = (k, v) :: m := by
  unfold insert
  rw [List.filter_eq_self.mpr]
  intro e he
  have hne := List.lookup_eq_none_iff.mp h e he
  simp only [bne_iff_ne, ne_eq] at hne
  simp only [ne_eq, decide_eq_true_eq]
  exact fun heq => hne heq.symm

end storage

/-! ## What a call does -/

omit [DecidableEq AccountId] in
theorem ensure_signed_eq_ok {origin : RawOrigin AccountId} {who : AccountId} :
    ensure_signed origin = .ok who ↔ origin = .signed who := by
  cases origin <;> simp [ensure_signed]

theorem ensure_bind_eq_ok {condition : Prop} [Decidable condition] {error : Error} {β : Type}
    {f : Unit → Except DispatchError β} {r : β} :
    (ensure condition error >>= f) = .ok r ↔ condition ∧ f () = .ok r := by
  unfold ensure
  split <;> simp [*, bind, Except.bind]

/-- The only way a call succeeds: signed, for a stake key with no association, from an account
whose burn of `BurnAmount` goes through, with a signature of the key over the key, the address
and the genesis UTXO. It burns `BurnAmount`, adds the association and tells the handler. -/
theorem associate_address_eq_ok {origin : RawOrigin AccountId}
    {partnerchain_address : PartnerChainAddress} {signature : StakeKeySignature}
    {stake_public_key : StakePublicKey} {s s' : State PartnerChainAddress Balances}
    (h : associate_address T origin partnerchain_address signature stake_public_key s = .ok s') :
    ∃ who balances, origin = .signed who ∧
      get s.AddressAssociations (T.hash stake_public_key) = none ∧
      T.Currency.burn_from s.balances who T.BurnAmount = some balances ∧
      T.verify signature stake_public_key ⟨stake_public_key, partnerchain_address, T.genesis_utxo⟩ ∧
      s' = ⟨(T.hash stake_public_key, partnerchain_address) :: s.AddressAssociations, balances,
        s.on_new_association ++ [(partnerchain_address, T.hash stake_public_key)]⟩ := by
  unfold associate_address at h
  obtain ⟨who, hwho, h⟩ := bind_eq_ok.mp h
  dsimp only at h
  obtain ⟨hfree, h⟩ := ensure_bind_eq_ok.mp h
  have hnone : get s.AddressAssociations (T.hash stake_public_key) = none := by
    simpa [contains_key] using hfree
  split at h
  · rename_i balances hburn
    obtain ⟨hvalid, h⟩ := ensure_bind_eq_ok.mp h
    cases h
    refine ⟨who, balances, ensure_signed_eq_ok.mp hwho, hnone, hburn, hvalid, ?_⟩
    rw [insert_of_get_eq_none hnone]
  · -- the burn fails
    simp [throw, throwThe, MonadExceptOf.throw] at h

/-- An extrinsic either changes nothing or is a call that succeeds. -/
theorem apply_extrinsic_cases (s : State PartnerChainAddress Balances)
    (xt : RawOrigin AccountId × Call PartnerChainAddress) :
    apply_extrinsic T s xt = s ∨ dispatch T xt.1 xt.2 s = .ok (apply_extrinsic T s xt) := by
  unfold apply_extrinsic
  split
  · rename_i s' h
    exact .inr h
  · exact .inl rfl

/-- What a successful call of any kind does: the cases of `associate_address_eq_ok`. -/
theorem dispatch_eq_ok {origin : RawOrigin AccountId} {call : Call PartnerChainAddress}
    {s s' : State PartnerChainAddress Balances} (h : dispatch T origin call s = .ok s') :
    ∃ who partnerchain_address signature stake_public_key balances, origin = .signed who ∧
      get s.AddressAssociations (T.hash stake_public_key) = none ∧
      T.Currency.burn_from s.balances who T.BurnAmount = some balances ∧
      T.verify signature stake_public_key ⟨stake_public_key, partnerchain_address, T.genesis_utxo⟩ ∧
      s' = ⟨(T.hash stake_public_key, partnerchain_address) :: s.AddressAssociations, balances,
        s.on_new_association ++ [(partnerchain_address, T.hash stake_public_key)]⟩ := by
  cases call with
  | associate_address partnerchain_address signature stake_public_key =>
    obtain ⟨who, balances, hwho, hnone, hburn, hvalid, rfl⟩ := associate_address_eq_ok T h
    exact ⟨who, partnerchain_address, signature, stake_public_key, balances, hwho, hnone, hburn,
      hvalid, rfl⟩

/-! ## Runs -/

variable {s : State PartnerChainAddress Balances}

/-- The frame of a step: an association stays as it is. -/
theorem get_apply_extrinsic_of_some (xt : RawOrigin AccountId × Call PartnerChainAddress)
    {stake_key_hash : MainchainKeyHash} {partnerchain_address : PartnerChainAddress}
    (h : get s.AddressAssociations stake_key_hash = some partnerchain_address) :
    get (apply_extrinsic T s xt).AddressAssociations stake_key_hash = some partnerchain_address := by
  rcases apply_extrinsic_cases T s xt with hxt | hxt
  · rw [hxt]
    exact h
  · obtain ⟨who, address, signature, stake_public_key, balances, -, hnone, -, -, hs'⟩ :=
      dispatch_eq_ok T hxt
    -- the new association is for a key that had none, so not for this one
    have hne : stake_key_hash ≠ T.hash stake_public_key := by
      rintro rfl
      rw [hnone] at h
      cases h
    rw [hs', get, lookup_cons_eq, if_neg hne]
    exact h

theorem get_run_of_some :
    ∀ (xts : List (RawOrigin AccountId × Call PartnerChainAddress))
      (s : State PartnerChainAddress Balances) {stake_key_hash : MainchainKeyHash}
      {partnerchain_address : PartnerChainAddress},
      get s.AddressAssociations stake_key_hash = some partnerchain_address →
      get (run T s xts).AddressAssociations stake_key_hash = some partnerchain_address
  | [], _, _, _, h => h
  | xt :: xts, _, _, _, h => get_run_of_some xts _ (get_apply_extrinsic_of_some T xt h)

/-- Every association is backed by a signature of a stake key with its hash over the key, its
address and the genesis UTXO. -/
def Signed (s : State PartnerChainAddress Balances) : Prop :=
  ∀ stake_key_hash partnerchain_address,
    get s.AddressAssociations stake_key_hash = some partnerchain_address →
    ∃ stake_public_key signature, T.hash stake_public_key = stake_key_hash ∧
      T.verify signature stake_public_key
        ⟨stake_public_key, partnerchain_address, T.genesis_utxo⟩ = true

theorem signed_apply_extrinsic (hs : Signed T s)
    (xt : RawOrigin AccountId × Call PartnerChainAddress) : Signed T (apply_extrinsic T s xt) := by
  rcases apply_extrinsic_cases T s xt with hxt | hxt
  · rw [hxt]
    exact hs
  · obtain ⟨who, address, signature, stake_public_key, balances, -, -, -, hvalid, hs'⟩ :=
      dispatch_eq_ok T hxt
    intro stake_key_hash partnerchain_address h
    rw [hs', get, lookup_cons_eq] at h
    split at h
    · -- the new association, signed by the call
      rename_i hkey
      cases h
      exact ⟨stake_public_key, signature, hkey.symm, hvalid⟩
    · exact hs stake_key_hash partnerchain_address h

theorem signed_run :
    ∀ (xts : List (RawOrigin AccountId × Call PartnerChainAddress))
      (s : State PartnerChainAddress Balances), Signed T s → Signed T (run T s xts)
  | [], _, hs => hs
  | xt :: xts, _, hs => signed_run xts _ (signed_apply_extrinsic T hs xt)

/-- Associations are signed and permanent: after any run of calls from genesis, an association
of a key was authorised by a signature of a stake key with that hash over the key, the address and
this chain's genesis UTXO, and it stays the same through any later calls. -/
theorem associations_are_signed_and_permanent (balances : Balances)
    (xts xts' : List (RawOrigin AccountId × Call PartnerChainAddress))
    (stake_key_hash : MainchainKeyHash) (partnerchain_address : PartnerChainAddress)
    (h : get (run T (genesis balances) xts).AddressAssociations stake_key_hash =
      some partnerchain_address) :
    get (run T (genesis balances) (xts ++ xts')).AddressAssociations stake_key_hash =
        some partnerchain_address ∧
      ∃ stake_public_key signature, T.hash stake_public_key = stake_key_hash ∧
        T.verify signature stake_public_key
          ⟨stake_public_key, partnerchain_address, T.genesis_utxo⟩ = true := by
  have hgenesis : Signed T (genesis balances : State PartnerChainAddress Balances) :=
    fun _ _ h => nomatch h
  refine ⟨?_, signed_run T xts _ hgenesis stake_key_hash partnerchain_address h⟩
  rw [run, List.foldl_append]
  exact get_run_of_some T xts' _ h

/-- The books of the pallet: the free balances and `BurnAmount` for each association add up to
`total`, the holds are `held`, no key is associated twice, and the handler heard of the
associations in the order they were made. -/
structure Accounted [Fintype AccountId] (total : Nat) (held : AccountId → Nat)
    (s : State PartnerChainAddress Balances) : Prop where
  burnt : ∑ a, T.Currency.balance s.balances a + T.BurnAmount * s.AddressAssociations.length = total
  held : T.Currency.balance_on_hold s.balances = held
  keys_nodup : KeysNodup s.AddressAssociations
  announced : s.on_new_association = (s.AddressAssociations.map Prod.swap).reverse

theorem accounted_apply_extrinsic [Fintype AccountId] {total : Nat} {held : AccountId → Nat}
    (hs : Accounted T total held s) (xt : RawOrigin AccountId × Call PartnerChainAddress) :
    Accounted T total held (apply_extrinsic T s xt) := by
  rcases apply_extrinsic_cases T s xt with hxt | hxt
  · rw [hxt]
    exact hs
  · obtain ⟨who, address, signature, stake_public_key, balances, -, hnone, hburn, -, hs'⟩ :=
      dispatch_eq_ok T hxt
    obtain ⟨hsum, hheld⟩ := T.Currency.sum_balance_burn_from hburn
    rw [hs']
    refine ⟨?_, hheld.trans hs.held, ?_, ?_⟩
    · -- one more association, `BurnAmount` less in the free balances
      dsimp only
      rw [List.length_cons, Nat.mul_succ, ← hs.burnt, ← hsum]
      omega
    · -- the key had no association, so it differs from every stored key
      refine List.pairwise_cons.mpr ⟨fun e he heq => ?_, hs.keys_nodup⟩
      have hne := List.lookup_eq_none_iff.mp hnone e he
      simp only [bne_iff_ne] at hne
      exact hne heq
    · simp [hs.announced]

theorem accounted_run [Fintype AccountId] {total : Nat} {held : AccountId → Nat} :
    ∀ (xts : List (RawOrigin AccountId × Call PartnerChainAddress))
      (s : State PartnerChainAddress Balances), Accounted T total held s →
      Accounted T total held (run T s xts)
  | [], _, hs => hs
  | xt :: xts, _, hs => accounted_run xts _ (accounted_apply_extrinsic T hs xt)

/-- Every association is paid for once and announced once: after any run of calls from genesis,
the free balances plus `BurnAmount` for each association add up to the free balances of genesis,
no hold has changed, no key has two associations, and the handler heard of exactly the
associations, each once, in the order they were made. -/
theorem burnt_and_announced_once_per_association [Fintype AccountId] (balances : Balances)
    (xts : List (RawOrigin AccountId × Call PartnerChainAddress)) :
    ∑ a, T.Currency.balance (run T (genesis balances) xts).balances a +
        T.BurnAmount * (run T (genesis balances) xts).AddressAssociations.length =
      ∑ a, T.Currency.balance balances a ∧
      T.Currency.balance_on_hold (run T (genesis balances) xts).balances =
        T.Currency.balance_on_hold balances ∧
      ((run T (genesis balances) xts).AddressAssociations.map Prod.fst).Nodup ∧
      (run T (genesis balances) xts).on_new_association =
        ((run T (genesis balances) xts).AddressAssociations.map Prod.swap).reverse := by
  have hgenesis : Accounted T (∑ a, T.Currency.balance balances a)
      (T.Currency.balance_on_hold balances)
      (genesis balances : State PartnerChainAddress Balances) :=
    ⟨by simp [genesis], rfl, List.Pairwise.nil, rfl⟩
  have hrun := accounted_run T xts _ hgenesis
  exact ⟨hrun.burnt, hrun.held, List.pairwise_map.mpr hrun.keys_nodup, hrun.announced⟩

/-- A configuration whose hash keeps the first 28 bytes of a key and whose signatures are the
key itself followed by anything. -/
def prefixConfig : Config Nat Nat (Ledger Nat) where
  Currency := Ledger.currency 1
  BurnAmount := 10
  genesis_utxo := ⟨⟨List.replicate 32 0, FixedBytes.length_zeros_32⟩, 0⟩
  hash stake_public_key := ⟨stake_public_key.val.take 28, by simp [stake_public_key.len]⟩
  verify signature stake_public_key _ := decide (signature.val.take 32 = stake_public_key.val)

/-- Every account has 100 free and nothing on hold. -/
def hundredEach : Ledger Nat := ⟨fun _ => 100, fun _ => 0⟩

/-- The key of 32 bytes of 7, signed by 64 bytes of 7. -/
def sevenKey : StakePublicKey := ⟨List.replicate 32 7, FixedBytes.length_replicate_32 7⟩

def sevenSignature : StakeKeySignature := ⟨List.replicate 64 7, List.length_replicate⟩

theorem associations_are_signed_and_permanent_one_call :
    get (run prefixConfig (genesis hundredEach)
        [(.signed 0, .associate_address 5 sevenSignature sevenKey)]).AddressAssociations
        (prefixConfig.hash sevenKey) = some 5 ∧
      get (run prefixConfig (genesis hundredEach)
          ([(.signed 0, .associate_address 5 sevenSignature sevenKey)] ++
            [(.signed 1, .associate_address 6 sevenSignature sevenKey)])).AddressAssociations
          (prefixConfig.hash sevenKey) = some 5 ∧
      ∃ stake_public_key signature, prefixConfig.hash stake_public_key = prefixConfig.hash sevenKey ∧
        prefixConfig.verify signature stake_public_key
          ⟨stake_public_key, 5, prefixConfig.genesis_utxo⟩ = true := by
  have h : get (run prefixConfig (genesis hundredEach)
      [(.signed 0, .associate_address 5 sevenSignature sevenKey)]).AddressAssociations
      (prefixConfig.hash sevenKey) = some 5 := by decide
  exact ⟨h, associations_are_signed_and_permanent prefixConfig hundredEach _
    [(.signed 1, .associate_address 6 sevenSignature sevenKey)] _ _ h⟩

end pallet_address_associations
