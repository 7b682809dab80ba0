-- The Governed Map's commands on Cardano (toolkit/smart-contracts/offchain,
-- governed_map/mod.rs): insert, update and remove read the UTXOs at the
-- validator address through Ogmios and build a transaction that mints or
-- burns the map's tokens, spends the UTXOs of a key and creates its new one;
-- a governance of the payment key alone submits it, another gets it to sign.
-- Applied to the ledger that db-sync reads, the commands keep one unspent
-- UTXO, and one token, for each key, and the map that the db-sync data
-- source reads at any main chain block is the map that the commands
-- included by then wrote: an insert where the key is absent, an update where
-- it holds the expected value, a removal.
import Mathlib
import PartnerChains.GovernedMap.DataSource

set_option autoImplicit false

namespace partner_chains_cardano_offchain.governed_map

open cardano_serialization_lib sidechain_domain partner_chains.codec partner_chains.sorted_map
  partner_chains.runs partner_chains_plutus_data partner_chains_plutus_data.governed_map
  partner_chains_db_sync_data_sources.governed_map

/-! ## Governance -/

/-- What `is_single_key_policy_for` reads of a governance policy, the same of a
`PartnerChainsMultisigPolicy` as of a `SimpleAtLeastN`: its threshold and its key hashes. -/
structure GovernancePolicy where
  threshold : Nat
  key_hashes : List MainchainKeyHash

/-- `GovernancePolicyScript::is_single_key_policy_for`: one signature of one key, `key_hash`. -/
def GovernancePolicy.is_single_key_policy_for (policy : GovernancePolicy)
    (key_hash : MainchainKeyHash) : Bool :=
  policy.threshold == 1 && policy.key_hashes.length == 1 && policy.key_hashes.any (· == key_hash)

/-- `MultiSigSmartContractResult`, without the transaction's hash and the data to sign. -/
inductive MultiSigSmartContractResult where
  | TransactionSubmitted
  | TransactionToSign
  deriving DecidableEq

/-! ## The ledger at the validator address -/

/-- A UTXO at the validator address as Ogmios returns it: its reference, whether it holds a token
of the Governed Map policy, and its inline datum, decoded. -/
structure OgmiosUtxo where
  utxo_id : Nat
  has_token : Bool
  datum : Option PlutusData

/-- A UTXO that a command created at the validator address: its reference; the block, and the
index in the block, of the transaction that created it, and of the one that spent it; its entry. -/
structure LedgerUtxo where
  utxo_id : Nat
  block_no : Nat
  block_index : Nat
  spent : Option (Nat × Nat)
  entry : GovernedMapDatum

/-- The UTXO as db-sync lists it. -/
def LedgerUtxo.row (utxo : LedgerUtxo) : GovernedMapUtxo :=
  ⟨utxo.block_no, utxo.block_index, utxo.spent, governed_map_datum_to_plutus_data utxo.entry⟩

/-- The UTXO as Ogmios returns it: one token, and the entry as its datum. -/
def LedgerUtxo.ogmios (utxo : LedgerUtxo) : OgmiosUtxo :=
  ⟨utxo.utxo_id, true, some (governed_map_datum_to_plutus_data utxo.entry)⟩

/-- The ledger at the validator address: the UTXOs that the commands created, oldest first; the
next reference; the tokens of the policy minted, less those burnt. -/
structure Ledger where
  utxos : List LedgerUtxo
  next_utxo_id : Nat
  minted : Int

/-- No transaction of the Governed Map yet. -/
def Ledger.empty : Ledger := ⟨[], 0, 0⟩

/-- `query_utxos` at the validator address: the UTXOs not spent. -/
def Ledger.query_utxos (l : Ledger) : List OgmiosUtxo :=
  (l.utxos.filter (·.spent.isNone)).map LedgerUtxo.ogmios

/-- The ledger as the db-sync data source reads it, whatever the scripts. -/
def Ledger.db {MainChainScripts : Type} (l : Ledger) (get_block_by_hash : McBlockHash → Option Nat)
    (latest_stable_block : Option Nat) : GovernedMapDb MainChainScripts :=
  ⟨fun _ => l.utxos.map LedgerUtxo.row, get_block_by_hash, latest_stable_block⟩

/-- What a command's transaction does at the validator address: the UTXOs it spends, the tokens
of the policy it mints (burns, when negative), and the entry of the UTXO it creates, if one. -/
structure Transaction where
  inputs : List OgmiosUtxo
  mint : Int
  output : Option GovernedMapDatum

/-- A UTXO after a transaction at index `block_index` of block `block_no`: spent by it if it is
among its inputs and not spent yet. -/
def Transaction.spend (tx : Transaction) (block_no block_index : Nat) (utxo : LedgerUtxo) :
    LedgerUtxo :=
  if utxo.spent.isNone && tx.inputs.any (·.utxo_id == utxo.utxo_id) then
    { utxo with spent := some (block_no, block_index) }
  else utxo

/-- A transaction included at index `block_index` of block `block_no`. -/
def Ledger.apply_tx (l : Ledger) (tx : Transaction) (block_no block_index : Nat) : Ledger :=
  ⟨l.utxos.map (tx.spend block_no block_index) ++
    (tx.output.map fun entry =>
      (⟨l.next_utxo_id, block_no, block_index, none, entry⟩ : LedgerUtxo)).toList,
   l.next_utxo_id + 1, l.minted + tx.mint⟩

/-! ## The commands -/

/-- What a command runs with: the governance policy, the hash of the payment key, and where a
transaction it submits is included. -/
structure Context where
  governance : GovernancePolicy
  payment_key_hash : MainchainKeyHash
  block_no : Nat
  block_index : Nat

/-- `submit_or_create_tx_to_sign`: a governance of the payment key alone submits the transaction;
with any other the transaction is to be signed, and the ledger stays as it was. -/
def submit_or_create_tx_to_sign (ctx : Context) (tx : Transaction) (l : Ledger) :
    MultiSigSmartContractResult × Ledger :=
  if ctx.governance.is_single_key_policy_for ctx.payment_key_hash then
    (.TransactionSubmitted, l.apply_tx tx ctx.block_no ctx.block_index)
  else (.TransactionToSign, l)

/-- The entry of one UTXO in `ogmios_utxos_to_governed_map_utxos`: none without the token or a
datum, or for a datum that is not an entry; the outer `none` is a panic of the decoding. -/
def governed_map_datum_of (utxo : OgmiosUtxo) : Option (Option GovernedMapDatum) :=
  if utxo.has_token then
    match utxo.datum with
    | none => some none
    | some datum => (GovernedMapDatum.try_from datum).map Except.toOption
  else some none

/-- `ogmios_utxos_to_governed_map_utxos`: the UTXOs with the token and an entry. -/
def ogmios_utxos_to_governed_map_utxos (utxos : List OgmiosUtxo) :
    Option (List (OgmiosUtxo × GovernedMapDatum)) :=
  utxos.filterMapM fun utxo => (governed_map_datum_of utxo).map (·.map (utxo, ·))

/-- `get_current_value`: the value of the first entry of the key. The iterator is lazy: no UTXO
after that entry is read. -/
def get_current_value : List OgmiosUtxo → String → Option (Option ByteString)
  | [], _ => some none
  | utxo :: utxos, key =>
    (governed_map_datum_of utxo).bind fun
      | some datum =>
        if datum.key = key then some (some datum.value) else get_current_value utxos key
      | none => get_current_value utxos key

/-- `get_utxos_for_key` -/
def get_utxos_for_key (validator_utxos : List OgmiosUtxo) (key : String) :
    Option (List OgmiosUtxo) :=
  (ogmios_utxos_to_governed_map_utxos validator_utxos).map fun utxos =>
    (utxos.filter fun u => u.2.key = key).map (·.1)

/-- `insert_key_value_tx`: mints a token and creates the entry. -/
def insert_key_value_tx (key : String) (value : ByteString) : Transaction :=
  ⟨[], 1, some ⟨key, value⟩⟩

/-- `update_key_value_tx`: spends the UTXOs of the key, burns the tokens of all of them but one,
and creates the entry. -/
def update_key_value_tx (key : String) (value : ByteString) (utxos_for_key : List OgmiosUtxo) :
    Transaction :=
  ⟨utxos_for_key,
   if utxos_for_key.length > 1 then -((utxos_for_key.length : Int) - 1) else 0,
   some ⟨key, value⟩⟩

/-- `remove_key_value_tx`: spends the UTXOs of the key and burns their tokens. -/
def remove_key_value_tx (utxos_for_key : List OgmiosUtxo) : Transaction :=
  ⟨utxos_for_key, -(utxos_for_key.length : Int), none⟩

/-- `run_insert`: an error if the key holds another value, nothing to do if it holds this one. The
outer `none` is a panic. -/
def run_insert (ctx : Context) (l : Ledger) (key : String) (value : ByteString) :
    Option (Except String (Option MultiSigSmartContractResult) × Ledger) :=
  (get_current_value l.query_utxos key).map fun
    | some current_value =>
      if current_value ≠ value then
        (.error ("There is already a value stored for key '" ++ key ++ "'."), l)
      else (.ok none, l)
    | none =>
      let (result, l') := submit_or_create_tx_to_sign ctx (insert_key_value_tx key value) l
      (.ok (some result), l')

/-- `run_update`: an error if the key holds no value, or one other than the expected; nothing to do
if it holds the new one. -/
def run_update (ctx : Context) (l : Ledger) (key : String) (value : ByteString)
    (expected_current_value : Option ByteString) :
    Option (Except String (Option MultiSigSmartContractResult) × Ledger) := do
  let utxos_for_key ← get_utxos_for_key l.query_utxos key
  match ← get_current_value l.query_utxos key with
  | none => return (.error ("Cannot update nonexistent key :'" ++ key ++ "'."), l)
  | some actual_current_value =>
    if expected_current_value.any (· ≠ actual_current_value) then
      return (.error ("Value for key '" ++ key ++ "' is set to a different value than expected."),
        l)
    else if actual_current_value ≠ value then
      let (result, l') :=
        submit_or_create_tx_to_sign ctx (update_key_value_tx key value utxos_for_key) l
      return (.ok (some result), l')
    else return (.ok none, l)

/-- `run_remove`: nothing to do if the key holds no value. -/
def run_remove (ctx : Context) (l : Ledger) (key : String) :
    Option (Except String (Option MultiSigSmartContractResult) × Ledger) :=
  (get_utxos_for_key l.query_utxos key).map fun utxos_for_key =>
    match utxos_for_key.length with
    | 0 => (.ok none, l)
    | _ =>
      let (result, l') := submit_or_create_tx_to_sign ctx (remove_key_value_tx utxos_for_key) l
      (.ok (some result), l')

/-- `run_get` -/
def run_get (l : Ledger) (key : String) : Option (Option ByteString) :=
  get_current_value l.query_utxos key

/-- `run_list` -/
def run_list (l : Ledger) : Option (List GovernedMapDatum) :=
  (ogmios_utxos_to_governed_map_utxos l.query_utxos).map (·.map (·.2))

/-- A command of the Governed Map. -/
inductive Command where
  | insert (key : String) (value : ByteString)
  | update (key : String) (value : ByteString) (expected_current_value : Option ByteString)
  | remove (key : String)

/-- Runs a command. -/
def Command.run (ctx : Context) (l : Ledger) :
    Command → Option (Except String (Option MultiSigSmartContractResult) × Ledger)
  | .insert key value => run_insert ctx l key value
  | .update key value expected_current_value => run_update ctx l key value expected_current_value
  | .remove key => run_remove ctx l key

/-- The ledger after a command. -/
def step (l : Ledger) (c : Context × Command) : Option Ledger :=
  (c.2.run c.1 l).map Prod.snd

/-! ## What the commands are for -/

/-- What a command does to the map: an insert adds an absent key, an update writes a present key
that holds the expected value, a removal drops the key. -/
def Command.apply (m : SortedMap String ByteString) : Command → SortedMap String ByteString
  | .insert key value => if m.contains key then m else m.insert key value
  | .update key value expected_current_value =>
    match m.lookup key with
    | some current_value =>
      if expected_current_value.all (· = current_value) then m.insert key value else m
    | none => m
  | .remove key => m.erase key

/-- The map that commands make: those run by a governance of the payment key alone, in order. -/
def commandsMap (cmds : List (Context × Command)) : SortedMap String ByteString :=
  cmds.foldl (fun m c =>
    if c.1.governance.is_single_key_policy_for c.1.payment_key_hash then c.2.apply m else m)
    SortedMap.empty

/-! ## Reading the ledger -/

/-- The UTXOs not spent. -/
def Ledger.unspent (l : Ledger) : List LedgerUtxo := l.utxos.filter (·.spent.isNone)

/-- The key and the value of a UTXO's entry. -/
def LedgerUtxo.pair (utxo : LedgerUtxo) : String × ByteString := (utxo.entry.key, utxo.entry.value)

/-- The entries of the UTXOs not spent, oldest first. -/
def Ledger.entries (l : Ledger) : List (String × ByteString) := l.unspent.map LedgerUtxo.pair

/-- A UTXO that a command created holds its entry. -/
theorem governed_map_datum_of_ogmios (utxo : LedgerUtxo) :
    governed_map_datum_of utxo.ogmios = some (some utxo.entry) := by
  simp [governed_map_datum_of, LedgerUtxo.ogmios, governed_map_round_trip, Except.toOption]

theorem ogmios_utxos_to_governed_map_utxos_map :
    ∀ utxos : List LedgerUtxo, ogmios_utxos_to_governed_map_utxos (utxos.map LedgerUtxo.ogmios) =
      some (utxos.map fun utxo => (utxo.ogmios, utxo.entry))
  | [] => rfl
  | utxo :: utxos => by
    have ih := ogmios_utxos_to_governed_map_utxos_map utxos
    unfold ogmios_utxos_to_governed_map_utxos at ih ⊢
    simp [governed_map_datum_of_ogmios, ih]

/-- Over the UTXOs that the commands created, `get_current_value` is the lookup of the first
entry of the key. -/
theorem get_current_value_map (key : String) :
    ∀ utxos : List LedgerUtxo,
      get_current_value (utxos.map LedgerUtxo.ogmios) key = some ((utxos.map LedgerUtxo.pair).lookup key)
  | [] => rfl
  | utxo :: utxos => by
    rw [List.map_cons, get_current_value, governed_map_datum_of_ogmios, Option.bind_some,
      List.map_cons, LedgerUtxo.pair, lookup_cons_eq]
    dsimp only
    by_cases hkey : utxo.entry.key = key
    · simp [hkey]
    · rw [if_neg hkey, if_neg (Ne.symm hkey), get_current_value_map key utxos]

theorem get_utxos_for_key_map (utxos : List LedgerUtxo) (key : String) :
    get_utxos_for_key (utxos.map LedgerUtxo.ogmios) key =
      some ((utxos.filter fun utxo => utxo.entry.key = key).map LedgerUtxo.ogmios) := by
  rw [get_utxos_for_key, ogmios_utxos_to_governed_map_utxos_map, Option.map_some, List.filter_map,
    List.map_map]
  rfl

/-! ## What a transaction does -/

section apply_tx

variable (l : Ledger) (tx : Transaction) (block_no block_index : Nat)

/-- The UTXOs that a transaction leaves unspent: those unspent and not among its inputs. -/
theorem filter_unspent_map_spend (utxos : List LedgerUtxo) :
    (utxos.map (tx.spend block_no block_index)).filter (·.spent.isNone) =
      (utxos.filter (·.spent.isNone)).filter fun utxo =>
        !tx.inputs.any (·.utxo_id == utxo.utxo_id) := by
  rw [List.filter_map, List.filter_filter]
  -- a UTXO that is unspent after the transaction is as it was
  have hfix : ∀ utxo ∈ utxos.filter ((·.spent.isNone) ∘ tx.spend block_no block_index),
      tx.spend block_no block_index utxo = utxo := by
    intro utxo hutxo
    have hp := (List.mem_filter.mp hutxo).2
    simp only [Function.comp_apply, Transaction.spend] at hp ⊢
    split at hp
    · simp at hp
    · rename_i hcond
      rw [if_neg hcond]
  rw [List.map_congr_left hfix, List.map_id']
  refine List.filter_congr fun utxo _ => ?_
  by_cases hnone : utxo.spent.isNone = true <;>
    by_cases hin : tx.inputs.any (·.utxo_id == utxo.utxo_id) = true <;>
    simp [Transaction.spend, hnone, hin]

/-- A transaction spends the unspent UTXOs among its inputs and adds the one it creates. -/
theorem unspent_apply_tx :
    (l.apply_tx tx block_no block_index).unspent =
      l.unspent.filter (fun utxo => !tx.inputs.any (·.utxo_id == utxo.utxo_id)) ++
        (tx.output.map fun entry =>
          (⟨l.next_utxo_id, block_no, block_index, none, entry⟩ : LedgerUtxo)).toList := by
  unfold Ledger.unspent Ledger.apply_tx
  rw [List.filter_append, filter_unspent_map_spend]
  congr 1
  cases tx.output <;> rfl

theorem map_utxo_id_apply_tx :
    (l.apply_tx tx block_no block_index).utxos.map (·.utxo_id) =
      l.utxos.map (·.utxo_id) ++ (tx.output.map fun _ => l.next_utxo_id).toList := by
  unfold Ledger.apply_tx
  rw [List.map_append, List.map_map]
  congr 1
  · refine List.map_congr_left fun utxo _ => ?_
    unfold Transaction.spend
    simp only [Function.comp_apply]
    split <;> rfl
  · cases tx.output <;> rfl

/-- The references stay distinct, and below the next one. -/
theorem ids_apply_tx (hfresh : ∀ utxo ∈ l.utxos, utxo.utxo_id < l.next_utxo_id)
    (hids : (l.utxos.map (·.utxo_id)).Nodup) :
    (∀ utxo ∈ (l.apply_tx tx block_no block_index).utxos,
        utxo.utxo_id < (l.apply_tx tx block_no block_index).next_utxo_id) ∧
      ((l.apply_tx tx block_no block_index).utxos.map (·.utxo_id)).Nodup := by
  have hmap := map_utxo_id_apply_tx l tx block_no block_index
  constructor
  · intro utxo hutxo
    have hmem : utxo.utxo_id ∈ (l.apply_tx tx block_no block_index).utxos.map (·.utxo_id) :=
      List.mem_map_of_mem hutxo
    rw [hmap, List.mem_append] at hmem
    show utxo.utxo_id < l.next_utxo_id + 1
    rcases hmem with hold | hnew
    · obtain ⟨u, hu, heq⟩ := List.mem_map.mp hold
      have := hfresh u hu
      omega
    · cases hout : tx.output <;> simp_all
  · rw [hmap]
    refine List.nodup_append.mpr ⟨hids, ?_, fun a ha b hb heq => ?_⟩
    · cases tx.output <;> simp
    · obtain ⟨u, hu, rfl⟩ := List.mem_map.mp ha
      have := hfresh u hu
      cases hout : tx.output <;> simp_all

end apply_tx

/-- The inputs of a command's transaction are the unspent UTXOs of its key: with distinct
references, it spends exactly the UTXOs of the key. -/
theorem filter_not_inputs (l : Ledger) (hids : (l.utxos.map (·.utxo_id)).Nodup) (key : String) :
    l.unspent.filter (fun utxo => !((l.unspent.filter fun u => u.entry.key = key).map
        LedgerUtxo.ogmios).any (·.utxo_id == utxo.utxo_id)) =
      l.unspent.filter fun utxo => utxo.entry.key != key := by
  refine List.filter_congr fun utxo hutxo => ?_
  have hutxo' : utxo ∈ l.utxos := List.mem_of_mem_filter hutxo
  -- another unspent UTXO of the key with this reference is this one
  have hiff : (((l.unspent.filter fun u => u.entry.key = key).map LedgerUtxo.ogmios).any
      (·.utxo_id == utxo.utxo_id)) = decide (utxo.entry.key = key) := by
    rw [Bool.eq_iff_iff, List.any_eq_true, decide_eq_true_iff]
    constructor
    · rintro ⟨o, ho, hid⟩
      obtain ⟨u, hu, rfl⟩ := List.mem_map.mp ho
      have hu' := List.mem_filter.mp hu
      have heq : u = utxo := List.inj_on_of_nodup_map hids (List.mem_of_mem_filter hu'.1) hutxo'
        (by simpa [LedgerUtxo.ogmios] using hid)
      subst heq
      simpa using hu'.2
    · intro hkey
      exact ⟨utxo.ogmios, List.mem_map_of_mem (List.mem_filter.mpr ⟨hutxo, by simpa using hkey⟩),
        by simp [LedgerUtxo.ogmios]⟩
  rw [hiff]
  by_cases hkey : utxo.entry.key = key <;> simp [hkey]

/-- A transaction that spends the unspent UTXOs of a key and writes the key, or removes it. -/
theorem entries_apply_key_tx (l : Ledger) (hids : (l.utxos.map (·.utxo_id)).Nodup) (key : String)
    (value : Option ByteString) (tx : Transaction)
    (hinputs : tx.inputs = (l.unspent.filter fun utxo => utxo.entry.key = key).map LedgerUtxo.ogmios)
    (houtput : tx.output = value.map (⟨key, ·⟩)) (block_no block_index : Nat) :
    (l.apply_tx tx block_no block_index).entries =
        l.entries.filter (fun e => e.1 != key) ++ (value.map (key, ·)).toList ∧
      (l.apply_tx tx block_no block_index).unspent.length =
        (l.unspent.filter fun utxo => utxo.entry.key != key).length + (value.map (key, ·)).toList.length := by
  rw [Ledger.entries, unspent_apply_tx, hinputs, filter_not_inputs l hids key, houtput]
  refine ⟨?_, ?_⟩
  · rw [List.map_append, Ledger.entries, List.filter_map]
    cases value <;> rfl
  · cases value <;> simp

/-! ## One command -/

/-- The ledger after the commands `done`, read at its tip: distinct references below the next
one, no key in two unspent UTXOs, the map that `done` made, and a token for each unspent UTXO. -/
structure NowInv (done : List (Context × Command)) (l : Ledger) : Prop where
  fresh : ∀ utxo ∈ l.utxos, utxo.utxo_id < l.next_utxo_id
  ids : (l.utxos.map (·.utxo_id)).Nodup
  keys : KeysNodup l.entries
  map : ∀ key, l.entries.lookup key = (commandsMap done).lookup key
  minted : l.minted = l.unspent.length

theorem nowInv_empty : NowInv [] Ledger.empty :=
  ⟨by simp [Ledger.empty], by simp [Ledger.empty], List.Pairwise.nil, fun _ => rfl,
    by simp [Ledger.empty, Ledger.unspent]⟩

theorem commandsMap_append (done : List (Context × Command)) (c : Context × Command) :
    commandsMap (done ++ [c]) =
      if c.1.governance.is_single_key_policy_for c.1.payment_key_hash then
        c.2.apply (commandsMap done)
      else commandsMap done := by
  simp [commandsMap, List.foldl_append]

section now

variable {done : List (Context × Command)} {l : Ledger}

/-- What the commands read at the tip: the value of a key in the map that `done` made. -/
theorem get_current_value_query (h : NowInv done l) (key : String) :
    get_current_value l.query_utxos key = some ((commandsMap done).lookup key) := by
  rw [← h.map key]
  exact get_current_value_map key l.unspent

/-- A key that the map lacks has no unspent UTXO. -/
theorem filter_key_eq_nil (h : NowInv done l) {key : String}
    (hkey : (commandsMap done).lookup key = none) :
    l.unspent.filter (fun utxo => utxo.entry.key = key) = [] := by
  rw [List.filter_eq_nil_iff]
  intro utxo hutxo hk
  rw [← h.map key, List.lookup_eq_none_iff] at hkey
  have := hkey utxo.pair (List.mem_map_of_mem hutxo)
  simp_all [LedgerUtxo.pair]

/-- A key that the map holds has an unspent UTXO. -/
theorem filter_key_ne_nil (h : NowInv done l) {key : String} {value : ByteString}
    (hkey : (commandsMap done).lookup key = some value) :
    l.unspent.filter (fun utxo => utxo.entry.key = key) ≠ [] := by
  rw [← h.map key, lookup_eq_some_iff h.keys] at hkey
  obtain ⟨utxo, hutxo, hpair⟩ := List.mem_map.mp hkey
  refine List.ne_nil_of_mem (List.mem_filter.mpr ⟨hutxo, ?_⟩)
  simp only [LedgerUtxo.pair, Prod.mk.injEq] at hpair
  simp [hpair.1]

/-- A command that leaves the map as it was may leave the ledger as it was. -/
theorem NowInv.of_lookup (h : NowInv done l) {c : Context × Command}
    (hmap : ∀ key, (commandsMap (done ++ [c])).lookup key = (commandsMap done).lookup key) :
    NowInv (done ++ [c]) l :=
  ⟨h.fresh, h.ids, h.keys, fun key => (h.map key).trans (hmap key).symm, h.minted⟩

/-- A submitted transaction that spends the UTXOs of a key, mints a token for the one it creates
and burns one for each it spends, makes the ledger hold the map with the key set. -/
theorem NowInv.apply_key_tx (h : NowInv done l) {c : Context × Command} (key : String)
    (value : Option ByteString) (tx : Transaction)
    (hinputs : tx.inputs = (l.unspent.filter fun utxo => utxo.entry.key = key).map LedgerUtxo.ogmios)
    (houtput : tx.output = value.map (⟨key, ·⟩))
    (hmint : tx.mint = ((value.map (key, ·)).toList.length : Int) -
      (l.unspent.filter fun utxo => utxo.entry.key = key).length)
    (hmap : commandsMap (done ++ [c]) = (commandsMap done).set key value)
    (block_no block_index : Nat) :
    NowInv (done ++ [c]) (l.apply_tx tx block_no block_index) := by
  obtain ⟨hentries, hlength⟩ :=
    entries_apply_key_tx l h.ids key value tx hinputs houtput block_no block_index
  obtain ⟨hfresh, hids⟩ := ids_apply_tx l tx block_no block_index h.fresh h.ids
  refine ⟨hfresh, hids, ?_, fun key' => ?_, ?_⟩
  · -- the other keys' entries, then the key's
    rw [hentries]
    cases value with
    | none => simpa using h.keys.filter _
    | some v =>
      refine (h.keys.filter _).append_singleton v fun e he => ?_
      simpa using (List.mem_filter.mp he).2
  · rw [hentries, hmap, SortedMap.lookup_set, List.lookup_append, lookup_filter_ne, ← h.map key']
    by_cases hk : key' = key
    · subst hk
      cases value <;> simp
    · cases value <;> simp [hk, lookup_cons_eq]
  · -- one token for each unspent UTXO: the key's are burnt, the new one's minted
    have hsplit := List.length_eq_length_filter_add (l := l.unspent)
      fun utxo => decide (utxo.entry.key = key)
    have hne : (l.unspent.filter fun utxo => utxo.entry.key != key).length =
        (l.unspent.filter fun utxo => !decide (utxo.entry.key = key)).length := by
      congr 1
    show l.minted + tx.mint = _
    rw [hlength, hmint, h.minted, hne]
    omega

/-- What a command can do to the ledger: nothing, or add its transaction at its place. -/
def Stays (ctx : Context) (l l' : Ledger) : Prop :=
  l' = l ∨ ∃ tx, l' = l.apply_tx tx ctx.block_no ctx.block_index

theorem run_insert_spec (h : NowInv done l) (ctx : Context) (key : String) (value : ByteString) :
    ∃ r l', run_insert ctx l key value = some (r, l') ∧
      NowInv (done ++ [(ctx, .insert key value)]) l' ∧ Stays ctx l l' := by
  rw [run_insert, get_current_value_query h, Option.map_some]
  cases hkey : (commandsMap done).lookup key with
  | some current_value =>
    -- the key holds a value: an error, or nothing to do
    have hmap : ∀ k, (commandsMap (done ++ [(ctx, .insert key value)])).lookup k =
        (commandsMap done).lookup k := by
      intro k
      rw [commandsMap_append]
      split <;> simp [Command.apply, SortedMap.contains_eq, hkey]
    by_cases hsame : current_value = value
    · exact ⟨.ok none, l, by simp [hsame], h.of_lookup hmap, .inl rfl⟩
    · exact ⟨.error ("There is already a value stored for key '" ++ key ++ "'."), l,
        by simp [hsame], h.of_lookup hmap, .inl rfl⟩
  | none =>
    have hnil := filter_key_eq_nil h hkey
    by_cases hsingle : ctx.governance.is_single_key_policy_for ctx.payment_key_hash = true
    · refine ⟨.ok (some .TransactionSubmitted),
        l.apply_tx (insert_key_value_tx key value) ctx.block_no ctx.block_index,
        by simp [submit_or_create_tx_to_sign, hsingle], ?_, .inr ⟨_, rfl⟩⟩
      refine h.apply_key_tx key (some value) _ (by rw [hnil]; rfl) rfl
        (by simp [insert_key_value_tx, hnil]) ?_ _ _
      rw [commandsMap_append, if_pos hsingle]
      simp [Command.apply, SortedMap.contains_eq, hkey, SortedMap.set]
    · refine ⟨.ok (some .TransactionToSign), l, by simp [submit_or_create_tx_to_sign, hsingle],
        h.of_lookup fun k => ?_, .inl rfl⟩
      rw [commandsMap_append, if_neg hsingle]

/-- The inputs of the transactions of update and remove: the unspent UTXOs of the key. -/
theorem get_utxos_for_key_query (l : Ledger) (key : String) :
    get_utxos_for_key l.query_utxos key =
      some ((l.unspent.filter fun utxo => utxo.entry.key = key).map LedgerUtxo.ogmios) :=
  get_utxos_for_key_map l.unspent key

theorem run_update_spec (h : NowInv done l) (ctx : Context) (key : String) (value : ByteString)
    (expected_current_value : Option ByteString) :
    ∃ r l', run_update ctx l key value expected_current_value = some (r, l') ∧
      NowInv (done ++ [(ctx, .update key value expected_current_value)]) l' ∧ Stays ctx l l' := by
  simp only [run_update, get_utxos_for_key_query, get_current_value_query h, Option.bind_eq_bind,
    Option.bind_some]
  cases hkey : (commandsMap done).lookup key with
  | none =>
    -- no value to update: an error, and the map keeps the key absent
    refine ⟨_, l, rfl, h.of_lookup fun k => ?_, .inl rfl⟩
    rw [commandsMap_append]
    split <;> simp [Command.apply, hkey]
  | some current_value =>
    by_cases hexpected : expected_current_value.any (· ≠ current_value) = true
    · -- another value than the expected: an error, and the map keeps it
      have hall : expected_current_value.all (· = current_value) = false := by
        cases expected_current_value <;> simp_all
      refine ⟨_, l, by dsimp only; rw [if_pos hexpected]; rfl, h.of_lookup fun k => ?_, .inl rfl⟩
      rw [commandsMap_append]
      split <;> simp [Command.apply, hkey, hall]
    · have hall : expected_current_value.all (· = current_value) = true := by
        cases expected_current_value <;> simp_all
      have hexpected' : expected_current_value.any (fun e => !decide (e = current_value)) = false := by
        simpa using hexpected
      have hwrite : ∀ hsingle : ctx.governance.is_single_key_policy_for ctx.payment_key_hash = true,
          commandsMap (done ++ [(ctx, .update key value expected_current_value)]) =
            (commandsMap done).set key (some value) := fun hsingle => by
        rw [commandsMap_append, if_pos hsingle]
        simp [Command.apply, hkey, hall, SortedMap.set]
      by_cases hsame : current_value = value
      · -- the value is already there: nothing to do
        refine ⟨.ok none, l, by subst hsame; simp [hexpected'], h.of_lookup fun k => ?_, .inl rfl⟩
        by_cases hsingle : ctx.governance.is_single_key_policy_for ctx.payment_key_hash = true
        · rw [hwrite hsingle, SortedMap.lookup_set]
          split <;> simp_all
        · rw [commandsMap_append, if_neg hsingle]
      · have hne := filter_key_ne_nil h hkey
        by_cases hsingle : ctx.governance.is_single_key_policy_for ctx.payment_key_hash = true
        · refine ⟨.ok (some .TransactionSubmitted), l.apply_tx (update_key_value_tx key value
            ((l.unspent.filter fun utxo => utxo.entry.key = key).map LedgerUtxo.ogmios))
            ctx.block_no ctx.block_index,
            by simp [hexpected', hsame, submit_or_create_tx_to_sign, hsingle], ?_, .inr ⟨_, rfl⟩⟩
          refine h.apply_key_tx key (some value) _ rfl rfl ?_ (hwrite hsingle) _ _
          -- all the tokens of the key but one are burnt
          have hpos := List.length_pos_of_ne_nil hne
          simp only [update_key_value_tx, List.length_map, Option.map_some, Option.toList_some,
            List.length_singleton]
          split <;> omega
        · refine ⟨.ok (some .TransactionToSign), l,
            by simp [hexpected', hsame, submit_or_create_tx_to_sign, hsingle],
            h.of_lookup fun k => ?_, .inl rfl⟩
          rw [commandsMap_append, if_neg hsingle]

theorem run_remove_spec (h : NowInv done l) (ctx : Context) (key : String) :
    ∃ r l', run_remove ctx l key = some (r, l') ∧
      NowInv (done ++ [(ctx, .remove key)]) l' ∧ Stays ctx l l' := by
  rw [run_remove, get_utxos_for_key_query, Option.map_some]
  have herase : ∀ hsingle : ctx.governance.is_single_key_policy_for ctx.payment_key_hash = true,
      commandsMap (done ++ [(ctx, .remove key)]) = (commandsMap done).set key none :=
    fun hsingle => by rw [commandsMap_append, if_pos hsingle]; rfl
  cases hkey : (commandsMap done).lookup key with
  | none =>
    -- no UTXO of the key: nothing to do, and the key stays absent
    rw [filter_key_eq_nil h hkey]
    refine ⟨.ok none, l, rfl, h.of_lookup fun k => ?_, .inl rfl⟩
    by_cases hsingle : ctx.governance.is_single_key_policy_for ctx.payment_key_hash = true
    · rw [herase hsingle, SortedMap.lookup_set]
      split <;> simp_all
    · rw [commandsMap_append, if_neg hsingle]
  | some current_value =>
    obtain ⟨utxo, utxos, hcons⟩ := List.exists_cons_of_ne_nil (filter_key_ne_nil h hkey)
    by_cases hsingle : ctx.governance.is_single_key_policy_for ctx.payment_key_hash = true
    · refine ⟨.ok (some .TransactionSubmitted), l.apply_tx (remove_key_value_tx
          ((l.unspent.filter fun utxo => utxo.entry.key = key).map LedgerUtxo.ogmios))
          ctx.block_no ctx.block_index,
        by simp [hcons, submit_or_create_tx_to_sign, hsingle], ?_, .inr ⟨_, rfl⟩⟩
      exact h.apply_key_tx key none _ rfl rfl (by simp [remove_key_value_tx]) (herase hsingle) _ _
    · refine ⟨.ok (some .TransactionToSign), l, by simp [hcons, submit_or_create_tx_to_sign, hsingle],
        h.of_lookup fun k => ?_, .inl rfl⟩
      rw [commandsMap_append, if_neg hsingle]

/-- The step lemma: every command keeps the ledger holding the map of the commands, with one
token and one unspent UTXO for each key. -/
theorem run_spec (h : NowInv done l) (c : Context × Command) :
    ∃ r l', c.2.run c.1 l = some (r, l') ∧ NowInv (done ++ [c]) l' ∧ Stays c.1 l l' := by
  obtain ⟨ctx, cmd⟩ := c
  cases cmd with
  | insert key value => exact run_insert_spec h ctx key value
  | update key value expected_current_value =>
    exact run_update_spec h ctx key value expected_current_value
  | remove key => exact run_remove_spec h ctx key

end now

/-! ## Runs of commands -/

/-- The run lemma at the tip: after any commands, the ledger holds their map. The induction is on
the commands, from any ledger that holds the map of those before. -/
theorem runAll_step_nowInv :
    ∀ (cmds done : List (Context × Command)) (l : Ledger), NowInv done l →
      ∃ l', runAll step l cmds = some l' ∧ NowInv (done ++ cmds) l'
  | [], done, l, h => ⟨l, rfl, by simpa using h⟩
  | c :: cmds, done, l, h => by
    obtain ⟨r, l₁, hrun, h₁, -⟩ := run_spec h c
    obtain ⟨l', hl', h'⟩ := runAll_step_nowInv cmds (done ++ [c]) l₁ h₁
    refine ⟨l', ?_, by simpa using h'⟩
    simp only [runAll_cons, step, hrun, Option.map_some, Option.bind_some]
    exact hl'

/-- The Governed Map's commands from an empty ledger, any of them, in any order, each run by any
governance: the tokens of the policy minted, less those burnt, are the unspent UTXOs at the
validator address, one each; no key is held by two of them; and `run_get` reads of each key the
value that the commands made, an insert writing an absent key, an update a key that holds the
expected value, a removal dropping the key, each when a governance of the payment key alone
submitted it. -/
theorem governed_map_commands_keep_one_utxo_per_key (cmds : List (Context × Command)) :
    ∃ l, runAll step Ledger.empty cmds = some l ∧
      l.minted = l.query_utxos.length ∧
      (∃ entries, run_list l = some entries ∧ (entries.map (·.key)).Nodup) ∧
      ∀ key, run_get l key = some ((commandsMap cmds).lookup key) := by
  obtain ⟨l, hrun, h⟩ := runAll_step_nowInv cmds [] Ledger.empty nowInv_empty
  rw [List.nil_append] at h
  refine ⟨l, hrun, ?_, ⟨l.unspent.map (·.entry), ?_, ?_⟩, get_current_value_query h⟩
  · rw [h.minted, Ledger.query_utxos, List.length_map]
    rfl
  · show (ogmios_utxos_to_governed_map_utxos (l.unspent.map LedgerUtxo.ogmios)).map _ = _
    rw [ogmios_utxos_to_governed_map_utxos_map, Option.map_some, List.map_map]
    rfl
  · -- the keys of the entries are those of the ledger's entries
    have hkeys : (l.unspent.map LedgerUtxo.pair).Pairwise fun a b => a.1 ≠ b.1 := h.keys
    have hkeys' := List.pairwise_map.mp hkeys
    rw [List.map_map]
    exact List.pairwise_map.mpr hkeys'

/-! ## The map at every main chain block -/

/-- The entries of the UTXOs live at block `block`, oldest first. -/
def Ledger.liveAt (l : Ledger) (block : Nat) : List (String × ByteString) :=
  (l.utxos.filter (·.row.live_at block)).map LedgerUtxo.pair

/-- Every UTXO of the ledger was created, and spent if it was, before block `t`. -/
def Before (t : Nat) (l : Ledger) : Prop :=
  ∀ utxo ∈ l.utxos, utxo.block_no < t ∧ ∀ s ∈ utxo.spent, s.1 < t

/-- After the last transaction, the live UTXOs are those not spent. -/
theorem liveAt_of_before {t : Nat} {l : Ledger} (h : Before t l) {block : Nat}
    (hblock : t ≤ block + 1) : l.liveAt block = l.entries := by
  unfold Ledger.liveAt Ledger.entries Ledger.unspent
  congr 1
  refine List.filter_congr fun utxo hutxo => ?_
  obtain ⟨hcreated, hspent⟩ := h utxo hutxo
  cases hs : utxo.spent with
  | none => simp [LedgerUtxo.row, GovernedMapUtxo.live_at, hs]; omega
  | some s =>
    have := hspent s hs
    simp [LedgerUtxo.row, GovernedMapUtxo.live_at, hs]
    omega

/-- A transaction in a later block leaves what is live at an earlier block. -/
theorem liveAt_apply_tx (l : Ledger) (tx : Transaction) {block_no block : Nat}
    (hblock : block < block_no) (block_index : Nat) :
    (l.apply_tx tx block_no block_index).liveAt block = l.liveAt block := by
  unfold Ledger.liveAt Ledger.apply_tx
  have hnew : (tx.output.map fun entry =>
      (⟨l.next_utxo_id, block_no, block_index, none, entry⟩ : LedgerUtxo)).toList.filter
        (·.row.live_at block) = [] := by
    cases tx.output <;> simp [LedgerUtxo.row, GovernedMapUtxo.live_at, Nat.not_le.mpr hblock]
  rw [List.filter_append, hnew, List.append_nil, List.filter_map, List.map_map]
  -- a spend in the later block leaves the UTXO live at the earlier one
  have hlive : ∀ utxo : LedgerUtxo,
      (tx.spend block_no block_index utxo).row.live_at block = utxo.row.live_at block := by
    intro utxo
    unfold Transaction.spend
    split
    · rename_i hcond
      simp only [Bool.and_eq_true, Option.isNone_iff_eq_none] at hcond
      simp only [LedgerUtxo.row, GovernedMapUtxo.live_at, hcond.1, Option.all_some, Option.all_none]
      simp [hblock]
      rfl
    · rfl
  have hpair : ∀ utxo : LedgerUtxo,
      (tx.spend block_no block_index utxo).pair = utxo.pair := by
    intro utxo
    unfold Transaction.spend
    split <;> rfl
  have hfilter : l.utxos.filter ((·.row.live_at block) ∘ tx.spend block_no block_index) =
      l.utxos.filter (·.row.live_at block) :=
    List.filter_congr fun utxo _ => hlive utxo
  rw [hfilter]
  exact List.map_congr_left fun utxo _ => hpair utxo

/-- A transaction in block `block_no` happens before block `block_no + 1`. -/
theorem before_apply_tx {t : Nat} {l : Ledger} (h : Before t l) (tx : Transaction) {block_no : Nat}
    (ht : t ≤ block_no) (block_index : Nat) :
    Before (block_no + 1) (l.apply_tx tx block_no block_index) := by
  intro utxo hutxo
  rcases List.mem_append.mp hutxo with hold | hnew
  · obtain ⟨u, hu, rfl⟩ := List.mem_map.mp hold
    obtain ⟨hcreated, hspent⟩ := h u hu
    unfold Transaction.spend
    split
    · exact ⟨by simp; omega, by simp⟩
    · exact ⟨by omega, fun s hs => by have := hspent s hs; omega⟩
  · cases hout : tx.output <;> simp_all

/-- The ledger after the commands `done`, all of them before block `t`: at the tip as `NowInv`
says, and at every earlier block the entries live there, no key twice, are the map of the commands
included by then. -/
structure HistInv (done : List (Context × Command)) (t : Nat) (l : Ledger) : Prop where
  now : NowInv done l
  before : Before t l
  blocks : ∀ c ∈ done, c.1.block_no < t
  past : ∀ block < t, KeysNodup (l.liveAt block) ∧
    ∀ key, (l.liveAt block).lookup key =
      (commandsMap (done.filter fun c => c.1.block_no ≤ block)).lookup key

theorem histInv_empty : HistInv [] 0 Ledger.empty :=
  ⟨nowInv_empty, fun _ h => by simp [Ledger.empty] at h, fun _ h => by simp at h,
    fun _ h => absurd h (Nat.not_lt_zero _)⟩

/-- At every block, the entries live there are the map of the commands included by then. -/
theorem HistInv.at {done : List (Context × Command)} {t : Nat} {l : Ledger} (h : HistInv done t l)
    (block : Nat) : KeysNodup (l.liveAt block) ∧
      ∀ key, (l.liveAt block).lookup key =
        (commandsMap (done.filter fun c => c.1.block_no ≤ block)).lookup key := by
  by_cases hblock : block < t
  · exact h.past block hblock
  · -- after the last transaction: the entries at the tip, and every command
    have hall : (done.filter fun c => c.1.block_no ≤ block) = done :=
      List.filter_eq_self.mpr fun c hc => by have := h.blocks c hc; simp; omega
    rw [liveAt_of_before h.before (by omega), hall]
    exact ⟨h.now.keys, h.now.map⟩

/-- The step lemma over blocks: a command whose transaction would be included at block `t` or
later keeps the invariant, for the block after its own. -/
theorem HistInv.step {done : List (Context × Command)} {t : Nat} {l : Ledger}
    (h : HistInv done t l) (c : Context × Command) (hc : t ≤ c.1.block_no) :
    ∃ r l', c.2.run c.1 l = some (r, l') ∧ HistInv (done ++ [c]) (c.1.block_no + 1) l' := by
  obtain ⟨r, l', hrun, hnow, hstays⟩ := run_spec h.now c
  -- nothing happens after the command's block
  have hbefore : Before (c.1.block_no + 1) l' := by
    rcases hstays with rfl | ⟨tx, rfl⟩
    · exact fun utxo hutxo => by
        obtain ⟨h1, h2⟩ := h.before utxo hutxo
        exact ⟨by omega, fun s hs => by have := h2 s hs; omega⟩
    · exact before_apply_tx h.before tx hc _
  refine ⟨r, l', hrun, ⟨hnow, hbefore, fun c' hc' => ?_, fun block hblock => ?_⟩⟩
  · rcases List.mem_append.mp hc' with hold | hnew
    · have := h.blocks c' hold
      omega
    · rw [List.mem_singleton] at hnew
      subst hnew
      omega
  · by_cases hearlier : block < c.1.block_no
    · -- before the command's block: as before it
      have hlive : l'.liveAt block = l.liveAt block := by
        rcases hstays with rfl | ⟨tx, rfl⟩
        · rfl
        · exact liveAt_apply_tx l tx hearlier _
      have hfilter : ((done ++ [c]).filter fun c' => c'.1.block_no ≤ block) =
          done.filter fun c' => c'.1.block_no ≤ block := by
        rw [List.filter_append, List.filter_cons_of_neg (by simp; omega), List.filter_nil,
          List.append_nil]
      rw [hlive, hfilter]
      exact h.at block
    · -- the command's block: the entries at the new tip, and every command
      have hall : ((done ++ [c]).filter fun c' => c'.1.block_no ≤ block) = done ++ [c] :=
        List.filter_eq_self.mpr fun c' hc' => by
          rcases List.mem_append.mp hc' with hold | hnew
          · have := h.blocks c' hold
            simp
            omega
          · rw [List.mem_singleton] at hnew
            subst hnew
            simp
            omega
      rw [liveAt_of_before hbefore (by omega), hall]
      exact ⟨hnow.keys, hnow.map⟩

/-- The run lemma over blocks: commands whose blocks increase from `t` on keep the invariant. -/
theorem runAll_step_histInv :
    ∀ (cmds done : List (Context × Command)) (t : Nat) (l : Ledger), HistInv done t l →
      (∀ c ∈ cmds, t ≤ c.1.block_no) → (cmds.map (·.1.block_no)).Pairwise (· < ·) →
      ∃ t' l', runAll step l cmds = some l' ∧ HistInv (done ++ cmds) t' l'
  | [], done, t, l, h, _, _ => ⟨t, l, rfl, by simpa using h⟩
  | c :: cmds, done, t, l, h, hge, hpw => by
    rw [List.map_cons, List.pairwise_cons] at hpw
    obtain ⟨r, l₁, hrun, h₁⟩ := h.step c (hge c List.mem_cons_self)
    obtain ⟨t', l', hl', h'⟩ := runAll_step_histInv cmds (done ++ [c]) _ l₁ h₁
      (fun c' hc' => hpw.1 _ (List.mem_map_of_mem hc')) hpw.2
    refine ⟨t', l', ?_, by simpa using h'⟩
    simp only [runAll_cons, step, hrun, Option.map_some, Option.bind_some]
    exact hl'

/-! ## What db-sync reads -/

/-- A UTXO that a command created holds its entry. -/
theorem decode_entry_row (utxo : LedgerUtxo) : decode_entry utxo.row.datum = some (some utxo.entry) := by
  simp [decode_entry, LedgerUtxo.row, governed_map_round_trip, Except.toOption]

/-- The map that the db-sync data source reads at a block: the entries of the ledger live there,
where no key is live twice. -/
theorem get_mappings_entries_db {MainChainScripts : Type} (l : Ledger)
    (get_block_by_hash : McBlockHash → Option Nat) (latest_stable_block : Option Nat)
    (scripts : MainChainScripts) {hash : McBlockHash} {block : Nat}
    (hblock : get_block_by_hash hash = some block) (hkeys : KeysNodup (l.liveAt block)) :
    ∃ mappings, get_mappings_entries (l.db get_block_by_hash latest_stable_block) hash scripts =
      some (.ok mappings) ∧ ∀ key, mappings.lookup key = (l.liveAt block).lookup key := by
  -- the rows live at the block, in the query's order, are those of the live UTXOs
  set live := l.utxos.filter (·.row.live_at block) with hlive
  set sorted := (live.map LedgerUtxo.row).insertionSort fun a b =>
    toLex (a.block_no, a.block_index) ≤ toLex (b.block_no, b.block_index) with hsorted
  have hrows : (l.utxos.map LedgerUtxo.row).filter (·.live_at block) = live.map LedgerUtxo.row := by
    rw [List.filter_map]
    rfl
  have hperm : sorted.Perm (live.map LedgerUtxo.row) := List.perm_insertionSort _ _
  have hdatums : get_datums_at_address_with_token (l.utxos.map LedgerUtxo.row) block =
      sorted.map (·.datum) := by
    rw [get_datums_at_address_with_token, hrows]
  -- every row decodes to its entry
  have hsome : ∀ d ∈ sorted.map (·.datum), (decode_entry d).isSome := by
    intro d hd
    obtain ⟨row, hrow, rfl⟩ := List.mem_map.mp hd
    obtain ⟨utxo, -, rfl⟩ := List.mem_map.mp (hperm.mem_iff.mp hrow)
    simp [decode_entry_row]
  set entries := (sorted.map (·.datum)).filterMap fun d => (decode_entry d).join with hentries
  have hpairs : (entries.map fun e => (e.key, e.value)).Perm (l.liveAt block) := by
    have hdecode : ((live.map LedgerUtxo.row).map (·.datum)).filterMap
        (fun d => (decode_entry d).join) = live.map (·.entry) := by
      rw [List.map_map, List.filterMap_map]
      simp [Function.comp_def, decode_entry_row]
    have := ((hperm.map (·.datum)).filterMap fun d => (decode_entry d).join).map
      fun e : GovernedMapDatum => (e.key, e.value)
    rw [hdecode, List.map_map] at this
    exact this
  have hkeys' : KeysNodup (entries.map fun e => (e.key, e.value)) := hkeys.perm hpairs.symm
  refine ⟨entries.foldl (fun mappings e => mappings.insert e.key e.value) SortedMap.empty, ?_,
    fun key => ?_⟩
  · simp only [get_mappings_entries, Ledger.db, hblock, hdatums,
      filterMapM_eq_some_filterMap hsome, Option.map_some]
    rfl
  · -- the entries inserted in order, no key twice
    have hfold : entries.foldl (fun mappings e => mappings.insert e.key e.value) SortedMap.empty =
        (entries.map fun e => (e.key, e.value)).foldl (fun mappings e => mappings.insert e.1 e.2)
          SortedMap.empty := by
      rw [List.foldl_map]
    rw [hfold, SortedMap.lookup_foldl_insert, lookup_reverse hkeys', SortedMap.lookup_empty,
      Option.or_none, lookup_perm hkeys' hpairs]

/-- After commands from an empty ledger, the db-sync data source reads at a main chain block the
map of the commands included by then. -/
theorem get_state_at_block_of_histInv {MainChainScripts : Type} {done : List (Context × Command)}
    {t : Nat} {l : Ledger} (h : HistInv done t l) (get_block_by_hash : McBlockHash → Option Nat)
    (latest_stable_block : Option Nat) (scripts : MainChainScripts) {hash : McBlockHash}
    {block : Nat} (hblock : get_block_by_hash hash = some block) :
    GovernedMapDataSourceImpl.get_state_at_block (l.db get_block_by_hash latest_stable_block) hash
      scripts = some (.ok (commandsMap (done.filter fun c => c.1.block_no ≤ block))) := by
  obtain ⟨hkeys, hmap⟩ := h.at block
  obtain ⟨mappings, hget, hlookup⟩ :=
    get_mappings_entries_db l get_block_by_hash latest_stable_block scripts hblock hkeys
  rw [GovernedMapDataSourceImpl.get_state_at_block, hget]
  rw [SortedMap.ext fun key => (hlookup key).trans (hmap key)]

/-- The Governed Map from its commands to what the node reads. Take any commands, each run by any
governance and included at a main chain block later than the one before. From an empty ledger they
all run, and on the ledger they leave, the uncached db-sync data source reads at every main chain
block the map of the commands included by then: an insert adding an absent key, an update
writing a key that holds the expected value, a removal dropping the key, each when a governance of
the payment key alone submitted it. The changes it gives from one such block to another turn the
first map into the second. -/
theorem db_sync_reads_the_map_the_commands_made {MainChainScripts : Type}
    (cmds : List (Context × Command)) (hblocks : (cmds.map (·.1.block_no)).Pairwise (· < ·))
    (get_block_by_hash : McBlockHash → Option Nat) (latest_stable_block : Option Nat)
    (scripts : MainChainScripts) :
    ∃ l, runAll step Ledger.empty cmds = some l ∧
      ∀ hash block, get_block_by_hash hash = some block →
        GovernedMapDataSourceImpl.get_state_at_block (l.db get_block_by_hash latest_stable_block)
            hash scripts = some (.ok (commandsMap (cmds.filter fun c => c.1.block_no ≤ block))) ∧
        ∀ since since_block, get_block_by_hash since = some since_block →
          ∃ changes, GovernedMapDataSourceImpl.get_mapping_changes
              (l.db get_block_by_hash latest_stable_block) (some since) hash scripts =
                some (.ok changes) ∧
            (commandsMap (cmds.filter fun c => c.1.block_no ≤ since_block)).applyChanges changes =
              commandsMap (cmds.filter fun c => c.1.block_no ≤ block) := by
  obtain ⟨t, l, hrun, h⟩ := runAll_step_histInv cmds [] 0 Ledger.empty histInv_empty
    (fun _ _ => Nat.zero_le _) hblocks
  rw [List.nil_append] at h
  refine ⟨l, hrun, fun hash block hblock => ⟨get_state_at_block_of_histInv h _ _ scripts hblock,
    fun since since_block hsince => ?_⟩⟩
  exact GovernedMapDataSourceImpl.get_mapping_changes_applyChanges
    (get_state_at_block_of_histInv h _ _ scripts hsince)
    (get_state_at_block_of_histInv h _ _ scripts hblock)

/-- A governance of one key, `0x01…01`, run by that key. -/
def ownerKey : MainchainKeyHash := ⟨List.replicate 28 1, List.length_replicate⟩

/-- A command of the owner included at main chain block `block_no`. -/
def ownerContext (block_no : Nat) : Context := ⟨⟨1, [ownerKey]⟩, ownerKey, block_no, 0⟩

/-- Key `a` inserted at block 1, updated at block 2 and removed at block 4. -/
def threeCommands : List (Context × Command) :=
  [(ownerContext 1, .insert "a" ⟨[1]⟩), (ownerContext 2, .update "a" ⟨[2]⟩ (some ⟨[1]⟩)),
    (ownerContext 4, .remove "a")]

-- Both UTXOs end spent, at the blocks of the update and the removal, and no token is left.
example : (runAll step Ledger.empty threeCommands).map
    (fun l => (l.utxos.map (·.spent), l.minted)) = some ([some (2, 0), some (4, 0)], 0) := by
  decide

theorem db_sync_reads_the_map_the_commands_made_three_commands :
    (threeCommands.map (·.1.block_no)).Pairwise (· < ·) ∧
      ∃ l, runAll step Ledger.empty threeCommands = some l ∧
        ∀ hash block, (fun hash : McBlockHash => some (hash.val.headD 0).toNat) hash = some block →
          GovernedMapDataSourceImpl.get_state_at_block
              (l.db (fun hash => some (hash.val.headD 0).toNat) none) hash () =
            some (.ok (commandsMap (threeCommands.filter fun c => c.1.block_no ≤ block))) ∧
          ∀ since since_block,
            (fun hash : McBlockHash => some (hash.val.headD 0).toNat) since = some since_block →
            ∃ changes, GovernedMapDataSourceImpl.get_mapping_changes
                (l.db (fun hash => some (hash.val.headD 0).toNat) none) (some since) hash () =
                  some (.ok changes) ∧
              (commandsMap (threeCommands.filter fun c => c.1.block_no ≤ since_block)).applyChanges
                  changes = commandsMap (threeCommands.filter fun c => c.1.block_no ≤ block) := by
  have hblocks : (threeCommands.map (·.1.block_no)).Pairwise (· < ·) := by decide
  exact ⟨hblocks, db_sync_reads_the_map_the_commands_made threeCommands hblocks _ none ()⟩

end partner_chains_cardano_offchain.governed_map
