-- The main chain reference hash (toolkit/sidechain/sidechain-mc-hash): each
-- Partner Chain block names, in its header's digest, a Cardano block that is
-- stable for the block's timestamp. The proposer takes the latest stable
-- block, or the parent's block where that is higher; a verifier accepts a
-- block whose main chain block is stable for its timestamp and not lower than
-- its parent's. Verifiers read db-sync (the block data source) at the time
-- they import a block, and db-sync grows in between; since stable blocks stay,
-- along a chain of accepted blocks the main chain blocks never go down, each
-- block's reference is the one its parent was accepted with, and a verifier
-- accepts what the proposer proposed.
import Mathlib
import PartnerChains.McHash.BlockDataSource

set_option autoImplicit false

namespace sidechain_mc_hash

open sidechain_domain partner_chains_db_sync_data_sources.block

/-- `DigestItem` of a header (sp_runtime). -/
inductive DigestItem where
  | PreRuntime (id : FixedBytes 4) (data : List UInt8)
  | Consensus (id : FixedBytes 4) (data : List UInt8)
  | Seal (id : FixedBytes 4) (data : List UInt8)
  | Other (data : List UInt8)
  | RuntimeEnvironmentUpdated

/-- `MC_HASH_DIGEST_ID`: `*b"mcsh"`. -/
def MC_HASH_DIGEST_ID : FixedBytes 4 := ⟨[0x6d, 0x63, 0x73, 0x68], rfl⟩

/-- The errors of `McHashInherentDigest::value_from_digest`. -/
inductive DigestError where
  /-- "Invalid MC hash referenced by block author in digest: {:?}\nMC hash must be exactly 32
  bytes long." -/
  | InvalidMcHash (data : List UInt8)
  /-- "Main chain block hash missing from digest" -/
  | MissingMcHash

namespace McHashInherentDigest

/-- `McHashInherentDigest::from_mc_block_hash` -/
def from_mc_block_hash (mc_block_hash : McBlockHash) : List DigestItem :=
  [.PreRuntime MC_HASH_DIGEST_ID mc_block_hash.val]

/-- `McHashInherentDigest::from_inherent_data`, on the hash that the inherent data holds under
`INHERENT_IDENTIFIER`. -/
def from_inherent_data (mc_hash : Option McBlockHash) : Except String (List DigestItem) :=
  match mc_hash with
  | some mc_hash => .ok (from_mc_block_hash mc_hash)
  | none => .error "Main chain hash missing from inherent data"

/-- `McHashInherentDigest::value_from_digest`: the data of the first pre-runtime item with the id
`mcsh`. -/
def value_from_digest : List DigestItem → Except DigestError McBlockHash
  | [] => .error .MissingMcHash
  | .PreRuntime id data :: digest =>
    if id = MC_HASH_DIGEST_ID then
      if h : data.length = 32 then .ok ⟨data, h⟩ else .error (.InvalidMcHash data)
    else value_from_digest digest
  | _ :: digest => value_from_digest digest

/-- The hash written by `from_mc_block_hash` after items of other ids is read back. -/
theorem value_from_digest_append_from_mc_block_hash {logs : List DigestItem}
    (hlogs : ∀ data, DigestItem.PreRuntime MC_HASH_DIGEST_ID data ∉ logs)
    (mc_block_hash : McBlockHash) :
    value_from_digest (logs ++ from_mc_block_hash mc_block_hash) = .ok mc_block_hash := by
  induction logs with
  | nil =>
    simp only [List.nil_append, from_mc_block_hash, value_from_digest, if_pos, dif_pos
      mc_block_hash.len]
  | cons item logs ih =>
    have ih' := ih fun data h => hlogs data (List.mem_cons_of_mem item h)
    cases item with
    | PreRuntime id data =>
      have hid : id ≠ MC_HASH_DIGEST_ID := by
        rintro rfl
        exact hlogs data List.mem_cons_self
      simpa [value_from_digest, hid] using ih'
    | Consensus id data => simpa [value_from_digest] using ih'
    | Seal id data => simpa [value_from_digest] using ih'
    | Other data => simpa [value_from_digest] using ih'
    | RuntimeEnvironmentUpdated => simpa [value_from_digest] using ih'

end McHashInherentDigest

/-- `McHashInherentError`, of the kinds the constructors raise, with the error type `E` of the
data source. -/
inductive McHashInherentError (E : Type) where
  | DataSourceError (e : E)
  /-- "Stable block not found at {0}. ..." -/
  | StableBlockNotFound (timestamp : UInt64)
  /-- "Main chain state {0} referenced in imported block at timestamp {1} not found" -/
  | McStateReferenceInvalid (hash : McBlockHash) (timestamp : UInt64)
  /-- "Main chain state {0} referenced in imported block at timestamp {1} corresponds to main
  chain block number which is lower than its parent's {2}<{3}" -/
  | McStateReferenceRegressed (hash : McBlockHash) (timestamp : UInt64) (number parent_number : UInt32)
  /-- "Failed to retrieve MC hash from digest: {0}" -/
  | DigestError (e : DigestError)
  /-- "Failed to retrieve MC Block that was verified as stable by its hash" -/
  | StableBlockNotFoundByHash (hash : McBlockHash)

/-- `McHashDataSource`: the answers of a data source with errors `E`. The outer `none` of
`get_latest_stable_block_for` is a panic. -/
structure McHashDataSource (E : Type) where
  get_latest_stable_block_for : UInt64 → Option (Except E (Option MainchainBlock))
  get_stable_block_for : McBlockHash → UInt64 → Except E (Option MainchainBlock)
  get_block_by_hash : McBlockHash → Except E (Option MainchainBlock)

/-- `McHashInherentDataProvider` -/
structure McHashInherentDataProvider where
  mc_block : MainchainBlock
  previous_mc_block : Option MainchainBlock
  deriving DecidableEq

namespace McHashInherentDataProvider

variable {E : Type}

/-- `McHashInherentDataProvider::mc_hash` -/
def mc_hash (idp : McHashInherentDataProvider) : McBlockHash := idp.mc_block.hash

/-- `McHashInherentDataProvider::previous_mc_hash` -/
def previous_mc_hash (idp : McHashInherentDataProvider) : Option McBlockHash :=
  idp.previous_mc_block.map MainchainBlock.hash

/-- `provide_inherent_data`: the value put under `INHERENT_IDENTIFIER`. -/
def provide_inherent_data (idp : McHashInherentDataProvider) : Option McBlockHash :=
  some idp.mc_block.hash

/-- `McHashInherentDataProvider::new_proposal`: the latest stable block for the timestamp, or the
block of the parent (read from its digest) where that is higher. -/
def new_proposal (parent_digest : List DigestItem) (data_source : McHashDataSource E)
    (timestamp : UInt64) : Option (Except (McHashInherentError E) McHashInherentDataProvider) :=
  (data_source.get_latest_stable_block_for timestamp).map fun
    | .error e => .error (.DataSourceError e)
    | .ok none => .error (.StableBlockNotFound timestamp)
    | .ok (some mc_block) =>
      match (McHashInherentDigest.value_from_digest parent_digest).toOption with
      | some parent_mc_hash =>
        match data_source.get_block_by_hash parent_mc_hash with
        | .error e => .error (.DataSourceError e)
        | .ok none => .error (.StableBlockNotFoundByHash parent_mc_hash)
        | .ok (some parent_stable_mc_block) =>
          if mc_block.number ≥ parent_stable_mc_block.number then
            .ok ⟨mc_block, some parent_stable_mc_block⟩
          else .ok ⟨parent_stable_mc_block, some parent_stable_mc_block⟩
      | none => .ok ⟨mc_block, none⟩

end McHashInherentDataProvider

open McHashInherentDataProvider

variable {E : Type}

/-- `get_mc_state_reference`: the block with the hash, stable for the timestamp. -/
def get_mc_state_reference (timestamp : UInt64) (verified_block_mc_hash : McBlockHash)
    (data_source : McHashDataSource E) : Except (McHashInherentError E) MainchainBlock :=
  match data_source.get_stable_block_for verified_block_mc_hash timestamp with
  | .error e => .error (.DataSourceError e)
  | .ok none => .error (.McStateReferenceInvalid verified_block_mc_hash timestamp)
  | .ok (some block) => .ok block

/-- `McHashInherentDataProvider::new_verification`: the block's main chain block, stable for its
timestamp, and the parent's (read from its digest, stable for its timestamp), which may not be
higher. The genesis block has no timestamp and no parent's block. -/
def McHashInherentDataProvider.new_verification (parent_digest : List DigestItem)
    (parent_timestamp : Option UInt64) (timestamp : UInt64) (mc_state_reference_hash : McBlockHash)
    (block_source : McHashDataSource E) :
    Except (McHashInherentError E) McHashInherentDataProvider := do
  let mc_state_reference_block ←
    get_mc_state_reference timestamp mc_state_reference_hash block_source
  let some parent_timestamp := parent_timestamp
    | return ⟨mc_state_reference_block, none⟩
  let parent_mc_hash ←
    (McHashInherentDigest.value_from_digest parent_digest).mapError .DigestError
  let parent_mc_state_reference_block ←
    get_mc_state_reference parent_timestamp parent_mc_hash block_source
  if mc_state_reference_block.number < parent_mc_state_reference_block.number then
    throw (.McStateReferenceRegressed mc_state_reference_hash timestamp
      mc_state_reference_block.number parent_mc_state_reference_block.number)
  else
    return ⟨mc_state_reference_block, some parent_mc_state_reference_block⟩

/-! ## Headers -/

/-- A Partner Chain header as the main chain reference hash reads it: the start of its slot
(`None` for the genesis block, which has no slot) and its digest. -/
structure Header where
  slot_timestamp : Option UInt64
  digest : List DigestItem

/-- The errors of importing a block. -/
inductive ImportError (E : Type) where
  /-- "Failed to retrieve inherent digest from header at {:?}: {}" -/
  | InherentDigest (e : DigestError)
  | Inherent (e : McHashInherentError E)

/-- The import queue on a block with its parent: the main chain hash read from the block's digest
(`value_from_digest`), then `new_verification` with the parent's slot start
(`slot_from_predigest`) and the block's. -/
def import_block (block_source : McHashDataSource E) (parent : Header) (timestamp : UInt64)
    (digest : List DigestItem) : Except (ImportError E) McHashInherentDataProvider := do
  let mc_hash ← (McHashInherentDigest.value_from_digest digest).mapError .InherentDigest
  (new_verification parent.digest parent.slot_timestamp timestamp mc_hash block_source).mapError
    .Inherent

/-- `PartnerChainsProposer::propose`: the digest of a proposal, its pre-runtime items and then
the inherent digest made from the inherent data. The outer `none` is the panic of `expect`. -/
def propose_digest (inherent_digests : List DigestItem) (inherent_data : Option McBlockHash) :
    Option (List DigestItem) :=
  match McHashInherentDigest.from_inherent_data inherent_data with
  | .ok inherent_logs => some (inherent_digests ++ inherent_logs)
  | .error _ => none

/-! ## The db-sync block data source -/

/-- The db-sync block data source at one state of db-sync, answering as db-sync does; its cache
answers the same, as the refinement theorem of the block data source shows. -/
def dbSyncDataSource (src : BlockDataSourceImpl) (db : BlockTable) :
    McHashDataSource DataSourceError where
  get_latest_stable_block_for := src.get_latest_stable_block_for db
  get_stable_block_for := src.stable_block_for_from_db db
  get_block_by_hash hash := .ok ((db.get_block_by_hash hash).map Block.into)

/-! ## What verification accepts -/

section verification

variable {parent_digest : List DigestItem} {timestamp : UInt64} {hash : McBlockHash}
  {data_source : McHashDataSource E}

/-- Verification on the genesis block: the block's main chain block alone. -/
theorem new_verification_none :
    new_verification parent_digest none timestamp hash data_source =
      (get_mc_state_reference timestamp hash data_source).map fun block => ⟨block, none⟩ := by
  unfold new_verification
  cases get_mc_state_reference timestamp hash data_source <;> rfl

/-- Verification on a parent with a timestamp: the block's main chain block and the parent's,
both stable for their timestamps, the parent's no higher. -/
theorem new_verification_some_eq_ok {parent_timestamp : UInt64}
    {idp : McHashInherentDataProvider} :
    new_verification parent_digest (some parent_timestamp) timestamp hash data_source = .ok idp ↔
      ∃ parent_mc_hash parent_block,
        get_mc_state_reference timestamp hash data_source = .ok idp.mc_block ∧
        McHashInherentDigest.value_from_digest parent_digest = .ok parent_mc_hash ∧
        get_mc_state_reference parent_timestamp parent_mc_hash data_source = .ok parent_block ∧
        parent_block.number ≤ idp.mc_block.number ∧ idp.previous_mc_block = some parent_block := by
  unfold new_verification
  simp only [bind, Except.bind, Except.mapError, pure, Except.pure]
  cases href : get_mc_state_reference timestamp hash data_source with
  | error e => simp
  | ok block =>
    cases hdigest : McHashInherentDigest.value_from_digest parent_digest with
    | error e => simp
    | ok parent_mc_hash =>
      simp only
      cases hparent : get_mc_state_reference parent_timestamp parent_mc_hash data_source with
      | error e =>
        simp only [reduceCtorEq, false_iff, not_exists, not_and]
        intro _ _ _ hd hp
        cases hd
        rw [hparent] at hp
        cases hp
      | ok parent_block =>
        simp only
        constructor
        · intro h
          split at h
          · cases h
          · rename_i hlt
            cases h
            exact ⟨_, _, rfl, rfl, hparent, UInt32.not_lt.mp hlt, rfl⟩
        · rintro ⟨_, _, hr, hd, hp, hle, hprev⟩
          cases hd
          rw [hparent, Except.ok.injEq] at hp
          rw [Except.ok.injEq] at hr
          subst hp hr
          rw [if_neg (UInt32.not_lt.mpr hle), ← hprev]

/-- Verification finds the block's own main chain block first, on any parent. -/
theorem get_mc_state_reference_of_new_verification {parent_timestamp : Option UInt64}
    {idp : McHashInherentDataProvider}
    (h : new_verification parent_digest parent_timestamp timestamp hash data_source = .ok idp) :
    get_mc_state_reference timestamp hash data_source = .ok idp.mc_block := by
  cases parent_timestamp with
  | none =>
    rw [new_verification_none] at h
    cases hr : get_mc_state_reference timestamp hash data_source with
    | error e => simp [hr, Except.map] at h
    | ok block =>
      simp only [hr, Except.map, Except.ok.injEq] at h
      rw [← h]
  | some parent_timestamp =>
    obtain ⟨_, _, hr, -⟩ := new_verification_some_eq_ok.mp h
    exact hr

/-- An import reads the block's main chain hash from its digest and verifies it on the parent. -/
theorem import_block_eq_ok {parent : Header} {digest : List DigestItem}
    {idp : McHashInherentDataProvider} :
    import_block data_source parent timestamp digest = .ok idp ↔
      ∃ mc_hash, McHashInherentDigest.value_from_digest digest = .ok mc_hash ∧
        new_verification parent.digest parent.slot_timestamp timestamp mc_hash data_source =
          .ok idp := by
  unfold import_block
  cases McHashInherentDigest.value_from_digest digest with
  | error e => simp [Except.mapError, bind, Except.bind]
  | ok mc_hash =>
    simp only [Except.mapError, bind, Except.bind, Except.ok.injEq, exists_eq_left']
    cases new_verification parent.digest parent.slot_timestamp timestamp mc_hash data_source <;>
      simp

/-- Verification on a parent with a timestamp, where both main chain blocks are found and the
parent's is no higher. -/
theorem new_verification_some_of {parent_timestamp : UInt64} {parent_mc_hash : McBlockHash}
    {block parent_block : MainchainBlock}
    (href : get_mc_state_reference timestamp hash data_source = .ok block)
    (hdigest : McHashInherentDigest.value_from_digest parent_digest = .ok parent_mc_hash)
    (hparent : get_mc_state_reference parent_timestamp parent_mc_hash data_source = .ok parent_block)
    (hle : parent_block.number ≤ block.number) :
    new_verification parent_digest (some parent_timestamp) timestamp hash data_source =
      .ok ⟨block, some parent_block⟩ :=
  new_verification_some_eq_ok.mpr ⟨_, _, href, hdigest, hparent, hle, rfl⟩

/-- Verification fails as soon as the block's own main chain block is not found. -/
theorem new_verification_of_error {parent_timestamp : Option UInt64} {e : McHashInherentError E}
    (h : get_mc_state_reference timestamp hash data_source = .error e) :
    new_verification parent_digest parent_timestamp timestamp hash data_source = .error e := by
  unfold new_verification
  simp [h, bind, Except.bind]

theorem import_block_of_value_from_digest {parent : Header} {digest : List DigestItem}
    (h : McHashInherentDigest.value_from_digest digest = .ok hash) :
    import_block data_source parent timestamp digest =
      (new_verification parent.digest parent.slot_timestamp timestamp hash data_source).mapError
        .Inherent := by
  simp [import_block, h, Except.mapError, bind, Except.bind]

/-- A proposal on a parent whose digest names no main chain block: the latest stable block,
with no previous one. -/
theorem new_proposal_of_error {idp : McHashInherentDataProvider} {e : DigestError}
    (hdigest : McHashInherentDigest.value_from_digest parent_digest = .error e)
    (h : new_proposal parent_digest data_source timestamp = some (.ok idp)) :
    ∃ mc_block, data_source.get_latest_stable_block_for timestamp = some (.ok (some mc_block)) ∧
      idp = ⟨mc_block, none⟩ := by
  unfold new_proposal at h
  cases hlatest : data_source.get_latest_stable_block_for timestamp with
  | none => simp [hlatest] at h
  | some r =>
    rcases r with e' | _ | mc_block
    · simp [hlatest] at h
    · simp [hlatest] at h
    · simp only [hlatest, hdigest, Except.toOption, Option.map_some, Option.some.injEq,
        Except.ok.injEq] at h
      exact ⟨mc_block, rfl, h.symm⟩

/-- A proposal on a parent whose digest names a main chain block: the latest stable block, or the
parent's block where that is higher, with the parent's block as the previous one. -/
theorem new_proposal_of_ok {idp : McHashInherentDataProvider} {parent_mc_hash : McBlockHash}
    (hdigest : McHashInherentDigest.value_from_digest parent_digest = .ok parent_mc_hash)
    (h : new_proposal parent_digest data_source timestamp = some (.ok idp)) :
    ∃ mc_block parent_block,
      data_source.get_latest_stable_block_for timestamp = some (.ok (some mc_block)) ∧
      data_source.get_block_by_hash parent_mc_hash = .ok (some parent_block) ∧
      idp = if mc_block.number ≥ parent_block.number then ⟨mc_block, some parent_block⟩
        else ⟨parent_block, some parent_block⟩ := by
  unfold new_proposal at h
  cases hlatest : data_source.get_latest_stable_block_for timestamp with
  | none => simp [hlatest] at h
  | some r =>
    rcases r with e' | _ | mc_block
    · simp [hlatest] at h
    · simp [hlatest] at h
    · simp only [hlatest, hdigest, Except.toOption, Option.map_some, Option.some.injEq] at h
      cases hparent : data_source.get_block_by_hash parent_mc_hash with
      | error e' => simp [hparent] at h
      | ok r' =>
        rcases r' with _ | parent_block
        · simp [hparent] at h
        · simp only [hparent] at h
          refine ⟨mc_block, parent_block, rfl, rfl, ?_⟩
          split at h <;> rename_i hge <;> simp only [Except.ok.injEq] at h <;> simp [← h, hge]

end verification

/-! ## On db-sync -/

section dbSync

variable {src : BlockDataSourceImpl} {db db' : BlockTable}

theorem get_mc_state_reference_dbSync {timestamp : UInt64} {hash : McBlockHash}
    {block : MainchainBlock} :
    get_mc_state_reference timestamp hash (dbSyncDataSource src db) = .ok block ↔
      src.stable_block_for_from_db db hash timestamp = .ok (some block) := by
  unfold get_mc_state_reference
  simp only [dbSyncDataSource]
  cases src.stable_block_for_from_db db hash timestamp with
  | error e => simp
  | ok r => cases r <;> simp

/-- What a verifier found for an imported block: its digest names its main chain block, which is
stable for the block's timestamp in db-sync as the verifier read it. -/
def Accepted (src : BlockDataSourceImpl) (db : BlockTable) (timestamp : UInt64)
    (digest : List DigestItem) (mc_block : MainchainBlock) : Prop :=
  McHashInherentDigest.value_from_digest digest = .ok mc_block.hash ∧
    src.stable_block_for_from_db db mc_block.hash timestamp = .ok (some mc_block)

theorem Accepted.grows {timestamp : UInt64} {digest : List DigestItem}
    {mc_block : MainchainBlock} (h : Accepted src db timestamp digest mc_block)
    (hgrows : src.Grows db db') : Accepted src db' timestamp digest mc_block :=
  ⟨h.1, BlockDataSourceImpl.stable_block_for_from_db_grows hgrows h.2 rfl⟩

/-- The main chain block db-sync gives for a hash and a timestamp is its block with the hash. -/
theorem get_block_by_hash_of_stable_block_for {hash : McBlockHash} {timestamp : UInt64}
    {block : MainchainBlock}
    (h : src.stable_block_for_from_db db hash timestamp = .ok (some block)) :
    (db.get_block_by_hash hash).map Block.into = some block := by
  unfold BlockDataSourceImpl.stable_block_for_from_db at h
  cases hts : timestamp_to_db_type timestamp with
  | error e => simp [hts, Except.map] at h
  | ok t =>
    simp only [hts, Except.map, Except.ok.injEq, Option.map_eq_some_iff] at h
    obtain ⟨row, hrow, rfl⟩ := h
    obtain ⟨hhash, hstable, -⟩ :=
      BlockDataSourceImpl.get_stable_block_by_hash_from_db_eq_some.mp hrow
    rw [← hhash, BlockTable.get_block_by_hash_of_mem hstable.1, Option.map_some]

/-- db-sync gives one main chain block for a hash, whatever the timestamp. -/
theorem stable_block_for_from_db_unique {hash : McBlockHash} {t₁ t₂ : UInt64}
    {b₁ b₂ : MainchainBlock} (h₁ : src.stable_block_for_from_db db hash t₁ = .ok (some b₁))
    (h₂ : src.stable_block_for_from_db db hash t₂ = .ok (some b₂)) : b₁ = b₂ :=
  Option.some.inj ((get_block_by_hash_of_stable_block_for h₁).symm.trans
    (get_block_by_hash_of_stable_block_for h₂))

/-- An imported block is accepted: its verifier found its main chain block stable for its
timestamp. -/
theorem accepted_of_import_block {parent : Header} {timestamp : UInt64}
    {digest : List DigestItem} {idp : McHashInherentDataProvider}
    (h : import_block (dbSyncDataSource src db) parent timestamp digest = .ok idp) :
    Accepted src db timestamp digest idp.mc_block := by
  obtain ⟨mc_hash, hdigest, hver⟩ := import_block_eq_ok.mp h
  have hstable :=
    get_mc_state_reference_dbSync.mp (get_mc_state_reference_of_new_verification hver)
  have hhash : idp.mc_block.hash = mc_hash := by
    obtain ⟨row, hrow, hinto⟩ :=
      Option.map_eq_some_iff.mp (get_block_by_hash_of_stable_block_for hstable)
    rw [← hinto]
    exact (BlockTable.get_block_by_hash_eq_some hrow).2
  exact ⟨hhash ▸ hdigest, hhash ▸ hstable⟩

/-! ## Chains of imported blocks -/

/-- A block imported on the one before it: the start of its slot, its digest, and db-sync as its
verifier read it. -/
structure ImportedBlock where
  timestamp : UInt64
  digest : List DigestItem
  db : BlockTable

/-- The header of an imported block, the parent of the next one. -/
def ImportedBlock.header (b : ImportedBlock) : Header := ⟨some b.timestamp, b.digest⟩

@[simp] theorem ImportedBlock.header_digest (b : ImportedBlock) : b.header.digest = b.digest := rfl

@[simp] theorem ImportedBlock.header_slot_timestamp (b : ImportedBlock) :
    b.header.slot_timestamp = some b.timestamp := rfl

variable (src) in
/-- Imports along a chain, each block on the one before (the first on `parent`), each verified on
db-sync as it was when the block came: the providers of the blocks, or the first error. -/
def importChain : Header → List ImportedBlock →
    Except (ImportError DataSourceError) (List McHashInherentDataProvider)
  | _, [] => .ok []
  | parent, b :: bs =>
    match import_block (dbSyncDataSource src b.db) parent b.timestamp b.digest with
    | .error e => .error e
    | .ok idp => (importChain b.header bs).map (idp :: ·)

theorem importChain_cons_eq_ok {parent : Header} {b : ImportedBlock} {bs : List ImportedBlock}
    {idps : List McHashInherentDataProvider} :
    importChain src parent (b :: bs) = .ok idps ↔
      ∃ idp idps', import_block (dbSyncDataSource src b.db) parent b.timestamp b.digest = .ok idp ∧
        importChain src b.header bs = .ok idps' ∧ idps = idp :: idps' := by
  rw [importChain]
  cases import_block (dbSyncDataSource src b.db) parent b.timestamp b.digest with
  | error e => simp
  | ok idp =>
    cases importChain src b.header bs with
    | error e => simp [Except.map]
    | ok idps' => simp [Except.map, eq_comm]

/-- The step lemma of a chain: a block imported on an accepted parent, on db-sync that grew since
the parent was accepted, finds the parent's main chain block again as its previous one, and names
a main chain block no lower. -/
theorem import_block_after_accepted {parent : ImportedBlock} {pidp : McHashInherentDataProvider}
    (hparent : Accepted src parent.db parent.timestamp parent.digest pidp.mc_block)
    (hgrows : src.Grows parent.db db') {timestamp : UInt64} {digest : List DigestItem}
    {idp : McHashInherentDataProvider}
    (h : import_block (dbSyncDataSource src db') parent.header timestamp digest = .ok idp) :
    pidp.mc_block.number ≤ idp.mc_block.number ∧ idp.previous_mc_block = some pidp.mc_block := by
  obtain ⟨mc_hash, -, hver⟩ := import_block_eq_ok.mp h
  obtain ⟨parent_mc_hash, parent_block, -, hdigest, hparent_ref, hle, hprev⟩ :=
    new_verification_some_eq_ok.mp hver
  rw [ImportedBlock.header_digest, hparent.1, Except.ok.injEq] at hdigest
  subst hdigest
  have hsame : get_mc_state_reference parent.timestamp pidp.mc_block.hash
      (dbSyncDataSource src db') = .ok pidp.mc_block :=
    get_mc_state_reference_dbSync.mpr (hparent.grows hgrows).2
  rw [hsame, Except.ok.injEq] at hparent_ref
  subst hparent_ref
  exact ⟨hle, hprev⟩

/-- The run lemma of a chain: after an accepted block, the blocks imported on db-sync that keeps
growing each find their parent's main chain block as their previous one, and name one no
lower. -/
theorem importChain_after_accepted :
    ∀ (b : ImportedBlock) (idp : McHashInherentDataProvider) (bs : List ImportedBlock)
      (idps : List McHashInherentDataProvider),
      Accepted src b.db b.timestamp b.digest idp.mc_block →
      List.IsChain src.Grows (b.db :: bs.map ImportedBlock.db) →
      importChain src b.header bs = .ok idps →
      List.IsChain (fun a c => a.mc_block.number ≤ c.mc_block.number ∧
        c.previous_mc_block = some a.mc_block) (idp :: idps)
  | _, _, [], _, _, _, h => by
    rw [importChain, Except.ok.injEq] at h
    subst h
    exact List.isChain_singleton _
  | b, idp, b' :: bs, idps, hacc, hgrows, h => by
    obtain ⟨idp', idps', himport, hrest, rfl⟩ := importChain_cons_eq_ok.mp h
    rw [List.map_cons, List.isChain_cons_cons] at hgrows
    exact List.IsChain.cons_cons (import_block_after_accepted hacc hgrows.1 himport)
      (importChain_after_accepted b' idp' bs idps' (accepted_of_import_block himport) hgrows.2
        hrest)

/-- Along a chain of blocks imported on the genesis block, each verified on db-sync as it was
when the block came and db-sync growing in between (its stable blocks stay), the main chain
blocks the blocks name never go down: the first block has no previous main chain block, and
every later block finds its parent's main chain block again as its previous one and names one
no lower. -/
theorem imported_chain_mc_blocks_never_decrease (genesis_digest : List DigestItem)
    (blocks : List ImportedBlock) (idps : List McHashInherentDataProvider)
    (hgrows : List.IsChain src.Grows (blocks.map ImportedBlock.db))
    (h : importChain src ⟨none, genesis_digest⟩ blocks = .ok idps) :
    (∀ idp ∈ idps.head?, idp.previous_mc_block = none) ∧
      List.IsChain (fun a c => a.mc_block.number ≤ c.mc_block.number ∧
        c.previous_mc_block = some a.mc_block) idps := by
  cases blocks with
  | nil =>
    rw [importChain, Except.ok.injEq] at h
    subst h
    exact ⟨by simp, List.isChain_nil⟩
  | cons b bs =>
    obtain ⟨idp, idps', himport, hrest, rfl⟩ := importChain_cons_eq_ok.mp h
    -- on the genesis block, which has no slot, verification looks at no parent
    have hfirst : idp.previous_mc_block = none := by
      obtain ⟨mc_hash, -, hver⟩ := import_block_eq_ok.mp himport
      have hver' : new_verification genesis_digest none b.timestamp mc_hash
          (dbSyncDataSource src b.db) = .ok idp := hver
      rw [new_verification_none] at hver'
      cases hr : get_mc_state_reference b.timestamp mc_hash (dbSyncDataSource src b.db) with
      | error e => simp [hr, Except.map] at hver'
      | ok block =>
        simp only [hr, Except.map, Except.ok.injEq] at hver'
        rw [← hver']
    rw [List.map_cons] at hgrows
    exact ⟨by simpa using hfirst,
      importChain_after_accepted b idp bs idps' (accepted_of_import_block himport) hgrows hrest⟩

open BlockDataSourceImpl (blockHash fiveBlocks smallSource)

/-- Two blocks on the genesis block, at 20 and 21 seconds, naming main chain blocks 1 and 2. -/
def twoImportedBlocks : List ImportedBlock :=
  [⟨20000, McHashInherentDigest.from_mc_block_hash (blockHash 1), fiveBlocks⟩,
    ⟨21000, McHashInherentDigest.from_mc_block_hash (blockHash 2), fiveBlocks⟩]

theorem imported_chain_mc_blocks_never_decrease_two_blocks :
    List.IsChain smallSource.Grows (twoImportedBlocks.map ImportedBlock.db) ∧
      importChain smallSource ⟨none, []⟩ twoImportedBlocks =
        .ok [⟨⟨1, blockHash 1, 0⟩, none⟩, ⟨⟨2, blockHash 2, 0⟩, some ⟨1, blockHash 1, 0⟩⟩] ∧
      (∀ idp ∈ ([⟨⟨1, blockHash 1, 0⟩, none⟩, ⟨⟨2, blockHash 2, 0⟩, some ⟨1, blockHash 1, 0⟩⟩] :
          List McHashInherentDataProvider).head?, idp.previous_mc_block = none) ∧
      List.IsChain (fun a c => a.mc_block.number ≤ c.mc_block.number ∧
        c.previous_mc_block = some a.mc_block)
        ([⟨⟨1, blockHash 1, 0⟩, none⟩, ⟨⟨2, blockHash 2, 0⟩, some ⟨1, blockHash 1, 0⟩⟩] :
          List McHashInherentDataProvider) :=
  have hgrows : List.IsChain smallSource.Grows (twoImportedBlocks.map ImportedBlock.db) :=
    List.IsChain.cons_cons (BlockDataSourceImpl.Grows.refl fiveBlocks)
      (List.isChain_singleton fiveBlocks)
  have himport : importChain smallSource ⟨none, []⟩ twoImportedBlocks =
      .ok [⟨⟨1, blockHash 1, 0⟩, none⟩, ⟨⟨2, blockHash 2, 0⟩, some ⟨1, blockHash 1, 0⟩⟩] := by
    rfl
  ⟨hgrows, himport, imported_chain_mc_blocks_never_decrease [] _ _ hgrows himport⟩

/-! ## Proposals -/

/-- A parent that a proposer reads as the verifiers do, with its main chain block: the genesis
block, which has no slot and names no main chain block, or a block accepted on db-sync as the
proposer reads it. -/
def ProposableParent (src : BlockDataSourceImpl) (db : BlockTable) (parent : Header) :
    Option MainchainBlock → Prop
  | none => parent.slot_timestamp = none ∧
      ∃ e, McHashInherentDigest.value_from_digest parent.digest = .error e
  | some parent_block => ∃ parent_timestamp, parent.slot_timestamp = some parent_timestamp ∧
      Accepted src db parent_timestamp parent.digest parent_block

/-- The digest of a proposal names its main chain block, after pre-runtime items of other ids. -/
theorem value_from_digest_of_propose_digest {inherent_digests digest : List DigestItem}
    (hother : ∀ data, DigestItem.PreRuntime MC_HASH_DIGEST_ID data ∉ inherent_digests)
    {idp : McHashInherentDataProvider}
    (h : propose_digest inherent_digests (provide_inherent_data idp) = some digest) :
    McHashInherentDigest.value_from_digest digest = .ok idp.mc_block.hash := by
  simp only [propose_digest, provide_inherent_data, McHashInherentDigest.from_inherent_data,
    Option.some.injEq] at h
  rw [← h]
  exact McHashInherentDigest.value_from_digest_append_from_mc_block_hash hother _

/-- A verifier accepts what an honest proposer proposes. The proposer reads its parent as the
verifiers do (`ProposableParent`), db-sync is past block `security_parameter`, and
`security_parameter + block_stability_margin` does not overflow; the proposal's digest holds
pre-runtime items of other ids and then the main chain hash. A verifier on db-sync that has grown
since accepts the block with the proposer's own provider, unless the proposer fell back to the
parent's main chain block (the latest stable block being lower) and that block is no longer
stable for the new block's timestamp: the verifier then rejects the block as referring to an
invalid main chain state. -/
theorem proposed_block_accepted_unless_fallback_left_window (db db' : BlockTable)
    (hgrows : src.Grows db db')
    (hoffset : src.security_parameter.toNat + src.block_stability_margin.toNat < 2 ^ 32)
    (hreached : ∃ b ∈ db.blocks, src.security_parameter ≤ b.block_no) (parent : Header)
    (parent_block : Option MainchainBlock) (hparent : ProposableParent src db parent parent_block)
    (timestamp : UInt64) (idp : McHashInherentDataProvider)
    (hpropose : new_proposal parent.digest (dbSyncDataSource src db) timestamp = some (.ok idp))
    (inherent_digests : List DigestItem)
    (hother : ∀ data, DigestItem.PreRuntime MC_HASH_DIGEST_ID data ∉ inherent_digests)
    (digest : List DigestItem)
    (hdigest : propose_digest inherent_digests (provide_inherent_data idp) = some digest) :
    import_block (dbSyncDataSource src db') parent timestamp digest = .ok idp ∨
      (some idp.mc_block = parent_block ∧
        src.stable_block_for_from_db db' idp.mc_block.hash timestamp = .ok none ∧
        import_block (dbSyncDataSource src db') parent timestamp digest =
          .error (.Inherent (.McStateReferenceInvalid idp.mc_block.hash timestamp))) := by
  rw [import_block_of_value_from_digest (value_from_digest_of_propose_digest hother hdigest)]
  -- the latest stable block is stable for the timestamp, also on the grown db-sync
  have hstable : ∀ mc_block, src.get_latest_stable_block_for db timestamp =
      some (.ok (some mc_block)) →
      get_mc_state_reference timestamp mc_block.hash (dbSyncDataSource src db') = .ok mc_block :=
    fun mc_block hlatest => get_mc_state_reference_dbSync.mpr
      (BlockDataSourceImpl.stable_block_for_from_db_grows hgrows
        (BlockDataSourceImpl.stable_block_for_from_db_of_latest hoffset hreached hlatest) rfl)
  cases parent_block with
  | none =>
    obtain ⟨hslot, e, hparent_digest⟩ := hparent
    obtain ⟨mc_block, hlatest, rfl⟩ := new_proposal_of_error hparent_digest hpropose
    left
    rw [hslot, new_verification_none, hstable mc_block hlatest]
    rfl
  | some parent_block =>
    obtain ⟨parent_timestamp, hslot, hparent_digest, hparent_stable⟩ := hparent
    obtain ⟨mc_block, parent_block', hlatest, hby_hash, hidp⟩ :=
      new_proposal_of_ok hparent_digest hpropose
    -- the proposer finds the parent's main chain block by its hash
    have hsame : parent_block' = parent_block := by
      have := get_block_by_hash_of_stable_block_for hparent_stable
      simp only [dbSyncDataSource, Except.ok.injEq] at hby_hash
      exact Option.some.inj (hby_hash.symm.trans this)
    subst hsame
    have hparent_ref : get_mc_state_reference parent_timestamp parent_block'.hash
        (dbSyncDataSource src db') = .ok parent_block' :=
      get_mc_state_reference_dbSync.mpr
        (BlockDataSourceImpl.stable_block_for_from_db_grows hgrows hparent_stable rfl)
    rw [hslot]
    by_cases hge : mc_block.number ≥ parent_block'.number
    · -- the latest stable block is no lower than the parent's: it is proposed and accepted
      rw [if_pos hge] at hidp
      subst hidp
      left
      rw [new_verification_some_of (hstable mc_block hlatest) hparent_digest hparent_ref hge]
      rfl
    · -- the proposer fell back to the parent's block, which the verifier looks up again
      rw [if_neg hge] at hidp
      subst hidp
      have hts : ∃ t, timestamp_to_db_type timestamp = .ok t := by
        obtain ⟨-, t, -, -, hts, -⟩ :=
          BlockDataSourceImpl.get_latest_stable_block_for_eq_some hlatest
        exact ⟨t, hts⟩
      cases hfound : src.stable_block_for_from_db db' parent_block'.hash timestamp with
      | error e =>
        obtain ⟨t, hts⟩ := hts
        rw [BlockDataSourceImpl.timestamp_to_db_type_of_stable_block_for_from_db hfound] at hts
        cases hts
      | ok r =>
        rcases r with _ | block
        · right
          refine ⟨rfl, rfl, ?_⟩
          have hinvalid : get_mc_state_reference timestamp parent_block'.hash
              (dbSyncDataSource src db') =
                .error (.McStateReferenceInvalid parent_block'.hash timestamp) := by
            simp [get_mc_state_reference, dbSyncDataSource, hfound]
          rw [new_verification_of_error hinvalid]
          rfl
        · left
          have hblock : block = parent_block' := stable_block_for_from_db_unique hfound
            (BlockDataSourceImpl.stable_block_for_from_db_grows hgrows hparent_stable rfl)
          subst hblock
          rw [new_verification_some_of (get_mc_state_reference_dbSync.mpr hfound) hparent_digest
            hparent_ref (UInt32.le_refl _)]
          rfl

/-- A parent made at 30 seconds that names main chain block `n`. -/
def parentAt30 (n : UInt8) : Header := ⟨some 30000, McHashInherentDigest.from_mc_block_hash (blockHash n)⟩

/-- Blocks 0 to 4 whose block 1 lies at 20 seconds, after block 2 at 2 seconds. -/
def fallbackBlocks : BlockTable :=
  ⟨[⟨0, blockHash 0, 0, 0, 0⟩, ⟨1, blockHash 1, 0, 20, 20000⟩, ⟨2, blockHash 2, 0, 2, 2000⟩,
    ⟨3, blockHash 3, 0, 3, 3000⟩, ⟨4, blockHash 4, 0, 4, 4000⟩], by decide⟩

/-- Three proposals. On the genesis block at 30 seconds, block 1 is proposed and accepted: the
latest stable block is the highest at least three below block 4 whose time lies between 0 and 20
seconds. On a parent accepted with block 1, at 31 seconds, block 1 is proposed again and
accepted. On a parent accepted with block 2 in `fallbackBlocks`, at 40 seconds, the latest stable
block is block 1, below the parent's, so the proposer falls back to block 2, which has left the
window: the verifier rejects it. -/
theorem proposed_block_accepted_unless_fallback_left_window_three_parents :
    (new_proposal [] (dbSyncDataSource smallSource fiveBlocks) 30000 =
        some (.ok ⟨⟨1, blockHash 1, 0⟩, none⟩) ∧
      (import_block (dbSyncDataSource smallSource fiveBlocks) ⟨none, []⟩ 30000
          (McHashInherentDigest.from_mc_block_hash (blockHash 1)) = .ok ⟨⟨1, blockHash 1, 0⟩, none⟩ ∨
        (some (⟨1, blockHash 1, 0⟩ : MainchainBlock) = none ∧
          smallSource.stable_block_for_from_db fiveBlocks (blockHash 1) 30000 = .ok none ∧
          import_block (dbSyncDataSource smallSource fiveBlocks) ⟨none, []⟩ 30000
              (McHashInherentDigest.from_mc_block_hash (blockHash 1)) =
            .error (.Inherent (.McStateReferenceInvalid (blockHash 1) 30000))))) ∧
    (new_proposal (parentAt30 1).digest (dbSyncDataSource smallSource fiveBlocks) 31000 =
        some (.ok ⟨⟨1, blockHash 1, 0⟩, some ⟨1, blockHash 1, 0⟩⟩) ∧
      (import_block (dbSyncDataSource smallSource fiveBlocks) (parentAt30 1) 31000
          (McHashInherentDigest.from_mc_block_hash (blockHash 1)) =
            .ok ⟨⟨1, blockHash 1, 0⟩, some ⟨1, blockHash 1, 0⟩⟩ ∨
        (some (⟨1, blockHash 1, 0⟩ : MainchainBlock) = some ⟨1, blockHash 1, 0⟩ ∧
          smallSource.stable_block_for_from_db fiveBlocks (blockHash 1) 31000 = .ok none ∧
          import_block (dbSyncDataSource smallSource fiveBlocks) (parentAt30 1) 31000
              (McHashInherentDigest.from_mc_block_hash (blockHash 1)) =
            .error (.Inherent (.McStateReferenceInvalid (blockHash 1) 31000))))) ∧
    (new_proposal (parentAt30 2).digest (dbSyncDataSource smallSource fallbackBlocks) 40000 =
        some (.ok ⟨⟨2, blockHash 2, 0⟩, some ⟨2, blockHash 2, 0⟩⟩) ∧
      (import_block (dbSyncDataSource smallSource fallbackBlocks) (parentAt30 2) 40000
          (McHashInherentDigest.from_mc_block_hash (blockHash 2)) =
            .ok ⟨⟨2, blockHash 2, 0⟩, some ⟨2, blockHash 2, 0⟩⟩ ∨
        (some (⟨2, blockHash 2, 0⟩ : MainchainBlock) = some ⟨2, blockHash 2, 0⟩ ∧
          smallSource.stable_block_for_from_db fallbackBlocks (blockHash 2) 40000 = .ok none ∧
          import_block (dbSyncDataSource smallSource fallbackBlocks) (parentAt30 2) 40000
              (McHashInherentDigest.from_mc_block_hash (blockHash 2)) =
            .error (.Inherent (.McStateReferenceInvalid (blockHash 2) 40000))))) := by
  have hoffset : smallSource.security_parameter.toNat +
      smallSource.block_stability_margin.toNat < 2 ^ 32 := by decide
  have hother : ∀ data, DigestItem.PreRuntime MC_HASH_DIGEST_ID data ∉ ([] : List DigestItem) :=
    fun _ => List.not_mem_nil
  -- both tables reach block 4, above the security parameter
  have hreached : ∃ b ∈ fiveBlocks.blocks, smallSource.security_parameter ≤ b.block_no :=
    ⟨⟨4, blockHash 4, 0, 4, 4000⟩, by decide, by decide⟩
  have hreached' : ∃ b ∈ fallbackBlocks.blocks, smallSource.security_parameter ≤ b.block_no :=
    ⟨⟨4, blockHash 4, 0, 4, 4000⟩, by decide, by decide⟩
  have hgenesis : ProposableParent smallSource fiveBlocks ⟨none, []⟩ none := ⟨rfl, _, rfl⟩
  have hblock_one : ProposableParent smallSource fiveBlocks (parentAt30 1)
      (some ⟨1, blockHash 1, 0⟩) := ⟨30000, rfl, rfl, by decide⟩
  have hblock_two : ProposableParent smallSource fallbackBlocks (parentAt30 2)
      (some ⟨2, blockHash 2, 0⟩) := ⟨30000, rfl, rfl, by decide⟩
  have hpropose₁ : new_proposal [] (dbSyncDataSource smallSource fiveBlocks) 30000 =
      some (.ok ⟨⟨1, blockHash 1, 0⟩, none⟩) := by rfl
  have hpropose₂ : new_proposal (parentAt30 1).digest (dbSyncDataSource smallSource fiveBlocks)
      31000 = some (.ok ⟨⟨1, blockHash 1, 0⟩, some ⟨1, blockHash 1, 0⟩⟩) := by rfl
  have hpropose₃ : new_proposal (parentAt30 2).digest (dbSyncDataSource smallSource fallbackBlocks)
      40000 = some (.ok ⟨⟨2, blockHash 2, 0⟩, some ⟨2, blockHash 2, 0⟩⟩) := by rfl
  exact ⟨⟨hpropose₁, proposed_block_accepted_unless_fallback_left_window fiveBlocks fiveBlocks
      (BlockDataSourceImpl.Grows.refl fiveBlocks) hoffset hreached _ none hgenesis 30000 _
      hpropose₁ [] hother _ rfl⟩,
    ⟨hpropose₂, proposed_block_accepted_unless_fallback_left_window fiveBlocks fiveBlocks
      (BlockDataSourceImpl.Grows.refl fiveBlocks) hoffset hreached _ _ hblock_one 31000 _
      hpropose₂ [] hother _ rfl⟩,
    ⟨hpropose₃, proposed_block_accepted_unless_fallback_left_window fallbackBlocks fallbackBlocks
      (BlockDataSourceImpl.Grows.refl fallbackBlocks) hoffset hreached' _ _ hblock_two 40000 _
      hpropose₃ [] hother _ rfl⟩⟩

-- The third proposal is the one the verifier rejects.
example : import_block (dbSyncDataSource smallSource fallbackBlocks) (parentAt30 2) 40000
    (McHashInherentDigest.from_mc_block_hash (blockHash 2)) =
      .error (.Inherent (.McStateReferenceInvalid (blockHash 2) 40000)) := by
  rfl

end dbSync

end sidechain_mc_hash
