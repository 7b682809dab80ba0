-- Block participation data: the block production log
-- (toolkit/block-production-log/pallet) records the moment and author of
-- every block, the node's inherent data provider
-- (toolkit/block-participation/primitives) releases the entries up to the
-- current moment, and `note_processing` of the block participation pallet
-- (toolkit/block-participation/pallet) then drops them from the log. The
-- provider reads the log of the parent block, the drop runs after this
-- block's own entry was appended: that entry is dropped without ever being
-- released.
import PartnerChains.Lib.PartitionPoint
import PartnerChains.Lib.Runs
import PartnerChains.Lib.Frame

namespace pallet_block_production_log

open partner_chains.partition_point

variable {Moment BlockProducerId : Type} [LinearOrder Moment]

/-- `Hooks::on_initialize`: appends the block's moment and author when both are known. -/
def on_initialize (author : Option BlockProducerId) (moment : Option Moment)
    (log : List (Moment × BlockProducerId)) : List (Moment × BlockProducerId) :=
  match author with
  | none => log
  | some author =>
    match moment with
    | none => log
    | some moment => log ++ [(moment, author)]

/-- The entries at or before `moment`. -/
def upTo (moment : Moment) (e : Moment × BlockProducerId) : Bool := decide (e.1 ≤ moment)

/-- `Pallet::take_prefix`: the entries up to `moment`, inclusive, and the log without them. -/
def take_prefix (moment : Moment) (log : List (Moment × BlockProducerId)) :
    List (Moment × BlockProducerId) × List (Moment × BlockProducerId) :=
  let pos := partitionPoint (upTo moment) log
  (log.take pos, log.drop pos)

/-- `Pallet::peek_prefix`: the entries up to `moment`, inclusive. -/
def peek_prefix (moment : Moment) (log : List (Moment × BlockProducerId)) :
    List (Moment × BlockProducerId) :=
  log.takeWhile (upTo moment)

/-- `Pallet::drop_prefix`: the log without the entries up to `moment`. -/
def drop_prefix (moment : Moment) (log : List (Moment × BlockProducerId)) :
    List (Moment × BlockProducerId) :=
  log.drop (partitionPoint (upTo moment) log)

/-- The log in the order of its moments. -/
def Sorted (log : List (Moment × BlockProducerId)) : Prop := log.Pairwise fun a b => a.1 ≤ b.1

instance (log : List (Moment × BlockProducerId)) : Decidable (Sorted log) :=
  inferInstanceAs (Decidable (log.Pairwise fun a b => a.1 ≤ b.1))

/-- On a sorted log the binary search finds the end of the peeked prefix. -/
theorem partitionPoint_upTo {log : List (Moment × BlockProducerId)} (h : Sorted log)
    (moment : Moment) : partitionPoint (upTo moment) log = ( peek_prefix moment log).length :=
  partitionPoint_eq (partitioned_of_sorted Prod.fst moment h)

theorem drop_prefix_eq {log : List (Moment × BlockProducerId)} (h : Sorted log)
    (moment : Moment) : drop_prefix moment log = log.drop ( peek_prefix moment log).length := by
  rw [ drop_prefix, partitionPoint_upTo h]

/-- On a sorted log, `take_prefix` is `peek_prefix` followed by `drop_prefix`. -/
theorem take_prefix_eq {log : List (Moment × BlockProducerId)} (h : Sorted log)
    (moment : Moment) : take_prefix moment log = ( peek_prefix moment log, drop_prefix moment log) := by
  have htake : log.take ( peek_prefix moment log).length = peek_prefix moment log :=
    (List.prefix_iff_eq_take.mp (List.takeWhile_prefix (upTo moment))).symm
  rw [ take_prefix, drop_prefix, partitionPoint_upTo h, htake]

/-- A log whose entries are all at or before `moment` is peeked and dropped whole. -/
theorem peek_drop_of_le {log : List (Moment × BlockProducerId)} (h : Sorted log) {moment : Moment}
    (hle : ∀ e ∈ log, e.1 ≤ moment) :
    peek_prefix moment log = log ∧ drop_prefix moment log = [] := by
  have hpeek : peek_prefix moment log = log :=
    List.takeWhile_eq_self_iff.mpr fun e he => by simpa [upTo] using hle e he
  exact ⟨hpeek, by rw [drop_prefix_eq h, hpeek, List.drop_length]⟩

/-- On a sorted log, the peeked prefix followed by what `drop_prefix` leaves is the log. -/
theorem peek_append_drop {log : List (Moment × BlockProducerId)} (h : Sorted log)
    (moment : Moment) : peek_prefix moment log ++ drop_prefix moment log = log := by
  have htake : log.take ( peek_prefix moment log).length = peek_prefix moment log :=
    (List.prefix_iff_eq_take.mp (List.takeWhile_prefix (upTo moment))).symm
  calc peek_prefix moment log ++ drop_prefix moment log
      = log.take ( peek_prefix moment log).length ++ log.drop ( peek_prefix moment log).length := by
        rw [drop_prefix_eq h, htake]
    _ = log := List.take_append_drop _ _

/-! ## The log along its calls -/

/-- What changes the log: the pallet's `on_initialize` hook, and `take_prefix` and
`drop_prefix` called by the pallets that consume it. -/
inductive LogCall (Moment BlockProducerId : Type) where
  | on_initialize (author : Option BlockProducerId) (moment : Option Moment)
  | take_prefix (moment : Moment)
  | drop_prefix (moment : Moment)

/-- The log after one call. -/
def LogCall.apply : LogCall Moment BlockProducerId → List (Moment × BlockProducerId) →
    List (Moment × BlockProducerId)
  | LogCall.on_initialize author moment, log => pallet_block_production_log.on_initialize author moment log
  | LogCall.take_prefix moment, log => ( pallet_block_production_log.take_prefix moment log).2
  | LogCall.drop_prefix moment, log => pallet_block_production_log.drop_prefix moment log

/-- The log after a sequence of calls. -/
def runLog (calls : List (LogCall Moment BlockProducerId)) (log : List (Moment × BlockProducerId)) :
    List (Moment × BlockProducerId) :=
  calls.foldl (fun log call => call.apply log) log

/-- The moment a call appends to the log, if it appends one. -/
def LogCall.appended : LogCall Moment BlockProducerId → Option Moment
  | LogCall.on_initialize (some _) (some moment) => some moment
  | _ => none

/-- Every entry of the log lies at or before every moment the calls append. -/
def AppendsAfter (log : List (Moment × BlockProducerId))
    (calls : List (LogCall Moment BlockProducerId)) : Prop :=
  ∀ e ∈ log, ∀ moment ∈ calls.filterMap LogCall.appended, e.1 ≤ moment

instance (log : List (Moment × BlockProducerId)) (calls : List (LogCall Moment BlockProducerId)) :
    Decidable (AppendsAfter log calls) :=
  inferInstanceAs (Decidable (∀ e ∈ log, ∀ moment ∈ calls.filterMap LogCall.appended, e.1 ≤ moment))

/-- Dropping a prefix keeps the log sorted, and keeps only entries it had. -/
theorem Sorted.drop {log : List (Moment × BlockProducerId)} (h : Sorted log) (n : Nat) :
    Sorted (log.drop n) :=
  h.sublist (List.drop_sublist n log)

/-- One call keeps the log sorted and before the later appends, when the moment it appends comes
at or before them. -/
theorem LogCall.apply_sorted (call : LogCall Moment BlockProducerId)
    (calls : List (LogCall Moment BlockProducerId)) {log : List (Moment × BlockProducerId)}
    (hsorted : Sorted log) (hafter : AppendsAfter log (call :: calls))
    (hinc : ((call :: calls).filterMap LogCall.appended).Pairwise (· ≤ ·)) :
    Sorted (call.apply log) ∧ AppendsAfter (call.apply log) calls := by
  have hlater : AppendsAfter log calls := fun e he m hm =>
    hafter e he m (List.mem_filterMap.mpr (by
      obtain ⟨c, hc, hcm⟩ := List.mem_filterMap.mp hm
      exact ⟨c, List.mem_cons_of_mem _ hc, hcm⟩))
  -- the calls that leave a suffix of the log
  have hdrop : ∀ n, Sorted (log.drop n) ∧ AppendsAfter (log.drop n) calls := fun n =>
    ⟨hsorted.drop n, fun e he => hlater e (List.mem_of_mem_drop he)⟩
  cases call with
  | on_initialize author moment =>
    cases author with
    | none => exact ⟨hsorted, hlater⟩
    | some author =>
      cases moment with
      | none => exact ⟨hsorted, hlater⟩
      | some moment =>
        -- the appended entry comes after the log, and before the later appends
        simp only [List.filterMap_cons, LogCall.appended] at hinc hafter
        have hle : ∀ e ∈ log, e.1 ≤ moment := fun e he => hafter e he moment List.mem_cons_self
        refine ⟨?_, fun e he m hm => ?_⟩
        · rw [LogCall.apply, pallet_block_production_log.on_initialize, Sorted,
            List.pairwise_append]
          refine ⟨hsorted, List.pairwise_singleton _ _, fun a ha b hb => ?_⟩
          rw [List.mem_singleton] at hb
          subst hb
          exact hle a ha
        · rcases List.mem_append.mp he with he | he
          · exact hlater e he m hm
          · rw [List.mem_singleton] at he
            subst he
            exact List.rel_of_pairwise_cons hinc hm
  | take_prefix moment => exact hdrop _
  | drop_prefix moment => exact hdrop _

/-- Along calls whose appended moments do not decrease, from a sorted log before all of them, the
log stays sorted. -/
theorem runLog_sorted : ∀ (calls : List (LogCall Moment BlockProducerId))
    (log : List (Moment × BlockProducerId)), Sorted log → AppendsAfter log calls →
    (calls.filterMap LogCall.appended).Pairwise (· ≤ ·) → Sorted (runLog calls log)
  | [], _, hsorted, _, _ => hsorted
  | call :: calls, log, hsorted, hafter, hinc => by
    obtain ⟨hsorted', hafter'⟩ := call.apply_sorted calls hsorted hafter hinc
    have hinc' : (calls.filterMap LogCall.appended).Pairwise (· ≤ ·) := by
      cases h : call.appended with
      | none => rwa [List.filterMap_cons_none h] at hinc
      | some m =>
        rw [List.filterMap_cons_some h] at hinc
        exact hinc.of_cons
    exact runLog_sorted calls (call.apply log) hsorted' hafter' hinc'

/-- The three prefix operations agree on every log the calls leave. From a sorted log, along any
calls whose appended moments do not decrease and come after the log, the log stays sorted, and
at every moment `peek_prefix` returns what `take_prefix` takes, `drop_prefix` leaves what
`take_prefix` leaves, and the peeked entries followed by what is left are the log. -/
theorem log_prefix_operations_agree {log : List (Moment × BlockProducerId)} (hsorted : Sorted log)
    (calls : List (LogCall Moment BlockProducerId)) (hafter : AppendsAfter log calls)
    (hinc : (calls.filterMap LogCall.appended).Pairwise (· ≤ ·)) (moment : Moment) :
    Sorted (runLog calls log) ∧
      peek_prefix moment (runLog calls log) = ( take_prefix moment (runLog calls log)).1 ∧
      drop_prefix moment (runLog calls log) = ( take_prefix moment (runLog calls log)).2 ∧
      peek_prefix moment (runLog calls log) ++ drop_prefix moment (runLog calls log) =
        runLog calls log := by
  have hrun := runLog_sorted calls log hsorted hafter hinc
  rw [take_prefix_eq hrun]
  exact ⟨hrun, rfl, rfl, peek_append_drop hrun moment⟩

/-- The log of the pallet's test with two entries at moment 104, one more block appended at 108,
then everything up to 104 dropped. -/
theorem log_prefix_operations_agree_two_at_104 :
    Sorted [((100 : Nat), (1 : Nat)), (104, 2), (104, 1), (105, 2), (107, 1)] ∧
      AppendsAfter [((100 : Nat), (1 : Nat)), (104, 2), (104, 1), (105, 2), (107, 1)]
        [ LogCall.on_initialize (some 3) (some 108), LogCall.drop_prefix 104] ∧
      (([ LogCall.on_initialize (some 3) (some 108), LogCall.drop_prefix 104] : List (LogCall Nat Nat)).filterMap
        LogCall.appended).Pairwise (· ≤ ·) ∧
      (Sorted (runLog [ LogCall.on_initialize (some 3) (some 108), LogCall.drop_prefix 104]
          [((100 : Nat), (1 : Nat)), (104, 2), (104, 1), (105, 2), (107, 1)]) ∧
        peek_prefix 105 (runLog [ LogCall.on_initialize (some 3) (some 108), LogCall.drop_prefix 104]
          [((100 : Nat), (1 : Nat)), (104, 2), (104, 1), (105, 2), (107, 1)]) =
          ( take_prefix 105 (runLog [ LogCall.on_initialize (some 3) (some 108), LogCall.drop_prefix 104]
            [((100 : Nat), (1 : Nat)), (104, 2), (104, 1), (105, 2), (107, 1)])).1 ∧
        drop_prefix 105 (runLog [ LogCall.on_initialize (some 3) (some 108), LogCall.drop_prefix 104]
          [((100 : Nat), (1 : Nat)), (104, 2), (104, 1), (105, 2), (107, 1)]) =
          ( take_prefix 105 (runLog [ LogCall.on_initialize (some 3) (some 108), LogCall.drop_prefix 104]
            [((100 : Nat), (1 : Nat)), (104, 2), (104, 1), (105, 2), (107, 1)])).2 ∧
        peek_prefix 105 (runLog [ LogCall.on_initialize (some 3) (some 108), LogCall.drop_prefix 104]
          [((100 : Nat), (1 : Nat)), (104, 2), (104, 1), (105, 2), (107, 1)]) ++
          drop_prefix 105 (runLog [ LogCall.on_initialize (some 3) (some 108), LogCall.drop_prefix 104]
            [((100 : Nat), (1 : Nat)), (104, 2), (104, 1), (105, 2), (107, 1)]) =
          runLog [ LogCall.on_initialize (some 3) (some 108), LogCall.drop_prefix 104]
            [((100 : Nat), (1 : Nat)), (104, 2), (104, 1), (105, 2), (107, 1)]) :=
  ⟨by decide, by decide, by decide,
    log_prefix_operations_agree (by decide) [ LogCall.on_initialize (some 3) (some 108), LogCall.drop_prefix 104]
      (by decide) (by decide) 105⟩

example : runLog [ LogCall.on_initialize (some 3) (some 108), LogCall.drop_prefix 104]
    [((100 : Nat), (1 : Nat)), (104, 2), (104, 1), (105, 2), (107, 1)] =
      [(105, 2), (107, 1), (108, 3)] := by
  decide

end pallet_block_production_log

namespace pallet_block_participation

open frame_system

variable {Moment BlockAuthor State : Type}

/-- `BlockParticipationProvider`: where the participation data comes from, and how it is
discarded once processed. -/
structure BlockParticipationProvider (Moment BlockAuthor State : Type) where
  blocks_to_process : Moment → State → List (Moment × BlockAuthor)
  discard_processed_blocks : Moment → State → State

/-- `DispatchError`, with the pallet's `Error::MomentNotIncreasing`. -/
inductive DispatchError where
  | BadOrigin
  | MomentNotIncreasing
  deriving DecidableEq

/-- `Call<T>` -/
inductive Call (Moment : Type) where
  | note_processing (up_to_moment : Moment)

/-- `sp_block_participation::InherentError` -/
inductive InherentError where
  | InherentRequired
  | UnexpectedInherent
  | InvalidInherentData
  deriving DecidableEq

/-- `ensure_none` -/
def ensure_none {AccountId : Type} : RawOrigin AccountId → Except DispatchError Unit
  | .none => .ok ()
  | _ => .error .BadOrigin

variable [LinearOrder Moment] (P : BlockParticipationProvider Moment BlockAuthor State)

/-- `Pallet::note_processing`: a moment after the last processed one; the provider discards
the data up to it. Returns `ProcessedUpTo` and the provider's state. -/
def note_processing {AccountId : Type} (origin : RawOrigin AccountId) (up_to_moment : Moment)
    (ProcessedUpTo : Moment) (provider : State) : Except DispatchError (Moment × State) := do
  ensure_none origin
  if ¬ ProcessedUpTo < up_to_moment then throw .MomentNotIncreasing
  let provider := P.discard_processed_blocks up_to_moment provider
  return (up_to_moment, provider)

/-- With the `None` origin of an inherent, `note_processing` fails exactly when the moment does
not increase. -/
theorem note_processing_none {AccountId : Type} (up_to_moment ProcessedUpTo : Moment)
    (provider : State) :
    note_processing P (RawOrigin.none : RawOrigin AccountId) up_to_moment ProcessedUpTo provider =
      if ProcessedUpTo < up_to_moment then
        .ok (up_to_moment, P.discard_processed_blocks up_to_moment provider)
      else .error .MomentNotIncreasing := by
  by_cases h : ProcessedUpTo < up_to_moment
  · simp [note_processing, ensure_none, h]
  · simp [note_processing, ensure_none, h]
    rfl

/-- `ProvideInherent::create_inherent`, from the decoded inherent data. `None` outside is the
panic of `unwrap` on data that does not decode. -/
def create_inherent (data : Except InherentError (Option Moment)) : Option (Option (Call Moment)) :=
  match data with
  | .error _ => none
  | .ok none => some none
  | .ok (some up_to_moment) => some (some (.note_processing up_to_moment))

/-- `ProvideInherent::check_inherent` -/
def check_inherent (call : Call Moment) (data : Except InherentError (Option Moment)) :
    Except InherentError Unit := do
  let some expected_moment ← data | throw .UnexpectedInherent
  let .note_processing up_to_moment := call
  if expected_moment ≠ up_to_moment then throw .InvalidInherentData
  return ()

/-- The block production log as the provider: `peek_prefix` and `drop_prefix`. -/
def productionLog : BlockParticipationProvider Moment BlockAuthor (List (Moment × BlockAuthor)) :=
  ⟨pallet_block_production_log.peek_prefix, pallet_block_production_log.drop_prefix⟩

end pallet_block_participation

namespace sp_block_participation

open pallet_block_participation

variable {Moment BlockProducer State : Type} [DecidableEq BlockProducer]

/-- `BlockProducerParticipationData`, without the stake breakdown of the producer's
delegators. -/
structure BlockProducerParticipationData (BlockProducer : Type) where
  block_producer : BlockProducer
  block_count : Nat

/-- `entry(..).or_default() += 1` on the map of counts. -/
def bump {K : Type} [DecidableEq K] (k : K) : List (K × Nat) → List (K × Nat)
  | [] => [(k, 1)]
  | (k', n) :: rest => if k' = k then (k', n + 1) :: rest else (k', n) :: bump k rest

/-- One turn of the loop of `count_blocks_by_epoch_and_producer`: the main chain epoch of the
block's moment, `None` being its error, and one more block for the producer in it. -/
def countBlock (data_mc_epoch : Moment → Option Nat) (epoch_producers : List ((Nat × BlockProducer) × Nat))
    (block : Moment × BlockProducer) : Option (List ((Nat × BlockProducer) × Nat)) := do
  let (moment, producer) := block
  let mc_epoch ← data_mc_epoch moment
  return bump (mc_epoch, producer) epoch_producers

/-- `count_blocks_by_epoch_and_producer`: the blocks of each producer in each main chain
epoch. -/
def count_blocks_by_epoch_and_producer (data_mc_epoch : Moment → Option Nat)
    (blocks : List (Moment × BlockProducer)) : Option (List ((Nat × BlockProducer) × Nat)) :=
  blocks.foldlM (countBlock data_mc_epoch) []

/-- `BlockParticipationInherentDataProvider` -/
inductive BlockParticipationInherentDataProvider (BlockProducer Moment : Type) where
  | Active (moment : Moment) (block_production_data : List (BlockProducerParticipationData BlockProducer))
  | Inert

/-- `BlockParticipationInherentDataProvider::new`, at the parent block's state. -/
def BlockParticipationInherentDataProvider.new
    (P : BlockParticipationProvider Moment BlockProducer State)
    (data_mc_epoch : Moment → Option Nat) (parent : State) (moment : Moment) :
    Option (BlockParticipationInherentDataProvider BlockProducer Moment) :=
  let blocks_to_process := P.blocks_to_process moment parent
  if blocks_to_process.isEmpty then some .Inert
  else do
    let counts ← count_blocks_by_epoch_and_producer data_mc_epoch blocks_to_process
    return .Active moment (counts.map fun ((_, producer), count) => ⟨producer, count⟩)

/-- Counting fails only on a moment whose main chain epoch is unknown. -/
theorem count_blocks_isSome (data_mc_epoch : Moment → Option Nat)
    (blocks : List (Moment × BlockProducer)) (h : ∀ b ∈ blocks, (data_mc_epoch b.1).isSome) :
    (count_blocks_by_epoch_and_producer data_mc_epoch blocks).isSome := by
  suffices hfold : ∀ (bs : List (Moment × BlockProducer)) (m : List ((Nat × BlockProducer) × Nat)),
      (∀ b ∈ bs, (data_mc_epoch b.1).isSome) → (bs.foldlM (countBlock data_mc_epoch) m).isSome from
    hfold blocks [] h
  intro bs
  induction bs with
  | nil => intro m _; rfl
  | cons b bs ih =>
    intro m hb
    obtain ⟨e, he⟩ := Option.isSome_iff_exists.mp (hb b List.mem_cons_self)
    simp only [List.foldlM_cons, countBlock, he, bind, Option.bind, pure]
    exact ih _ fun b' hb' => hb b' (List.mem_cons_of_mem _ hb')

end sp_block_participation

namespace pallet_block_participation

open frame_system pallet_block_production_log sp_block_participation partner_chains.runs

variable {Moment BlockAuthor : Type} [LinearOrder Moment] [DecidableEq BlockAuthor]

/-! ## Blocks -/

/-- The chain as the feature sees it: the log of the block production log pallet,
`ProcessedUpTo`, and the entries the node has released so far, oldest first. -/
structure ChainState (Moment BlockAuthor : Type) where
  Log : List (Moment × BlockAuthor)
  ProcessedUpTo : Moment
  released : List (Moment × BlockAuthor)

/-- Genesis: an empty log, and the default moment as processed. -/
def ChainState.genesis [Inhabited Moment] : ChainState Moment BlockAuthor := ⟨[], default, []⟩

/-- One block at `moment`, made by `author`. The node builds the inherent data provider on the
parent state; the block runs the log's `on_initialize`, then the `note_processing` inherent
that `create_inherent` makes from the provider's moment. A block whose inherent fails is
invalid: `none`. -/
def applyBlock (data_mc_epoch : Moment → Option Nat) (st : ChainState Moment BlockAuthor)
    (block : Moment × BlockAuthor) : Option (ChainState Moment BlockAuthor) := do
  let (moment, author) := block
  let idp ← BlockParticipationInherentDataProvider.new productionLog data_mc_epoch st.Log moment
  let log := on_initialize (some author) (some moment) st.Log
  match idp with
  | .Inert => some { st with Log := log }
  | .Active up_to_moment _ =>
    match create_inherent (.ok (some up_to_moment)) with
    | some (some (.note_processing up_to_moment)) =>
      match note_processing productionLog (RawOrigin.none : RawOrigin Unit) up_to_moment
          st.ProcessedUpTo log with
      | .ok (processed, log) =>
        some ⟨log, processed, st.released ++ productionLog.blocks_to_process moment st.Log⟩
      | .error _ => none
    | _ => none

/-- What a valid block does: with nothing to release it only appends its entry; otherwise it
releases the peeked entries, moves `ProcessedUpTo` to its moment, and drops everything up to
its moment from the log with its own entry appended. -/
theorem applyBlock_some {data_mc_epoch : Moment → Option Nat} {st st' : ChainState Moment BlockAuthor}
    {moment : Moment} {author : BlockAuthor}
    (h : applyBlock data_mc_epoch st (moment, author) = some st') :
    ( peek_prefix moment st.Log = [] ∧ st' = { st with Log := st.Log ++ [(moment, author)] }) ∨
      (st.ProcessedUpTo < moment ∧
        st' = ⟨ drop_prefix moment (st.Log ++ [(moment, author)]), moment,
          st.released ++ peek_prefix moment st.Log⟩) := by
  simp only [applyBlock, BlockParticipationInherentDataProvider.new, productionLog,
    on_initialize] at h
  by_cases hpeek : peek_prefix moment st.Log = []
  · simp only [hpeek, List.isEmpty_nil, if_true] at h
    cases h
    exact .inl ⟨hpeek, rfl⟩
  · cases hc : count_blocks_by_epoch_and_producer data_mc_epoch ( peek_prefix moment st.Log) with
    | none => simp [hpeek, hc] at h
    | some counts =>
      by_cases hproc : st.ProcessedUpTo < moment
      · simp [hpeek, hc, create_inherent, note_processing_none, hproc] at h
        exact .inr ⟨hproc, h.symm⟩
      · simp [hpeek, hc, create_inherent, note_processing_none, hproc] at h

/-- A block with nothing to release only appends its entry. -/
theorem applyBlock_empty (data_mc_epoch : Moment → Option Nat) (st : ChainState Moment BlockAuthor)
    (moment : Moment) (author : BlockAuthor) (hlog : st.Log = []) :
    applyBlock data_mc_epoch st (moment, author) = some { st with Log := [(moment, author)] } := by
  simp [applyBlock, BlockParticipationInherentDataProvider.new, productionLog, peek_prefix,
    on_initialize, hlog]

/-- A block after every entry of a non-empty log releases the log whole and empties it, its
own entry with it. -/
theorem applyBlock_release (data_mc_epoch : Moment → Option Nat) (st : ChainState Moment BlockAuthor)
    (moment : Moment) (author : BlockAuthor) (hsorted : Sorted st.Log) (hlog : st.Log ≠ [])
    (hle : ∀ e ∈ st.Log, e.1 ≤ moment) (hproc : st.ProcessedUpTo < moment)
    (hepoch : ∀ e ∈ st.Log, (data_mc_epoch e.1).isSome) :
    applyBlock data_mc_epoch st (moment, author) = some ⟨[], moment, st.released ++ st.Log⟩ := by
  obtain ⟨hpeek, -⟩ := peek_drop_of_le hsorted hle
  -- the appended log still lies at or before the moment, so `drop_prefix` empties it
  have hsorted' : Sorted (st.Log ++ [(moment, author)]) := by
    rw [Sorted, List.pairwise_append]
    refine ⟨hsorted, List.pairwise_singleton _ _, fun a ha b hb => ?_⟩
    rw [List.mem_singleton] at hb
    subst hb
    exact hle a ha
  have hdrop : drop_prefix moment (st.Log ++ [(moment, author)]) = [] := by
    refine (peek_drop_of_le hsorted' fun e he => ?_).2
    rcases List.mem_append.mp he with he | he
    · exact hle e he
    · rw [List.mem_singleton] at he
      subst he
      exact le_rfl
  obtain ⟨counts, hcounts⟩ := Option.isSome_iff_exists.mp
    (count_blocks_isSome data_mc_epoch st.Log hepoch)
  simp [applyBlock, BlockParticipationInherentDataProvider.new, productionLog, hlog, hpeek,
    hcounts, create_inherent, note_processing_none, hproc, on_initialize, hdrop]

/-- A block adds to the log only its own entry, and releases only entries of the log. -/
theorem applyBlock_frame {data_mc_epoch : Moment → Option Nat}
    {st st' : ChainState Moment BlockAuthor} {b : Moment × BlockAuthor}
    (h : applyBlock data_mc_epoch st b = some st') :
    (∀ e ∈ st'.Log, e ∈ st.Log ∨ e = b) ∧ (∀ e ∈ st'.released, e ∈ st.released ∨ e ∈ st.Log) := by
  obtain ⟨moment, author⟩ := b
  rcases applyBlock_some h with ⟨-, rfl⟩ | ⟨-, rfl⟩
  · exact ⟨fun e he => by simpa using he, fun e he => .inl he⟩
  · refine ⟨fun e he => by simpa using List.mem_of_mem_drop he, fun e he => ?_⟩
    rcases List.mem_append.mp he with he | he
    · exact .inl he
    · exact .inr ((List.takeWhile_sublist _).subset he)

/-- An entry that no block of the run appends never shows up in the log or among the released
entries. -/
theorem run_frame (data_mc_epoch : Moment → Option Nat) (x : Moment × BlockAuthor)
    {blocks : List (Moment × BlockAuthor)} {st st' : ChainState Moment BlockAuthor}
    (hx : x ∉ blocks) (hlog : x ∉ st.Log) (hrel : x ∉ st.released)
    (h : runAll (applyBlock data_mc_epoch) st blocks = some st') :
    x ∉ st'.Log ∧ x ∉ st'.released := by
  refine runAll_preserves (fun t => x ∉ t.Log ∧ x ∉ t.released) blocks st st'
    (fun t b t' hb ht hstep => ?_) ⟨hlog, hrel⟩ h
  obtain ⟨hframeLog, hframeRel⟩ := applyBlock_frame hstep
  have hxb : x ≠ b := fun hxb => hx (hxb ▸ hb)
  exact ⟨fun hxl => (hframeLog x hxl).elim ht.1 hxb,
    fun hxr => (hframeRel x hxr).elim ht.2 ht.1⟩

/-- No block gets stuck: from a sorted log before every later block, along increasing moments
after `ProcessedUpTo` whose main chain epochs are known, every block is valid. -/
theorem run_isSome (data_mc_epoch : Moment → Option Nat) :
    ∀ (blocks : List (Moment × BlockAuthor)) (st : ChainState Moment BlockAuthor),
      Sorted st.Log → (blocks.map (·.1)).Pairwise (· < ·) →
      (∀ b ∈ blocks, (∀ e ∈ st.Log, e.1 < b.1) ∧ st.ProcessedUpTo < b.1) →
      (∀ e ∈ st.Log ++ blocks, (data_mc_epoch e.1).isSome) →
      (runAll (applyBlock data_mc_epoch) st blocks).isSome
  | [], _, _, _, _, _ => rfl
  | (moment, author) :: blocks, st, hsorted, hslots, hafter, hepoch => by
    rw [List.map_cons, List.pairwise_cons] at hslots
    obtain ⟨hlt, hproc⟩ := hafter _ List.mem_cons_self
    have hlater : ∀ b ∈ blocks, moment < b.1 := fun b hb => hslots.1 _ (List.mem_map_of_mem hb)
    have hepoch' : ∀ e ∈ blocks, (data_mc_epoch e.1).isSome :=
      fun e he => hepoch e (List.mem_append_right _ (List.mem_cons_of_mem _ he))
    rw [runAll_cons]
    by_cases hlog : st.Log = []
    · -- the block's entry opens the log
      rw [applyBlock_empty data_mc_epoch st moment author hlog, Option.bind_some]
      refine run_isSome data_mc_epoch blocks _ (List.pairwise_singleton _ _) hslots.2
        (fun b hb => ⟨fun e he => ?_, (hafter b (List.mem_cons_of_mem _ hb)).2⟩)
        (fun e he => ?_)
      · rw [List.mem_singleton] at he
        subst he
        exact hlater b hb
      · rcases List.mem_append.mp he with he | he
        · rw [List.mem_singleton] at he
          subst he
          exact hepoch _ (List.mem_append_right _ List.mem_cons_self)
        · exact hepoch' e he
    · -- the log is released and emptied
      rw [applyBlock_release data_mc_epoch st moment author hsorted hlog
        (fun e he => le_of_lt (hlt e he)) hproc fun e he => hepoch e (List.mem_append_left _ he),
        Option.bind_some]
      exact run_isSome data_mc_epoch blocks _ List.Pairwise.nil hslots.2
        (fun b hb => ⟨fun e he => (nomatch he), hlater b hb⟩) (fun e he => hepoch' e (by simpa using he))

/-- Block participation data is not released exactly once. From genesis, along any run of at
least two blocks with increasing moments (after the default one) whose main chain epochs are
known, no block is invalid, and at the end the entry of the second block is neither among the
released entries nor in the log: its own `note_processing` dropped it before any provider
could read it. -/
theorem second_block_entry_lost [Inhabited Moment] (data_mc_epoch : Moment → Option Nat)
    (b₁ b₂ : Moment × BlockAuthor) (rest : List (Moment × BlockAuthor))
    (hslots : ((b₁ :: b₂ :: rest).map (·.1)).Pairwise (· < ·)) (hdefault : default ≤ b₁.1)
    (hepoch : ∀ b ∈ b₁ :: b₂ :: rest, (data_mc_epoch b.1).isSome) :
    ∃ st, runAll (applyBlock data_mc_epoch) ChainState.genesis (b₁ :: b₂ :: rest) = some st ∧
      b₂ ∉ st.released ∧ b₂ ∉ st.Log := by
  obtain ⟨m₁, a₁⟩ := b₁
  obtain ⟨m₂, a₂⟩ := b₂
  have h₁₂ : m₁ < m₂ := List.rel_of_pairwise_cons hslots (List.mem_cons_self)
  have hrest : (rest.map (·.1)).Pairwise (· < ·) ∧ ∀ b ∈ rest, m₂ < b.1 := by
    rw [List.map_cons, List.map_cons, List.pairwise_cons, List.pairwise_cons] at hslots
    exact ⟨hslots.2.2, fun b hb => hslots.2.1 _ (List.mem_map_of_mem hb)⟩
  -- block 1 finds an empty log and opens it; block 2 releases block 1 and drops its own entry
  have hstep₁ : applyBlock data_mc_epoch ChainState.genesis (m₁, a₁) =
      some ⟨[(m₁, a₁)], default, []⟩ :=
    applyBlock_empty data_mc_epoch _ m₁ a₁ rfl
  have hstep₂ : applyBlock data_mc_epoch ⟨[(m₁, a₁)], default, []⟩ (m₂, a₂) =
      some ⟨[], m₂, [(m₁, a₁)]⟩ :=
    applyBlock_release data_mc_epoch _ m₂ a₂ (List.pairwise_singleton _ _) (List.cons_ne_nil _ _)
      (fun e he => by rw [List.mem_singleton] at he; subst he; exact le_of_lt h₁₂)
      (lt_of_le_of_lt hdefault h₁₂)
      (fun e he => by rw [List.mem_singleton] at he; subst he; exact hepoch _ List.mem_cons_self)
  obtain ⟨st, hst⟩ := Option.isSome_iff_exists.mp
    (run_isSome data_mc_epoch rest ⟨[], m₂, [(m₁, a₁)]⟩ List.Pairwise.nil hrest.1
      (fun b hb => ⟨fun e he => (nomatch he), hrest.2 b hb⟩)
      (fun e he => hepoch e (by simp at he; simp [he])))
  have hnotin : (m₂, a₂) ∉ rest := fun hin => lt_irrefl m₂ (hrest.2 _ hin)
  have hnotrel : (m₂, a₂) ∉ [(m₁, a₁)] := by
    rw [List.mem_singleton]
    intro heq
    exact ne_of_lt h₁₂ (Prod.ext_iff.mp heq).1.symm
  obtain ⟨hlog, hrel⟩ := run_frame data_mc_epoch (m₂, a₂) hnotin List.not_mem_nil hnotrel hst
  refine ⟨st, ?_, hrel, hlog⟩
  rw [runAll_cons, hstep₁, Option.bind_some, runAll_cons, hstep₂, Option.bind_some, hst]

/-- Blocks at slots 1 and 2, by authors 10 and 20: the entry of the second block is gone. -/
theorem second_block_entry_lost_slots_one_two :
    (([(1, 10), (2, 20)] : List (Nat × Nat)).map (·.1)).Pairwise (· < ·) ∧ (default : Nat) ≤ 1 ∧
      (∀ b ∈ ([(1, 10), (2, 20)] : List (Nat × Nat)), (some 0 : Option Nat).isSome) ∧
      ∃ st, runAll (applyBlock fun _ => some 0) ChainState.genesis [((1 : Nat), (10 : Nat)), (2, 20)] =
        some st ∧ ((2 : Nat), (20 : Nat)) ∉ st.released ∧ ((2 : Nat), (20 : Nat)) ∉ st.Log :=
  ⟨by decide, by decide, by decide,
    second_block_entry_lost (fun _ => some 0) (1, 10) (2, 20) [] (by decide) (by decide)
      (by decide)⟩

example : runAll (applyBlock fun _ => some 0) ChainState.genesis [((1 : Nat), (10 : Nat)), (2, 20)] =
    some ⟨[], 2, [(1, 10)]⟩ := by
  rfl

end pallet_block_participation
