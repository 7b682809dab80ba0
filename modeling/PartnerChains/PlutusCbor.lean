-- Plutus data and its CBOR encoding (toolkit/utils/plutus: lib.rs and
-- cbor.rs), written after the Plutus Haskell source: an integer that fits
-- an i64 as a CBOR integer and any other as a bignum under tag 2 or 3, a
-- byte string longer than 64 bytes in chunks of 64, a constructor under
-- tag 121 to 127, 1280 to 1400 or 102, a list as an array (of definite
-- length when empty, indefinite otherwise) and a map as a map of definite
-- length. Under the Plutus reading of CBOR the bytes give the datum back,
-- except that every integer below i64::MIN comes back one less: a negative
-- bignum is written with its magnitude n under tag 3, which reads as -1 - n.
-- The encoder is minicbor's, a parameter with the guarantees of Lib/Cbor.
import Mathlib
import PartnerChains.Lib.Cbor

set_option autoImplicit false

namespace plutus

open cbor minicbor

mutual
/-- `Datum` -/
inductive Datum where
  | IntegerDatum (value : Int)
  | ByteStringDatum (bytes : List UInt8)
  | ConstructorDatum (constructor : UInt64) (fields : List Datum)
  | ListDatum (items : List Datum)
  | MapDatum (entries : List MapDatumEntry)

/-- `MapDatumEntry` -/
inductive MapDatumEntry where
  | mk (key value : Datum)
end

/-- `MapDatumEntry::key` -/
def MapDatumEntry.key : MapDatumEntry → Datum
  | .mk key _ => key

/-- `MapDatumEntry::value` -/
def MapDatumEntry.value : MapDatumEntry → Datum
  | .mk _ value => value

theorem MapDatumEntry.sizeOf_key_lt_of_mem {entry : MapDatumEntry}
    {entries : List MapDatumEntry} (h : entry ∈ entries) : sizeOf entry.key < sizeOf entries := by
  have hmem := List.sizeOf_lt_of_mem h
  cases entry
  simp only [MapDatumEntry.key, MapDatumEntry.mk.sizeOf_spec] at hmem ⊢
  omega

theorem MapDatumEntry.sizeOf_value_lt_of_mem {entry : MapDatumEntry}
    {entries : List MapDatumEntry} (h : entry ∈ entries) : sizeOf entry.value < sizeOf entries := by
  have hmem := List.sizeOf_lt_of_mem h
  cases entry
  simp only [MapDatumEntry.value, MapDatumEntry.mk.sizeOf_spec] at hmem ⊢
  omega

/-! ## The encoder -/

/-- `num_bigint::Sign` -/
inductive Sign where
  | Minus
  | NoSign
  | Plus
  deriving DecidableEq, Repr

/-- `BigInt::to_bytes_be`: the sign, and the magnitude in big-endian bytes with no leading zero
(one zero byte for zero). -/
def to_bytes_be (i : Int) : Sign × List UInt8 :=
  (if i < 0 then .Minus else if i = 0 then .NoSign else .Plus,
    beBytes (Nat.log 256 i.natAbs + 1) i.natAbs)

/-- `i64::try_from(&BigInt)` -/
def i64_try_from (i : Int) : Option Int64 :=
  if -2 ^ 63 ≤ i ∧ i < 2 ^ 63 then some (Int64.ofInt i) else none

/-- `IanaTag::PosBignum` -/
def IanaTag.PosBignum : UInt64 := 2

/-- `IanaTag::NegBignum` -/
def IanaTag.NegBignum : UInt64 := 3

/-- `BYTES_CHUNK_SIZE_LIMIT` -/
def BYTES_CHUNK_SIZE_LIMIT : Nat := 64

variable (E : Encoder)

/-- `encode_bytestring` -/
def encode_bytestring (bytes : List UInt8) : List UInt8 :=
  if bytes.length ≤ BYTES_CHUNK_SIZE_LIMIT then E.bytes bytes
  else
    E.begin_bytes ++ (chunks BYTES_CHUNK_SIZE_LIMIT bytes).flatMap E.bytes ++
      E.«end»

/-- `encode_integer`. The `NoSign` arm is `unreachable!` in the source, since zero fits an `i64`
(`to_bytes_be_sign_ne_noSign`); here it writes no tag. -/
def encode_integer (i : Int) : List UInt8 :=
  match i64_try_from i with
  | some num => E.i64 num
  | none =>
    let (sign, bytes) := to_bytes_be i
    (match sign with
      | .Plus => E.tag IanaTag.PosBignum
      | .Minus => E.tag IanaTag.NegBignum
      | .NoSign => []) ++
      encode_bytestring E bytes

/-- `constructor_small_tag` -/
def constructor_small_tag (value : UInt64) : UInt64 := value + 121

/-- `constructor_big_tag` -/
def constructor_big_tag (value : UInt64) : UInt64 := 1280 + value - 7

/-- `CONSTRUCTOR_OVER_LIMIT_TAG` -/
def CONSTRUCTOR_OVER_LIMIT_TAG : UInt64 := 102

mutual
/-- `encode_datum` -/
def encode_datum : Datum → List UInt8
  | .IntegerDatum bi => encode_integer E bi
  | .ByteStringDatum bytes => encode_bytestring E bytes
  | .ConstructorDatum constructor fields => encode_constructor constructor fields
  | .ListDatum items => encode_linear_seq items
  | .MapDatum entries => encode_entries entries
termination_by d => (sizeOf d, 0)

/-- `encode_constructor` -/
def encode_constructor (constructor : UInt64) (fields : List Datum) : List UInt8 :=
  if constructor < 7 then
    E.tag (constructor_small_tag constructor) ++ encode_linear_seq fields
  else if 7 ≤ constructor ∧ constructor < 128 then
    E.tag (constructor_big_tag constructor) ++ encode_linear_seq fields
  else
    E.tag CONSTRUCTOR_OVER_LIMIT_TAG ++ encode_constructor_over_limit_fields constructor fields
termination_by (sizeOf fields, 3)

/-- `encode_linear_seq`: as Plutus does, an empty array of definite length, or the items in an
array of indefinite length. -/
def encode_linear_seq (ds : List Datum) : List UInt8 :=
  if ds.isEmpty then E.array 0
  else E.begin_array ++ ds.flatMap encode_datum ++ E.«end»
termination_by (sizeOf ds, 1)

/-- `encode_constructor_over_limit_fields`: the constructor and its fields in an array of two. -/
def encode_constructor_over_limit_fields (constructor : UInt64) (ds : List Datum) : List UInt8 :=
  E.array 2 ++ E.u64 constructor ++ encode_linear_seq ds
termination_by (sizeOf ds, 2)

/-- `encode_entries` -/
def encode_entries (entries : List MapDatumEntry) : List UInt8 :=
  E.map (UInt64.ofNat entries.length) ++
    entries.flatMap fun entry => encode_datum entry.key ++ encode_datum entry.value
termination_by (sizeOf entries, 1)
decreasing_by
  · exact Prod.Lex.left _ _ (MapDatumEntry.sizeOf_key_lt_of_mem ‹_›)
  · exact Prod.Lex.left _ _ (MapDatumEntry.sizeOf_value_lt_of_mem ‹_›)
end

/-- `minicbor::to_vec` of a datum: its `Encode` implementation, `encode_datum`, writing into an
empty vector, which cannot fail. -/
def to_vec (d : Datum) : List UInt8 := encode_datum E d

variable {E}

/-! ## The Plutus reading of CBOR -/

/-- The tagged items of the Plutus reading: a bignum `n` under tag 2 or `-1 - n` under tag 3, or
a constructor under tags 121 to 127, 1280 to 1400, or 102 with `[constructor, fields]`. -/
def readTagged (item : Reader Datum) : Reader Datum := fun input => do
  let (t, rest) ← readTag input
  if t = 2 then
    (readByteString rest).map fun (bytes, rest) => (.IntegerDatum (fromBE bytes), rest)
  else if t = 3 then
    (readByteString rest).map fun (bytes, rest) => (.IntegerDatum (-1 - fromBE bytes), rest)
  else if 121 ≤ t ∧ t ≤ 127 then
    (readArray item rest).map fun (fields, rest) =>
      (.ConstructorDatum (UInt64.ofNat (t - 121)) fields, rest)
  else if 1280 ≤ t ∧ t ≤ 1400 then
    (readArray item rest).map fun (fields, rest) =>
      (.ConstructorDatum (UInt64.ofNat (t - 1280 + 7)) fields, rest)
  else if t = 102 then
    match readHead rest with
    | some (.definite 4 2, rest) =>
      match readHead rest with
      | some (.definite 0 constructor, rest) =>
        (readArray item rest).map fun (fields, rest) =>
          (.ConstructorDatum (UInt64.ofNat constructor) fields, rest)
      | _ => none
    | _ => none
  else none

/-- The Plutus reading of a datum nested at most `depth` deep. -/
def readDatum : Nat → Reader Datum
  | 0, _ => none
  | depth + 1, input =>
    match peekMajor input with
    | some 0 | some 1 => (readInt input).map fun (i, rest) => (.IntegerDatum i, rest)
    | some 2 => (readByteString input).map fun (bytes, rest) => (.ByteStringDatum bytes, rest)
    | some 4 => (readArray (readDatum depth) input).map fun (items, rest) => (.ListDatum items, rest)
    | some 5 =>
      (readMap (readDatum depth) input).map fun (entries, rest) =>
        (.MapDatum (entries.map fun (key, value) => .mk key value), rest)
    | some 6 => readTagged (readDatum depth) input
    | _ => none

/-- The datum that a whole input holds under the Plutus reading; no datum is nested deeper than
the input is long. -/
def decode (input : List UInt8) : Option Datum :=
  match readDatum input.length input with
  | some (d, []) => some d
  | _ => none

/-! ## What the bytes of a datum read back as -/

/-- The datums directly inside a datum: its fields, its items, or the keys and values of its
entries. -/
def Datum.children : Datum → List Datum
  | .IntegerDatum _ | .ByteStringDatum _ => []
  | .ConstructorDatum _ fields => fields
  | .ListDatum items => items
  | .MapDatum entries => entries.flatMap fun entry => [entry.key, entry.value]

theorem Datum.sizeOf_lt_of_mem_children {c d : Datum} (h : c ∈ d.children) :
    sizeOf c < sizeOf d := by
  cases d with
  | IntegerDatum _ | ByteStringDatum _ => simp [Datum.children] at h
  | ConstructorDatum constructor fields =>
    have hmem := List.sizeOf_lt_of_mem (show c ∈ fields from h)
    simp only [Datum.ConstructorDatum.sizeOf_spec]
    omega
  | ListDatum items =>
    have hmem := List.sizeOf_lt_of_mem (show c ∈ items from h)
    simp only [Datum.ListDatum.sizeOf_spec]
    omega
  | MapDatum entries =>
    obtain ⟨entry, hentry, hc⟩ := List.mem_flatMap.mp h
    have hkey := MapDatumEntry.sizeOf_key_lt_of_mem hentry
    have hvalue := MapDatumEntry.sizeOf_value_lt_of_mem hentry
    simp only [List.mem_cons, List.not_mem_nil, or_false] at hc
    simp only [Datum.MapDatum.sizeOf_spec]
    rcases hc with rfl | rfl <;> omega

/-- The datum and every datum nested in it, at any depth. -/
def Datum.subterms (d : Datum) : List Datum :=
  d :: (d.children.attach.map fun c => c.1.subterms).flatten
termination_by sizeOf d
decreasing_by exact Datum.sizeOf_lt_of_mem_children c.2

theorem Datum.subterms_eq (d : Datum) :
    d.subterms = d :: (d.children.map Datum.subterms).flatten := by
  rw [Datum.subterms, List.attach_map_val]

/-- What the bytes that the encoder writes for a datum read back as under the Plutus reading:
the datum, with every integer below `i64::MIN` one less. -/
def Datum.readBack : Datum → Datum
  | .IntegerDatum i => .IntegerDatum (if i < -2 ^ 63 then i - 1 else i)
  | .ByteStringDatum bytes => .ByteStringDatum bytes
  | .ConstructorDatum constructor fields =>
    .ConstructorDatum constructor (fields.map Datum.readBack)
  | .ListDatum items => .ListDatum (items.map Datum.readBack)
  | .MapDatum entries =>
    .MapDatum (entries.map fun entry => .mk entry.key.readBack entry.value.readBack)
termination_by d => sizeOf d
decreasing_by
  all_goals
    apply Datum.sizeOf_lt_of_mem_children
    simp only [Datum.children, List.mem_flatMap, List.mem_cons, List.not_mem_nil, or_false]
  all_goals first
    | assumption
    | exact ⟨_, ‹_›, .inl rfl⟩
    | exact ⟨_, ‹_›, .inr rfl⟩

theorem MapDatumEntry.mk_key_value (entry : MapDatumEntry) : .mk entry.key entry.value = entry := by
  cases entry
  rfl

theorem Datum.mem_subterms_iff {x d : Datum} :
    x ∈ d.subterms ↔ x = d ∨ ∃ c ∈ d.children, x ∈ c.subterms := by
  rw [Datum.subterms_eq]
  simp [List.mem_flatten]

theorem Datum.mem_subterms_of_mem_children {c d x : Datum} (h : c ∈ d.children)
    (hx : x ∈ c.subterms) : x ∈ d.subterms :=
  Datum.mem_subterms_iff.mpr (.inr ⟨c, h, hx⟩)

theorem Datum.length_subterms (d : Datum) :
    d.subterms.length = 1 + (d.children.map fun c => c.subterms.length).sum := by
  rw [Datum.subterms_eq]
  simp [List.length_flatten, List.map_map, Function.comp_def]
  omega

theorem Datum.length_subterms_lt_of_mem_children {c d : Datum} (h : c ∈ d.children) :
    c.subterms.length < d.subterms.length := by
  have hle : c.subterms.length ≤ (d.children.map fun c => c.subterms.length).sum :=
    List.le_sum_of_mem (List.mem_map.mpr ⟨c, h, rfl⟩)
  rw [Datum.length_subterms d]
  omega

/-- A datum reads back as itself when its own integer, if it is one, is not below `i64::MIN` and
its children read back as themselves. -/
theorem Datum.readBack_eq_self_iff_children (d : Datum) :
    d.readBack = d ↔ (∀ i, d = .IntegerDatum i → -2 ^ 63 ≤ i) ∧ ∀ c ∈ d.children, c.readBack = c := by
  cases d with
  | IntegerDatum i =>
    simp only [Datum.readBack, Datum.IntegerDatum.injEq, forall_eq', Datum.children,
      List.not_mem_nil, false_imp_iff, imp_true_iff, and_true]
    split_ifs <;> omega
  | ByteStringDatum bytes => simp [Datum.readBack, Datum.children]
  | ConstructorDatum constructor fields =>
    simpa [Datum.readBack, Datum.children] using
      (List.map_inj_left (l := fields) (f := Datum.readBack) (g := id))
  | ListDatum items =>
    simpa [Datum.readBack, Datum.children] using
      (List.map_inj_left (l := items) (f := Datum.readBack) (g := id))
  | MapDatum entries =>
    have hentries := List.map_inj_left (l := entries)
      (f := fun entry => MapDatumEntry.mk entry.key.readBack entry.value.readBack) (g := id)
    simp only [List.map_id, id] at hentries
    simp only [Datum.readBack, Datum.MapDatum.injEq, hentries, Datum.children, List.mem_flatMap,
      List.mem_cons, List.not_mem_nil, or_false, reduceCtorEq, false_imp_iff, imp_true_iff,
      true_and]
    constructor
    · rintro h c ⟨entry, hentry, rfl | rfl⟩
      · have := h entry hentry
        rw [← MapDatumEntry.mk_key_value entry, MapDatumEntry.mk.injEq] at this
        simpa [MapDatumEntry.key] using this.1
      · have := h entry hentry
        rw [← MapDatumEntry.mk_key_value entry, MapDatumEntry.mk.injEq] at this
        simpa [MapDatumEntry.value] using this.2
    · intro h entry hentry
      conv_rhs => rw [← MapDatumEntry.mk_key_value entry]
      rw [h entry.key ⟨entry, hentry, .inl rfl⟩, h entry.value ⟨entry, hentry, .inr rfl⟩]

/-- A datum reads back as itself exactly when no integer in it is below `i64::MIN`. -/
theorem Datum.readBack_eq_self_iff (d : Datum) :
    d.readBack = d ↔ ∀ i, .IntegerDatum i ∈ d.subterms → -2 ^ 63 ≤ i := by
  have hchildren : ∀ c ∈ d.children,
      (c.readBack = c ↔ ∀ i, .IntegerDatum i ∈ c.subterms → -2 ^ 63 ≤ i) :=
    fun c _ => Datum.readBack_eq_self_iff c
  rw [Datum.readBack_eq_self_iff_children]
  constructor
  · rintro ⟨hself, hrest⟩ i hi
    rcases Datum.mem_subterms_iff.mp hi with hi | ⟨c, hc, hi⟩
    · exact hself i hi.symm
    · exact (hchildren c hc).mp (hrest c hc) i hi
  · intro h
    exact ⟨fun i hi => h i (Datum.mem_subterms_iff.mpr (.inl hi.symm)),
      fun c hc => (hchildren c hc).mpr fun i hi => h i (Datum.mem_subterms_of_mem_children hc hi)⟩
termination_by sizeOf d
decreasing_by exact Datum.sizeOf_lt_of_mem_children ‹_›

/-! ## Each part of the encoding reads back -/

theorem i64_try_from_eq_some {i : Int} {num : Int64} (h : i64_try_from i = some num) :
    num.toInt = i ∧ -2 ^ 63 ≤ i := by
  unfold i64_try_from at h
  split_ifs at h with hrange
  cases h
  exact ⟨Int64.toInt_ofInt_of_le hrange.1 hrange.2, hrange.1⟩

theorem i64_try_from_eq_none {i : Int} (h : i64_try_from i = none) :
    i < -2 ^ 63 ∨ 2 ^ 63 ≤ i := by
  unfold i64_try_from at h
  split_ifs at h with hrange
  omega

/-- The `unreachable!` arm of `encode_integer` is unreachable. -/
theorem to_bytes_be_sign_ne_noSign {i : Int} (h : i64_try_from i = none) :
    (to_bytes_be i).1 ≠ .NoSign := by
  have hrange := i64_try_from_eq_none h
  simp only [to_bytes_be]
  split_ifs with hneg hzero
  · simp
  · omega
  · simp

theorem fromBE_to_bytes_be (i : Int) : fromBE (to_bytes_be i).2 = i.natAbs := by
  simp only [to_bytes_be]
  rw [fromBE_beBytes, Nat.mod_eq_of_lt (Nat.lt_pow_succ_log_self (by omega) _)]

theorem encode_integer_of_i64_try_from_eq_some {i : Int} {num : Int64}
    (h : i64_try_from i = some num) : encode_integer E i = E.i64 num := by
  unfold encode_integer
  rw [h]

/-- Outside the `i64` range the encoder writes a bignum: the tag of its sign, then its
magnitude. -/
theorem encode_integer_of_i64_try_from_eq_none {i : Int} (h : i64_try_from i = none) :
    encode_integer E i =
      E.tag (if i < 0 then IanaTag.NegBignum else IanaTag.PosBignum) ++
        encode_bytestring E (to_bytes_be i).2 := by
  have hrange := i64_try_from_eq_none h
  unfold encode_integer
  rw [h]
  simp only [to_bytes_be]
  split_ifs with hneg hzero
  · rfl
  · omega
  · rfl

theorem startsItem_encode_bytestring (bytes : List UInt8) :
    StartsItem (encode_bytestring E bytes) := by
  unfold encode_bytestring
  split_ifs with hlen
  · exact E.startsItem_bytes bytes (by unfold BYTES_CHUNK_SIZE_LIMIT at hlen; omega)
  · exact (E.startsItem_begin_bytes.append _).append _

theorem peekMajor_encode_bytestring (bytes rest : List UInt8) :
    peekMajor (encode_bytestring E bytes ++ rest) = some 2 := by
  unfold encode_bytestring
  split_ifs with hlen
  · exact E.peekMajor_bytes bytes (by unfold BYTES_CHUNK_SIZE_LIMIT at hlen; omega) rest
  · rw [List.append_assoc, List.append_assoc]
    exact E.peekMajor_begin_bytes _

theorem readByteString_encode_bytestring (bytes rest : List UInt8) :
    readByteString (encode_bytestring E bytes ++ rest) = some (bytes, rest) := by
  unfold encode_bytestring BYTES_CHUNK_SIZE_LIMIT
  split_ifs with hlen
  · exact E.readByteString_bytes bytes (by omega) rest
  · have hchunks : ∀ c ∈ chunks 64 bytes, c.length < 2 ^ 64 := fun c hc => by
      have := length_le_of_mem_chunks hc
      omega
    rw [E.readByteString_begin_bytes _ hchunks rest, flatten_chunks (by omega) bytes]

theorem startsItem_encode_integer (i : Int) : StartsItem (encode_integer E i) := by
  cases h : i64_try_from i with
  | some num =>
    rw [encode_integer_of_i64_try_from_eq_some h]
    exact E.startsItem_i64 num
  | none =>
    rw [encode_integer_of_i64_try_from_eq_none h]
    exact (E.startsItem_tag _).append _

theorem readTagged_posBignum (item : Reader Datum) (bytes rest : List UInt8) :
    readTagged item (E.tag IanaTag.PosBignum ++ encode_bytestring E bytes ++ rest) =
      some (.IntegerDatum (fromBE bytes), rest) := by
  simp [readTagged, List.append_assoc, E.readTag_tag, IanaTag.PosBignum,
    readByteString_encode_bytestring]

theorem readTagged_negBignum (item : Reader Datum) (bytes rest : List UInt8) :
    readTagged item (E.tag IanaTag.NegBignum ++ encode_bytestring E bytes ++ rest) =
      some (.IntegerDatum (-1 - fromBE bytes), rest) := by
  simp [readTagged, List.append_assoc, E.readTag_tag, IanaTag.NegBignum,
    readByteString_encode_bytestring]

/-- An integer reads back as itself, except below `i64::MIN`, where the magnitude written under
tag 3 reads back as one less. -/
theorem readDatum_encode_integer (depth : Nat) (i : Int) (rest : List UInt8) :
    readDatum (depth + 1) (encode_integer E i ++ rest) =
      some ((Datum.IntegerDatum i).readBack, rest) := by
  cases h : i64_try_from i with
  | some num =>
    obtain ⟨hnum, hlo⟩ := i64_try_from_eq_some h
    rw [encode_integer_of_i64_try_from_eq_some h, Datum.readBack, if_neg (by omega)]
    rcases E.peekMajor_i64 num rest with hpeek | hpeek <;>
      simp [readDatum, hpeek, E.readInt_i64, hnum]
  | none =>
    rw [encode_integer_of_i64_try_from_eq_none h, readDatum, List.append_assoc, E.peekMajor_tag]
    simp only [← List.append_assoc]
    split_ifs with hneg
    · rw [readTagged_negBignum, fromBE_to_bytes_be, Datum.readBack,
        if_pos (show i < -2 ^ 63 by have := i64_try_from_eq_none h; omega)]
      congr 3
      omega
    · rw [readTagged_posBignum, fromBE_to_bytes_be, Datum.readBack, if_neg (by omega)]
      congr 3
      omega

theorem startsItem_encode_linear_seq (ds : List Datum) : StartsItem (encode_linear_seq E ds) := by
  rw [encode_linear_seq]
  split_ifs
  · exact E.startsItem_array 0
  · exact (E.startsItem_begin_array.append _).append _

theorem peekMajor_encode_linear_seq (ds : List Datum) (rest : List UInt8) :
    peekMajor (encode_linear_seq E ds ++ rest) = some 4 := by
  rw [encode_linear_seq]
  split_ifs
  · exact E.peekMajor_array 0 rest
  · rw [List.append_assoc, List.append_assoc]
    exact E.peekMajor_begin_array _

theorem startsItem_encode_datum (d : Datum) : StartsItem (encode_datum E d) := by
  cases d with
  | IntegerDatum i =>
    rw [encode_datum]
    exact startsItem_encode_integer i
  | ByteStringDatum bytes =>
    rw [encode_datum]
    exact startsItem_encode_bytestring bytes
  | ConstructorDatum constructor fields =>
    rw [encode_datum, encode_constructor]
    split_ifs <;> exact (E.startsItem_tag _).append _
  | ListDatum items =>
    rw [encode_datum]
    exact startsItem_encode_linear_seq items
  | MapDatum entries =>
    rw [encode_datum, encode_entries]
    exact (E.startsItem_map _).append _

/-- A sequence reads back item by item, whichever of its two forms the encoder chose. -/
theorem readArray_encode_linear_seq (item : Reader Datum) (f : Datum → Datum) (ds : List Datum)
    (h : ∀ d ∈ ds, ∀ rest, item (encode_datum E d ++ rest) = some (f d, rest)) (rest : List UInt8) :
    readArray item (encode_linear_seq E ds ++ rest) = some (ds.map f, rest) := by
  rw [encode_linear_seq]
  split_ifs with hempty
  · rw [List.isEmpty_iff.mp hempty, List.map_nil]
    exact E.readArray_array_zero item rest
  · exact E.readArray_begin_array item (encode_datum E) f ds h (fun d _ => startsItem_encode_datum d)
      rest

theorem toNat_constructor_small_tag {constructor : UInt64} (h : constructor < 7) :
    (constructor_small_tag constructor).toNat = constructor.toNat + 121 := by
  have hlt : constructor.toNat < 7 := UInt64.lt_iff_toNat_lt.mp h
  rw [constructor_small_tag, UInt64.toNat_add]
  simp only [UInt64.reduceToNat]
  omega

theorem toNat_constructor_big_tag {constructor : UInt64} (h : 7 ≤ constructor ∧ constructor < 128) :
    (constructor_big_tag constructor).toNat = constructor.toNat + 1273 := by
  have hge : 7 ≤ constructor.toNat := UInt64.le_iff_toNat_le.mp h.1
  have hlt : constructor.toNat < 128 := UInt64.lt_iff_toNat_lt.mp h.2
  have hsum : (1280 + constructor).toNat = constructor.toNat + 1280 := by
    rw [UInt64.toNat_add]
    simp only [UInt64.reduceToNat]
    omega
  have hle : (7 : UInt64) ≤ 1280 + constructor := by
    rw [UInt64.le_iff_toNat_le, hsum]
    simp only [UInt64.reduceToNat]
    omega
  rw [constructor_big_tag, UInt64.toNat_sub_of_le _ _ hle, hsum]
  simp only [UInt64.reduceToNat]
  omega

/-- A constructor reads back under whichever of its three tags the encoder chose. -/
theorem readTagged_encode_constructor (item : Reader Datum) (f : Datum → Datum)
    (constructor : UInt64) (fields : List Datum)
    (h : ∀ d ∈ fields, ∀ rest, item (encode_datum E d ++ rest) = some (f d, rest))
    (rest : List UInt8) :
    readTagged item (encode_constructor E constructor fields ++ rest) =
      some (.ConstructorDatum constructor (fields.map f), rest) := by
  have hseq := readArray_encode_linear_seq item f fields h rest
  have hlt := UInt64.toNat_lt constructor
  rw [encode_constructor]
  split_ifs with hsmall hbig
  · -- tags 121 to 127
    have hc : constructor.toNat < 7 := UInt64.lt_iff_toNat_lt.mp hsmall
    simp only [readTagged, List.append_assoc, E.readTag_tag, toNat_constructor_small_tag hsmall,
      Option.bind_eq_bind, Option.bind_some]
    rw [if_neg (show ¬constructor.toNat + 121 = 2 by omega),
      if_neg (show ¬constructor.toNat + 121 = 3 by omega),
      if_pos (show 121 ≤ constructor.toNat + 121 ∧ constructor.toNat + 121 ≤ 127 by omega), hseq]
    simp
  · -- tags 1280 to 1400
    have hge : 7 ≤ constructor.toNat := UInt64.le_iff_toNat_le.mp hbig.1
    have hc : constructor.toNat < 128 := UInt64.lt_iff_toNat_lt.mp hbig.2
    have hback : UInt64.ofNat (constructor.toNat + 1273 - 1280 + 7) = constructor := by
      rw [show constructor.toNat + 1273 - 1280 + 7 = constructor.toNat by omega]
      exact UInt64.ofNat_toNat
    simp only [readTagged, List.append_assoc, E.readTag_tag, toNat_constructor_big_tag hbig,
      Option.bind_eq_bind, Option.bind_some]
    rw [if_neg (show ¬constructor.toNat + 1273 = 2 by omega),
      if_neg (show ¬constructor.toNat + 1273 = 3 by omega),
      if_neg (show ¬(121 ≤ constructor.toNat + 1273 ∧ constructor.toNat + 1273 ≤ 127) by omega),
      if_pos (show 1280 ≤ constructor.toNat + 1273 ∧ constructor.toNat + 1273 ≤ 1400 by omega),
      hseq, hback]
    rfl
  · -- tag 102 and [constructor, fields]
    have ht : CONSTRUCTOR_OVER_LIMIT_TAG.toNat = 102 := rfl
    simp only [readTagged, encode_constructor_over_limit_fields, List.append_assoc, E.readTag_tag, ht,
      Option.bind_eq_bind, Option.bind_some]
    rw [E.readHead_array]
    simp only [UInt64.reduceToNat]
    rw [E.readHead_u64]
    simp [hseq]

theorem peekMajor_encode_constructor (constructor : UInt64) (fields : List Datum)
    (rest : List UInt8) : peekMajor (encode_constructor E constructor fields ++ rest) = some 6 := by
  rw [encode_constructor]
  split_ifs <;> rw [List.append_assoc] <;> exact E.peekMajor_tag _ _

theorem peekMajor_encode_entries (entries : List MapDatumEntry) (rest : List UInt8) :
    peekMajor (encode_entries E entries ++ rest) = some 5 := by
  rw [encode_entries, List.append_assoc]
  exact E.peekMajor_map _ _

/-- A map reads back entry by entry. -/
theorem readMap_encode_entries (item : Reader Datum) (f : Datum → Datum)
    (entries : List MapDatumEntry) (hlen : entries.length < 2 ^ 64)
    (h : ∀ d ∈ entries.flatMap (fun entry => [entry.key, entry.value]), ∀ rest,
      item (encode_datum E d ++ rest) = some (f d, rest))
    (rest : List UInt8) :
    readMap item (encode_entries E entries ++ rest) =
      some (entries.map fun entry => (f entry.key, f entry.value), rest) := by
  have hkey : ∀ entry ∈ entries, entry.key ∈ entries.flatMap fun entry => [entry.key, entry.value] :=
    fun entry hentry => List.mem_flatMap.mpr ⟨entry, hentry, by simp⟩
  have hvalue : ∀ entry ∈ entries,
      entry.value ∈ entries.flatMap fun entry => [entry.key, entry.value] :=
    fun entry hentry => List.mem_flatMap.mpr ⟨entry, hentry, by simp⟩
  rw [encode_entries]
  exact E.readMap_map item (fun entry => encode_datum E entry.key) (fun entry => encode_datum E entry.value)
    (fun entry => f entry.key) (fun entry => f entry.value) entries hlen
    (fun entry hentry => h entry.key (hkey entry hentry))
    (fun entry hentry => h entry.value (hvalue entry hentry)) rest

variable (E)

/-- A sequence takes a byte of its own besides its items. -/
theorem one_add_sum_le_length_encode_linear_seq (ds : List Datum) :
    1 + (ds.map fun d => (encode_datum E d).length).sum ≤ (encode_linear_seq E ds).length := by
  rw [encode_linear_seq]
  split_ifs with hempty
  · rw [List.isEmpty_iff.mp hempty]
    simpa using (E.startsItem_array 0).one_le_length
  · have hbegin := E.startsItem_begin_array.one_le_length
    simp only [List.length_append, List.length_flatMap]
    omega

/-- Every datum writes at least one byte of its own besides what its children write. -/
theorem one_add_sum_length_children_le (d : Datum) :
    1 + (d.children.map fun c => (encode_datum E c).length).sum ≤ (encode_datum E d).length := by
  cases d with
  | IntegerDatum i =>
    simpa [Datum.children, encode_datum] using (startsItem_encode_integer i).one_le_length
  | ByteStringDatum bytes =>
    simpa [Datum.children, encode_datum] using (startsItem_encode_bytestring bytes).one_le_length
  | ConstructorDatum constructor fields =>
    have hseq := one_add_sum_le_length_encode_linear_seq E fields
    simp only [Datum.children]
    rw [encode_datum, encode_constructor]
    split_ifs <;> simp only [encode_constructor_over_limit_fields, List.length_append] <;> omega
  | ListDatum items =>
    rw [encode_datum]
    exact one_add_sum_le_length_encode_linear_seq E items
  | MapDatum entries =>
    -- the keys and values are written one after the other
    have hsum : ∀ es : List MapDatumEntry,
        ((es.flatMap fun e => [e.key, e.value]).map fun c => (encode_datum E c).length).sum =
          (es.flatMap fun e => encode_datum E e.key ++ encode_datum E e.value).length := by
      intro es
      induction es with
      | nil => rfl
      | cons e es ih =>
        simp only [List.flatMap_cons, List.map_append, List.sum_append, List.length_append, ih]
        simp
    have hhead := (E.startsItem_map (UInt64.ofNat entries.length)).one_le_length
    simp only [Datum.children]
    rw [hsum, encode_datum, encode_entries, List.length_append]
    omega

theorem length_subterms_le_length_encode_datum (d : Datum) :
    d.subterms.length ≤ (encode_datum E d).length := by
  have hchildren : ∀ c ∈ d.children, c.subterms.length ≤ (encode_datum E c).length :=
    fun c _ => length_subterms_le_length_encode_datum c
  calc d.subterms.length
      = 1 + (d.children.map fun c => c.subterms.length).sum := Datum.length_subterms d
    _ ≤ 1 + (d.children.map fun c => (encode_datum E c).length).sum :=
      Nat.add_le_add_left (List.sum_le_sum hchildren) 1
    _ ≤ (encode_datum E d).length := one_add_sum_length_children_le E d
termination_by sizeOf d
decreasing_by exact Datum.sizeOf_lt_of_mem_children ‹_›

/-! ## The round trip -/

/-- The bytes of a datum, followed by anything, read back as `Datum.readBack` says, when the depth
covers the datum and no map has too many entries to count in a `u64`. By induction on the depth,
which `readDatum` spends one level at a time. -/
theorem readDatum_encode_datum (depth : Nat) : ∀ d : Datum, d.subterms.length ≤ depth →
    (∀ entries, .MapDatum entries ∈ d.subterms → entries.length < 2 ^ 64) →
    ∀ rest, readDatum depth (encode_datum E d ++ rest) = some (d.readBack, rest) := by
  induction depth with
  | zero =>
    intro d hd
    rw [Datum.length_subterms] at hd
    omega
  | succ depth ih =>
    intro d hd hmaps rest
    have hchild : ∀ c ∈ d.children, ∀ rest,
        readDatum depth (encode_datum E c ++ rest) = some (c.readBack, rest) := fun c hc =>
      ih c (by have := Datum.length_subterms_lt_of_mem_children hc; omega)
        (fun entries he => hmaps entries (Datum.mem_subterms_of_mem_children hc he))
    cases d with
    | IntegerDatum i =>
      rw [encode_datum]
      exact readDatum_encode_integer depth i rest
    | ByteStringDatum bytes =>
      rw [encode_datum, readDatum, peekMajor_encode_bytestring]
      simp [readByteString_encode_bytestring, Datum.readBack]
    | ConstructorDatum constructor fields =>
      rw [encode_datum, readDatum, peekMajor_encode_constructor]
      simp only
      rw [readTagged_encode_constructor (readDatum depth) Datum.readBack constructor fields hchild,
        Datum.readBack]
    | ListDatum items =>
      rw [encode_datum, readDatum, peekMajor_encode_linear_seq]
      simp [readArray_encode_linear_seq (readDatum depth) Datum.readBack items hchild,
        Datum.readBack]
    | MapDatum entries =>
      have hlen := hmaps entries (Datum.mem_subterms_iff.mpr (.inl rfl))
      rw [encode_datum, readDatum, peekMajor_encode_entries]
      simp [readMap_encode_entries (readDatum depth) Datum.readBack entries hlen hchild,
        Datum.readBack]

theorem decode_to_vec (d : Datum)
    (hmaps : ∀ entries, .MapDatum entries ∈ d.subterms → entries.length < 2 ^ 64) :
    decode (to_vec E d) = some d.readBack := by
  have hread := readDatum_encode_datum E (encode_datum E d).length d
    (length_subterms_le_length_encode_datum E d) hmaps []
  rw [List.append_nil] at hread
  rw [decode, to_vec, hread]

/-- Encoding a datum with any encoder that keeps minicbor's guarantees and decoding it under the
Plutus reading gives `Datum.readBack` of it, which is the datum again exactly when no integer in it
is below `i64::MIN`. Every map is assumed to
have fewer than `2 ^ 64` entries, as a vector in memory has. -/
theorem datum_cbor_round_trip_except_below_i64_min (d : Datum)
    (hmaps : ∀ entries, .MapDatum entries ∈ d.subterms → entries.length < 2 ^ 64) :
    decode (to_vec E d) = some d.readBack ∧
      (decode (to_vec E d) = some d ↔ ∀ i, .IntegerDatum i ∈ d.subterms → -2 ^ 63 ≤ i) := by
  have hdecode := decode_to_vec E d hmaps
  refine ⟨hdecode, ?_⟩
  rw [hdecode, Option.some.injEq]
  exact Datum.readBack_eq_self_iff d

theorem datum_cbor_i64_min_minus_one_reads_back_one_less :
    decode (to_vec Encoder.preferred (.IntegerDatum (-9223372036854775809))) =
      some (.IntegerDatum (-9223372036854775810)) := by
  have h := (datum_cbor_round_trip_except_below_i64_min Encoder.preferred
    (.IntegerDatum (-9223372036854775809))
    (fun entries he => by simp [Datum.subterms_eq, Datum.children] at he)).1
  rw [h, Datum.readBack]
  simp

end plutus
