-- The part of CBOR (RFC 8949) that a minicbor encoder writes and a reader
-- of nested data takes back: the head of an item, an initial byte that
-- holds a major type and either an argument below 24 or the number of
-- big-endian argument bytes after it; the start of an item of indefinite
-- length; and the break that ends one. Over these, readers of integers,
-- tags, byte strings, arrays and maps, the last two parameterised by the
-- reader of one item. Each reads back what the encoder wrote, whatever
-- follows it in the input.
import Mathlib

set_option autoImplicit false

namespace cbor

/-! ## Big-endian numbers -/

/-- The `count` low bytes of `x`, most significant first. -/
def beBytes : Nat → Nat → List UInt8
  | 0, _ => []
  | count + 1, x => beBytes count (x / 256) ++ [UInt8.ofNat x]

/-- The number that bytes write, most significant first. -/
def fromBE (bytes : List UInt8) : Nat :=
  bytes.foldl (fun acc b => 256 * acc + b.toNat) 0

@[simp] theorem length_beBytes (count x : Nat) : (beBytes count x).length = count := by
  induction count generalizing x with
  | zero => rfl
  | succ count ih => simp [beBytes, ih]

theorem fromBE_append_singleton (bytes : List UInt8) (b : UInt8) :
    fromBE (bytes ++ [b]) = 256 * fromBE bytes + b.toNat := by
  simp [fromBE, List.foldl_append]

theorem fromBE_beBytes (count x : Nat) : fromBE (beBytes count x) = x % 256 ^ count := by
  induction count generalizing x with
  | zero => simp [beBytes, fromBE, Nat.mod_one]
  | succ count ih =>
    have byte : (UInt8.ofNat x).toNat = x % 256 := by simp
    rw [beBytes, fromBE_append_singleton, ih, byte, pow_succ', Nat.mod_mul]
    omega

/-! ## Heads -/

/-- The head of a data item: a definite one, with its major type and argument; the start of an
item of indefinite length of a major type; or the break that ends such an item. -/
inductive Head where
  | definite (major argument : Nat)
  | indefinite (major : Nat)
  | brk
  deriving DecidableEq, Repr

/-- The initial byte of a head: the major type in the top three bits, the additional
information in the low five. -/
def initialByte (major info : Nat) : UInt8 := UInt8.ofNat (32 * major + info)

/-- A definite head in its shortest form, as minicbor writes every head. -/
def head (major argument : Nat) : List UInt8 :=
  if argument < 24 then [initialByte major argument]
  else if argument < 2 ^ 8 then initialByte major 24 :: beBytes 1 argument
  else if argument < 2 ^ 16 then initialByte major 25 :: beBytes 2 argument
  else if argument < 2 ^ 32 then initialByte major 26 :: beBytes 4 argument
  else initialByte major 27 :: beBytes 8 argument

/-- The start of an item of indefinite length. -/
def beginIndefinite (major : Nat) : List UInt8 := [initialByte major 31]

/-- The break that ends an item of indefinite length. -/
def brk : List UInt8 := [0xff]

/-- The number of argument bytes that the additional information 24 to 27 announces. -/
def argumentBytes : Nat → Option Nat
  | 24 => some 1
  | 25 => some 2
  | 26 => some 4
  | 27 => some 8
  | _ => none

/-- A reader of one value at the start of the input, giving the value and what follows it. -/
abbrev Reader (α : Type) := List UInt8 → Option (α × List UInt8)

/-- The first `count` bytes of the input. -/
def readN (count : Nat) : Reader (List UInt8) := fun input =>
  if count ≤ input.length then some (input.take count, input.drop count) else none

/-- The head at the start of the input. -/
def readHead : Reader Head
  | [] => none
  | b :: rest =>
    let major := b.toNat / 32
    let info := b.toNat % 32
    if info < 24 then some (.definite major info, rest)
    else if info = 31 then some (if major = 7 then .brk else .indefinite major, rest)
    else
      match argumentBytes info with
      | some count => (readN count rest).map fun (bytes, rest) => (.definite major (fromBE bytes), rest)
      | none => none

/-- The major type of the item at the start of the input. -/
def peekMajor : List UInt8 → Option Nat
  | [] => none
  | b :: _ => some (b.toNat / 32)

/-- The bytes start with the initial byte of an item of major type 0 to 6, so not with a break. -/
def StartsItem (bytes : List UInt8) : Prop := ∃ b rest, bytes = b :: rest ∧ b.toNat < 224

theorem readN_append (bytes rest : List UInt8) :
    readN bytes.length (bytes ++ rest) = some (bytes, rest) := by
  simp [readN]

theorem initialByte_toNat {major info : Nat} (hmajor : major < 8) (hinfo : info < 32) :
    (initialByte major info).toNat = 32 * major + info := by
  rw [initialByte, UInt8.toNat_ofNat']
  omega

/-- A head whose argument follows in `count` bytes reads back. -/
theorem readHead_long {major info count argument : Nat} (hmajor : major < 8)
    (hinfo : argumentBytes info = some count) (h24 : 24 ≤ info) (h31 : info < 31)
    (hargument : argument < 256 ^ count) (rest : List UInt8) :
    readHead (initialByte major info :: (beBytes count argument ++ rest)) =
      some (.definite major argument, rest) := by
  have hbyte := initialByte_toNat hmajor (show info < 32 by omega)
  have hdiv : (32 * major + info) / 32 = major := by omega
  have hmod : (32 * major + info) % 32 = info := by omega
  have hread : readN count (beBytes count argument ++ rest) = some (beBytes count argument, rest) := by
    simpa using readN_append (beBytes count argument) rest
  simp only [readHead, hbyte, hdiv, hmod, if_neg (show ¬info < 24 by omega),
    if_neg (show ¬info = 31 by omega), hinfo, hread, Option.map_some, fromBE_beBytes,
    Nat.mod_eq_of_lt hargument]

/-- A head that minicbor writes reads back as itself. -/
theorem readHead_head {major argument : Nat} (hmajor : major < 8) (hargument : argument < 2 ^ 64)
    (rest : List UInt8) :
    readHead (head major argument ++ rest) = some (.definite major argument, rest) := by
  unfold head
  split_ifs with h24 h8 h16 h32
  · have hbyte := initialByte_toNat hmajor (show argument < 32 by omega)
    have hdiv : (32 * major + argument) / 32 = major := by omega
    have hmod : (32 * major + argument) % 32 = argument := by omega
    simp [readHead, hbyte, hdiv, hmod, h24]
  · exact readHead_long hmajor rfl (by omega) (by omega) (by omega) rest
  · exact readHead_long hmajor rfl (by omega) (by omega) (by omega) rest
  · exact readHead_long hmajor rfl (by omega) (by omega) (by omega) rest
  · exact readHead_long hmajor rfl (by omega) (by omega) (by omega) rest

theorem readHead_beginIndefinite {major : Nat} (hmajor : major < 7) (rest : List UInt8) :
    readHead (beginIndefinite major ++ rest) = some (.indefinite major, rest) := by
  have hbyte := initialByte_toNat (show major < 8 by omega) (show 31 < 32 by omega)
  have hdiv : (32 * major + 31) / 32 = major := by omega
  have hmod : (32 * major + 31) % 32 = 31 := by omega
  simp [beginIndefinite, readHead, hbyte, hdiv, hmod, show major ≠ 7 by omega]

theorem readHead_brk (rest : List UInt8) : readHead (brk ++ rest) = some (.brk, rest) := rfl

theorem StartsItem.append {bytes : List UInt8} (h : StartsItem bytes) (rest : List UInt8) :
    StartsItem (bytes ++ rest) := by
  obtain ⟨b, tail, rfl, hb⟩ := h
  exact ⟨b, tail ++ rest, rfl, hb⟩

theorem StartsItem.one_le_length {bytes : List UInt8} (h : StartsItem bytes) :
    1 ≤ bytes.length := by
  obtain ⟨b, tail, rfl, -⟩ := h
  simp

/-- An item of major type 0 to 6 does not read as a break. -/
theorem readHead_ne_brk {input : List UInt8} (h : StartsItem input) (rest : List UInt8) :
    readHead input ≠ some (.brk, rest) := by
  obtain ⟨b, tail, rfl, hb⟩ := h
  have hmajor : b.toNat / 32 ≠ 7 := by omega
  simp only [readHead]
  -- the break needs major type 7, which `hmajor` rules out when the ifs are split
  split_ifs
  · simp
  · simp
  · split <;> simp

/-- A definite head has the major type of the initial byte it is read from. -/
theorem peekMajor_of_readHead_definite {input rest : List UInt8} {major argument : Nat}
    (h : readHead input = some (.definite major argument, rest)) : peekMajor input = some major := by
  cases input with
  | nil => cases h
  | cons b tail =>
    rw [peekMajor]
    simp only [readHead] at h
    -- the argument in the initial byte, the break, a start, or the argument in the next bytes
    split_ifs at h with h24 h31 h7
    · simp only [Option.some.injEq, Prod.mk.injEq, Head.definite.injEq] at h
      rw [h.1.1]
    · simp at h
    · simp at h
    · split at h
      · simp only [Option.map_eq_some_iff, Prod.mk.injEq, Head.definite.injEq] at h
        obtain ⟨_, _, ⟨rfl, -⟩, -⟩ := h
        rfl
      · cases h

/-- The start of an item of indefinite length has the major type of its byte. -/
theorem peekMajor_of_readHead_indefinite {input rest : List UInt8} {major : Nat}
    (h : readHead input = some (.indefinite major, rest)) : peekMajor input = some major := by
  cases input with
  | nil => cases h
  | cons b tail =>
    rw [peekMajor]
    simp only [readHead] at h
    split_ifs at h with h24 h31 h7
    · simp at h
    · simp at h
    · simp only [Option.some.injEq, Prod.mk.injEq, Head.indefinite.injEq] at h
      rw [h.1]
    · split at h
      · simp at h
      · cases h

theorem startsItem_of_peekMajor {input : List UInt8} {major : Nat}
    (h : peekMajor input = some major) (hmajor : major < 7) : StartsItem input := by
  cases input with
  | nil => cases h
  | cons b tail =>
    simp only [peekMajor, Option.some.injEq] at h
    exact ⟨b, tail, rfl, by omega⟩

theorem length_pos_of_readHead {input rest : List UInt8} {h : Head}
    (hread : readHead input = some (h, rest)) : 0 < input.length := by
  cases input with
  | nil => cases hread
  | cons b tail => simp

/-! ## Readers -/

/-- An integer: `n` under major type 0, `-1 - n` under major type 1. -/
def readInt : Reader Int := fun input =>
  match readHead input with
  | some (.definite 0 n, rest) => some (n, rest)
  | some (.definite 1 n, rest) => some (-1 - n, rest)
  | _ => none

/-- An integer is read from a definite head of major type 0 or 1. -/
theorem readHead_of_readInt {input rest : List UInt8} {i : Int}
    (h : readInt input = some (i, rest)) :
    ∃ major argument, major < 2 ∧ readHead input = some (.definite major argument, rest) := by
  unfold readInt at h
  split at h
  · rename_i n rest' hhead
    cases h
    exact ⟨0, n, by omega, hhead⟩
  · rename_i n rest' hhead
    cases h
    exact ⟨1, n, by omega, hhead⟩
  · cases h

/-- A tag number, major type 6. -/
def readTag : Reader Nat := fun input =>
  match readHead input with
  | some (.definite 6 t, rest) => some (t, rest)
  | _ => none

/-- The chunks of a byte string of indefinite length up to its break, each a byte string of
definite length; `fuel` bounds their number. -/
def readChunks : Nat → Reader (List UInt8)
  | 0, _ => none
  | fuel + 1, input =>
    match readHead input with
    | some (.brk, rest) => some ([], rest)
    | some (.definite 2 n, rest) => do
      let (chunk, rest) ← readN n rest
      let (more, rest) ← readChunks fuel rest
      pure (chunk ++ more, rest)
    | _ => none

/-- A byte string, of definite length or in chunks. -/
def readByteString : Reader (List UInt8) := fun input =>
  match readHead input with
  | some (.definite 2 n, rest) => readN n rest
  | some (.indefinite 2, rest) => readChunks rest.length rest
  | _ => none

/-- `count` items one after the other. -/
def readItems {α : Type} (item : Reader α) : Nat → Reader (List α)
  | 0, input => some ([], input)
  | count + 1, input => do
    let (a, rest) ← item input
    let (as, rest) ← readItems item count rest
    pure (a :: as, rest)

/-- Items up to a break; `fuel` bounds their number. -/
def readUntilBreak {α : Type} (item : Reader α) : Nat → Reader (List α)
  | 0, _ => none
  | fuel + 1, input =>
    match readHead input with
    | some (.brk, rest) => some ([], rest)
    | _ => do
      let (a, rest) ← item input
      let (as, rest) ← readUntilBreak item fuel rest
      pure (a :: as, rest)

/-- An array, of definite or indefinite length. -/
def readArray {α : Type} (item : Reader α) : Reader (List α) := fun input =>
  match readHead input with
  | some (.definite 4 n, rest) => readItems item n rest
  | some (.indefinite 4, rest) => readUntilBreak item rest.length rest
  | _ => none

/-- A key and then its value. -/
def readPair {α : Type} (item : Reader α) : Reader (α × α) := fun input => do
  let (key, rest) ← item input
  let (value, rest) ← item rest
  pure ((key, value), rest)

/-- A map, of definite or indefinite length. -/
def readMap {α : Type} (item : Reader α) : Reader (List (α × α)) := fun input =>
  match readHead input with
  | some (.definite 5 n, rest) => readItems (readPair item) n rest
  | some (.indefinite 5, rest) => readUntilBreak (readPair item) rest.length rest
  | _ => none

/-! ## Readers of sequences -/

/-- Items that each start with an initial byte take at least one byte each. -/
theorem length_le_length_flatMap {β : Type} (enc : β → List UInt8) (bs : List β)
    (hstart : ∀ b ∈ bs, StartsItem (enc b)) : bs.length ≤ (bs.flatMap enc).length := by
  induction bs with
  | nil => simp
  | cons b bs ih =>
    obtain ⟨byte, tail, henc, -⟩ := hstart b (by simp)
    have hbs := ih (fun b' hb' => hstart b' (by simp [hb']))
    simp only [List.flatMap_cons, List.length_append, henc, List.length_cons]
    omega

theorem readItems_flatMap {α β : Type} (item : Reader α) (enc : β → List UInt8) (f : β → α)
    (bs : List β) (h : ∀ b ∈ bs, ∀ rest, item (enc b ++ rest) = some (f b, rest))
    (rest : List UInt8) :
    readItems item bs.length (bs.flatMap enc ++ rest) = some (bs.map f, rest) := by
  induction bs with
  | nil => rfl
  | cons b bs ih =>
    have hb := h b (by simp) (bs.flatMap enc ++ rest)
    have hbs := ih (fun b' hb' => h b' (by simp [hb']))
    simp [readItems, List.append_assoc, hb, hbs]

/-- Items up to a break read back one by one, whatever bytes `stop` write the break. -/
theorem readUntilBreak_flatMap {α β : Type} (item : Reader α) (enc : β → List UInt8) (f : β → α)
    (bs : List β) (h : ∀ b ∈ bs, ∀ rest, item (enc b ++ rest) = some (f b, rest))
    (hstart : ∀ b ∈ bs, StartsItem (enc b)) (stop : List UInt8)
    (hstop : ∀ rest, readHead (stop ++ rest) = some (.brk, rest)) (fuel : Nat)
    (hfuel : bs.length < fuel) (rest : List UInt8) :
    readUntilBreak item fuel (bs.flatMap enc ++ stop ++ rest) = some (bs.map f, rest) := by
  obtain ⟨fuel, rfl⟩ : ∃ f, fuel = f + 1 := ⟨fuel - 1, by omega⟩
  induction bs generalizing fuel with
  | nil => simp [readUntilBreak, hstop]
  | cons b bs ih =>
    have hb := h b (by simp) (bs.flatMap enc ++ stop ++ rest)
    have hne := readHead_ne_brk ((hstart b (by simp)).append (bs.flatMap enc ++ stop ++ rest))
    obtain ⟨fuel, rfl⟩ : ∃ f, fuel = f + 1 := ⟨fuel - 1, by simp at hfuel; omega⟩
    have hbs := ih (fun b' hb' => h b' (by simp [hb'])) (fun b' hb' => hstart b' (by simp [hb']))
      fuel (by simp at hfuel; omega)
    simp only [List.flatMap_cons, List.append_assoc] at hb hne hbs ⊢
    rw [readUntilBreak]
    split
    · -- an item of major type 0 to 6 is not the break
      rename_i rest' heq
      exact absurd heq (hne rest')
    · simp [hb, hbs]

theorem readPair_append {α : Type} (item : Reader α) (key value : List UInt8) (a b : α)
    (hkey : ∀ rest, item (key ++ rest) = some (a, rest))
    (hvalue : ∀ rest, item (value ++ rest) = some (b, rest)) (rest : List UInt8) :
    readPair item (key ++ value ++ rest) = some ((a, b), rest) := by
  simp [readPair, List.append_assoc, hkey, hvalue]

/-! ## Slices in chunks -/

-- `h` is used by the termination proof only, which the linter does not see
set_option linter.unusedVariables false in
/-- `<[T]>::chunks`: the slice cut into pieces of `size` elements, the last one shorter. -/
def chunks {α : Type} (size : Nat) (l : List α) : List (List α) :=
  if h : 0 < size ∧ l ≠ [] then l.take size :: chunks size (l.drop size) else []
termination_by l.length
decreasing_by
  have := List.length_pos_of_ne_nil h.2
  simp only [List.length_drop]
  omega

theorem flatten_chunks {α : Type} {size : Nat} (hsize : 0 < size) (l : List α) :
    (chunks size l).flatten = l := by
  fun_induction chunks size l with
  | case1 l _ ih => rw [List.flatten_cons, ih, List.take_append_drop]
  | case2 l h => simp_all

theorem length_le_of_mem_chunks {α : Type} {size : Nat} {l c : List α} (h : c ∈ chunks size l) :
    c.length ≤ size := by
  fun_induction chunks size l with
  | case1 l hl ih =>
    rcases List.mem_cons.mp h with rfl | hmem
    · exact List.length_take_le size l
    · exact ih hmem
  | case2 l hl => simp at h

end cbor

/-! ## The minicbor encoder -/

-- minicbor is a crate outside this repository, so its encoder is a
-- parameter: the calls that the encoder of Plutus data makes, each as the
-- bytes it writes, and as named fields what the crate guarantees of them.
-- Each call writes one head of RFC 8949 (a byte string its bytes after
-- it), or an integer, which the readers above take back whatever follows.
-- The heads in their shortest form, which minicbor writes, meet these
-- guarantees.

namespace minicbor

open cbor

/-- The calls of `minicbor::Encoder`, each as the bytes it writes, and what the crate guarantees
of them. -/
structure Encoder where
  /-- `Encoder::u64` -/
  u64 : UInt64 → List UInt8
  /-- `Encoder::i64` -/
  i64 : Int64 → List UInt8
  /-- `Encoder::tag` -/
  tag : UInt64 → List UInt8
  /-- `Encoder::bytes` -/
  bytes : List UInt8 → List UInt8
  /-- `Encoder::begin_bytes` -/
  begin_bytes : List UInt8
  /-- `Encoder::array` -/
  array : UInt64 → List UInt8
  /-- `Encoder::begin_array` -/
  begin_array : List UInt8
  /-- `Encoder::map` -/
  map : UInt64 → List UInt8
  /-- `Encoder::end` -/
  «end» : List UInt8
  readHead_u64 : ∀ x rest, readHead (u64 x ++ rest) = some (.definite 0 x.toNat, rest)
  /-- An `i64` is written as an integer, of major type 0 or 1. -/
  readInt_i64 : ∀ x rest, readInt (i64 x ++ rest) = some (x.toInt, rest)
  readHead_tag : ∀ t rest, readHead (tag t ++ rest) = some (.definite 6 t.toNat, rest)
  /-- A byte string is its length under major type 2, then its bytes. -/
  readHead_bytes : ∀ x rest, x.length < 2 ^ 64 →
    readHead (bytes x ++ rest) = some (.definite 2 x.length, x ++ rest)
  readHead_begin_bytes : ∀ rest, readHead (begin_bytes ++ rest) = some (.indefinite 2, rest)
  readHead_array : ∀ len rest, readHead (array len ++ rest) = some (.definite 4 len.toNat, rest)
  readHead_begin_array : ∀ rest, readHead (begin_array ++ rest) = some (.indefinite 4, rest)
  readHead_map : ∀ len rest, readHead (map len ++ rest) = some (.definite 5 len.toNat, rest)
  readHead_end : ∀ rest, readHead («end» ++ rest) = some (.brk, rest)

namespace Encoder

variable (E : Encoder)

/-! ### What the readers take back from the encoder -/

theorem peekMajor_tag (t : UInt64) (rest : List UInt8) : peekMajor (E.tag t ++ rest) = some 6 :=
  peekMajor_of_readHead_definite (E.readHead_tag t rest)

theorem startsItem_tag (t : UInt64) : StartsItem (E.tag t) := by
  simpa using startsItem_of_peekMajor (E.peekMajor_tag t []) (by omega)

theorem peekMajor_i64 (x : Int64) (rest : List UInt8) :
    peekMajor (E.i64 x ++ rest) = some 0 ∨ peekMajor (E.i64 x ++ rest) = some 1 := by
  obtain ⟨major, argument, hmajor, hhead⟩ := readHead_of_readInt (E.readInt_i64 x rest)
  rw [peekMajor_of_readHead_definite hhead, Option.some.injEq, Option.some.injEq]
  omega

theorem startsItem_i64 (x : Int64) : StartsItem (E.i64 x) := by
  rcases E.peekMajor_i64 x [] with hpeek | hpeek <;>
    simpa using startsItem_of_peekMajor hpeek (by omega)

theorem peekMajor_bytes (x : List UInt8) (hx : x.length < 2 ^ 64) (rest : List UInt8) :
    peekMajor (E.bytes x ++ rest) = some 2 :=
  peekMajor_of_readHead_definite (E.readHead_bytes x rest hx)

theorem startsItem_bytes (x : List UInt8) (hx : x.length < 2 ^ 64) : StartsItem (E.bytes x) := by
  simpa using startsItem_of_peekMajor (E.peekMajor_bytes x hx []) (by omega)

theorem peekMajor_begin_bytes (rest : List UInt8) : peekMajor (E.begin_bytes ++ rest) = some 2 :=
  peekMajor_of_readHead_indefinite (E.readHead_begin_bytes rest)

theorem startsItem_begin_bytes : StartsItem E.begin_bytes := by
  simpa using startsItem_of_peekMajor (E.peekMajor_begin_bytes []) (by omega)

theorem peekMajor_array (len : UInt64) (rest : List UInt8) :
    peekMajor (E.array len ++ rest) = some 4 :=
  peekMajor_of_readHead_definite (E.readHead_array len rest)

theorem startsItem_array (len : UInt64) : StartsItem (E.array len) := by
  simpa using startsItem_of_peekMajor (E.peekMajor_array len []) (by omega)

theorem peekMajor_begin_array (rest : List UInt8) : peekMajor (E.begin_array ++ rest) = some 4 :=
  peekMajor_of_readHead_indefinite (E.readHead_begin_array rest)

theorem startsItem_begin_array : StartsItem E.begin_array := by
  simpa using startsItem_of_peekMajor (E.peekMajor_begin_array []) (by omega)

theorem peekMajor_map (len : UInt64) (rest : List UInt8) : peekMajor (E.map len ++ rest) = some 5 :=
  peekMajor_of_readHead_definite (E.readHead_map len rest)

theorem startsItem_map (len : UInt64) : StartsItem (E.map len) := by
  simpa using startsItem_of_peekMajor (E.peekMajor_map len []) (by omega)

theorem length_end_pos : 0 < E.«end».length := by
  simpa using length_pos_of_readHead (E.readHead_end [])

theorem readTag_tag (t : UInt64) (rest : List UInt8) :
    readTag (E.tag t ++ rest) = some (t.toNat, rest) := by
  rw [readTag, E.readHead_tag]
  rfl

theorem readByteString_bytes (x : List UInt8) (hx : x.length < 2 ^ 64) (rest : List UInt8) :
    readByteString (E.bytes x ++ rest) = some (x, rest) := by
  rw [readByteString, E.readHead_bytes x rest hx]
  exact readN_append x rest

theorem readChunks_flatMap (chunks : List (List UInt8))
    (hchunks : ∀ c ∈ chunks, c.length < 2 ^ 64) (fuel : Nat) (hfuel : chunks.length < fuel)
    (rest : List UInt8) :
    readChunks fuel (chunks.flatMap E.bytes ++ E.«end» ++ rest) = some (chunks.flatten, rest) := by
  obtain ⟨fuel, rfl⟩ : ∃ f, fuel = f + 1 := ⟨fuel - 1, by omega⟩
  induction chunks generalizing fuel with
  | nil => simp [readChunks, E.readHead_end]
  | cons c chunks ih =>
    have hc := hchunks c (by simp)
    obtain ⟨fuel, rfl⟩ : ∃ f, fuel = f + 1 := ⟨fuel - 1, by simp at hfuel; omega⟩
    have hmore := ih (fun c' hc' => hchunks c' (by simp [hc'])) fuel (by simp at hfuel; omega)
    simp only [List.append_assoc] at hmore
    simp only [List.flatMap_cons, List.append_assoc]
    rw [readChunks, E.readHead_bytes c _ hc]
    simp [readN_append, hmore]

/-- A byte string in chunks reads back as the chunks one after the other. -/
theorem readByteString_begin_bytes (chunks : List (List UInt8))
    (hchunks : ∀ c ∈ chunks, c.length < 2 ^ 64) (rest : List UInt8) :
    readByteString (E.begin_bytes ++ chunks.flatMap E.bytes ++ E.«end» ++ rest) =
      some (chunks.flatten, rest) := by
  have hlen := length_le_length_flatMap E.bytes chunks
    (fun c hc => E.startsItem_bytes c (hchunks c hc))
  have hend := E.length_end_pos
  have hread := E.readChunks_flatMap chunks hchunks
    (chunks.flatMap E.bytes ++ E.«end» ++ rest).length
    (by simp only [List.length_append]; omega) rest
  simp only [List.append_assoc] at hread ⊢
  rw [readByteString, E.readHead_begin_bytes]
  exact hread

theorem readArray_array_zero {α : Type} (item : Reader α) (rest : List UInt8) :
    readArray item (E.array 0 ++ rest) = some ([], rest) := by
  rw [readArray, E.readHead_array]
  rfl

theorem readArray_begin_array {α β : Type} (item : Reader α) (enc : β → List UInt8) (f : β → α)
    (bs : List β) (h : ∀ b ∈ bs, ∀ rest, item (enc b ++ rest) = some (f b, rest))
    (hstart : ∀ b ∈ bs, StartsItem (enc b)) (rest : List UInt8) :
    readArray item (E.begin_array ++ bs.flatMap enc ++ E.«end» ++ rest) =
      some (bs.map f, rest) := by
  have hlen := length_le_length_flatMap enc bs hstart
  have hend := E.length_end_pos
  have hread := readUntilBreak_flatMap item enc f bs h hstart E.«end» E.readHead_end
    (bs.flatMap enc ++ E.«end» ++ rest).length (by simp only [List.length_append]; omega) rest
  simp only [List.append_assoc] at hread ⊢
  rw [readArray, E.readHead_begin_array]
  exact hread

theorem readMap_map {α β : Type} (item : Reader α) (key value : β → List UInt8) (fk fv : β → α)
    (bs : List β) (hlen : bs.length < 2 ^ 64)
    (hkey : ∀ b ∈ bs, ∀ rest, item (key b ++ rest) = some (fk b, rest))
    (hvalue : ∀ b ∈ bs, ∀ rest, item (value b ++ rest) = some (fv b, rest)) (rest : List UInt8) :
    readMap item (E.map (UInt64.ofNat bs.length) ++
        bs.flatMap (fun b => key b ++ value b) ++ rest) =
      some (bs.map fun b => (fk b, fv b), rest) := by
  have hcount : (UInt64.ofNat bs.length).toNat = bs.length := UInt64.toNat_ofNat_of_lt' hlen
  rw [readMap, List.append_assoc, E.readHead_map, hcount]
  exact readItems_flatMap (readPair item) (fun b => key b ++ value b) (fun b => (fk b, fv b)) bs
    (fun b hb => readPair_append item (key b) (value b) (fk b) (fv b) (hkey b hb) (hvalue b hb))
    rest

/-! ### The crate's encoding -/

theorem readInt_head_i64 (x : Int64) (rest : List UInt8) :
    readInt ((if 0 ≤ x.toInt then head 0 x.toInt.toNat else head 1 (-1 - x.toInt).toNat) ++
      rest) = some (x.toInt, rest) := by
  have hlo := Int64.le_toInt x
  have hhi := Int64.toInt_lt x
  split_ifs with hx
  · rw [readInt, readHead_head (by omega) (by omega)]
    simp only [Option.some.injEq, Prod.mk.injEq, and_true]
    omega
  · rw [readInt, readHead_head (by omega) (by omega)]
    simp only [Option.some.injEq, Prod.mk.injEq, and_true]
    omega

/-- The encoder as minicbor writes it: every head in its shortest form, RFC 8949's preferred
serialization, and an `i64` under major type 0 for `x` or major type 1 for `-1 - x`. -/
def preferred : Encoder where
  u64 x := head 0 x.toNat
  i64 x := if 0 ≤ x.toInt then head 0 x.toInt.toNat else head 1 (-1 - x.toInt).toNat
  tag t := head 6 t.toNat
  bytes x := head 2 x.length ++ x
  begin_bytes := beginIndefinite 2
  array len := head 4 len.toNat
  begin_array := beginIndefinite 4
  map len := head 5 len.toNat
  «end» := brk
  readHead_u64 x rest := readHead_head (by omega) (UInt64.toNat_lt x) rest
  readInt_i64 := readInt_head_i64
  readHead_tag t rest := readHead_head (by omega) (UInt64.toNat_lt t) rest
  readHead_bytes x rest hx := by
    rw [List.append_assoc]
    exact readHead_head (by omega) hx _
  readHead_begin_bytes := readHead_beginIndefinite (by omega)
  readHead_array len rest := readHead_head (by omega) (UInt64.toNat_lt len) rest
  readHead_begin_array := readHead_beginIndefinite (by omega)
  readHead_map len rest := readHead_head (by omega) (UInt64.toNat_lt len) rest
  readHead_end := readHead_brk

end Encoder

end minicbor
