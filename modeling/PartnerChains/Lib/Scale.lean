-- The SCALE codec of parity-scale-codec as this repository calls it: a
-- `u32` in compact form, and a vector as its compact length followed by its
-- items. A decoder reads from the front of its input and returns what it
-- leaves, so decoders run one after the other. The crate's compact codec is
-- a parameter here, with what the crate guarantees of it as a named field:
-- decoding what was encoded, followed by any bytes, gives the value back and
-- leaves exactly those bytes. Over it, vectors read back in the same way. A
-- length above `u32::MAX` cannot be encoded, and encoding then panics. The
-- crate's own compact form, of one, two, four or five bytes by the size of
-- the value, meets the guarantee, and serves the examples.
import Mathlib

set_option autoImplicit false

namespace parity_scale_codec

/-- `Error`: why a decoder fails. -/
inductive Error where
  | NotEnoughData
  | OutOfRange
  deriving DecidableEq, Repr

/-- A decoder: the value read from the front of the input, and the rest of the input. -/
abbrev Decoder (α : Type) := List UInt8 → Except Error (α × List UInt8)

/-- `u32::MAX`, the marker of `CandidateKeys`. -/
def u32_max : UInt32 := 4294967295

/-- `Compact<u32>`'s `encode` and `decode`, and the round trip the crate guarantees. -/
structure CompactU32 where
  encode : UInt32 → List UInt8
  decode : Decoder UInt32
  /-- Decoding an encoding, followed by anything, reads the value and leaves what follows. -/
  decode_encode : ∀ (n : UInt32) (rest : List UInt8), decode (encode n ++ rest) = .ok (n, rest)

/-! ## Vectors -/

variable {α : Type} (C : CompactU32)

/-- `compact_encode_len_to`: the compact length of a collection. Fails above `u32::MAX`, where
`encode` panics. -/
def encodeLen (len : Nat) : Option (List UInt8) :=
  if len < 2 ^ 32 then some (C.encode (UInt32.ofNat len)) else none

/-- `Vec<T>::encode`: the compact length, then the items. -/
def encodeVec (encodeItem : α → Option (List UInt8)) (xs : List α) : Option (List UInt8) := do
  let len ← encodeLen C xs.length
  let items ← xs.mapM encodeItem
  pure (len ++ items.flatten)

/-- `decode_vec_with_len`: `len` items, read one after the other. -/
def decodeVecWithLen (decodeItem : Decoder α) : Nat → Decoder (List α)
  | 0, input => .ok ([], input)
  | len + 1, input =>
    match decodeItem input with
    | .ok (x, rest) =>
      match decodeVecWithLen decodeItem len rest with
      | .ok (xs, rest') => .ok (x :: xs, rest')
      | .error e => .error e
    | .error e => .error e

/-- `Vec<T>::decode`: the compact length, then that many items. -/
def decodeVec (decodeItem : Decoder α) : Decoder (List α) := fun input =>
  match C.decode input with
  | .ok (len, rest) => decodeVecWithLen decodeItem len.toNat rest
  | .error e => .error e

/-- `u8::decode` -/
def decodeU8 : Decoder UInt8
  | [] => .error .NotEnoughData
  | b :: input => .ok (b, input)

/-- `Vec<u8>::encode` -/
def encodeBytes (bytes : List UInt8) : Option (List UInt8) :=
  encodeVec C (fun b => some [b]) bytes

/-- `Vec<u8>::decode` -/
def decodeBytes : Decoder (List UInt8) :=
  decodeVec C decodeU8

/-- An item decoder reads back what the item encoder writes, followed by anything. -/
def RoundTrip (encodeItem : α → Option (List UInt8)) (decodeItem : Decoder α) (x : α) : Prop :=
  ∀ bytes, encodeItem x = some bytes → ∀ rest, decodeItem (bytes ++ rest) = .ok (x, rest)

section vectors

variable {encodeItem : α → Option (List UInt8)} {decodeItem : Decoder α}

theorem decodeVecWithLen_encode :
    ∀ {xs : List α} {items : List (List UInt8)}, (∀ x ∈ xs, RoundTrip encodeItem decodeItem x) →
      xs.mapM encodeItem = some items → ∀ rest,
        decodeVecWithLen decodeItem xs.length (items.flatten ++ rest) = .ok (xs, rest)
  | [], items, _, hitems, rest => by
    simp only [List.mapM_nil, Option.pure_def, Option.some.injEq] at hitems
    subst hitems
    rfl
  | x :: xs, items, h, hitems, rest => by
    -- the first item's bytes, then those of the others
    rw [List.mapM_cons] at hitems
    cases hx : encodeItem x with
    | none => simp [hx] at hitems
    | some bx =>
      cases hxs : xs.mapM encodeItem with
      | none => simp [hx, hxs] at hitems
      | some bxs =>
        simp only [hx, hxs, Option.bind_eq_bind, Option.bind, Option.pure_def,
          Option.some.injEq] at hitems
        subst hitems
        rw [List.length_cons, decodeVecWithLen, List.flatten_cons, List.append_assoc,
          h x List.mem_cons_self bx hx]
        simp only [decodeVecWithLen_encode (fun y hy => h y (List.mem_cons_of_mem x hy)) hxs rest]

theorem decodeVec_encodeVec {xs : List α} (h : ∀ x ∈ xs, RoundTrip encodeItem decodeItem x)
    {bytes : List UInt8} (henc : encodeVec C encodeItem xs = some bytes) (rest : List UInt8) :
    decodeVec C decodeItem (bytes ++ rest) = .ok (xs, rest) := by
  unfold encodeVec encodeLen at henc
  split at henc
  · rename_i hlen
    cases hitems : xs.mapM encodeItem with
    | none => simp [hitems] at henc
    | some items =>
      simp only [hitems, Option.bind_eq_bind, Option.bind, Option.pure_def,
        Option.some.injEq] at henc
      subst henc
      -- the length, then the items
      have hlen' : (UInt32.ofNat xs.length).toNat = xs.length := by
        rw [UInt32.toNat_ofNat', Nat.mod_eq_of_lt hlen]
      rw [decodeVec, List.append_assoc, C.decode_encode]
      simp only [hlen']
      exact decodeVecWithLen_encode h hitems rest
  · cases henc

/-- Items that all encode are encoded. -/
theorem mapM_isSome : ∀ {xs : List α}, (∀ x ∈ xs, (encodeItem x).isSome) →
    ∃ items, xs.mapM encodeItem = some items
  | [], _ => ⟨[], rfl⟩
  | x :: xs, h => by
    obtain ⟨bx, hx⟩ := Option.isSome_iff_exists.mp (h x List.mem_cons_self)
    obtain ⟨bxs, hxs⟩ := mapM_isSome fun y hy => h y (List.mem_cons_of_mem x hy)
    exact ⟨bx :: bxs, by simp [List.mapM_cons, hx, hxs]⟩

/-- A vector whose length fits in a `u32` and whose items encode is encoded. -/
theorem encodeVec_isSome {xs : List α} (hlen : xs.length < 2 ^ 32)
    (h : ∀ x ∈ xs, (encodeItem x).isSome) : (encodeVec C encodeItem xs).isSome := by
  obtain ⟨items, hitems⟩ := mapM_isSome h
  rw [encodeVec, encodeLen, if_pos hlen]
  simp [hitems]

end vectors

/-- The bytes of a `Vec<u8>` are its compact length and the bytes themselves. -/
theorem encodeBytes_eq {bytes : List UInt8} (h : bytes.length < 2 ^ 32) :
    encodeBytes C bytes = some (C.encode (UInt32.ofNat bytes.length) ++ bytes) := by
  have hitems : bytes.mapM (fun b => some [b]) = some (bytes.map fun b => [b]) := by
    induction bytes with
    | nil => rfl
    | cons b bs ih => simp [List.mapM_cons, ih (by simp at h; omega)]
  have hflat : (bytes.map fun b => [b]).flatten = bytes := by
    rw [← List.flatMap_def, List.flatMap_singleton']
  rw [encodeBytes, encodeVec, encodeLen, if_pos h]
  simp [hitems, hflat]

/-- `decode_vec_with_len` of bytes reads that many bytes. -/
theorem decodeVecWithLen_u8 : ∀ (bytes rest : List UInt8),
    decodeVecWithLen decodeU8 bytes.length (bytes ++ rest) = .ok (bytes, rest)
  | [], _ => rfl
  | b :: bs, rest => by
    rw [List.length_cons, decodeVecWithLen, List.cons_append]
    simp only [decodeU8, decodeVecWithLen_u8 bs rest]

theorem roundTrip_u8 (b : UInt8) : RoundTrip (fun b => some [b]) decodeU8 b := by
  intro bytes h rest
  cases h
  rfl

theorem decodeBytes_encodeBytes {bytes encoded : List UInt8}
    (h : encodeBytes C bytes = some encoded) (rest : List UInt8) :
    decodeBytes C (encoded ++ rest) = .ok (bytes, rest) :=
  decodeVec_encodeVec C (fun b _ => roundTrip_u8 b) h rest

/-! ## The crate's compact form -/

/-- The `k` little-endian bytes of `x`, as `to_le_bytes` of a `k`-byte integer. -/
def leBytes : Nat → Nat → List UInt8
  | 0, _ => []
  | k + 1, x => UInt8.ofNat x :: leBytes k (x / 256)

/-- Reads a `k`-byte little-endian integer. -/
def readLE : Nat → Decoder Nat
  | 0, input => .ok (0, input)
  | _ + 1, [] => .error .NotEnoughData
  | k + 1, b :: input =>
    match readLE k input with
    | .ok (x, rest) => .ok (b.toNat + 256 * x, rest)
    | .error e => .error e

@[simp] theorem length_leBytes : ∀ k x, (leBytes k x).length = k
  | 0, _ => rfl
  | k + 1, x => by rw [leBytes, List.length_cons, length_leBytes k]

/-- A `k`-byte integer reads back modulo `256 ^ k`. -/
theorem readLE_leBytes : ∀ (k x : Nat) (rest : List UInt8),
    readLE k (leBytes k x ++ rest) = .ok (x % 256 ^ k, rest)
  | 0, x, rest => by simp [leBytes, readLE, Nat.mod_one]
  | k + 1, x, rest => by
    rw [leBytes, List.cons_append, readLE, readLE_leBytes k (x / 256) rest]
    -- the low byte, and the rest shifted by a byte
    have hsplit : x % 256 ^ (k + 1) = x % 256 + 256 * (x / 256 % 256 ^ k) := by
      rw [Nat.pow_succ', Nat.mod_mul]
    simp only [UInt8.toNat_ofNat', hsplit]

/-- `Compact<u32>::encode`: the value shifted left by two bits, with the mode in the low bits:
one byte below `2 ^ 6`, two below `2 ^ 14`, four below `2 ^ 30`, and otherwise the byte 3
followed by the four bytes of the value. -/
def encodeCompactU32 (n : UInt32) : List UInt8 :=
  if n.toNat < 2 ^ 6 then leBytes 1 (4 * n.toNat)
  else if n.toNat < 2 ^ 14 then leBytes 2 (4 * n.toNat + 1)
  else if n.toNat < 2 ^ 30 then leBytes 4 (4 * n.toNat + 2)
  else 3 :: leBytes 4 n.toNat

/-- `Compact<u32>::decode`, which takes only the shortest encoding of a value. -/
def decodeCompactU32 : Decoder UInt32
  | [] => .error .NotEnoughData
  | pre :: input =>
    match pre.toNat % 4 with
    | 0 => .ok (UInt32.ofNat (pre.toNat / 4), input)
    | 1 =>
      match readLE 1 input with
      | .ok (x, rest) =>
        if 2 ^ 6 ≤ (pre.toNat + 256 * x) / 4 then .ok (UInt32.ofNat ((pre.toNat + 256 * x) / 4), rest)
        else .error .OutOfRange
      | .error e => .error e
    | 2 =>
      match readLE 3 input with
      | .ok (x, rest) =>
        if 2 ^ 14 ≤ (pre.toNat + 256 * x) / 4 then
          .ok (UInt32.ofNat ((pre.toNat + 256 * x) / 4), rest)
        else .error .OutOfRange
      | .error e => .error e
    | _ =>
      if pre.toNat / 4 = 0 then
        match readLE 4 input with
        | .ok (x, rest) => if 2 ^ 30 ≤ x then .ok (UInt32.ofNat x, rest) else .error .OutOfRange
        | .error e => .error e
      else .error .OutOfRange

/-- A prefix byte and the bytes after it read back the value that was shifted into them. -/
theorem shifted_read (n mode k : Nat) (hmode : mode < 4) (hfit : 4 * n + mode < 256 * 256 ^ k) :
    ((UInt8.ofNat (4 * n + mode)).toNat + 256 * ((4 * n + mode) / 256 % 256 ^ k)) / 4 = n ∧
      (UInt8.ofNat (4 * n + mode)).toNat % 4 = mode := by
  have hsplit := (Nat.mod_mul (x := 4 * n + mode) (a := 256) (b := 256 ^ k)).symm
  rw [Nat.mod_eq_of_lt hfit] at hsplit
  rw [UInt8.toNat_ofNat']
  constructor
  · rw [show 2 ^ 8 = 256 from rfl, hsplit]
    omega
  · omega

theorem decodeCompactU32_encode (n : UInt32) (rest : List UInt8) :
    decodeCompactU32 (encodeCompactU32 n ++ rest) = .ok (n, rest) := by
  have hn := UInt32.toNat_lt n
  unfold encodeCompactU32
  split
  · -- one byte
    rename_i h6
    obtain ⟨hval, hmode⟩ := shifted_read n.toNat 0 0 (by omega) (by omega)
    rw [leBytes, List.cons_append, decodeCompactU32]
    simp only [Nat.add_zero, Nat.pow_zero, Nat.mod_one, Nat.mul_zero] at hval hmode
    simp only [hmode, hval, UInt32.ofNat_toNat, leBytes, List.nil_append]
  split
  · -- two bytes
    rename_i h6 h14
    obtain ⟨hval, hmode⟩ := shifted_read n.toNat 1 1 (by omega) (by omega)
    rw [leBytes, List.cons_append, decodeCompactU32]
    simp only [hmode, readLE_leBytes, hval, UInt32.ofNat_toNat]
    rw [if_pos (by omega)]
  split
  · -- four bytes
    rename_i h6 h14 h30
    obtain ⟨hval, hmode⟩ := shifted_read n.toNat 2 3 (by omega) (by omega)
    rw [leBytes, List.cons_append, decodeCompactU32]
    simp only [hmode, readLE_leBytes, hval, UInt32.ofNat_toNat]
    rw [if_pos (by omega)]
  · -- the byte 3, then the value
    rename_i h6 h14 h30
    have h3 : (3 : UInt8).toNat = 3 := rfl
    rw [List.cons_append, decodeCompactU32]
    simp only [h3, readLE_leBytes, Nat.mod_eq_of_lt (show n.toNat < 256 ^ 4 by omega),
      UInt32.ofNat_toNat]
    exact if_pos (show 2 ^ 30 ≤ n.toNat by omega)

/-- The crate's compact codec of a `u32`. -/
def compactU32 : CompactU32 := ⟨encodeCompactU32, decodeCompactU32, decodeCompactU32_encode⟩

end parity_scale_codec
