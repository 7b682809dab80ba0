-- The SCALE codec of `CandidateKeys` (toolkit/sidechain/domain), over any
-- compact codec of `u32` that meets the crate's round trip. For
-- backward compatibility, keys that are one Aura and one Grandpa key are
-- written as the two keys of the old format, Aura first; other keys are
-- written as the marker `Compact(u32::MAX)`, which no Aura key length can
-- be, followed by the vector of keys. Decoding reads the marker or the Aura
-- length first. Every set of keys reads back, followed by anything and
-- leaving exactly what follows, except that a Grandpa key written before the
-- Aura key reads back after it.
import PartnerChains.Domain
import PartnerChains.Lib.Scale
import PartnerChains.Lib.ExceptList

set_option autoImplicit false

namespace sidechain_domain

open parity_scale_codec partner_chains.except_list

variable (C : CompactU32)

/-- `AuraPublicKey::encode`, derived: its `Vec<u8>`. -/
def AuraPublicKey.encode (key : AuraPublicKey) : Option (List UInt8) :=
  encodeBytes C key.val

/-- `GrandpaPublicKey::encode`, derived: its `Vec<u8>`. -/
def GrandpaPublicKey.encode (key : GrandpaPublicKey) : Option (List UInt8) :=
  encodeBytes C key.val

/-- `GrandpaPublicKey::decode`, derived. -/
def GrandpaPublicKey.decode : Decoder GrandpaPublicKey := fun input => do
  let (bytes, input) ← decodeBytes C input
  pure (⟨bytes⟩, input)

/-- `<[u8; 4]>::decode`: the next four bytes. -/
def decodeKeyTypeId : Decoder KeyTypeId := fun input =>
  if h : 4 ≤ input.length then .ok (⟨input.take 4, by simp [h]⟩, input.drop 4)
  else .error .NotEnoughData

/-- `CandidateKey::encode`, derived: the four bytes of the key type, then the key's `Vec<u8>`. -/
def CandidateKey.encode (key : CandidateKey) : Option (List UInt8) := do
  let bytes ← encodeBytes C key.bytes
  pure (key.id.val ++ bytes)

/-- `CandidateKey::decode`, derived. -/
def CandidateKey.decode : Decoder CandidateKey := fun input => do
  let (id, input) ← decodeKeyTypeId input
  let (bytes, input) ← decodeBytes C input
  pure (⟨id, bytes⟩, input)

/-- `CandidateKeys::encode`: the Aura and the Grandpa key of the old format, or the marker
`Compact(u32::MAX)` and the vector of keys. -/
def CandidateKeys.encode (keys : CandidateKeys) : Option (List UInt8) :=
  if keys.has_only_aura_and_grandpa_keys then do
    let aura ← AuraPublicKey.encode C (AuraPublicKey.mk (keys.find_or_empty AURA))
    let grandpa ← GrandpaPublicKey.encode C (GrandpaPublicKey.mk (keys.find_or_empty GRANDPA))
    pure (aura ++ grandpa)
  else do
    let keys ← encodeVec C (CandidateKey.encode C) keys.val
    pure (C.encode u32_max ++ keys)

/-- `CandidateKeys::decode`: after the marker the vector of keys, and otherwise the bytes of an
Aura key of the length read, then a Grandpa key. -/
def CandidateKeys.decode : Decoder CandidateKeys := fun input => do
  let (marker_or_aura_size, input) ← C.decode input
  if marker_or_aura_size = u32_max then
    let (keys, input) ← decodeVec C (CandidateKey.decode C) input
    pure (⟨keys⟩, input)
  else
    let (aura_bytes, input) ← decodeVecWithLen decodeU8 marker_or_aura_size.toNat input
    let (grandpa, input) ← GrandpaPublicKey.decode C input
    pure (⟨[(AuraPublicKey.mk aura_bytes).into, grandpa.into]⟩, input)

/-! ## Round trips of the parts -/

theorem decodeKeyTypeId_append (id : KeyTypeId) (rest : List UInt8) :
    decodeKeyTypeId (id.val ++ rest) = .ok (id, rest) := by
  have hle : 4 ≤ (id.val ++ rest).length := by simp [id.len]
  rw [decodeKeyTypeId, dif_pos hle, List.drop_left' id.len]
  -- the four bytes are the key type's, as a list
  congr
  exact List.take_left' id.len

theorem GrandpaPublicKey.decode_append {g : List UInt8} (hg : g.length < 2 ^ 32)
    (rest : List UInt8) :
    GrandpaPublicKey.decode C (C.encode (UInt32.ofNat g.length) ++ g ++ rest) =
      .ok (⟨g⟩, rest) := by
  rw [GrandpaPublicKey.decode, decodeBytes_encodeBytes C (encodeBytes_eq C hg) rest, ok_bind]
  rfl

theorem CandidateKey.roundTrip (key : CandidateKey) :
    RoundTrip (CandidateKey.encode C) (CandidateKey.decode C) key := by
  intro bytes hbytes rest
  unfold CandidateKey.encode at hbytes
  cases henc : encodeBytes C key.bytes with
  | none => simp [henc] at hbytes
  | some encoded =>
    simp only [henc, Option.bind_eq_bind, Option.bind_some, Option.pure_def,
      Option.some.injEq] at hbytes
    subst hbytes
    rw [CandidateKey.decode, List.append_assoc, decodeKeyTypeId_append, ok_bind]
    dsimp only
    rw [decodeBytes_encodeBytes C henc rest, ok_bind]
    rfl

theorem CandidateKey.encode_isSome {key : CandidateKey} (h : key.bytes.length < 2 ^ 32) :
    (CandidateKey.encode C key).isSome := by
  simp [CandidateKey.encode, encodeBytes_eq C h]

/-- The bytes found for a key type are those of one of the keys, or none. -/
theorem CandidateKeys.find_or_empty_length_lt {keys : CandidateKeys} {n : Nat}
    (h : ∀ key ∈ keys.val, key.bytes.length < n) (hn : 0 < n) (id : KeyTypeId) :
    (keys.find_or_empty id).length < n := by
  unfold find_or_empty find
  cases hfind : keys.val.findSome? fun e => if e.id = id then some e.bytes else none with
  | none => simpa using hn
  | some b =>
    obtain ⟨key, hkey, hb⟩ := List.exists_of_findSome?_eq_some hfind
    split at hb
    · cases hb
      exact h key hkey
    · cases hb

/-! ## The two formats -/

/-- The old format: an Aura key, of any length but `u32::MAX`, and a Grandpa key read back as the
two keys, Aura first. -/
theorem CandidateKeys.decode_legacy {a g : List UInt8} (ha : a.length < 2 ^ 32 - 1)
    (hg : g.length < 2 ^ 32) (rest : List UInt8) :
    CandidateKeys.decode C (C.encode (UInt32.ofNat a.length) ++ a ++
        (C.encode (UInt32.ofNat g.length) ++ g) ++ rest) =
      .ok (⟨[⟨AURA, a⟩, ⟨GRANDPA, g⟩]⟩, rest) := by
  have hlen : (UInt32.ofNat a.length).toNat = a.length := by
    rw [UInt32.toNat_ofNat', Nat.mod_eq_of_lt (by omega)]
  -- the length of the Aura key is not the marker
  have hmarker : UInt32.ofNat a.length ≠ u32_max := by
    intro h
    have hmax : u32_max.toNat = 2 ^ 32 - 1 := rfl
    have := congrArg UInt32.toNat h
    omega
  rw [CandidateKeys.decode, List.append_assoc, List.append_assoc, C.decode_encode, ok_bind]
  dsimp only
  rw [if_neg hmarker, hlen, decodeVecWithLen_u8, ok_bind]
  dsimp only
  rw [GrandpaPublicKey.decode_append C hg, ok_bind]
  rfl

/-- The vector format: the marker, then the keys. -/
theorem CandidateKeys.decode_generic {keys : List CandidateKey} {bytes : List UInt8}
    (henc : encodeVec C (CandidateKey.encode C) keys = some bytes) (rest : List UInt8) :
    CandidateKeys.decode C (C.encode u32_max ++ bytes ++ rest) = .ok (⟨keys⟩, rest) := by
  rw [CandidateKeys.decode, List.append_assoc, C.decode_encode, ok_bind]
  dsimp only
  rw [if_pos rfl, decodeVec_encodeVec C (fun key _ => CandidateKey.roundTrip C key) henc rest,
    ok_bind]
  rfl

/-! ## Round trip -/

/-- What decoding an encoding gives: one Aura and one Grandpa key come back Aura first, as the
decoder builds them, and every other set of keys as it was. -/
def CandidateKeys.decoded (keys : CandidateKeys) : CandidateKeys :=
  if keys.has_only_aura_and_grandpa_keys then
    ⟨[(AuraPublicKey.mk (keys.find_or_empty AURA)).into,
      (GrandpaPublicKey.mk (keys.find_or_empty GRANDPA)).into]⟩
  else keys

/-- Every set of keys with fewer than `2 ^ 32` keys, each shorter than `2 ^ 32` bytes, and an Aura
key of the old format shorter than `u32::MAX`, is encoded, and decoding its bytes followed by any
others reads `decoded` and leaves exactly the others. -/
theorem CandidateKeys.decode_encode (keys : CandidateKeys) (rest : List UInt8)
    (hcount : keys.val.length < 2 ^ 32) (hbytes : ∀ key ∈ keys.val, key.bytes.length < 2 ^ 32)
    (haura : keys.has_only_aura_and_grandpa_keys →
      (keys.find_or_empty AURA).length < 2 ^ 32 - 1) :
    ∃ bytes, CandidateKeys.encode C keys = some bytes ∧
      CandidateKeys.decode C (bytes ++ rest) = .ok (keys.decoded, rest) := by
  by_cases hlegacy : keys.has_only_aura_and_grandpa_keys
  · -- the old format, whose keys are those found for Aura and Grandpa
    have ha := haura hlegacy
    have hg := find_or_empty_length_lt hbytes (by decide) GRANDPA
    have henc : CandidateKeys.encode C keys = some (C.encode (UInt32.ofNat
        (keys.find_or_empty AURA).length) ++ keys.find_or_empty AURA ++ (C.encode (UInt32.ofNat
          (keys.find_or_empty GRANDPA).length) ++ keys.find_or_empty GRANDPA)) := by
      simp [CandidateKeys.encode, hlegacy, AuraPublicKey.encode, GrandpaPublicKey.encode,
        encodeBytes_eq C (show (keys.find_or_empty AURA).length < 2 ^ 32 by omega),
        encodeBytes_eq C hg]
    refine ⟨_, henc, ?_⟩
    rw [decode_legacy C ha hg rest, decoded, if_pos hlegacy]
    rfl
  · obtain ⟨bytes, hvec⟩ := Option.isSome_iff_exists.mp
      (encodeVec_isSome C hcount fun key hkey => CandidateKey.encode_isSome C (hbytes key hkey))
    refine ⟨C.encode u32_max ++ bytes, by simp [CandidateKeys.encode, hlegacy, hvec], ?_⟩
    rw [decode_generic C hvec rest, decoded, if_neg hlegacy]

/-- The keys read back as they were, except a Grandpa key before an Aura key. -/
theorem CandidateKeys.decoded_eq_self_iff (keys : CandidateKeys) :
    keys.decoded = keys ↔ ∀ a g, keys.val ≠ [⟨GRANDPA, g⟩, ⟨AURA, a⟩] := by
  obtain ⟨val⟩ := keys
  have hne : GRANDPA ≠ AURA := by decide
  unfold decoded
  split
  · rename_i hlegacy
    obtain ⟨a, g, hval | hval⟩ := has_only_cases hlegacy <;> simp only at hval <;> subst hval
    · -- Aura first: read back as it was
      simp [find_or_empty, find, hne, Ne.symm hne, AuraPublicKey.into, GrandpaPublicKey.into]
    · -- Grandpa first: read back Aura first
      simp [find_or_empty, find, hne, Ne.symm hne, AuraPublicKey.into, GrandpaPublicKey.into]
  · -- a Grandpa key before an Aura key would be the old format
    rename_i hlegacy
    simp only [true_iff]
    rintro a g rfl
    exact hlegacy (by simp [has_only_aura_and_grandpa_keys, find, hne])

theorem candidate_keys_round_trip_reorders_grandpa_first (keys : CandidateKeys)
    (rest : List UInt8) (hcount : keys.val.length < 2 ^ 32)
    (hbytes : ∀ key ∈ keys.val, key.bytes.length < 2 ^ 32)
    (haura : keys.has_only_aura_and_grandpa_keys →
      (keys.find_or_empty AURA).length < 2 ^ 32 - 1) :
    ∃ bytes, CandidateKeys.encode C keys = some bytes ∧
      CandidateKeys.decode C (bytes ++ rest) = .ok (keys.decoded, rest) ∧
      (keys.decoded = keys ↔ ∀ a g, keys.val ≠ [⟨GRANDPA, g⟩, ⟨AURA, a⟩]) := by
  obtain ⟨bytes, henc, hdec⟩ := CandidateKeys.decode_encode C keys rest hcount hbytes haura
  exact ⟨bytes, henc, hdec, keys.decoded_eq_self_iff⟩

theorem candidate_keys_grandpa_first_read_aura_first :
    ∃ bytes, CandidateKeys.encode compactU32 ⟨[⟨GRANDPA, [2]⟩, ⟨AURA, [1]⟩]⟩ = some bytes ∧
      CandidateKeys.decode compactU32 bytes = .ok (⟨[⟨AURA, [1]⟩, ⟨GRANDPA, [2]⟩]⟩, []) ∧
      (⟨[⟨AURA, [1]⟩, ⟨GRANDPA, [2]⟩]⟩ : CandidateKeys) ≠ ⟨[⟨GRANDPA, [2]⟩, ⟨AURA, [1]⟩]⟩ := by
  have hdecoded : (⟨[⟨GRANDPA, [2]⟩, ⟨AURA, [1]⟩]⟩ : CandidateKeys).decoded =
      ⟨[⟨AURA, [1]⟩, ⟨GRANDPA, [2]⟩]⟩ := by
    decide
  obtain ⟨bytes, henc, hdec, hiff⟩ := candidate_keys_round_trip_reorders_grandpa_first compactU32
    ⟨[⟨GRANDPA, [2]⟩, ⟨AURA, [1]⟩]⟩ [] (by decide) (by decide) (by decide)
  rw [List.append_nil, hdecoded] at hdec
  refine ⟨bytes, henc, hdec, fun h => ?_⟩
  rw [← hdecoded] at h
  exact hiff.mp h [1] [2] rfl

end sidechain_domain
