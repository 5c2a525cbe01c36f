import CraftIo.Foundation.Bytes
import Mathlib.Tactic.Ring

/-! # VarInt, the length and id codec

Lengths and packet ids travel as mcproto's `VarInt`, an `i32` written as little-endian septets
whose high bits say whether another byte follows. An `i32` is modelled by its two's-complement
bits, a `BitVec 32`. mcproto is not part of this repository: its decoder is modelled as the
standard 7-bit varint decoder (`CraftIo.VarInt.mcDeserialize`) and its encoder as the standard
encoder (`CraftIo.VarInt.mcSerialize`), and the two round-trip for every `i32`
(`CraftIo.VarInt.mcDeserialize_mcSerialize`). The accumulation step both the decoder and the
reader's length loop perform is `CraftIo.or_septet_shiftLeft`, and a whole VarInt decodes to the
sum of its septets (`CraftIo.VarInt.mcDeserializeFrom_septetSum`).
-/

namespace CraftIo

/-! ## Byte and integer facts -/

theorem and_two_pow_eq_zero_iff (x i : Nat) : x &&& 2 ^ i = 0 ↔ x.testBit i = false := by
  constructor
  · intro zero
    simpa [Nat.testBit_and, Nat.testBit_two_pow] using congrArg (·.testBit i) zero
  · intro clear
    apply Nat.eq_of_testBit_eq
    intro j
    by_cases same : i = j
    · subst same
      simp [Nat.testBit_and, clear]
    · simp [Nat.testBit_and, Nat.testBit_two_pow, same]

/-- A byte's high bit is clear exactly when the byte is below `0x80`. -/
theorem and_0x80_eq_zero_iff (byte : UInt8) : byte &&& 0x80 = 0 ↔ byte.toNat < 128 := by
  have bits : byte.toNat &&& 2 ^ 7 = 0 ↔ byte.toNat < 128 := by
    rw [and_two_pow_eq_zero_iff, Nat.testBit_to_div_mod, decide_eq_false_iff_not]
    have : byte.toNat < 256 := byte.toNat_lt_size
    omega
  rw [← bits]
  have toNat_and : (byte &&& 0x80).toNat = byte.toNat &&& 2 ^ 7 := UInt8.and_toNat byte 0x80
  rw [← toNat_and]
  exact ⟨fun zero => by rw [zero]; rfl, fun zero => UInt8.toNat.inj zero⟩

theorem toNat_and_0x7F (byte : UInt8) : (byte &&& 0x7F).toNat = byte.toNat % 128 := by
  rw [UInt8.and_toNat]
  exact Nat.and_pow_two_sub_one_eq_mod _ 7

theorem or_mod_two_pow (x y n : Nat) : (x ||| y) % 2 ^ n = x % 2 ^ n ||| y % 2 ^ n := by
  apply Nat.eq_of_testBit_eq
  intro i
  simp [Nat.testBit_mod_two_pow, Nat.testBit_or, Bool.and_or_distrib_left]

/-- The seven payload bits of a VarInt byte, `(byte & 0x7F) as i32`. -/
def septet (byte : UInt8) : BitVec 32 :=
  BitVec.ofNat 32 (byte &&& 0x7F).toNat

/-- **One accumulation step.** OR-ing a septet above bits already accumulated adds it. -/
theorem or_septet_shiftLeft {acc k : Nat} (below : acc < 2 ^ k) (byte : UInt8) :
    BitVec.ofNat 32 acc ||| septet byte <<< k =
      BitVec.ofNat 32 (acc + byte.toNat % 128 * 2 ^ k) := by
  apply BitVec.eq_of_toNat_eq
  have small : byte.toNat % 128 % 2 ^ 32 = byte.toNat % 128 := Nat.mod_eq_of_lt (by omega)
  rw [BitVec.toNat_or, BitVec.toNat_shiftLeft, BitVec.toNat_ofNat, BitVec.toNat_ofNat, septet,
    BitVec.toNat_ofNat, toNat_and_0x7F, small, Nat.shiftLeft_eq, Nat.add_comm, Nat.mul_comm,
    Nat.mul_add_lt_is_or below, or_mod_two_pow, Nat.or_comm]

/-- A septet added above `k` accumulated bits leaves a sum of at most `k + 7` bits. -/
theorem add_septet_lt {acc k : Nat} (below : acc < 2 ^ k) (d : Nat) : acc + d % 128 * 2 ^ k < 2 ^ (k + 7) := by
  have digit : d % 128 * 2 ^ k ≤ 127 * 2 ^ k :=
    Nat.mul_le_mul_right _ (Nat.le_of_lt_succ (Nat.mod_lt d (by omega)))
  rw [Nat.pow_add]
  omega

/-- `v as usize` for an `i32` on a 64-bit target: sign extension, so that a negative value
becomes `2^64 + v`. -/
def asUsize (v : BitVec 32) : Nat :=
  (v.signExtend 64).toNat

theorem asUsize_eq (v : BitVec 32) :
    asUsize v = if v.toNat < 2 ^ 31 then v.toNat else v.toNat + (2 ^ 64 - 2 ^ 32) := by
  simp only [asUsize, BitVec.signExtend, BitVec.toNat_ofInt, BitVec.toInt_eq_toNat_cond]
  have := v.isLt
  split <;> split <;> omega

/-- A non-negative `i32` keeps its value. -/
theorem asUsize_ofNat {n : Nat} (small : n < 2 ^ 31) : asUsize (BitVec.ofNat 32 n) = n := by
  have fits : n % 2 ^ 32 = n := Nat.mod_eq_of_lt (by omega)
  rw [asUsize_eq, BitVec.toNat_ofNat, fits, if_pos small]

/-- A negative `i32` becomes a length of at least `2^64 - 2^31`. -/
theorem le_asUsize_of_neg {v : BitVec 32} (negative : 2 ^ 31 ≤ v.toNat) :
    2 ^ 64 - 2 ^ 31 ≤ asUsize v := by
  rw [asUsize_eq, if_neg (by omega)]
  omega

namespace VarInt

/-- mcproto's `DeserializeErr`, as far as the VarInt decoder raises it. -/
inductive DeserializeErr
  | eof
  | varNumTooLong
  deriving DecidableEq, Repr

/-- The decoder from byte `i` on, with the bits `value` accumulated so far. -/
def mcDeserializeFrom : (i : Nat) → (value : BitVec 32) → List UInt8 →
    Except DeserializeErr (BitVec 32 × List UInt8)
  | 5, _, _ => .error .varNumTooLong
  | _, _, [] => .error .eof
  | i, value, byte :: rest =>
    let value := value ||| septet byte <<< (i * 7)
    if byte &&& 0x80 = 0 then .ok (value, rest) else mcDeserializeFrom (i + 1) value rest

/-- mcproto's `VarInt::mc_deserialize`, modelled as the standard 7-bit varint decoder: at most
five septets, the value and the bytes after it. -/
def mcDeserialize (data : List UInt8) : Except DeserializeErr (BitVec 32 × List UInt8) :=
  mcDeserializeFrom 0 0 data

/-- The septet groups of the `u32` bits `v`, at most `fuel` of them. -/
def serializeGroups : (fuel : Nat) → (v : Nat) → List UInt8
  | 0, _ => []
  | fuel + 1, v =>
    if v < 128 then [UInt8.ofNat v] else UInt8.ofNat (v % 128 + 128) :: serializeGroups fuel (v / 128)

/-- mcproto's `VarInt::mc_serialize`: the canonical one- to five-byte encoding. -/
def mcSerialize (x : BitVec 32) : List UInt8 :=
  serializeGroups 5 x.toNat

theorem length_serializeGroups_pos (fuel v : Nat) : 0 < (serializeGroups (fuel + 1) v).length := by
  simp only [serializeGroups]
  split <;> simp

theorem length_serializeGroups_le : ∀ fuel v, (serializeGroups fuel v).length ≤ fuel
  | 0, _ => by simp [serializeGroups]
  | fuel + 1, v => by
    simp only [serializeGroups]
    split
    · simp
    · simpa using length_serializeGroups_le fuel (v / 128)

theorem length_mcSerialize_pos (x : BitVec 32) : 0 < (mcSerialize x).length :=
  length_serializeGroups_pos 4 _

theorem length_mcSerialize_le (x : BitVec 32) : (mcSerialize x).length ≤ 5 :=
  length_serializeGroups_le 5 _

/-- A byte with its high bit clear ends the decoding. -/
theorem mcDeserializeFrom_last {i : Nat} (notFive : i ≠ 5) (value : BitVec 32) {byte : UInt8}
    (last : byte.toNat < 128) (rest : List UInt8) :
    mcDeserializeFrom i value (byte :: rest) = .ok (value ||| septet byte <<< (i * 7), rest) := by
  rw [mcDeserializeFrom.eq_3 _ _ _ _ notFive, if_pos ((and_0x80_eq_zero_iff _).mpr last)]

/-- A byte with its high bit set hands on to the next one. -/
theorem mcDeserializeFrom_more {i : Nat} (notFive : i ≠ 5) (value : BitVec 32) {byte : UInt8}
    (more : 128 ≤ byte.toNat) (rest : List UInt8) :
    mcDeserializeFrom i value (byte :: rest) =
      mcDeserializeFrom (i + 1) (value ||| septet byte <<< (i * 7)) rest := by
  rw [mcDeserializeFrom.eq_3 _ _ _ _ notFive,
    if_neg (by rw [and_0x80_eq_zero_iff]; omega)]

/-- The value of the septets of `bytes` read from byte `position` on: the sum of
`(b_i & 0x7F) · 2^(7i)` over their absolute indices `i`. -/
def septetSum (position : Nat) : List UInt8 → Nat
  | [] => 0
  | byte :: rest => (byte &&& 0x7F).toNat * 2 ^ (7 * position) + septetSum (position + 1) rest

/-- **The decoder sums the septets.** Bytes with the high bit set, then one with it clear, at
most five in all, decode to the septet sum above the bits accumulated, and the bytes after them
are left. -/
theorem mcDeserializeFrom_septetSum {last : UInt8} (stops : last &&& 0x80 = 0) (rest : List UInt8) :
    ∀ (pre : List UInt8) (position acc : Nat), acc < 2 ^ (7 * position) → position + pre.length ≤ 4 →
      (∀ byte ∈ pre, byte &&& 0x80 ≠ 0) →
      mcDeserializeFrom position (BitVec.ofNat 32 acc) (pre ++ last :: rest) =
        .ok (BitVec.ofNat 32 (acc + septetSum position (pre ++ [last])), rest)
  | [], position, acc, below, short, _ => by
    have below' : acc < 2 ^ (position * 7) := by rwa [Nat.mul_comm]
    rw [List.nil_append, mcDeserializeFrom_last (by simp at short; omega) _ ((and_0x80_eq_zero_iff _).mp stops),
      or_septet_shiftLeft below', List.nil_append, septetSum, septetSum, toNat_and_0x7F, Nat.mul_comm 7,
      Nat.add_zero]
  | byte :: pre, position, acc, below, short, continues => by
    have more : 128 ≤ byte.toNat := by
      have := continues byte (List.mem_cons_self _ _)
      rw [Ne, and_0x80_eq_zero_iff] at this
      omega
    have below' : acc < 2 ^ (position * 7) := by rwa [Nat.mul_comm]
    have grown : acc + byte.toNat % 128 * 2 ^ (position * 7) < 2 ^ (7 * (position + 1)) := by
      rw [show 7 * (position + 1) = position * 7 + 7 by omega]
      exact add_septet_lt below' _
    simp only [List.length_cons] at short
    rw [List.cons_append, mcDeserializeFrom_more (by omega) _ more, or_septet_shiftLeft below',
      mcDeserializeFrom_septetSum stops rest pre (position + 1) _ grown (by omega)
        (fun b mem => continues b (List.mem_cons_of_mem _ mem)),
      List.cons_append, septetSum, toNat_and_0x7F, Nat.mul_comm 7, Nat.add_assoc]

/-- A value below `128` is a single group, read back in one step. -/
theorem mcDeserializeFrom_lastGroup (rest : List UInt8) (fuel : Nat) {i acc v : Nat}
    (below : acc < 2 ^ (i * 7)) (last : v < 128) (room : i < 5) :
    mcDeserializeFrom i (BitVec.ofNat 32 acc) (serializeGroups (fuel + 1) v ++ rest) =
      .ok (BitVec.ofNat 32 (acc + v * 2 ^ (i * 7)), rest) := by
  have byte : (UInt8.ofNat v).toNat = v := UInt8.toNat_ofNat_of_lt (by show _ < 256; omega)
  simp only [serializeGroups, last, if_true, List.singleton_append]
  rw [mcDeserializeFrom_last (by omega) _ (by omega), or_septet_shiftLeft below, byte,
    Nat.mod_eq_of_lt last]

/-- Decoding the groups of `v` from byte `i` on adds `v` above the bits accumulated. -/
theorem mcDeserializeFrom_serializeGroups (rest : List UInt8) (fuel : Nat) :
    ∀ (i acc v : Nat), acc < 2 ^ (i * 7) → v < 128 ^ (fuel + 1) → i + fuel < 5 →
      mcDeserializeFrom i (BitVec.ofNat 32 acc) (serializeGroups (fuel + 1) v ++ rest) =
        .ok (BitVec.ofNat 32 (acc + v * 2 ^ (i * 7)), rest) := by
  induction fuel with
  | zero =>
    intro i acc v below fits room
    exact mcDeserializeFrom_lastGroup rest 0 below (by simpa using fits) (by omega)
  | succ fuel ih =>
    intro i acc v below fits room
    by_cases last : v < 128
    · exact mcDeserializeFrom_lastGroup rest _ below last (by omega)
    · have byte : (UInt8.ofNat (v % 128 + 128)).toNat = v % 128 + 128 :=
        UInt8.toNat_ofNat_of_lt (by show _ < 256; omega)
      have grown : acc + v % 128 * 2 ^ (i * 7) < 2 ^ ((i + 1) * 7) := by
        rw [Nat.succ_mul]
        exact add_septet_lt below v
      rw [serializeGroups, if_neg last, List.cons_append]
      rw [mcDeserializeFrom_more (by omega) _ (by omega), or_septet_shiftLeft below, byte,
        show (v % 128 + 128) % 128 = v % 128 by omega,
        ih (i + 1) _ (v / 128) grown (by rw [pow_succ] at fits; omega) (by omega)]
      have split := Nat.div_add_mod v 128
      congr 3
      calc acc + v % 128 * 2 ^ (i * 7) + v / 128 * 2 ^ ((i + 1) * 7)
          = acc + (128 * (v / 128) + v % 128) * 2 ^ (i * 7) := by ring
        _ = acc + v * 2 ^ (i * 7) := by rw [split]

/-- **Round trip.** mcproto's decoder reads back every `i32` its encoder writes, and leaves
the bytes after it. -/
theorem mcDeserialize_mcSerialize (x : BitVec 32) (rest : List UInt8) :
    mcDeserialize (mcSerialize x ++ rest) = .ok (x, rest) := by
  have decoded := mcDeserializeFrom_serializeGroups rest 4 0 0 x.toNat (by simp)
    (by have := x.isLt; omega) (by omega)
  simpa [mcDeserialize, mcSerialize] using decoded

end VarInt

end CraftIo
