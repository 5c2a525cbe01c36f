import CraftIo.Stream.Transport

/-! # The length prefix on the buffered reader

`read_packet_len_sync` reads the outer length VarInt byte by byte through the raw buffer: with
nothing ready, each turn of its loop asks the transport for one byte, decrypts a copy, ORs the
septet in and consumes the byte (`CraftIo.CraftReader.readPacketLenLoop_delivered`). Over the
bytes the transport delivers, the loop returns the septet sum of the first byte with a clear high
bit and everything before it, with the cursor moved past exactly those bytes
(`CraftIo.CraftReader.readPacketLenLoop_of_delivers`); it panics on the fifth continuation byte
without asking for a sixth, and returns `Ok(None)` when the transport runs dry before the prefix
ends (`CraftIo.CraftReader.length_prefix_decoding`).
-/

namespace CraftIo

namespace CraftReader

variable {σ : Type} (T : Transport σ)

/-- The reader `r'` after the length loop consumed `count` bytes of `r`'s transport, which ended
at `s'`, with the cipher at `cipher'`: the cursor moved past them and nothing is ready. -/
structure Consumed (r : CraftReader σ) (count : Nat) (s' : σ) (cipher' : Option CraftCipher)
    (r' : CraftReader σ) : Prop where
  inner_eq : r'.inner = s'
  encryption_eq : r'.encryption = cipher'
  rawOffset_eq : r'.rawOffset = r.rawOffset + count
  rawReady_eq : r'.rawReady = 0

theorem Consumed.trans {r r₁ r' : CraftReader σ} {m k : Nat} {s₁ s' : σ} {cipher₁ cipher' : Option CraftCipher}
    (first : Consumed r m s₁ cipher₁ r₁) (next : Consumed r₁ k s' cipher' r') : Consumed r (k + m) s' cipher' r' :=
  ⟨next.inner_eq, next.encryption_eq, by rw [next.rawOffset_eq, first.rawOffset_eq]; omega, next.rawReady_eq⟩

/-- A turn of the loop with nothing ready over delivered bytes: the first is requested on its own,
decrypted and consumed, the rest are delivered to the reader after it, and the loop stops,
panics or goes on as the decrypted byte says. -/
theorem readPacketLenLoop_delivered {r : CraftReader σ} {byte : UInt8} {bytes : List UInt8} {s' : σ}
    {plain : List UInt8} {cipher' : Option CraftCipher} (fresh : r.rawReady = 0)
    (delivered : T.Delivers r.inner (byte :: bytes) s')
    (decrypted : handleDecryption r.encryption (byte :: bytes) = .ok (plain, cipher')) :
    ∃ first rest r₁, plain = first :: rest ∧ Consumed r 1 r₁.inner r₁.encryption r₁ ∧
      T.Delivers r₁.inner bytes s' ∧ handleDecryption r₁.encryption bytes = .ok (rest, cipher') ∧
      ∀ position value, readPacketLenLoop T position value r =
        if first &&& 0x80 = 0 then .ok (value ||| septet first <<< (position * 7)) r₁
        else if position + 1 > 4 then .panic .varIntTooLong
        else readPacketLenLoop T (position + 1) (value ||| septet first <<< (position * 7)) r₁ := by
  obtain ⟨first, cipher₁, rest, one, others, rfl⟩ := handleDecryption_cons decrypted
  cases delivered with
  | @cons _ s₁ _ _ _ answered delivered =>
    refine ⟨first, rest, { r with
        inner := s₁, rawBuf := some (writeSlice (getSizedBuf r.rawBuf r.rawOffset 1) r.rawOffset [byte])
        rawReady := 0, rawOffset := r.rawOffset + 1, encryption := cipher₁ },
      rfl, ⟨rfl, rfl, rfl, rfl⟩, delivered, others, fun position value => ?_⟩
    rw [readPacketLenLoop]
    simp [readByteSync, fresh, getSizedRawBuf, debugAssertEq, readExactInto, answered, checkUnexpectedEof,
      firstByte, decryptCopy, one, subRawReady]
    split_ifs <;> rfl

/-- A turn of the loop with nothing ready whose request meets the end of the stream returns
`Ok(None)`. -/
theorem readPacketLenLoop_eof {position : Nat} {value : BitVec 32} {r : CraftReader σ} {err : IoError}
    {s₁ : σ} (fresh : r.rawReady = 0) (refused : T.readExact r.inner 1 = (.error err, s₁))
    (eof : err.kind = .unexpectedEof) : ∃ r₁, readPacketLenLoop T position value r = .none r₁ := by
  rw [readPacketLenLoop]
  simp [readByteSync, fresh, getSizedRawBuf, debugAssertEq, readExactInto, refused, checkUnexpectedEof, eof]

/-- **The loop decodes what the transport delivers.** With nothing ready, if the transport
delivers `wire` on one-byte requests and its decryption is a VarInt read from byte `position` on,
the loop returns that VarInt, having consumed exactly `wire`. -/
theorem readPacketLenLoop_of_delivers {wire : List UInt8} :
    ∀ {position : Nat} {value decoded : BitVec 32} {r : CraftReader σ} {s' : σ} {plain : List UInt8}
      {cipher' : Option CraftCipher}, r.rawReady = 0 → position ≤ 4 → T.Delivers r.inner wire s' →
      handleDecryption r.encryption wire = .ok (plain, cipher') →
      VarInt.mcDeserializeFrom position value plain = .ok (decoded, []) →
      ∃ r', readPacketLenLoop T position value r = .ok decoded r' ∧ Consumed r wire.length s' cipher' r' := by
  induction wire with
  | nil =>
    intro position value decoded r s' plain cipher' _ small _ decrypted parsed
    obtain rfl : plain = [] := List.eq_nil_of_length_eq_zero (length_handleDecryption decrypted)
    rw [VarInt.mcDeserializeFrom.eq_2 _ _ (by omega)] at parsed
    cases parsed
  | cons byte bytes ih =>
    intro position value decoded r s' plain cipher' fresh small delivered decrypted parsed
    obtain ⟨first, rest, r₁, rfl, consumed₁, delivered, others, step⟩ :=
      readPacketLenLoop_delivered T fresh delivered decrypted
    rw [step]
    rw [VarInt.mcDeserializeFrom.eq_3 _ _ _ _ (by omega)] at parsed
    split_ifs at parsed ⊢ with last tooLong
    · cases parsed
      obtain rfl : bytes = [] := List.eq_nil_of_length_eq_zero (length_handleDecryption others).symm
      obtain ⟨-, rfl⟩ := handleDecryption_nil others
      cases delivered
      exact ⟨r₁, rfl, consumed₁⟩
    · rw [show position + 1 = 5 by omega, VarInt.mcDeserializeFrom.eq_1] at parsed
      cases parsed
    · obtain ⟨r', looped, consumed⟩ := ih consumed₁.rawReady_eq (by omega) delivered others parsed
      exact ⟨r', looped, consumed₁.trans consumed⟩

/-- With nothing ready, the loop panics once the transport has delivered the rest of five bytes
whose decryptions all have the high bit set, whatever the transport would answer next. -/
theorem readPacketLenLoop_panic_of_delivers {wire : List UInt8} :
    ∀ {position : Nat} {value : BitVec 32} {r : CraftReader σ} {s' : σ} {plain : List UInt8}
      {cipher' : Option CraftCipher}, r.rawReady = 0 → position ≤ 4 → position + wire.length = 5 →
      T.Delivers r.inner wire s' → handleDecryption r.encryption wire = .ok (plain, cipher') →
      (∀ byte ∈ plain, byte &&& 0x80 ≠ 0) → readPacketLenLoop T position value r = .panic .varIntTooLong := by
  induction wire with
  | nil =>
    intro position _ _ _ _ _ _ small long
    simp at long
    omega
  | cons byte bytes ih =>
    intro position value r s' plain cipher' fresh small long delivered decrypted continues
    obtain ⟨first, rest, r₁, rfl, consumed₁, delivered, others, step⟩ :=
      readPacketLenLoop_delivered T fresh delivered decrypted
    simp only [List.length_cons] at long
    rw [step, if_neg (continues first (List.mem_cons_self _ _))]
    split_ifs with tooLong
    · rfl
    · exact ih consumed₁.rawReady_eq (by omega) (by omega) delivered others
        fun b mem => continues b (List.mem_cons_of_mem _ mem)

/-- With nothing ready, the loop returns `Ok(None)` when the stream ends after fewer than five
bytes whose decryptions all have the high bit set. -/
theorem readPacketLenLoop_none_of_delivers {wire : List UInt8} :
    ∀ {position : Nat} {value : BitVec 32} {r : CraftReader σ} {s' s'' : σ} {plain : List UInt8}
      {cipher' : Option CraftCipher} {err : IoError}, r.rawReady = 0 → position + wire.length ≤ 4 →
      T.Delivers r.inner wire s' → handleDecryption r.encryption wire = .ok (plain, cipher') →
      (∀ byte ∈ plain, byte &&& 0x80 ≠ 0) → T.readExact s' 1 = (.error err, s'') →
      err.kind = .unexpectedEof → ∃ r', readPacketLenLoop T position value r = .none r' := by
  induction wire with
  | nil =>
    intro position value r s' s'' plain cipher' err fresh _ delivered _ _ refused eof
    cases delivered
    exact readPacketLenLoop_eof T fresh refused eof
  | cons byte bytes ih =>
    intro position value r s' s'' plain cipher' err fresh short delivered decrypted continues refused eof
    obtain ⟨first, rest, r₁, rfl, consumed₁, delivered, others, step⟩ :=
      readPacketLenLoop_delivered T fresh delivered decrypted
    simp only [List.length_cons] at short
    rw [step, if_neg (continues first (List.mem_cons_self _ _)), if_neg (by omega)]
    exact ih consumed₁.rawReady_eq (by omega) delivered others
      (fun b mem => continues b (List.mem_cons_of_mem _ mem)) refused eof

/-- **The length prefix.** With nothing ready, `read_packet_len_sync` over the bytes the transport
delivers, decrypted by the installed decryptor if any: stopping at the first byte with a clear high
bit, at most the fifth, it returns the `i32` whose bits are the septet sum of the bytes modulo
`2^32`, having moved `raw_offset` past exactly those bytes with nothing ready; after five bytes
with the high bit set it panics, whatever the transport would answer next; when the stream ends
first it returns `Ok(None)`. So the canonical encoding of every `i32` is read back, consuming
exactly its bytes. -/
theorem length_prefix_decoding {r : CraftReader σ} (fresh : r.rawReady = 0) :
    (∀ wire pre last cipher' s', T.Delivers r.inner wire s' →
      handleDecryption r.encryption wire = .ok (pre ++ [last], cipher') →
      (∀ byte ∈ pre, byte &&& 0x80 ≠ 0) → last &&& 0x80 = 0 → pre.length ≤ 4 →
      ∃ r', readPacketLenSync T r = .ok (BitVec.ofNat 32 (VarInt.septetSum 0 (pre ++ [last]))) r' ∧
        Consumed r (pre.length + 1) s' cipher' r') ∧
    (∀ wire plain cipher' s', T.Delivers r.inner wire s' →
      handleDecryption r.encryption wire = .ok (plain, cipher') → plain.length = 5 →
      (∀ byte ∈ plain, byte &&& 0x80 ≠ 0) → readPacketLenSync T r = .panic .varIntTooLong) ∧
    (∀ wire plain cipher' s' err s'', T.Delivers r.inner wire s' →
      handleDecryption r.encryption wire = .ok (plain, cipher') → plain.length ≤ 4 →
      (∀ byte ∈ plain, byte &&& 0x80 ≠ 0) → T.readExact s' 1 = (.error err, s'') →
      err.kind = .unexpectedEof → ∃ r', readPacketLenSync T r = .none r') ∧
    (∀ (x : BitVec 32) wire cipher' s', T.Delivers r.inner wire s' →
      handleDecryption r.encryption wire = .ok (VarInt.mcSerialize x, cipher') →
      ∃ r', readPacketLenSync T r = .ok x r' ∧ Consumed r (VarInt.mcSerialize x).length s' cipher' r') := by
  refine ⟨fun wire pre last cipher' s' delivered decrypted continues stops short => ?_,
    fun wire plain cipher' s' delivered decrypted long continues => ?_,
    fun wire plain cipher' s' err s'' delivered decrypted short continues refused eof => ?_,
    fun x wire cipher' s' delivered decrypted => ?_⟩
  · have parsed := VarInt.mcDeserializeFrom_septetSum stops [] pre 0 0 (by simp) (by omega) continues
    have sized : wire.length = pre.length + 1 := by simp [← length_handleDecryption decrypted]
    rw [Nat.zero_add] at parsed
    obtain ⟨r', ran, consumed⟩ := readPacketLenLoop_of_delivers T fresh (Nat.zero_le 4) delivered decrypted parsed
    exact ⟨r', ran, sized ▸ consumed⟩
  · have sized : wire.length = 5 := (length_handleDecryption decrypted).symm.trans long
    exact readPacketLenLoop_panic_of_delivers T fresh (Nat.zero_le 4) (by omega) delivered decrypted continues
  · have sized : wire.length = plain.length := (length_handleDecryption decrypted).symm
    exact readPacketLenLoop_none_of_delivers T fresh (by omega) delivered decrypted continues refused eof
  · have parsed := VarInt.mcDeserialize_mcSerialize x []
    rw [List.append_nil] at parsed
    obtain ⟨r', ran, consumed⟩ := readPacketLenLoop_of_delivers T fresh (Nat.zero_le 4) delivered decrypted parsed
    exact ⟨r', ran, (length_handleDecryption decrypted) ▸ consumed⟩

theorem length_prefix_decoding_wrap :
    (wrap [0xAC, 0x02] PacketDirection.serverBound).rawReady = 0 ∧
      (∀ wire pre last cipher' s',
        Transport.stream.Delivers (wrap [0xAC, 0x02] PacketDirection.serverBound).inner wire s' →
        handleDecryption (wrap [0xAC, 0x02] PacketDirection.serverBound).encryption wire =
          .ok (pre ++ [last], cipher') →
        (∀ byte ∈ pre, byte &&& 0x80 ≠ 0) → last &&& 0x80 = 0 → pre.length ≤ 4 →
        ∃ r', readPacketLenSync Transport.stream (wrap [0xAC, 0x02] PacketDirection.serverBound) =
            .ok (BitVec.ofNat 32 (VarInt.septetSum 0 (pre ++ [last]))) r' ∧
          Consumed (wrap [0xAC, 0x02] PacketDirection.serverBound) (pre.length + 1) s' cipher' r') ∧
      (∀ wire plain cipher' s',
        Transport.stream.Delivers (wrap [0xAC, 0x02] PacketDirection.serverBound).inner wire s' →
        handleDecryption (wrap [0xAC, 0x02] PacketDirection.serverBound).encryption wire =
          .ok (plain, cipher') → plain.length = 5 → (∀ byte ∈ plain, byte &&& 0x80 ≠ 0) →
        readPacketLenSync Transport.stream (wrap [0xAC, 0x02] PacketDirection.serverBound) =
          .panic .varIntTooLong) ∧
      (∀ wire plain cipher' s' err s'',
        Transport.stream.Delivers (wrap [0xAC, 0x02] PacketDirection.serverBound).inner wire s' →
        handleDecryption (wrap [0xAC, 0x02] PacketDirection.serverBound).encryption wire =
          .ok (plain, cipher') → plain.length ≤ 4 → (∀ byte ∈ plain, byte &&& 0x80 ≠ 0) →
        Transport.stream.readExact s' 1 = (.error err, s'') → err.kind = .unexpectedEof →
        ∃ r', readPacketLenSync Transport.stream (wrap [0xAC, 0x02] PacketDirection.serverBound) =
          .none r') ∧
      (∀ (x : BitVec 32) wire cipher' s',
        Transport.stream.Delivers (wrap [0xAC, 0x02] PacketDirection.serverBound).inner wire s' →
        handleDecryption (wrap [0xAC, 0x02] PacketDirection.serverBound).encryption wire =
          .ok (VarInt.mcSerialize x, cipher') →
        ∃ r', readPacketLenSync Transport.stream (wrap [0xAC, 0x02] PacketDirection.serverBound) =
            .ok x r' ∧
          Consumed (wrap [0xAC, 0x02] PacketDirection.serverBound) (VarInt.mcSerialize x).length s'
            cipher' r') :=
  ⟨rfl, length_prefix_decoding Transport.stream rfl⟩

end CraftReader

end CraftIo
