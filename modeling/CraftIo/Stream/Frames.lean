import CraftIo.Stream.Transport

/-! # Frames on a stream

What a read returns for a frame is a function of the frame's decrypted bytes and the reader's
configuration (`CraftIo.frameResult`): `packet_buf`, then the id VarInt. The decompression buffer
a compressed frame goes through leaves no trace in the result
(`CraftIo.decompress_fst_of_inflate`). On a stream that holds a frame, the frame reader pulls
exactly that frame, decrypts it and decodes it (`CraftIo.FrameReader.readFrame_of_holdsFrame`).
-/

namespace CraftIo

section Decode

variable (z : Zlib)

/-- The bytes a zlib stream inflates to come out of `decompress` whole when they fit its output
size, whatever the decompression buffer held. -/
theorem decompress_fst_of_inflate {src out : List UInt8} {target : Option (List UInt8)} {len : Nat}
    (inflated : z.inflate src = some out) (fits : out.length ≤ len) :
    (decompress z src target len).1 = .ok out := by
  simp only [decompress, Zlib.decompressFinish, inflated, fits, if_true]
  rw [slice_writeSlice (by simp; omega)]

/-- A zlib stream that inflates to more than the output size fails with `BufError`. -/
theorem decompress_fst_of_inflate_long {src out : List UInt8} {target : Option (List UInt8)}
    {len : Nat} (inflated : z.inflate src = some out) (long : len < out.length) :
    (decompress z src target len).1 = .error (.decompressFailed .bufError) := by
  simp [decompress, Zlib.decompressFinish, inflated, show ¬out.length ≤ len by omega]

/-- A zlib stream that does not inflate fails with `Failure`. -/
theorem decompress_fst_of_inflate_none {src : List UInt8} {target : Option (List UInt8)} {len : Nat}
    (corrupt : z.inflate src = none) :
    (decompress z src target len).1 = .error (.decompressFailed .failure) := by
  simp [decompress, Zlib.decompressFinish, corrupt]

/-- What `decompress` returns does not depend on the decompression buffer it is given. -/
theorem decompress_fst_target (src : List UInt8) (target : Option (List UInt8)) (len : Nat) :
    (decompress z src target len).1 = (decompress z src .none len).1 := by
  cases inflated : z.inflate src with
  | none => rw [decompress_fst_of_inflate_none z inflated, decompress_fst_of_inflate_none z inflated]
  | some out =>
    by_cases fits : out.length ≤ len
    · rw [decompress_fst_of_inflate z inflated fits, decompress_fst_of_inflate z inflated fits]
    · rw [decompress_fst_of_inflate_long z inflated (by omega),
        decompress_fst_of_inflate_long z inflated (by omega)]

/-- What `packet_buf` returns does not depend on the decompression buffer. -/
theorem packetBuf_fst_target (threshold : Option (BitVec 32)) (maxPacketSize : Nat)
    (decompressBuf : Option (List UInt8)) (buf : List UInt8) :
    (packetBuf z threshold maxPacketSize decompressBuf buf).1 =
      (packetBuf z threshold maxPacketSize .none buf).1 := by
  unfold packetBuf
  split
  · split
    · rfl
    · dsimp only
      split_ifs
      · rfl
      · rfl
      · exact decompress_fst_target z _ _ _
  · rfl

/-- **What a frame decodes to.** `packet_buf` of the frame's decrypted bytes, then the id
VarInt: a function of the bytes and the reader's configuration only. -/
def frameResult (threshold : Option (BitVec 32)) (maxPacketSize : Nat) (state : State)
    (direction : PacketDirection) (payload : List UInt8) : Except ReadError (Id × List UInt8) :=
  (packetBuf z threshold maxPacketSize .none payload).1.bind (splitId state direction)

/-- Decoding a frame's bytes returns their `frameResult` and changes only the decompression
buffer. -/
theorem FrameReader.decodeFrame_eq {σ : Type} (payload : List UInt8) (f : FrameReader σ) :
    FrameReader.decodeFrame z payload f =
      match frameResult z f.compressionThreshold f.maxPacketSize f.state f.direction payload with
      | .ok packet => .ok packet
          { f with decompressBuf :=
              (packetBuf z f.compressionThreshold f.maxPacketSize f.decompressBuf payload).2 }
      | .error e => .err e
          { f with decompressBuf :=
              (packetBuf z f.compressionThreshold f.maxPacketSize f.decompressBuf payload).2 } := by
  simp only [FrameReader.decodeFrame, frameResult, ReadM.bind_apply, ReadM.get_apply, ReadM.set_apply,
    Outcome.ok_bind, ← packetBuf_fst_target z _ _ f.decompressBuf]
  cases (packetBuf z f.compressionThreshold f.maxPacketSize f.decompressBuf payload).1 with
  | error e => rfl
  | ok inner =>
    simp only [CraftReader.liftResult, ReadM.pure_apply, Outcome.ok_bind, Except.bind]
    cases splitId f.state f.direction inner <;> rfl

end Decode

/-- The stream `available` starts with a frame and then `rest`: the frame is the canonical
length prefix of `payload` and `payload`, as the cipher `cipher` decrypts them, and decrypting the
frame leaves the cipher at `cipher'`. -/
def HoldsFrame (cipher : Option CraftCipher) (available payload rest : List UInt8)
    (cipher' : Option CraftCipher) : Prop :=
  ∃ wire body cipher₁, available = wire ++ body ++ rest ∧
    handleDecryption cipher wire = .ok (VarInt.mcSerialize (BitVec.ofNat 32 payload.length), cipher₁) ∧
    handleDecryption cipher₁ body = .ok (payload, cipher')

/-- Without a cipher a stream holds a frame that is on it as it is. -/
theorem holdsFrame_plain (payload rest : List UInt8) :
    HoldsFrame .none (VarInt.mcSerialize (BitVec.ofNat 32 payload.length) ++ payload ++ rest)
      payload rest .none :=
  ⟨_, _, .none, rfl, rfl, rfl⟩

namespace FrameReader

variable (z : Zlib)

/-- **A frame from any transport.** When the transport delivers a length prefix whose
decryption announces at most `max_packet_size` bytes, and then those bytes, the frame reader
decodes their decryption, with the transport and the decryptor right after the frame. -/
theorem readFrame_of_deliversFrame {σ : Type} (T : Transport σ) {f : FrameReader σ}
    {wire body plain payload : List UInt8} {s' : σ} {len : BitVec 32} {cipher₁ cipher' : Option CraftCipher}
    (delivered : T.DeliversFrame f.inner wire body s')
    (decrypted : handleDecryption f.encryption wire = .ok (plain, cipher₁))
    (parsed : VarInt.mcDeserialize plain = .ok (len, [])) (sized : body.length = asUsize len)
    (capped : asUsize len ≤ f.maxPacketSize) (framed : handleDecryption cipher₁ body = .ok (payload, cipher')) :
    readFrame T z f = decodeFrame z payload { f with inner := s', encryption := cipher' } := by
  obtain ⟨s₁, header, rest⟩ := delivered
  simp only [readFrame, ReadM.bind_apply, pullFrame_of_delivers T header decrypted parsed,
    if_neg (Nat.not_lt.mpr capped)]
  rcases rest with ⟨rfl, rfl⟩ | ⟨pos, answered⟩
  · obtain ⟨rfl, rfl⟩ := handleDecryption_nil framed
    simp [pullBody, ← sized, decrypt, framed]
  · simp [pullBody, ← sized, pos, pull, answered, decrypt, framed]

/-- **A frame on a stream.** The frame reader pulls exactly the frame the stream starts with,
decrypts it and decodes its bytes. -/
theorem readFrame_of_holdsFrame {f : FrameReader (List UInt8)} {payload rest : List UInt8}
    {cipher' : Option CraftCipher} (holds : HoldsFrame f.encryption f.inner payload rest cipher')
    (capped : payload.length ≤ f.maxPacketSize) (small : payload.length < 2 ^ 31) :
    readFrame Transport.stream z f = decodeFrame z payload { f with inner := rest, encryption := cipher' } := by
  obtain ⟨wire, body, cipher₁, stream, header, framed⟩ := holds
  have sized : body.length = asUsize (BitVec.ofNat 32 payload.length) := by
    rw [asUsize_ofNat small, length_handleDecryption framed]
  have parsed := VarInt.mcDeserialize_mcSerialize (BitVec.ofNat 32 payload.length) []
  rw [List.append_nil] at parsed
  exact readFrame_of_deliversFrame z Transport.stream
    (by rw [stream]; exact Transport.stream_deliversFrame wire body rest) header parsed sized
    (by rw [asUsize_ofNat small]; exact capped) framed

/-- An exhausted stream ends the read with `Ok(None)` before anything changes. -/
theorem readFrame_nil {f : FrameReader (List UInt8)} (exhausted : f.inner = []) :
    readFrame Transport.stream z f = .none f := by
  simp only [readFrame, pullFrame, ReadM.bind_apply]
  rw [readLength]
  simp [pull, exhausted, Transport.stream_readExact_of_lt]
  rw [← exhausted]

end FrameReader

namespace CraftReader

variable (z : Zlib)

/-- A session of `read_raw_untyped_packet` from a settled reader is a session of the frame
reader. -/
theorem run_readRawUntypedPacket (events : List Event) {r : CraftReader (List UInt8)}
    (settled : r.Settled) :
    run (readRawUntypedPacket Transport.stream z) events r =
      FrameReader.run (FrameReader.readFrame Transport.stream z) events r.frames :=
  run_eq_frames (fun _ settled => readUntypedPacketInner_refines Transport.stream z settled) events r settled

/-- The reader right after a frame: settled, with the transport at `rest`, the decryptor at
`cipher'` and the configuration of `r`. -/
structure AfterFrame (r : CraftReader (List UInt8)) (rest : List UInt8) (cipher' : Option CraftCipher)
    (r' : CraftReader (List UInt8)) : Prop where
  settled : r'.Settled
  inner_eq : r'.inner = rest
  encryption_eq : r'.encryption = cipher'
  compressionThreshold_eq : r'.compressionThreshold = r.compressionThreshold
  maxPacketSize_eq : r'.maxPacketSize = r.maxPacketSize
  state_eq : r'.state = r.state
  direction_eq : r'.direction = r.direction

/-- **A frame on a stream, read by the buffered reader.** From a settled reader over a stream
that starts with a frame, `read_raw_untyped_packet` returns the frame's `frameResult`, value or
error, and either way ends right after the frame with the decryptor past it. -/
theorem readRawUntypedPacket_of_holdsFrame {r : CraftReader (List UInt8)} (settled : r.Settled)
    {payload rest : List UInt8} {cipher' : Option CraftCipher}
    (holds : HoldsFrame r.encryption r.inner payload rest cipher')
    (capped : payload.length ≤ r.maxPacketSize) (small : payload.length < 2 ^ 31) :
    ∃ r', AfterFrame r rest cipher' r' ∧
      readRawUntypedPacket Transport.stream z r =
        match frameResult z r.compressionThreshold r.maxPacketSize r.state r.direction payload with
        | .ok packet => .ok packet r'
        | .error e => .err e r' := by
  have refines := readUntypedPacketInner_refines Transport.stream z settled
  rw [@FrameReader.readFrame_of_holdsFrame z r.frames payload rest cipher' holds capped small,
    FrameReader.decodeFrame_eq] at refines
  simp only [frames_compressionThreshold, frames_maxPacketSize, frames_state, frames_direction] at refines
  have after : ∀ r' : CraftReader (List UInt8), r'.Settled →
      r'.frames = { r.frames with
        inner := rest, encryption := cipher'
        decompressBuf := (packetBuf z r.compressionThreshold r.maxPacketSize r.decompressBuf payload).2 } →
      AfterFrame r rest cipher' r' := fun r' settled' same =>
    ⟨settled', congrArg FrameReader.inner same, congrArg FrameReader.encryption same,
      congrArg FrameReader.compressionThreshold same, congrArg FrameReader.maxPacketSize same,
      congrArg FrameReader.state same, congrArg FrameReader.direction same⟩
  unfold readRawUntypedPacket
  revert refines
  cases frameResult z r.compressionThreshold r.maxPacketSize r.state r.direction payload with
  | ok packet =>
    intro refines
    obtain ⟨r', ran, same, settled'⟩ := Refines.of_ok refines
    exact ⟨r', after r' settled' same, ran⟩
  | error e =>
    intro refines
    obtain ⟨r', ran, same, settled'⟩ := Refines.of_err refines
    exact ⟨r', after r' settled' same, ran⟩

end CraftReader

end CraftIo
