import CraftIo.Stream.Frames

/-! # Decoding a stream of frames

The three forms a packet takes on the wire (`CraftIo.WireFrame`): a plain frame for a reader
without compression, and for a reader with compression a frame with `data_len = 0` or a zlib
stream. A reader built by `wrap_with_state` over a stream holding any list of such frames
returns their packets in order and then `Ok(None)`
(`CraftIo.CraftReader.frame_stream_decoding`).
-/

namespace CraftIo

/-- A packet as it goes on the wire, in one of the three frame forms. -/
inductive WireFrame
  /-- `varint(outer_len) ++ varint(id) ++ body`, for a reader without compression. -/
  | plain (id : BitVec 32) (body : List UInt8)
  /-- `varint(outer_len) ++ varint(0) ++ varint(id) ++ body`, for a reader with compression. -/
  | uncompressed (id : BitVec 32) (body : List UInt8)
  /-- `varint(outer_len) ++ varint(L) ++ zlib(varint(id) ++ body)`, for a reader with
  compression. -/
  | compressed (id : BitVec 32) (body : List UInt8)

namespace WireFrame

variable (z : Zlib)

/-- The packet id. -/
def id : WireFrame → BitVec 32
  | plain id _ | uncompressed id _ | compressed id _ => id

/-- The packet body. -/
def body : WireFrame → List UInt8
  | plain _ body | uncompressed _ body | compressed _ body => body

/-- The inner packet, `varint(id) ++ body`. -/
def packet (w : WireFrame) : List UInt8 :=
  VarInt.mcSerialize w.id ++ w.body

/-- The frame's bytes after its length prefix. -/
def payload : WireFrame → List UInt8
  | plain id body => VarInt.mcSerialize id ++ body
  | uncompressed id body => VarInt.mcSerialize 0 ++ (VarInt.mcSerialize id ++ body)
  | compressed id body =>
    VarInt.mcSerialize (BitVec.ofNat 32 (VarInt.mcSerialize id ++ body).length) ++
      z.deflate (VarInt.mcSerialize id ++ body)

/-- The whole frame: `varint(outer_len)` and the `outer_len` bytes after it. -/
def encode (w : WireFrame) : List UInt8 :=
  VarInt.mcSerialize (BitVec.ofNat 32 (w.payload z).length) ++ w.payload z

/-- The frame suits a reader with compression `threshold` and cap `maxPacketSize`: it has the
form the reader expects, `outer_len` is a non-negative `i32` of at most the cap, and a
compressed frame's `L` is a non-negative `i32` below the cap. -/
def Fits (threshold : Option (BitVec 32)) (maxPacketSize : Nat) (w : WireFrame) : Prop :=
  (w.payload z).length ≤ maxPacketSize ∧ (w.payload z).length < 2 ^ 31 ∧
    match w with
    | plain _ _ => threshold = .none
    | uncompressed _ _ => threshold ≠ .none
    | compressed _ _ => threshold ≠ .none ∧ w.packet.length < maxPacketSize ∧ w.packet.length < 2 ^ 31

end WireFrame

/-- The id VarInt is read back from an inner packet. -/
theorem splitId_mcSerialize (state : State) (direction : PacketDirection) (id : BitVec 32)
    (body : List UInt8) :
    splitId state direction (VarInt.mcSerialize id ++ body) = .ok (⟨id, state, direction⟩, body) := by
  simp [splitId, VarInt.mcDeserialize_mcSerialize]

/-- A failed split reports the id VarInt's error as `PacketHeaderErr`. -/
theorem splitId_error {state : State} {direction : PacketDirection} {buf : List UInt8} {e : ReadError}
    (failed : splitId state direction buf = .error e) : ∃ err, e = .packetHeaderErr err := by
  unfold splitId at failed
  split at failed <;> cases failed
  exact ⟨_, rfl⟩

/-- With compression, a frame whose `data_len` is positive and below the cap decodes to the
split of what `decompress` makes of the rest of the frame with `data_len` bytes of output. -/
theorem frameResult_compressed (z : Zlib) (t : BitVec 32) {maxPacketSize : Nat} (state : State)
    (direction : PacketDirection) {payload zs : List UInt8} {dataLen : BitVec 32}
    (parsed : VarInt.mcDeserialize payload = .ok (dataLen, zs)) (positive : 0 < asUsize dataLen)
    (below : asUsize dataLen < maxPacketSize) :
    frameResult z (some t) maxPacketSize state direction payload =
      (decompress z zs .none (asUsize dataLen)).1.bind (splitId state direction) := by
  simp only [frameResult, packetBuf, parsed, if_neg (Nat.pos_iff_ne_zero.mp positive),
    if_neg (Nat.not_le.mpr below)]

/-- **A wire frame decodes to its packet.** -/
theorem frameResult_payload (z : Zlib) {threshold : Option (BitVec 32)} {maxPacketSize : Nat}
    (state : State) (direction : PacketDirection) {w : WireFrame} (fits : w.Fits z threshold maxPacketSize) :
    frameResult z threshold maxPacketSize state direction (w.payload z) =
      .ok (⟨w.id, state, direction⟩, w.body) := by
  obtain ⟨-, -, form⟩ := fits
  cases w with
  | plain id body =>
    cases form
    simp [frameResult, packetBuf, WireFrame.payload, Except.bind, splitId_mcSerialize, WireFrame.id,
      WireFrame.body]
  | uncompressed id body =>
    obtain ⟨t, rfl⟩ := Option.ne_none_iff_exists'.mp form
    have zero : asUsize (BitVec.ofNat 32 0) = 0 := asUsize_ofNat (by decide)
    simp [frameResult, packetBuf, WireFrame.payload, VarInt.mcDeserialize_mcSerialize, zero, Except.bind,
      splitId_mcSerialize, WireFrame.id, WireFrame.body]
  | compressed id body =>
    obtain ⟨enabled, below, small⟩ := form
    obtain ⟨t, rfl⟩ := Option.ne_none_iff_exists'.mp enabled
    have nonempty : 0 < (VarInt.mcSerialize id ++ body).length := by
      simp [VarInt.length_mcSerialize_pos]
    simp only [WireFrame.packet, WireFrame.id, WireFrame.body] at below small
    have sized := asUsize_ofNat small
    simp only [frameResult, packetBuf, WireFrame.payload, VarInt.mcDeserialize_mcSerialize, sized]
    have notLarge : ¬(VarInt.mcSerialize id ++ body).length ≥ maxPacketSize := by omega
    rw [if_neg (by omega), if_neg notLarge, decompress_fst_of_inflate z (z.inflate_deflate _) le_rfl]
    simp [Except.bind, splitId_mcSerialize, WireFrame.id, WireFrame.body]

/-- A frame reader without a cipher, over a stream of wire frames that suit it, returns their
packets in order, then `Ok(None)`. -/
theorem FrameReader.run_wireFrames (z : Zlib) (frames : List WireFrame) :
    ∀ f : FrameReader (List UInt8), f.encryption = .none →
      (∀ w ∈ frames, w.Fits z f.compressionThreshold f.maxPacketSize) →
      f.inner = (frames.map (·.encode z)).flatten →
      FrameReader.run (FrameReader.readFrame Transport.stream z) (List.replicate (frames.length + 1) .call) f =
        frames.map (fun w => some (.ok (some (⟨w.id, f.state, f.direction⟩, w.body)))) ++
          [some (.ok .none)] := by
  induction frames with
  | nil =>
    intro f _ _ exhausted
    simp [FrameReader.run, FrameReader.readFrame_nil z exhausted]
  | cons w frames ih =>
    intro f plain fit stream
    have fits := fit w (List.mem_cons_self _ _)
    have holds : HoldsFrame f.encryption f.inner (w.payload z) (frames.map (·.encode z)).flatten .none := by
      rw [plain, stream, List.map_cons, List.flatten_cons, WireFrame.encode]
      exact holdsFrame_plain _ _
    rw [List.length_cons, List.replicate_succ, FrameReader.run,
      FrameReader.readFrame_of_holdsFrame z holds fits.1 fits.2.1, FrameReader.decodeFrame_eq,
      frameResult_payload z _ _ fits]
    simp only [List.map_cons, List.cons_append]
    exact congrArg _ (ih _ rfl (fun w' mem => fit w' (List.mem_cons_of_mem _ mem)) rfl)

namespace CraftReader

/-- **Frame-stream decoding.** Over a stream that holds any list of wire frames suiting the
reader, then nothing, a reader built by `wrap_with_state`, `set_max_packet_size` and
`set_compression_threshold` returns from its `i`-th `read_raw_untyped_packet` the `i`-th packet
with the reader's state and direction, and then `Ok(None)`. -/
theorem frame_stream_decoding (z : Zlib) (direction : PacketDirection) (state : State)
    {maxPacketSize : Nat} (large : 5 < maxPacketSize) (threshold : Option (BitVec 32))
    (frames : List WireFrame) (fit : ∀ w ∈ frames, w.Fits z threshold maxPacketSize) :
    ∃ r, (wrapWithState (frames.map (·.encode z)).flatten direction state).setMaxPacketSize
        maxPacketSize = .ok r ∧
      run (readRawUntypedPacket Transport.stream z) (List.replicate (frames.length + 1) .call)
          (r.setCompressionThreshold threshold) =
        frames.map (fun w => some (.ok (some (⟨w.id, state, direction⟩, w.body)))) ++
          [some (.ok .none)] := by
  refine ⟨_, if_pos large, ?_⟩
  rw [run_readRawUntypedPacket z _ ⟨rfl, Nat.zero_le _⟩]
  exact FrameReader.run_wireFrames z frames _ rfl fit rfl

theorem frame_stream_decoding_two_frames :
    5 < 100 ∧
      (∀ w ∈ [WireFrame.uncompressed 1 [7], .compressed 2 [8, 9]], w.Fits Zlib.identity (some 0) 100) ∧
      ∃ r, (wrapWithState ([WireFrame.uncompressed 1 [7], .compressed 2 [8, 9]].map
            (·.encode Zlib.identity)).flatten PacketDirection.clientBound State.play).setMaxPacketSize 100 = .ok r ∧
        run (readRawUntypedPacket Transport.stream Zlib.identity)
            (List.replicate ([WireFrame.uncompressed 1 [7], .compressed 2 [8, 9]].length + 1) .call)
            (r.setCompressionThreshold (some 0)) =
          [WireFrame.uncompressed 1 [7], .compressed 2 [8, 9]].map
              (fun w => some (.ok (some (⟨w.id, State.play, PacketDirection.clientBound⟩, w.body)))) ++
            [some (.ok .none)] := by
  have fits : ∀ w ∈ [WireFrame.uncompressed 1 [7], .compressed 2 [8, 9]], w.Fits Zlib.identity (some 0) 100 := by
    intro w mem
    simp only [List.mem_cons, List.mem_singleton, List.not_mem_nil, or_false] at mem
    rcases mem with rfl | rfl <;> (unfold WireFrame.Fits; decide)
  exact ⟨by decide, fits, frame_stream_decoding Zlib.identity .clientBound .play (by decide) (some 0) _ fits⟩

/-- **Resuming after `Ok(None)` loses the frame.** A frame `[0x02, 0x00, 0xAA]` (length 2, id 0,
body `[0xAA]`) read in one go gives its packet, then `Ok(None)`. Arriving as `[0x02]` and then
`[0x00, 0xAA]`, the first call consumes the length prefix before its body read hits the end of
the stream and returns `Ok(None)`; the retry then reads `0x00` as the next length prefix and
fails with `PacketHeaderErr(Eof)`. -/
theorem resumed_read_loses_frame (z : Zlib) (direction : PacketDirection) (state : State) :
    run (readRawUntypedPacket Transport.stream z) [.call, .arrive [0x00, 0xAA], .call]
        (wrapWithState [0x02] direction state) =
      [some (.ok .none), some (.error (.packetHeaderErr .eof))] ∧
    run (readRawUntypedPacket Transport.stream z) [.call, .call]
        (wrapWithState [0x02, 0x00, 0xAA] direction state) =
      [some (.ok (some (⟨0, state, direction⟩, [0xAA]))), some (.ok .none)] := by
  rw [run_readRawUntypedPacket z _ ⟨rfl, Nat.zero_le _⟩, run_readRawUntypedPacket z _ ⟨rfl, Nat.zero_le _⟩]
  have two : asUsize (BitVec.ofNat 32 2) = 2 := asUsize_ofNat (by decide)
  have cut : FrameReader.readFrame Transport.stream z (wrapWithState [0x02] direction state).frames =
      .none { (wrapWithState [0x02] direction state).frames with inner := [] } := by
    have delivered : Transport.stream.Delivers (wrapWithState [0x02] direction state).frames.inner
        [0x02] [] := Transport.stream_delivers [0x02] []
    have parsed : VarInt.mcDeserialize [0x02] = .ok (2, []) := rfl
    simp only [FrameReader.readFrame, ReadM.bind_apply]
    rw [FrameReader.pullFrame_of_delivers Transport.stream delivered rfl parsed]
    simp [two, wrapWithState, deafultMaxPacketSize, FrameReader.pullBody, FrameReader.pull,
      Transport.stream_readExact_of_lt]
  have retry : HoldsFrame .none ([] ++ [0x00, 0xAA]) [] [0xAA] .none := holdsFrame_plain [] [0xAA]
  have whole : HoldsFrame .none [0x02, 0x00, 0xAA] [0x00, 0xAA] [] .none := holdsFrame_plain [0x00, 0xAA] []
  constructor
  · simp only [FrameReader.run, cut]
    rw [@FrameReader.readFrame_of_holdsFrame z _ [] [0xAA] .none retry (Nat.zero_le _) (by decide),
      FrameReader.decodeFrame_eq]
    rfl
  · simp only [FrameReader.run]
    rw [@FrameReader.readFrame_of_holdsFrame z _ [0x00, 0xAA] [] .none whole
      (by simp [wrapWithState, frames, deafultMaxPacketSize]) (by decide), FrameReader.decodeFrame_eq]
    have decoded : ∀ max, frameResult z .none max state direction [0x00, 0xAA] =
        .ok (⟨0, state, direction⟩, [0xAA]) := fun _ => rfl
    simp only [frames_compressionThreshold, frames_state, frames_direction, frames_maxPacketSize,
      wrapWithState, decoded]
    rw [FrameReader.readFrame_nil z rfl]

/-- **What a compressed frame's `data_len` bounds.** Take a settled reader with compression over
a stream that starts with a frame whose `data_len` is positive and below the cap. A call that
returns a packet from it returns the split of what the zlib stream inflates to, and those bytes
are at most `data_len` long, not exactly that long. The call fails with `DecompressFailed`
exactly when the zlib stream does not inflate, or inflates to more than `data_len` bytes. -/
theorem compressed_frame_within_data_len (z : Zlib) {r : CraftReader (List UInt8)} (settled : r.Settled)
    {t : BitVec 32} (compressed : r.compressionThreshold = some t) {payload rest : List UInt8}
    {cipher' : Option CraftCipher} (holds : HoldsFrame r.encryption r.inner payload rest cipher')
    (capped : payload.length ≤ r.maxPacketSize) (small : payload.length < 2 ^ 31)
    {dataLen : BitVec 32} {zs : List UInt8} (parsed : VarInt.mcDeserialize payload = .ok (dataLen, zs))
    (positive : 0 < asUsize dataLen) (below : asUsize dataLen < r.maxPacketSize) :
    (∀ packet r', readRawUntypedPacket Transport.stream z r = .ok packet r' →
      ∃ inner, z.inflate zs = some inner ∧ inner.length ≤ asUsize dataLen ∧
        splitId r.state r.direction inner = .ok packet) ∧
    ((∃ e r', readRawUntypedPacket Transport.stream z r = .err (.decompressFailed e) r') ↔
      z.inflate zs = none ∨ ∃ inner, z.inflate zs = some inner ∧ asUsize dataLen < inner.length) := by
  obtain ⟨r', -, ran⟩ := readRawUntypedPacket_of_holdsFrame z settled holds capped small
  rw [ran, compressed, frameResult_compressed z t _ _ parsed positive below]
  cases inflated : z.inflate zs with
  | none =>
    rw [decompress_fst_of_inflate_none z inflated]
    exact ⟨by rintro _ _ ⟨⟩, iff_of_true ⟨_, _, rfl⟩ (.inl rfl)⟩
  | some inner =>
    by_cases fits : inner.length ≤ asUsize dataLen
    · have shorter : ¬(some inner = none ∨ ∃ out, some inner = some out ∧ asUsize dataLen < out.length) := by
        simpa using fits
      rw [decompress_fst_of_inflate z inflated fits]
      cases split : splitId r.state r.direction inner with
      | ok packet =>
        simp only [Except.bind, split]
        refine ⟨?_, iff_of_false (by rintro ⟨_, _, ⟨⟩⟩) shorter⟩
        rintro _ _ ⟨⟩
        exact ⟨inner, rfl, fits, split⟩
      | error e =>
        obtain ⟨err, rfl⟩ := splitId_error split
        simp only [Except.bind, split]
        exact ⟨by rintro _ _ ⟨⟩, iff_of_false (by rintro ⟨_, _, ⟨⟩⟩) shorter⟩
    · rw [decompress_fst_of_inflate_long z inflated (by omega)]
      exact ⟨by rintro _ _ ⟨⟩, iff_of_true ⟨_, _, rfl⟩ (.inr ⟨inner, rfl, by omega⟩)⟩

theorem compressed_frame_within_data_len_short :
    ((wrapWithState [0x04, 0x05, 0x00, 0xAA, 0xBB] PacketDirection.serverBound State.handshaking).setCompressionThreshold
        (some 0)).Settled ∧
      ((wrapWithState [0x04, 0x05, 0x00, 0xAA, 0xBB] PacketDirection.serverBound State.handshaking).setCompressionThreshold
        (some 0)).compressionThreshold = some 0 ∧
      HoldsFrame ((wrapWithState [0x04, 0x05, 0x00, 0xAA, 0xBB] PacketDirection.serverBound
          State.handshaking).setCompressionThreshold (some 0)).encryption
        ((wrapWithState [0x04, 0x05, 0x00, 0xAA, 0xBB] PacketDirection.serverBound
          State.handshaking).setCompressionThreshold (some 0)).inner [0x05, 0x00, 0xAA, 0xBB] [] .none ∧
      [0x05, 0x00, 0xAA, 0xBB].length ≤ ((wrapWithState [0x04, 0x05, 0x00, 0xAA, 0xBB] PacketDirection.serverBound
        State.handshaking).setCompressionThreshold (some 0)).maxPacketSize ∧
      [0x05, 0x00, 0xAA, 0xBB].length < 2 ^ 31 ∧
      VarInt.mcDeserialize [0x05, 0x00, 0xAA, 0xBB] = .ok (5, [0x00, 0xAA, 0xBB]) ∧
      0 < asUsize 5 ∧
      asUsize 5 < ((wrapWithState [0x04, 0x05, 0x00, 0xAA, 0xBB] PacketDirection.serverBound
        State.handshaking).setCompressionThreshold (some 0)).maxPacketSize ∧
      ((∀ packet r', readRawUntypedPacket Transport.stream Zlib.identity
          ((wrapWithState [0x04, 0x05, 0x00, 0xAA, 0xBB] PacketDirection.serverBound
            State.handshaking).setCompressionThreshold (some 0)) = .ok packet r' →
        ∃ inner, Zlib.identity.inflate [0x00, 0xAA, 0xBB] = some inner ∧ inner.length ≤ asUsize 5 ∧
          splitId State.handshaking PacketDirection.serverBound inner = .ok packet) ∧
      ((∃ e r', readRawUntypedPacket Transport.stream Zlib.identity
          ((wrapWithState [0x04, 0x05, 0x00, 0xAA, 0xBB] PacketDirection.serverBound
            State.handshaking).setCompressionThreshold (some 0)) = .err (.decompressFailed e) r') ↔
        Zlib.identity.inflate [0x00, 0xAA, 0xBB] = none ∨
          ∃ inner, Zlib.identity.inflate [0x00, 0xAA, 0xBB] = some inner ∧ asUsize 5 < inner.length)) :=
  ⟨⟨rfl, Nat.zero_le _⟩, rfl, holdsFrame_plain [0x05, 0x00, 0xAA, 0xBB] [], by decide, by decide, rfl, by decide, by decide,
    @compressed_frame_within_data_len Zlib.identity
      ((wrapWithState [0x04, 0x05, 0x00, 0xAA, 0xBB] PacketDirection.serverBound State.handshaking).setCompressionThreshold
        (some 0)) ⟨rfl, Nat.zero_le _⟩ 0 rfl [0x05, 0x00, 0xAA, 0xBB] [] .none (holdsFrame_plain [0x05, 0x00, 0xAA, 0xBB] [])
      (by decide) (by decide) 5 [0x00, 0xAA, 0xBB] rfl (by decide) (by decide)⟩

/-- A compressed frame whose `data_len` is 5 while its zlib stream inflates to the three bytes
`[0x00, 0xAA, 0xBB]` is accepted: the call returns the packet with id 0 and body `[0xAA, 0xBB]`,
whose inner packet is 3 bytes long. -/
theorem short_inflation_accepted :
    VarInt.mcDeserialize [0x05, 0x00, 0xAA, 0xBB] = .ok (5, [0x00, 0xAA, 0xBB]) ∧
      Zlib.identity.inflate [0x00, 0xAA, 0xBB] = some [0x00, 0xAA, 0xBB] ∧
      (VarInt.mcSerialize 0 ++ [0xAA, 0xBB]).length = 3 ∧
      ∃ r', readRawUntypedPacket Transport.stream Zlib.identity
          ((wrapWithState [0x04, 0x05, 0x00, 0xAA, 0xBB] PacketDirection.serverBound
            State.handshaking).setCompressionThreshold (some 0)) =
        .ok (⟨0, .handshaking, .serverBound⟩, [0xAA, 0xBB]) r' := by
  refine ⟨rfl, rfl, rfl, ?_⟩
  obtain ⟨r', -, ran⟩ := @readRawUntypedPacket_of_holdsFrame Zlib.identity
    ((wrapWithState [0x04, 0x05, 0x00, 0xAA, 0xBB] PacketDirection.serverBound State.handshaking).setCompressionThreshold
      (some 0)) ⟨rfl, Nat.zero_le _⟩ [0x05, 0x00, 0xAA, 0xBB] [] .none (holdsFrame_plain [0x05, 0x00, 0xAA, 0xBB] []) (by decide) (by decide)
  exact ⟨r', ran⟩

end CraftReader

end CraftIo
