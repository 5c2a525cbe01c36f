import CraftIo.Stream.Encryption

/-! # When a call answers Ok(None)

`check_unexpected_eof!` turns a transport's `UnexpectedEof` into `Ok(None)`, the caller's sign
to wait for more bytes. On the stream this happens exactly when the bytes at hand end inside
the next frame. The prefix loop runs mcproto's VarInt decoder on the decrypted stream
(`CraftIo.FrameReader.readLength_stream`): it returns the decoder's value, answers `Ok(None)`
where the decoder runs out of bytes and panics where the decoder finds the VarInt too long.
The rest of the frame is one request that fails exactly when fewer bytes are left than the
prefix says (`CraftIo.FrameReader.pullBody_stream_none`), so the whole pull does what the
decoder says of the decrypted bytes (`CraftIo.FrameReader.pullFrame_stream`), and nothing after
the pull answers `Ok(None)` (`CraftIo.FrameReader.readFrame_eq_none`). So a call answers
`Ok(None)` exactly when the decrypted bytes end inside a length prefix, or hold a prefix within
the cap and less than the frame it announces
(`CraftIo.CraftReader.ok_none_iff_frame_incomplete`). Such a call has consumed the length
prefix, or all of it there was, with the decryptor in step: a retry starts at the frame's body
(`CraftIo.CraftReader.ok_none_consumes_prefix`). A call on a stream with nothing left answers
`Ok(None)` and leaves the session as if it had not been made
(`CraftIo.CraftReader.run_call_exhausted`).
-/

namespace CraftIo

namespace FrameReader

/-- **The prefix loop runs the VarInt decoder on the decrypted stream.** On the stream whose
bytes decrypt to `plain`, the loop from byte `position` returns what `mc_deserialize` returns
from `plain`, with the transport and the decryptor past exactly the prefix; it answers
`Ok(None)` where the decoder runs out of bytes, with both past all of them, and panics where the
decoder finds the VarInt too long. -/
theorem readLength_stream : ∀ {available : List UInt8} (position : Nat) (value : BitVec 32)
    {f : FrameReader (List UInt8)} {plain : List UInt8} {cipher' : Option CraftCipher},
    f.inner = available → position ≤ 4 → handleDecryption f.encryption available = .ok (plain, cipher') →
    match VarInt.mcDeserializeFrom position value plain with
    | .ok (decoded, rest) => ∃ f', readLength Transport.stream position value f = .ok decoded f' ∧
        handleDecryption f'.encryption f'.inner = .ok (rest, cipher') ∧
        f' = { f with inner := f'.inner, encryption := f'.encryption }
    | .error .eof => ∃ f', readLength Transport.stream position value f = .none f' ∧
        f' = { f with inner := [], encryption := cipher' }
    | .error .varNumTooLong => readLength Transport.stream position value f = .panic .varIntTooLong
  | [], position, value, f, plain, cipher', exhausted, small, decrypted => by
    obtain ⟨rfl, rfl⟩ := handleDecryption_nil decrypted
    rw [VarInt.mcDeserializeFrom.eq_2 _ _ (by omega), readLength, ReadM.bind_apply,
      pull_short (by simp [exhausted])]
    exact ⟨f, rfl, by rw [← exhausted]⟩
  | byte :: bytes, position, value, f, plain, cipher', stream, small, decrypted => by
    obtain ⟨first, cipher₁, rest, one, others, rfl⟩ := handleDecryption_cons decrypted
    have answered : Transport.stream.readExact f.inner 1 = (.ok [byte], bytes) := by
      simp [stream, Transport.stream_readExact_of_le]
    rw [readLength_answered Transport.stream answered one, VarInt.mcDeserializeFrom.eq_3 _ _ _ _ (by omega)]
    split_ifs with last tooLong
    · exact ⟨_, rfl, others, rfl⟩
    · rw [show position + 1 = 5 by omega, VarInt.mcDeserializeFrom.eq_1]
    · exact readLength_stream (position + 1) _ rfl (by omega) others

/-- The rest of a frame is one request, which fails exactly when the stream holds less. -/
theorem pullBody_stream_none (len : Nat) (f : FrameReader (List UInt8)) :
    (∃ f', pullBody Transport.stream len f = .none f') ↔ f.inner.length < len := by
  unfold pullBody
  split_ifs with pos
  · by_cases enough : len ≤ f.inner.length
    · have taken := pull_plain (List.take_append_drop len f.inner).symm
      rw [List.length_take_of_le enough] at taken
      simp [taken, enough]
    · simp [pull_short (Nat.lt_of_not_le enough), Nat.lt_of_not_le enough]
  · simp
    omega

/-- A body request that answers `Ok(None)` leaves the stream as it was. -/
theorem pullBody_stream_none_eq {len : Nat} {f f' : FrameReader (List UInt8)}
    (answered : pullBody Transport.stream len f = .none f') : f' = f := by
  unfold pullBody at answered
  split_ifs at answered
  by_cases enough : len ≤ f.inner.length
  · simp [pull, Transport.stream_readExact_of_le enough] at answered
  · rw [pull_short (Nat.lt_of_not_le enough)] at answered
    cases answered
    rfl

/-- **A frame pull on the stream.** On the stream whose bytes decrypt to `plain`, the pull does
what mcproto's VarInt decoder says of `plain`. Where the decoder runs out of bytes it answers
`Ok(None)` with the stream and the decryptor past all of them; where the VarInt is too long it
panics; and otherwise, from the reader `f₁` past the prefix, which differs only in its stream
and decryptor and whose stream decrypts to the bytes after the prefix, it rejects a length above
the cap or pulls the rest of the frame. -/
theorem pullFrame_stream {f : FrameReader (List UInt8)} {plain : List UInt8} {cipher' : Option CraftCipher}
    (decrypted : handleDecryption f.encryption f.inner = .ok (plain, cipher')) :
    match VarInt.mcDeserialize plain with
    | .error .eof => pullFrame Transport.stream f = .none { f with inner := [], encryption := cipher' }
    | .error .varNumTooLong => pullFrame Transport.stream f = .panic .varIntTooLong
    | .ok (len, rest) => ∃ f₁ : FrameReader (List UInt8),
        f₁ = { f with inner := f₁.inner, encryption := f₁.encryption } ∧
        handleDecryption f₁.encryption f₁.inner = .ok (rest, cipher') ∧
        pullFrame Transport.stream f =
          if asUsize len > f.maxPacketSize then .err (.packetTooLarge (asUsize len) f.maxPacketSize) f₁
          else pullBody Transport.stream (asUsize len) f₁ := by
  have loop := readLength_stream 0 0 rfl (Nat.zero_le 4) decrypted
  rw [VarInt.mcDeserialize]
  simp only [pullFrame, ReadM.bind_apply]
  cases parsed : VarInt.mcDeserializeFrom 0 0 plain with
  | error e =>
    rw [parsed] at loop
    cases e with
    | eof =>
      obtain ⟨f₁, stopped, rfl⟩ := loop
      rw [stopped]
      rfl
    | varNumTooLong =>
      rw [loop]
      rfl
  | ok result =>
    obtain ⟨len, rest⟩ := result
    rw [parsed] at loop
    obtain ⟨f₁, returned, others, moved⟩ := loop
    have cap : f₁.maxPacketSize = f.maxPacketSize := by rw [moved]
    refine ⟨f₁, moved, others, ?_⟩
    rw [returned]
    simp only [Outcome.ok_bind, ReadM.bind_apply, ReadM.get_apply, cap]
    split_ifs
    · simp only [ReadM.bind_apply, ReadM.get_apply, ReadM.error_apply, Outcome.ok_bind, Outcome.err_bind, cap]
    · rfl

variable {σ : Type} (T : Transport σ) (z : Zlib)

/-- Only the pull answers `Ok(None)`: decrypting and decoding the frame never do. -/
theorem readFrame_eq_none (f f' : FrameReader σ) : readFrame T z f = .none f' ↔ pullFrame T f = .none f' := by
  show (pullFrame T f).bind (fun body s => (decrypt body s).bind (decodeFrame z)) = .none f' ↔ _
  cases pullFrame T f with
  | ok body f₁ =>
    simp only [Outcome.ok_bind, decrypt, reduceCtorEq, iff_false]
    split
    · rw [Outcome.ok_bind, decodeFrame_eq]
      split <;> simp
    · simp
  | none f₁ => simp
  | err e f₁ => simp
  | panic p => simp

theorem readFrame_none_iff (f : FrameReader σ) :
    (∃ f', readFrame T z f = .none f') ↔ ∃ f', pullFrame T f = .none f' :=
  exists_congr fun f' => readFrame_eq_none T z f f'

/-- **When the frame reader answers `Ok(None)`.** On the stream whose bytes decrypt to
`plain`: exactly when the decoder runs out of bytes in the length prefix, or the prefix is
within the cap and fewer bytes than it says follow it. -/
theorem readFrame_stream_none {f : FrameReader (List UInt8)} {plain : List UInt8} {cipher' : Option CraftCipher}
    (decrypted : handleDecryption f.encryption f.inner = .ok (plain, cipher')) :
    (∃ f', readFrame Transport.stream z f = .none f') ↔
      VarInt.mcDeserialize plain = .error .eof ∨
      ∃ len rest, VarInt.mcDeserialize plain = .ok (len, rest) ∧ asUsize len ≤ f.maxPacketSize ∧
        rest.length < asUsize len := by
  have pulled := pullFrame_stream decrypted
  rw [readFrame_none_iff]
  cases parsed : VarInt.mcDeserialize plain with
  | error e =>
    rw [parsed] at pulled
    cases e <;> simp [pulled]
  | ok result =>
    obtain ⟨len, rest⟩ := result
    rw [parsed] at pulled
    obtain ⟨f₁, -, others, pulled⟩ := pulled
    have left : f₁.inner.length = rest.length := (length_handleDecryption others).symm
    rw [pulled]
    split_ifs with tooLarge
    · simp
      omega
    · simp only [pullBody_stream_none, left, Except.ok.injEq, Prod.mk.injEq, reduceCtorEq, false_or]
      exact ⟨fun short => ⟨len, rest, ⟨rfl, rfl⟩, by omega, short⟩, by rintro ⟨_, _, ⟨rfl, rfl⟩, -, short⟩; exact short⟩

/-- **Where `Ok(None)` leaves the frame reader.** On the stream whose bytes decrypt to `plain`,
a frame pull that answers `Ok(None)` has moved only the stream and the decryptor: either `plain`
ends inside the length prefix and both are past all of it, or what is left of the stream
decrypts, in step, to the bytes after the prefix in `plain`. -/
theorem pullFrame_stream_none {f f' : FrameReader (List UInt8)} {plain : List UInt8} {cipher' : Option CraftCipher}
    (decrypted : handleDecryption f.encryption f.inner = .ok (plain, cipher'))
    (answered : pullFrame Transport.stream f = .none f') :
    f' = { f with inner := f'.inner, encryption := f'.encryption } ∧
      (VarInt.mcDeserialize plain = .error .eof ∧ f'.inner = [] ∧ f'.encryption = cipher' ∨
        ∃ len rest, VarInt.mcDeserialize plain = .ok (len, rest) ∧
          handleDecryption f'.encryption f'.inner = .ok (rest, cipher')) := by
  have pulled := pullFrame_stream decrypted
  cases parsed : VarInt.mcDeserialize plain with
  | error e =>
    rw [parsed] at pulled
    cases e with
    | eof =>
      rw [pulled] at answered
      cases answered
      exact ⟨rfl, .inl ⟨rfl, rfl, rfl⟩⟩
    | varNumTooLong =>
      rw [pulled] at answered
      cases answered
  | ok result =>
    obtain ⟨len, rest⟩ := result
    rw [parsed] at pulled
    obtain ⟨f₁, moved, others, pulled⟩ := pulled
    rw [pulled] at answered
    split_ifs at answered
    obtain rfl := pullBody_stream_none_eq answered
    exact ⟨moved, .inr ⟨len, rest, rfl, others⟩⟩

end FrameReader

namespace CraftReader

/-- A buffered read answers `Ok(None)` exactly when the frame read it refines does. -/
theorem Refines.none_iff {σ α β : Type} {P : α → CraftReader σ → β → Prop} {o : Outcome (CraftReader σ) α}
    {a : Outcome (FrameReader σ) β} (refines : Refines P o a) :
    (∃ r', o = .none r') ↔ ∃ f', a = .none f' := by
  cases refines <;> simp

/-- A buffered read that answers `Ok(None)` refines a frame read that answers it from the
frame reader it ends at, and ends settled. -/
theorem Refines.eq_none {σ α β : Type} {P : α → CraftReader σ → β → Prop} {o : Outcome (CraftReader σ) α}
    {a : Outcome (FrameReader σ) β} (refines : Refines P o a) {r' : CraftReader σ} (answered : o = .none r') :
    a = .none r'.frames ∧ r'.Settled := by
  subst answered
  cases refines with
  | none settled => exact ⟨rfl, settled⟩

variable (z : Zlib)

/-- **`Ok(None)` means the frame is incomplete.** A call on a settled reader over the stream,
whose bytes at hand decrypt to `plain`, answers `Ok(None)` exactly when `plain` ends inside a
length prefix, or holds a length prefix within `max_packet_size` followed by fewer bytes than it
announces. -/
theorem ok_none_iff_frame_incomplete {r : CraftReader (List UInt8)} (settled : r.Settled) {plain : List UInt8}
    {cipher' : Option CraftCipher} (decrypted : handleDecryption r.encryption r.inner = .ok (plain, cipher')) :
    (∃ r', readRawUntypedPacket Transport.stream z r = .none r') ↔
      VarInt.mcDeserialize plain = .error .eof ∨
      ∃ len rest, VarInt.mcDeserialize plain = .ok (len, rest) ∧ asUsize len ≤ r.maxPacketSize ∧
        rest.length < asUsize len :=
  (Refines.none_iff (readUntypedPacketInner_refines Transport.stream z settled)).trans
    (@FrameReader.readFrame_stream_none z r.frames plain cipher' decrypted)

theorem ok_none_iff_frame_incomplete_wrap :
    (wrap ([0x05, 0x01] : List UInt8) PacketDirection.serverBound).Settled ∧
      handleDecryption (wrap [0x05, 0x01] PacketDirection.serverBound).encryption
        (wrap [0x05, 0x01] PacketDirection.serverBound).inner = .ok ([0x05, 0x01], none) ∧
      ((∃ r', readRawUntypedPacket Transport.stream Zlib.identity (wrap [0x05, 0x01] PacketDirection.serverBound) =
          .none r') ↔
        VarInt.mcDeserialize [0x05, 0x01] = .error .eof ∨
        ∃ len rest, VarInt.mcDeserialize [0x05, 0x01] = .ok (len, rest) ∧
          asUsize len ≤ (wrap [0x05, 0x01] PacketDirection.serverBound).maxPacketSize ∧ rest.length < asUsize len) :=
  have settled : (wrap ([0x05, 0x01] : List UInt8) PacketDirection.serverBound).Settled := ⟨rfl, Nat.zero_le _⟩
  ⟨settled, rfl, ok_none_iff_frame_incomplete Zlib.identity settled rfl⟩

/-- **Polling an exhausted stream is harmless.** On a settled reader whose stream has nothing
left, a call answers `Ok(None)` and every later session returns what it would have returned
without that call. -/
theorem run_call_exhausted {r : CraftReader (List UInt8)} (settled : r.Settled) (exhausted : r.inner = [])
    (events : List Event) :
    run (readRawUntypedPacket Transport.stream z) (.call :: events) r =
      some (.ok none) :: run (readRawUntypedPacket Transport.stream z) events r := by
  rw [run_readRawUntypedPacket z _ settled, run_readRawUntypedPacket z _ settled, FrameReader.run,
    FrameReader.readFrame_nil z exhausted]

theorem run_call_exhausted_wrap :
    (wrap ([] : List UInt8) PacketDirection.serverBound).Settled ∧
      (wrap ([] : List UInt8) PacketDirection.serverBound).inner = [] ∧
      run (readRawUntypedPacket Transport.stream Zlib.identity) [.call, .arrive [1, 0], .call]
          (wrap [] PacketDirection.serverBound) =
        some (.ok none) :: run (readRawUntypedPacket Transport.stream Zlib.identity) [.arrive [1, 0], .call]
          (wrap [] PacketDirection.serverBound) :=
  have settled : (wrap ([] : List UInt8) PacketDirection.serverBound).Settled := ⟨rfl, Nat.zero_le _⟩
  ⟨settled, rfl, run_call_exhausted Zlib.identity settled rfl [.arrive [1, 0], .call]⟩

/-- **`Ok(None)` consumes the length prefix.** Take a settled reader over
`CraftIo.Transport.stream`, a byte stream whose failed `read_exact` consumes nothing, with bytes
at hand that decrypt to `plain`. A call that answers `Ok(None)` leaves a settled reader that
differs only in its stream and decryptor. Either `plain` ends inside the length prefix and the call has
consumed and decrypted all of it, or the call has consumed and decrypted exactly the prefix and
what is left of the stream decrypts, in step, to the bytes after it: a retry starts at the
frame's body, not at its length prefix. -/
theorem ok_none_consumes_prefix {r r' : CraftReader (List UInt8)} (settled : r.Settled) {plain : List UInt8}
    {cipher' : Option CraftCipher} (decrypted : handleDecryption r.encryption r.inner = .ok (plain, cipher'))
    (answered : readRawUntypedPacket Transport.stream z r = .none r') :
    r'.Settled ∧ r'.frames = { r.frames with inner := r'.inner, encryption := r'.encryption } ∧
      (VarInt.mcDeserialize plain = .error .eof ∧ r'.inner = [] ∧ r'.encryption = cipher' ∨
        ∃ len rest, VarInt.mcDeserialize plain = .ok (len, rest) ∧
          handleDecryption r'.encryption r'.inner = .ok (rest, cipher')) := by
  obtain ⟨refined, settled'⟩ := (readUntypedPacketInner_refines Transport.stream z settled).eq_none answered
  exact ⟨settled', @FrameReader.pullFrame_stream_none r.frames r'.frames plain cipher' decrypted
    ((FrameReader.readFrame_eq_none _ z _ _).1 refined)⟩

theorem ok_none_consumes_prefix_wrap :
    (wrap ([0x02] : List UInt8) PacketDirection.serverBound).Settled ∧
      handleDecryption (wrap [0x02] PacketDirection.serverBound).encryption
        (wrap [0x02] PacketDirection.serverBound).inner = .ok ([0x02], none) ∧
      ∃ r', readRawUntypedPacket Transport.stream Zlib.identity (wrap [0x02] PacketDirection.serverBound) = .none r' ∧
        r'.Settled ∧ r'.frames = { (wrap [0x02] PacketDirection.serverBound).frames with
          inner := r'.inner, encryption := r'.encryption } ∧
        (VarInt.mcDeserialize [0x02] = .error .eof ∧ r'.inner = [] ∧ r'.encryption = none ∨
          ∃ len rest, VarInt.mcDeserialize [0x02] = .ok (len, rest) ∧
            handleDecryption r'.encryption r'.inner = .ok (rest, none)) := by
  have settled : (wrap ([0x02] : List UInt8) PacketDirection.serverBound).Settled := ⟨rfl, Nat.zero_le _⟩
  have parsed : VarInt.mcDeserialize [0x02] = .ok (2, []) := rfl
  obtain ⟨r', answered⟩ := (Refines.none_iff (readUntypedPacketInner_refines Transport.stream Zlib.identity settled)).2
    ((@FrameReader.readFrame_stream_none Zlib.identity (wrap [0x02] PacketDirection.serverBound).frames [0x02] none
      rfl).2 (.inr ⟨2, [], parsed, by decide, by decide⟩))
  exact ⟨settled, rfl, r', answered, ok_none_consumes_prefix Zlib.identity settled rfl answered⟩

end CraftReader

end CraftIo
