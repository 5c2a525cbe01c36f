import CraftIo.Session.Reachable
import CraftIo.Stream.Frames

/-! # What a read does to the transport

Through the refinement, a read on a reachable reader asks of the transport exactly what the
frame reader asks. It panics only with `panic!("VarInt too long")`, once five delivered prefix
bytes all decrypt with the continuation bit set
(`CraftIo.CraftReader.reachable_panics_only_on_long_prefix`). And it reads no further than the
frame: a read that returns, or fails once it has the frame, pulled exactly that frame's prefix
and `outer_len` bytes; every other failure is an I/O error, or the size cap rejecting the
length after exactly its prefix (`CraftIo.CraftReader.reachable_reads_one_frame`).
-/

namespace CraftIo

namespace CraftReader

variable {σ : Type} (T : Transport σ) (z : Zlib) (aes : Block → Block → Block)

/-- `panic!("VarInt too long")`, raised after the transport delivered five length-prefix bytes
whose decryptions all have the continuation bit set. -/
def LongPrefixPanic (r : CraftReader σ) (p : Panic) : Prop :=
  p = .varIntTooLong ∧ ∃ wire plain cipher' s', T.Delivers r.intoInner wire s' ∧
    handleDecryption r.encryption wire = .ok (plain, cipher') ∧ wire.length = 5 ∧
    ∀ byte ∈ plain, byte &&& 0x80 ≠ 0

/-- The call pulled exactly one frame from the transport: a length prefix one byte per request,
then the `outer_len` bytes the decrypted prefix announces, and the transport is right after
them. -/
def PulledFrame (r r' : CraftReader σ) : Prop :=
  ∃ wire body plain len cipher', T.DeliversFrame r.intoInner wire body r'.intoInner ∧
    handleDecryption r.encryption wire = .ok (plain, cipher') ∧
    VarInt.mcDeserialize plain = .ok (len, []) ∧ body.length = asUsize len

/-- The call rejected a length above `max_packet_size` with `PacketTooLarge`, having pulled
exactly its prefix. -/
def RejectedLength (r r' : CraftReader σ) (e : ReadError) : Prop :=
  ∃ wire plain len cipher', T.Delivers r.intoInner wire r'.intoInner ∧
    handleDecryption r.encryption wire = .ok (plain, cipher') ∧
    VarInt.mcDeserialize plain = .ok (len, []) ∧ r.maxPacketSize < asUsize len ∧
    e = .packetTooLarge (asUsize len) r.maxPacketSize

theorem Good.frames_decrypts {r : CraftReader σ} (good : r.Good) : r.frames.Decrypts :=
  good.decrypts

/-- A good reader's `read_raw_untyped_packet` panics only after a too-long prefix. -/
theorem readRawUntypedPacket_panic {r : CraftReader σ} {p : Panic} (good : r.Good)
    (panicked : readRawUntypedPacket T z r = .panic p) : LongPrefixPanic T r p := by
  have abstract := (readUntypedPacketInner_refines T z good.settled).eq_panic panicked
  obtain rfl : p = .varIntTooLong := (FrameReader.readFrame_safe T z good.frames_decrypts).panic_allowed abstract
  obtain ⟨wire, plain, cipher', s', delivered, decrypted, long, more⟩ :=
    FrameReader.delivers_of_readLength_panic T 0 0 (Nat.zero_le 4)
      (FrameReader.readLength_panic_of_readFrame T z good.frames_decrypts abstract)
  exact ⟨rfl, wire, plain, cipher', s', delivered, decrypted, by omega, more⟩

/-- `read_raw_packet` ends as `read_raw_untyped_packet` does, except that `P::create` may turn
a frame it returned into `Err(PacketErr)` on the same reader. -/
theorem readRawPacket_ends {P : Type} (create : Id → List UInt8 → Except PacketErr P)
    (r : CraftReader σ) :
    (∀ p, readRawPacket T z create r = .panic p → readRawUntypedPacket T z r = .panic p) ∧
      (∀ a r', readRawPacket T z create r = .ok a r' → ∃ packet, readRawUntypedPacket T z r = .ok packet r') ∧
      (∀ e r', readRawPacket T z create r = .err e r' →
        readRawUntypedPacket T z r = .err e r' ∨ ∃ packet, readRawUntypedPacket T z r = .ok packet r') := by
  rw [readRawPacket_eq, ReadM.bind_apply]
  cases readRawUntypedPacket T z r with
  | ok packet r₁ =>
    obtain ⟨id, body⟩ := packet
    simp only [Outcome.ok_bind]
    cases create id body with
    | ok raw => exact ⟨by rintro _ ⟨⟩, by rintro _ _ ⟨⟩; exact ⟨_, rfl⟩, by rintro _ _ ⟨⟩⟩
    | error err => exact ⟨by rintro _ ⟨⟩, by rintro _ _ ⟨⟩, by rintro _ _ ⟨⟩; exact .inr ⟨_, rfl⟩⟩
  | none r₁ => exact ⟨by rintro _ ⟨⟩, by rintro _ _ ⟨⟩, by rintro _ _ ⟨⟩⟩
  | err e r₁ => exact ⟨by rintro _ ⟨⟩, by rintro _ _ ⟨⟩, by rintro _ _ ⟨⟩; exact .inl rfl⟩
  | panic q => exact ⟨by rintro _ ⟨⟩; rfl, by rintro _ _ ⟨⟩, by rintro _ _ ⟨⟩⟩

/-- A good reader's `read_raw_untyped_packet` that returns pulled exactly one frame. -/
theorem readRawUntypedPacket_pulledFrame {r r' : CraftReader σ} {a : Id × List UInt8} (good : r.Good)
    (returned : readRawUntypedPacket T z r = .ok a r') : PulledFrame T r r' := by
  obtain ⟨body, f₁, pulled, same⟩ := FrameReader.pullFrame_of_readFrame T z
    ((readUntypedPacketInner_refines T z good.settled).eq_ok returned)
  obtain ⟨wire, plain, len, delivered, decrypted, parsed, sized, -, -⟩ :=
    FrameReader.deliversFrame_of_pullFrame T pulled
  exact ⟨wire, body, plain, len, _, by rw [show r'.intoInner = f₁.inner from same]; exact delivered,
    decrypted, parsed, sized⟩

/-- A good reader's `read_raw_untyped_packet` fails after exactly one frame, with an I/O error,
or on the size cap after exactly the prefix. -/
theorem readRawUntypedPacket_fails {r r' : CraftReader σ} {e : ReadError} (good : r.Good)
    (failed : readRawUntypedPacket T z r = .err e r') :
    PulledFrame T r r' ∨ (∃ err, e = .ioFailure err) ∨ RejectedLength T r r' e := by
  rcases FrameReader.pullFrame_of_readFrame_err T z
      ((readUntypedPacketInner_refines T z good.settled).eq_err failed) with
    pulled | ⟨body, f₁, pulled, same⟩
  · rcases FrameReader.pullFrame_fails T pulled with io | ⟨wire, plain, len, delivered, decrypted, parsed,
      tooLarge, rfl⟩
    · exact .inr (.inl io)
    · exact .inr (.inr ⟨wire, plain, len, _, delivered, decrypted, parsed, tooLarge, rfl⟩)
  · obtain ⟨wire, plain, len, delivered, decrypted, parsed, sized, -, -⟩ :=
      FrameReader.deliversFrame_of_pullFrame T pulled
    exact .inl ⟨wire, body, plain, len, _,
      by rw [show r'.intoInner = f₁.inner from same]; exact delivered, decrypted, parsed, sized⟩

/-- Over a stream holding two frames, the reader `wrap` builds is reachable right after the call
that returns the first frame's packet, with the second frame left on the stream. -/
theorem reachable_after_first_frame :
    ∃ r₁, readRawUntypedPacket Transport.stream Zlib.identity
          (wrap ([0x02, 0x00, 0xAA, 0x02, 0x01, 0xBB] : List UInt8) .serverBound) =
        .ok (⟨0, .handshaking, .serverBound⟩, [0xAA]) r₁ ∧
      AfterFrame (wrap ([0x02, 0x00, 0xAA, 0x02, 0x01, 0xBB] : List UInt8) .serverBound) [0x02, 0x01, 0xBB] none r₁ ∧
      Reachable Transport.stream Zlib.identity (fun key _ => key) r₁ := by
  have start : Reachable Transport.stream Zlib.identity (fun key _ => key)
      (wrap ([0x02, 0x00, 0xAA, 0x02, 0x01, 0xBB] : List UInt8) .serverBound) := .wrap _ _ _
  obtain ⟨r₁, after, ran⟩ := readRawUntypedPacket_of_holdsFrame Zlib.identity (start.good _ _ _).settled
    (holdsFrame_plain [0x00, 0xAA] [0x02, 0x01, 0xBB]) (by decide) (by decide)
  exact ⟨r₁, ran, after, .call start (.readRawUntypedPacket (by rw [ran]; rfl))⟩

/-- **Panic-freedom of the framing path.** On every reachable reader, whatever the transport
does, the raw buffer exists once a cursor has moved and holds both cursors;
`read_raw_untyped_packet` and `read_raw_packet` panic only with `panic!("VarInt too long")`
after five length-prefix bytes that all decrypt with the continuation bit set; and
`ensure_buf_capacity` never panics. -/
theorem reachable_panics_only_on_long_prefix {r : CraftReader σ} (reachable : Reachable T z aes r) :
    (0 < r.rawOffset + r.rawReady → r.rawBuf.isSome) ∧
      r.rawOffset + r.rawReady ≤ (r.rawBuf.getD []).length ∧
      (∀ p, readRawUntypedPacket T z r = .panic p → LongPrefixPanic T r p) ∧
      (∀ (P : Type) (create : Id → List UInt8 → Except PacketErr P) p,
        readRawPacket T z create r = .panic p → LongPrefixPanic T r p) ∧
      ∀ capacity p, ensureBufCapacity capacity r ≠ .panic p := by
  have good := reachable.good
  refine ⟨good.cursors.1, good.cursors.2, fun p => readRawUntypedPacket_panic T z good,
    fun _ create p panicked => readRawUntypedPacket_panic T z good
      ((readRawPacket_ends T z create r).1 p panicked), fun capacity p => ?_⟩
  obtain ⟨r', ran, -⟩ := ensureBufCapacity_good capacity good
  rw [ran]
  exact fun never => by cases never

theorem reachable_panics_only_on_long_prefix_after_frame :
    ∃ r₁, readRawUntypedPacket Transport.stream Zlib.identity
          (wrap ([0x02, 0x00, 0xAA, 0x02, 0x01, 0xBB] : List UInt8) .serverBound) =
        .ok (⟨0, .handshaking, .serverBound⟩, [0xAA]) r₁ ∧
      Reachable Transport.stream Zlib.identity (fun key _ => key) r₁ ∧
      ((0 < r₁.rawOffset + r₁.rawReady → r₁.rawBuf.isSome) ∧
        r₁.rawOffset + r₁.rawReady ≤ (r₁.rawBuf.getD []).length ∧
        (∀ p, readRawUntypedPacket Transport.stream Zlib.identity r₁ = .panic p →
          LongPrefixPanic Transport.stream r₁ p) ∧
        (∀ (P : Type) (create : Id → List UInt8 → Except PacketErr P) p,
          readRawPacket Transport.stream Zlib.identity create r₁ = .panic p → LongPrefixPanic Transport.stream r₁ p) ∧
        ∀ capacity p, ensureBufCapacity capacity r₁ ≠ .panic p) :=
  have ⟨r₁, ran, _, reachable⟩ := reachable_after_first_frame
  ⟨r₁, ran, reachable, reachable_panics_only_on_long_prefix _ _ (fun key _ => key) reachable⟩

/-- **No read-ahead.** Every reachable reader has no byte ready. A call of
`read_raw_untyped_packet` or `read_raw_packet` that returns pulled exactly one frame from the
transport, so `into_inner` hands back the transport right after it; and one that fails did so
after exactly one frame too, unless it failed with an I/O error, or rejected the length with
`PacketTooLarge` after exactly its prefix. -/
theorem reachable_reads_one_frame {r : CraftReader σ} (reachable : Reachable T z aes r) :
    r.rawReady = 0 ∧
      (∀ a r', readRawUntypedPacket T z r = .ok a r' → PulledFrame T r r') ∧
      (∀ e r', readRawUntypedPacket T z r = .err e r' →
        PulledFrame T r r' ∨ (∃ err, e = .ioFailure err) ∨ RejectedLength T r r' e) ∧
      (∀ (P : Type) (create : Id → List UInt8 → Except PacketErr P) a r',
        readRawPacket T z create r = .ok a r' → PulledFrame T r r') ∧
      ∀ (P : Type) (create : Id → List UInt8 → Except PacketErr P) e r',
        readRawPacket T z create r = .err e r' →
          PulledFrame T r r' ∨ (∃ err, e = .ioFailure err) ∨ RejectedLength T r r' e := by
  have good := reachable.good
  refine ⟨good.settled.rawReady_eq, fun _ _ => readRawUntypedPacket_pulledFrame T z good,
    fun _ _ => readRawUntypedPacket_fails T z good, fun _ create a r' returned => ?_,
    fun _ create e r' failed => ?_⟩
  · obtain ⟨packet, untyped⟩ := (readRawPacket_ends T z create r).2.1 a r' returned
    exact readRawUntypedPacket_pulledFrame T z good untyped
  · rcases (readRawPacket_ends T z create r).2.2 e r' failed with untyped | ⟨packet, untyped⟩
    · exact readRawUntypedPacket_fails T z good untyped
    · exact .inl (readRawUntypedPacket_pulledFrame T z good untyped)

/-- From the reader reached by reading the first of two frames, the call that reads the second
pulled exactly that frame. -/
theorem reachable_reads_one_frame_second_frame :
    ∃ r₁ r₂, readRawUntypedPacket Transport.stream Zlib.identity
          (wrap ([0x02, 0x00, 0xAA, 0x02, 0x01, 0xBB] : List UInt8) .serverBound) =
        .ok (⟨0, .handshaking, .serverBound⟩, [0xAA]) r₁ ∧
      Reachable Transport.stream Zlib.identity (fun key _ => key) r₁ ∧
      readRawUntypedPacket Transport.stream Zlib.identity r₁ = .ok (⟨1, .handshaking, .serverBound⟩, [0xBB]) r₂ ∧
      r₁.rawReady = 0 ∧ PulledFrame Transport.stream r₁ r₂ := by
  obtain ⟨r₁, ran, after, reachable⟩ := reachable_after_first_frame
  have holds : HoldsFrame r₁.encryption r₁.inner [0x01, 0xBB] [] none := by
    rw [after.encryption_eq, after.inner_eq]
    exact holdsFrame_plain [0x01, 0xBB] []
  obtain ⟨r₂, after₂, ran₂⟩ := readRawUntypedPacket_of_holdsFrame Zlib.identity after.settled holds
    (by rw [after.maxPacketSize_eq]; decide) (by decide)
  rw [after.compressionThreshold_eq, after.maxPacketSize_eq, after.state_eq, after.direction_eq] at ran₂
  have reads := reachable_reads_one_frame _ _ (fun key _ => key) reachable
  exact ⟨r₁, r₂, ran, reachable, ran₂, reads.1, reads.2.1 _ _ ran₂⟩

end CraftReader

end CraftIo
