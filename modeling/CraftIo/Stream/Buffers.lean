import CraftIo.Stream.Channel

/-! # The buffers are a cache

Nothing a caller sees depends on the reader's buffers. Between calls a settled reader has no
ready bytes, so `raw_buf` and `raw_offset` are scratch space, and `decompress_buf` is only the
target `decompress` inflates into and hands back, never read for what it holds. Two frame
readers that differ at most in their decompression buffers (`CraftIo.FrameReader.Alike`) end
one read the same way (`CraftIo.FrameReader.readFrame_alike`) and make the same session
(`CraftIo.FrameReader.run_alike`). Through the refinement, two settled buffered readers that
differ only in their buffers end every call the same way on any transport
(`CraftIo.CraftReader.buffers_unobservable`), and the capacity hints `ensure_buf_capacity` and
`ensure_compression_buf_capacity` change nothing a later session returns
(`CraftIo.CraftReader.capacity_hints_unobservable`).
-/

namespace CraftIo

namespace FrameReader

variable {σ : Type} (T : Transport σ)

/-- `f₂` is `f₁` with another decompression buffer. -/
def Alike (f₁ f₂ : FrameReader σ) : Prop :=
  ∃ decompressBuf, f₂ = { f₁ with decompressBuf }

theorem Alike.refl (f : FrameReader σ) : Alike f f :=
  ⟨f.decompressBuf, rfl⟩

/-- Readers with different decompression buffers are on the same channel, and stay alike as it
moves. -/
theorem Alike.channelBlind : ChannelBlind (@Alike σ) where
  inner_eq := by rintro f₁ _ ⟨d, rfl⟩; rfl
  encryption_eq := by rintro f₁ _ ⟨d, rfl⟩; rfl
  moveInner := by rintro f₁ _ inner ⟨d, rfl⟩; exact ⟨d, rfl⟩
  moveEncryption := by rintro f₁ _ encryption ⟨d, rfl⟩; exact ⟨d, rfl⟩

variable (z : Zlib)

/-- Decoding reads the configuration and the bytes only, and replaces the decompression
buffer. -/
theorem decodeFrame_alike (payload : List UInt8) {f₁ f₂ : FrameReader σ} (alike : Alike f₁ f₂) :
    Outcome.Rel Alike (decodeFrame z payload f₁) (decodeFrame z payload f₂) := by
  obtain ⟨d, rfl⟩ := alike
  rw [decodeFrame_eq, decodeFrame_eq]
  dsimp only
  split
  · exact .ok ⟨_, rfl⟩
  · exact .err ⟨_, rfl⟩

/-- **One read does not see the decompression buffer.** Frame readers that differ at most in
their decompression buffers end a read the same way, and again differ at most in those. -/
theorem readFrame_alike {f₁ f₂ : FrameReader σ} (alike : Alike f₁ f₂) :
    Outcome.Rel Alike (readFrame T z f₁) (readFrame T z f₂) :=
  readFrame_rel T z Alike.channelBlind (by rintro f₁ _ ⟨d, rfl⟩; rfl) (decodeFrame_alike z) alike

/-- **A session does not see the decompression buffer.** -/
theorem run_alike (events : List Event) {f₁ f₂ : FrameReader (List UInt8)} (alike : Alike f₁ f₂) :
    FrameReader.run (readFrame Transport.stream z) events f₁ =
      FrameReader.run (readFrame Transport.stream z) events f₂ :=
  (@run_relExcept z (fun _ => False) Alike Alike.channelBlind
    (fun alike => .rel (readFrame_alike Transport.stream z alike)) events f₁ f₂ alike fun _ never => never.elim).symm

end FrameReader

namespace CraftReader

variable {σ : Type} (T : Transport σ) (z : Zlib)

/-- **The buffers are a cache.** Two settled readers that differ only in `raw_buf`,
`raw_offset` and `decompress_buf` end a `read_raw_untyped_packet` call the same way on any
transport, with the same packet, `Ok(None)`, error or panic, and are again settled readers that
differ only in their buffers. -/
theorem buffers_unobservable {r₁ r₂ : CraftReader σ} (settled₁ : r₁.Settled) (settled₂ : r₂.Settled)
    (alike : r₁.frames.Alike r₂.frames) :
    Outcome.Rel (fun r₁' r₂' => r₁'.Settled ∧ r₂'.Settled ∧ r₁'.frames.Alike r₂'.frames)
      (readRawUntypedPacket T z r₁) (readRawUntypedPacket T z r₂) :=
  Refines.rel (readUntypedPacketInner_refines T z settled₁) (readUntypedPacketInner_refines T z settled₂)
    (FrameReader.readFrame_alike T z alike)

theorem buffers_unobservable_wrap :
    (wrap ([1, 0] : List UInt8) PacketDirection.serverBound).Settled ∧
      ({ wrap ([1, 0] : List UInt8) PacketDirection.serverBound with
          rawBuf := some [7, 7, 7], rawOffset := 2, decompressBuf := some [9] } : CraftReader (List UInt8)).Settled ∧
      (wrap ([1, 0] : List UInt8) PacketDirection.serverBound).frames.Alike
        ({ wrap ([1, 0] : List UInt8) PacketDirection.serverBound with
          rawBuf := some [7, 7, 7], rawOffset := 2, decompressBuf := some [9] } : CraftReader (List UInt8)).frames ∧
      Outcome.Rel (fun r₁' r₂' => r₁'.Settled ∧ r₂'.Settled ∧ r₁'.frames.Alike r₂'.frames)
        (readRawUntypedPacket Transport.stream Zlib.identity (wrap [1, 0] PacketDirection.serverBound))
        (readRawUntypedPacket Transport.stream Zlib.identity
          { wrap ([1, 0] : List UInt8) PacketDirection.serverBound with
            rawBuf := some [7, 7, 7], rawOffset := 2, decompressBuf := some [9] }) :=
  have settled₁ : (wrap ([1, 0] : List UInt8) PacketDirection.serverBound).Settled := ⟨rfl, Nat.zero_le _⟩
  have settled₂ : ({ wrap ([1, 0] : List UInt8) PacketDirection.serverBound with
      rawBuf := some [7, 7, 7], rawOffset := 2, decompressBuf := some [9] } : CraftReader (List UInt8)).Settled :=
    ⟨rfl, by decide⟩
  ⟨settled₁, settled₂, ⟨some [9], rfl⟩,
    buffers_unobservable Transport.stream Zlib.identity settled₁ settled₂ ⟨some [9], rfl⟩⟩

/-- `ensure_buf_capacity` on a settled reader returns, leaves it settled and changes none of
what the frame reader sees. -/
theorem ensureBufCapacity_settled (capacity : Nat) {r : CraftReader σ} (settled : r.Settled) :
    ∃ r', ensureBufCapacity capacity r = .ok () r' ∧ r'.Settled ∧ r'.frames = r.frames := by
  simp only [ensureBufCapacity, ReadM.bind_apply, ReadM.get_apply, Outcome.ok_bind,
    moveReadyDataToFront_settled settled, getSizedRawBuf]
  exact ⟨_, rfl, ⟨settled.rawReady_eq, Nat.zero_le _⟩, rfl⟩

/-- `ensure_compression_buf_capacity` keeps a reader settled and changes only its
decompression buffer. -/
theorem ensureCompressionBufCapacity_settled (capacity : Nat) {r : CraftReader σ} (settled : r.Settled) :
    (r.ensureCompressionBufCapacity capacity).Settled ∧ (r.ensureCompressionBufCapacity capacity).frames.Alike r.frames :=
  ⟨⟨settled.rawReady_eq, settled.rawOffset_le⟩, ⟨r.decompressBuf, rfl⟩⟩

/-- **Capacity hints are unobservable.** On a settled reader over the stream,
`ensure_buf_capacity` returns, and neither it nor `ensure_compression_buf_capacity` changes
what any later session of arrivals and calls returns. -/
theorem capacity_hints_unobservable {r : CraftReader (List UInt8)} (settled : r.Settled) (capacity : Nat)
    (events : List Event) :
    (∃ r', ensureBufCapacity capacity r = .ok () r' ∧
      run (readRawUntypedPacket Transport.stream z) events r' =
        run (readRawUntypedPacket Transport.stream z) events r) ∧
    run (readRawUntypedPacket Transport.stream z) events (r.ensureCompressionBufCapacity capacity) =
      run (readRawUntypedPacket Transport.stream z) events r := by
  obtain ⟨r', ensured, settled', same⟩ := ensureBufCapacity_settled capacity settled
  obtain ⟨settled'', alike⟩ := ensureCompressionBufCapacity_settled capacity settled
  refine ⟨⟨r', ensured, ?_⟩, ?_⟩
  · rw [run_readRawUntypedPacket z events settled', run_readRawUntypedPacket z events settled, same]
  · rw [run_readRawUntypedPacket z events settled'', run_readRawUntypedPacket z events settled]
    exact FrameReader.run_alike z events alike

theorem capacity_hints_unobservable_wrap :
    (wrap ([] : List UInt8) PacketDirection.serverBound).Settled ∧
      ((∃ r', ensureBufCapacity 64 (wrap ([] : List UInt8) PacketDirection.serverBound) = .ok () r' ∧
        run (readRawUntypedPacket Transport.stream Zlib.identity) [.arrive [1, 0], .call] r' =
          run (readRawUntypedPacket Transport.stream Zlib.identity) [.arrive [1, 0], .call]
            (wrap [] PacketDirection.serverBound)) ∧
      run (readRawUntypedPacket Transport.stream Zlib.identity) [.arrive [1, 0], .call]
          ((wrap [] PacketDirection.serverBound).ensureCompressionBufCapacity 64) =
        run (readRawUntypedPacket Transport.stream Zlib.identity) [.arrive [1, 0], .call]
          (wrap [] PacketDirection.serverBound)) :=
  have settled : (wrap ([] : List UInt8) PacketDirection.serverBound).Settled := ⟨rfl, Nat.zero_le _⟩
  ⟨settled, capacity_hints_unobservable Zlib.identity settled 64 [.arrive [1, 0], .call]⟩

end CraftReader

end CraftIo
