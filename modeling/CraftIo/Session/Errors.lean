import CraftIo.Stream.Decoding
import CraftIo.Stream.Resync

/-! # What a read reports as an error

`check_unexpected_eof!` turns every `UnexpectedEof` of the transport into `Ok(None)`, so no
read reports one as an error. The frame itself can fail with a length above the cap, a bad
header VarInt or a failed decompression, and `PacketErr` comes only from `P::create` and
`deserialize`. A frame read fails only with a `CraftIo.FrameError`
(`CraftIo.FrameReader.readFrame_frameError`); through the refinement so does every untyped read
of the buffered reader, and the typed reads add only `PacketErr`
(`CraftIo.CraftReader.read_errors_classified`).
-/

namespace CraftIo

/-- An error a frame read can report: an I/O failure other than `UnexpectedEof`, a bad header
VarInt, a failed decompression or a length above the cap; never `PacketErr`. -/
def FrameError : ReadError → Prop
  | .ioFailure err => err.kind ≠ .unexpectedEof
  | .packetHeaderErr _ => True
  | .packetErr _ => False
  | .decompressFailed _ => True
  | .packetTooLarge _ _ => True

/-- `packet_buf` fails only with a header, size or decompression error. -/
theorem packetBuf_frameError {z : Zlib} {threshold : Option (BitVec 32)} {maxPacketSize : Nat}
    {decompressBuf : Option (List UInt8)} {buf : List UInt8} {e : ReadError}
    (failed : (packetBuf z threshold maxPacketSize decompressBuf buf).1 = .error e) : FrameError e := by
  unfold packetBuf decompress at failed
  split at failed
  · split at failed
    · cases failed
      trivial
    · dsimp only at failed
      split_ifs at failed
      · cases failed
        trivial
      · split at failed <;> cases failed <;> trivial
  · cases failed

/-- Decoding a frame's bytes fails only with a header, size or decompression error. -/
theorem frameResult_frameError {z : Zlib} {threshold : Option (BitVec 32)} {maxPacketSize : Nat}
    {state : State} {direction : PacketDirection} {payload : List UInt8} {e : ReadError}
    (failed : frameResult z threshold maxPacketSize state direction payload = .error e) : FrameError e := by
  unfold frameResult at failed
  cases inner : (packetBuf z threshold maxPacketSize .none payload).1 with
  | error e' =>
    rw [inner] at failed
    cases failed
    exact packetBuf_frameError inner
  | ok packet =>
    rw [inner] at failed
    obtain ⟨err, rfl⟩ := splitId_error failed
    trivial

namespace FrameReader

variable {σ : Type} (T : Transport σ) (z : Zlib)

/-- A request fails only with an I/O error other than `UnexpectedEof`, which is `Ok(None)`. -/
theorem pull_frameError (n : Nat) (f : FrameReader σ) : (pull T n f).Fails FrameError := by
  intro e s failed
  unfold pull at failed
  split at failed
  · cases failed
  · split_ifs at failed with eof
    cases failed
    exact eof

/-- The prefix loop fails only with an I/O error other than `UnexpectedEof`. -/
theorem readLength_frameError (position : Nat) (value : BitVec 32) (f : FrameReader σ) :
    (readLength T position value f).Fails FrameError := by
  rw [readLength]
  refine (pull_frameError T 1 f).bind fun bytes f₁ _ => ?_
  simp only [ReadM.bind_apply]
  refine Outcome.Fails.bind (fun e s failed => ?_) fun copy f₂ _ => ?_
  · unfold CraftReader.firstByte at failed
    split at failed <;> cases failed
  · refine Outcome.Fails.bind (fun e s failed => ?_) fun byte f₃ _ => ?_
    · unfold decrypt at failed
      split at failed <;> cases failed
    · split_ifs
      · intro e s failed; cases failed
      · intro e s failed; cases failed
      · exact readLength_frameError (position + 1) _ f₃
termination_by 5 - position

/-- **A frame read's errors.** A frame read fails only with a `CraftIo.FrameError`. -/
theorem readFrame_frameError (f : FrameReader σ) : (readFrame T z f).Fails FrameError := by
  show ((pullFrame T f).bind fun body s => (decrypt body s).bind (decodeFrame z)).Fails _
  refine Outcome.Fails.bind ?_ fun body f₁ _ => Outcome.Fails.bind ?_ fun payload f₂ _ => ?_
  · simp only [pullFrame, ReadM.bind_apply]
    refine (readLength_frameError T 0 0 f).bind fun len f₁ _ => ?_
    simp only [ReadM.bind_apply, ReadM.get_apply, Outcome.ok_bind]
    split_ifs
    · intro e s failed
      simp only [ReadM.bind_apply, ReadM.get_apply, ReadM.error_apply, Outcome.ok_bind, Outcome.err_bind,
        Outcome.err.injEq] at failed
      rw [← failed.1]
      trivial
    · simp only [ReadM.pure_apply, Outcome.ok_bind, pullBody]
      split_ifs
      · exact pull_frameError T _ f₁
      · intro e s failed; cases failed
  · intro e s failed
    unfold decrypt at failed
    split at failed <;> cases failed
  · intro e s failed
    rw [decodeFrame_eq] at failed
    split at failed
    · cases failed
    · next failed' =>
      cases failed
      exact frameResult_frameError failed'

end FrameReader

namespace CraftReader

variable {σ : Type} (T : Transport σ) (z : Zlib)

/-- A decoding step fails only with the errors its result can hold. -/
theorem liftResult_fails {S α : Type} {P : ReadError → Prop} (result : Except ReadError α) {s : S}
    (holds : ∀ e, result = .error e → P e) : (liftResult result s).Fails P := by
  intro e s' failed
  cases result with
  | ok a => cases failed
  | error e' =>
    cases failed
    exact holds e rfl

/-- `P::create` fails only with `PacketErr`. -/
theorem createResult_packetErr {P : Type} (create : Id → List UInt8 → Except PacketErr P)
    (packet : Id × List UInt8) {e : ReadError} (failed : createResult create packet = .error e) :
    ∃ err, e = .packetErr err := by
  unfold createResult at failed
  cases made : create packet.1 packet.2 <;> simp [made, Except.mapError] at failed
  exact ⟨_, failed.symm⟩

/-- `P::create` and then `deserialize` fail only with `PacketErr`. -/
theorem deserializeResult_packetErr {P Q : Type} (create : Id → List UInt8 → Except PacketErr P)
    (deserialize : P → Except PacketErr Q) (packet : Id × List UInt8) {e : ReadError}
    (failed : deserializeResult create deserialize packet = .error e) : ∃ err, e = .packetErr err := by
  unfold deserializeResult at failed
  cases made : createResult create packet with
  | error e' =>
    rw [made] at failed
    cases failed
    exact createResult_packetErr create packet made
  | ok raw =>
    rw [made] at failed
    cases decoded : deserialize raw <;> simp [decoded, Except.mapError, Except.bind] at failed
    exact ⟨_, failed.symm⟩

/-- **What a read reports as an error.** On a settled reader over any transport,
`read_raw_untyped_packet` fails only with a `CraftIo.FrameError`: never with `UnexpectedEof`,
which it answers with `Ok(None)`, and never with `PacketErr`; `read_raw_packet` and
`read_packet` add only the `PacketErr` of `P::create` and `deserialize`. -/
theorem read_errors_classified {r : CraftReader σ} (settled : r.Settled) :
    (readRawUntypedPacket T z r).Fails FrameError ∧
      (∀ {P : Type} (create : Id → List UInt8 → Except PacketErr P),
        (readRawPacket T z create r).Fails fun e => FrameError e ∨ ∃ err, e = .packetErr err) ∧
      ∀ {P Q : Type} (create : Id → List UInt8 → Except PacketErr P) (deserialize : P → Except PacketErr Q),
        (readPacket T z create deserialize r).Fails fun e => FrameError e ∨ ∃ err, e = .packetErr err := by
  have untyped : (readRawUntypedPacket T z r).Fails FrameError := fun e r' failed =>
    FrameReader.readFrame_frameError T z r.frames e _
      (Refines.eq_err (readUntypedPacketInner_refines T z settled) failed)
  have typed : ∀ {β : Type} (g : Id × List UInt8 → Except ReadError β),
      (∀ packet e, g packet = .error e → ∃ err, e = .packetErr err) →
      ((readRawUntypedPacket T z >>= fun packet => liftResult (g packet)) r).Fails
        fun e => FrameError e ∨ ∃ err, e = .packetErr err := fun g created => by
    rw [ReadM.bind_apply]
    exact Outcome.Fails.bind (fun e s failed => .inl (untyped e s failed)) fun packet _ _ =>
      liftResult_fails (g packet) fun e failed => .inr (created packet e failed)
  refine ⟨untyped, fun create => ?_, fun create deserialize => ?_⟩
  · rw [readRawPacket_eq_bind]
    exact typed _ fun packet _ failed => createResult_packetErr create packet failed
  · rw [readPacket_eq_bind]
    exact typed _ fun packet _ failed => deserializeResult_packetErr create deserialize packet failed

/-- A frame whose id VarInt is cut short fails the untyped read with `PacketHeaderErr`, an
error of the frame. -/
theorem read_errors_classified_bad_id :
    (wrap ([0x01, 0x80] : List UInt8) PacketDirection.serverBound).Settled ∧
      ∃ r', readRawUntypedPacket Transport.stream Zlib.identity (wrap [0x01, 0x80] PacketDirection.serverBound) =
          .err (.packetHeaderErr .eof) r' ∧ FrameError (.packetHeaderErr .eof) := by
  have settled : (wrap ([0x01, 0x80] : List UInt8) PacketDirection.serverBound).Settled := ⟨rfl, Nat.zero_le _⟩
  obtain ⟨r', -, ran⟩ := readRawUntypedPacket_of_holdsFrame Zlib.identity settled (holdsFrame_plain [0x80] [])
    (by decide) (by decide)
  exact ⟨settled, r', ran, (read_errors_classified Transport.stream Zlib.identity settled).1 _ _ ran⟩

end CraftReader

end CraftIo
