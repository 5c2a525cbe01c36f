import CraftIo.Stream.Channel
import CraftIo.Stream.Queue

/-! # What the cap and the threshold decide

`set_max_packet_size` changes two checks of a read and nothing else. The cap is read twice,
against the length prefix in `read_raw_inner` and against a compressed frame's `data_len` in
`read_untyped_packet_in_buf`, and both times only to reject: under a higher cap a read differs
only where the lower cap rejects the frame with `PacketTooLarge`
(`CraftIo.FrameReader.readFrame_raised`). So raising the cap changes nothing a session returns as
long as the lower cap rejects no frame (`CraftIo.CraftReader.raised_cap_changes_only_rejections`).
-/

namespace CraftIo

/-- Under a higher cap `packet_buf` does the same, unless the lower cap rejects `data_len`. -/
theorem packetBuf_raised (z : Zlib) (threshold : Option (BitVec 32)) {maxPacketSize cap : Nat}
    (raised : maxPacketSize ≤ cap) (buf : List UInt8) :
    (∃ size, ∀ decompressBuf, (packetBuf z threshold maxPacketSize decompressBuf buf).1 =
        .error (.packetTooLarge size maxPacketSize)) ∨
      ∀ decompressBuf, packetBuf z threshold cap decompressBuf buf =
        packetBuf z threshold maxPacketSize decompressBuf buf := by
  cases threshold with
  | none => exact .inr fun _ => rfl
  | some t =>
    simp only [packetBuf]
    cases VarInt.mcDeserialize buf with
    | error err => exact .inr fun _ => rfl
    | ok result =>
      obtain ⟨dataLen, rest⟩ := result
      by_cases zero : asUsize dataLen = 0
      · exact .inr fun _ => by simp [zero]
      · by_cases rejected : asUsize dataLen ≥ maxPacketSize
        · exact .inl ⟨asUsize dataLen, fun _ => by simp [zero, rejected]⟩
        · exact .inr fun _ => by simp [zero, rejected, show ¬asUsize dataLen ≥ cap by omega]

/-- The errors with which a cap rejects a frame. -/
def TooLarge (e : ReadError) : Prop :=
  ∃ size maxSize, e = .packetTooLarge size maxSize

namespace FrameReader

variable {σ : Type} (T : Transport σ) (z : Zlib)

/-- `f₂` is `f₁` with its cap raised to `cap`. -/
def Raised (cap : Nat) (f₁ f₂ : FrameReader σ) : Prop :=
  f₁.maxPacketSize ≤ cap ∧ f₂ = { f₁ with maxPacketSize := cap }

theorem Raised.channelBlind (cap : Nat) : ChannelBlind (@Raised σ cap) where
  inner_eq := by rintro f₁ _ ⟨-, rfl⟩; rfl
  encryption_eq := by rintro f₁ _ ⟨-, rfl⟩; rfl
  moveInner := by rintro f₁ _ inner ⟨below, rfl⟩; exact ⟨below, rfl⟩
  moveEncryption := by rintro f₁ _ encryption ⟨below, rfl⟩; exact ⟨below, rfl⟩

/-- Under a higher cap the same frame is pulled, unless the lower cap rejects its length. -/
theorem pullFrame_raised {cap : Nat} {f₁ f₂ : FrameReader σ} (raised : Raised cap f₁ f₂) :
    Outcome.RelExcept TooLarge (Raised cap) (pullFrame T f₁) (pullFrame T f₂) := by
  simp only [pullFrame, ReadM.bind_apply]
  refine (Outcome.RelExcept.rel (readLength_rel T (Raised.channelBlind cap) 0 0 raised)).bind
    (fun _ _ kept => kept) fun len g₁ g₂ _ raised₁ => ?_
  obtain ⟨below, rfl⟩ := raised₁
  simp only [ReadM.bind_apply, ReadM.get_apply, Outcome.ok_bind]
  by_cases rejected : asUsize len > g₁.maxPacketSize
  · rw [if_pos rejected]
    exact .excused ⟨_, _, rfl⟩
  · rw [if_neg rejected, if_neg (show ¬asUsize len > cap by omega)]
    exact .rel (pullBody_rel T (Raised.channelBlind cap) _ ⟨below, rfl⟩)

/-- Under a higher cap a frame decodes the same, unless the lower cap rejects its `data_len`. -/
theorem decodeFrame_raised (payload : List UInt8) {cap : Nat} {f₁ f₂ : FrameReader σ}
    (raised : Raised cap f₁ f₂) :
    Outcome.RelExcept TooLarge (Raised cap) (decodeFrame z payload f₁) (decodeFrame z payload f₂) := by
  obtain ⟨below, rfl⟩ := raised
  rw [decodeFrame_eq, decodeFrame_eq]
  dsimp only [frameResult]
  rcases packetBuf_raised z f₁.compressionThreshold below payload with ⟨size, rejected⟩ | same
  · rw [rejected]
    exact .excused ⟨_, _, rfl⟩
  · simp only [same]
    split
    · exact .rel (.ok ⟨below, rfl⟩)
    · exact .rel (.err ⟨below, rfl⟩)

/-- **Under a higher cap a read is the same, unless the lower cap rejects the frame.** -/
theorem readFrame_raised {cap : Nat} {f₁ f₂ : FrameReader σ} (raised : Raised cap f₁ f₂) :
    Outcome.RelExcept TooLarge (Raised cap) (readFrame T z f₁) (readFrame T z f₂) := by
  show Outcome.RelExcept _ _ ((pullFrame T f₁).bind fun body s => (decrypt body s).bind (decodeFrame z))
    ((pullFrame T f₂).bind fun body s => (decrypt body s).bind (decodeFrame z))
  refine (pullFrame_raised T raised).bind (fun _ _ kept => kept) fun body g₁ g₂ _ raised₁ => ?_
  exact (Outcome.RelExcept.rel (decrypt_rel (Raised.channelBlind cap) body raised₁)).bind
    (fun _ _ kept => kept) fun payload _ _ _ raised₂ => decodeFrame_raised z payload raised₂

end FrameReader

namespace CraftReader

variable (z : Zlib)

/-- **The cap only rejects.** On a settled reader over the stream, after `set_max_packet_size`
raises the cap, every session of arrivals and calls returns what it returns under the lower cap,
as long as it rejects no frame there with `PacketTooLarge`: the cap admits or rejects a frame
and has no other effect. -/
theorem raised_cap_changes_only_rejections {r r' : CraftReader (List UInt8)} (settled : r.Settled) {cap : Nat}
    (set : r.setMaxPacketSize cap = .ok r') (raised : r.maxPacketSize ≤ cap) (events : List Event)
    (admitted : ∀ size maxSize,
      some (.error (.packetTooLarge size maxSize)) ∉ run (readRawUntypedPacket Transport.stream z) events r) :
    run (readRawUntypedPacket Transport.stream z) events r' =
      run (readRawUntypedPacket Transport.stream z) events r := by
  unfold setMaxPacketSize at set
  split_ifs at set
  cases set
  have settled' : ({ r with maxPacketSize := cap } : CraftReader (List UInt8)).Settled :=
    ⟨settled.rawReady_eq, settled.rawOffset_le⟩
  rw [run_readRawUntypedPacket z events settled] at admitted
  rw [run_readRawUntypedPacket z events settled', run_readRawUntypedPacket z events settled]
  exact FrameReader.run_relExcept z (FrameReader.Raised.channelBlind cap)
    (fun raised => FrameReader.readFrame_raised _ z raised) events ⟨raised, rfl⟩
    fun _ ⟨size, maxSize, tooLarge⟩ => tooLarge ▸ admitted size maxSize

theorem raised_cap_changes_only_rejections_login :
    (wrap ([] : List UInt8) PacketDirection.serverBound).Settled ∧
      (wrap ([] : List UInt8) PacketDirection.serverBound).setMaxPacketSize (2 * deafultMaxPacketSize) =
        .ok { wrap ([] : List UInt8) PacketDirection.serverBound with maxPacketSize := 2 * deafultMaxPacketSize } ∧
      (wrap ([] : List UInt8) PacketDirection.serverBound).maxPacketSize ≤ 2 * deafultMaxPacketSize ∧
      (∀ size maxSize, some (.error (.packetTooLarge size maxSize)) ∉
        run (readRawUntypedPacket Transport.stream Zlib.identity)
          ([Delivery.send [.plain 0 [0xAA]], .call, .call].map (·.toEvent Zlib.identity))
          (wrap [] PacketDirection.serverBound)) ∧
      run (readRawUntypedPacket Transport.stream Zlib.identity)
          ([Delivery.send [.plain 0 [0xAA]], .call, .call].map (·.toEvent Zlib.identity))
          { wrap ([] : List UInt8) PacketDirection.serverBound with maxPacketSize := 2 * deafultMaxPacketSize } =
        run (readRawUntypedPacket Transport.stream Zlib.identity)
          ([Delivery.send [.plain 0 [0xAA]], .call, .call].map (·.toEvent Zlib.identity))
          (wrap [] PacketDirection.serverBound) := by
  have settled : (wrap ([] : List UInt8) PacketDirection.serverBound).Settled := ⟨rfl, Nat.zero_le _⟩
  have set : (wrap ([] : List UInt8) PacketDirection.serverBound).setMaxPacketSize (2 * deafultMaxPacketSize) =
      .ok { wrap ([] : List UInt8) PacketDirection.serverBound with maxPacketSize := 2 * deafultMaxPacketSize } := by
    simp [setMaxPacketSize, deafultMaxPacketSize]
  have raised : (wrap ([] : List UInt8) PacketDirection.serverBound).maxPacketSize ≤ 2 * deafultMaxPacketSize := by
    show deafultMaxPacketSize ≤ 2 * deafultMaxPacketSize
    omega
  have fit : ∀ w ∈ ([] : List WireFrame) ++ [Delivery.send [.plain 0 [0xAA]], .call, .call].flatMap Delivery.frames,
      w.Fits Zlib.identity (wrap ([] : List UInt8) PacketDirection.serverBound).frames.compressionThreshold
        (wrap ([] : List UInt8) PacketDirection.serverBound).frames.maxPacketSize := by
    intro w mem
    simp only [List.nil_append, List.flatMap_cons, Delivery.frames, List.flatMap_nil, List.append_nil,
      List.mem_singleton] at mem
    subst mem
    exact ⟨by decide, by decide, rfl⟩
  have admitted : ∀ size maxSize, some (.error (.packetTooLarge size maxSize)) ∉
      run (readRawUntypedPacket Transport.stream Zlib.identity)
        ([Delivery.send [.plain 0 [0xAA]], .call, .call].map (·.toEvent Zlib.identity))
        (wrap [] PacketDirection.serverBound) := by
    rw [run_readRawUntypedPacket Zlib.identity _ settled, FrameReader.run_deliveries Zlib.identity _ [] _ rfl fit rfl]
    simp [queueRun]
  exact ⟨settled, set, raised, admitted,
    raised_cap_changes_only_rejections Zlib.identity settled set raised _ admitted⟩

end CraftReader

end CraftIo
