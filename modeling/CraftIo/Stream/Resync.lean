import CraftIo.Stream.Frames

/-! # Errors inside a frame do not break the stream

A read takes in a whole frame before it parses anything of it: the length prefix, the
`outer_len` bytes, and their decryption. So whatever the frame's contents make the read return,
a packet or an error, the reader ends right after the frame
(`CraftIo.CraftReader.readRawUntypedPacket_of_holdsFrame`), and the next call starts at the next
frame. Over a stream of frames (`CraftIo.HoldsFrames`), plain or encrypted as one CFB8 stream
(`CraftIo.holdsFrames_encrypt`), a session of `read_raw_untyped_packet`, `read_raw_packet` or
`read_packet` returns each frame's own result, in order
(`CraftIo.CraftReader.frame_errors_resynchronize`).
-/

namespace CraftIo

/-- The stream `available` holds the frames `payloads`, as the cipher `cipher` decrypts them, and
then `rest`; decrypting the frames takes the cipher to `cipher'`. -/
inductive HoldsFrames : Option CraftCipher → List UInt8 → List (List UInt8) → List UInt8 →
    Option CraftCipher → Prop
  | nil (cipher : Option CraftCipher) (rest : List UInt8) : HoldsFrames cipher rest [] rest cipher
  | cons {cipher cipher₁ cipher' : Option CraftCipher} {available mid rest payload : List UInt8}
      {payloads : List (List UInt8)} :
      HoldsFrame cipher available payload mid cipher₁ → HoldsFrames cipher₁ mid payloads rest cipher' →
      HoldsFrames cipher available (payload :: payloads) rest cipher'

/-- A frame on the wire: the canonical length prefix, then the frame's bytes. -/
def frameBytes (payload : List UInt8) : List UInt8 :=
  VarInt.mcSerialize (BitVec.ofNat 32 payload.length) ++ payload

/-- Without a cipher a stream holds the frames that are on it as they are. -/
theorem holdsFrames_plain (payloads : List (List UInt8)) (rest : List UInt8) :
    HoldsFrames .none ((payloads.map frameBytes).flatten ++ rest) payloads rest .none := by
  induction payloads with
  | nil => exact .nil _ _
  | cons payload payloads ih =>
    rw [List.map_cons, List.flatten_cons, List.append_assoc]
    exact .cons (holdsFrame_plain payload _) ih

/-- A decryptor that starts from an encryptor's register decrypts what that encryptor made. -/
theorem handleDecryption_encrypt (c : Cfb8) (plain : List UInt8) :
    handleDecryption (some ⟨.decrypt c⟩) (c.encrypt plain).1 = .ok (plain, some ⟨.decrypt (c.encrypt plain).2⟩) := by
  simp [handleDecryption, CraftCipher.decrypt, Cfb8.decrypt_encrypt, Except.map]

/-- An encrypted frame holds its bytes for the decryptor that starts from the encryptor's
register. -/
theorem holdsFrame_encrypt (c : Cfb8) (payload rest : List UInt8) :
    HoldsFrame (some ⟨.decrypt c⟩) (c.encrypt (frameBytes payload ++ rest)).1 payload
      ((c.encrypt (frameBytes payload)).2.encrypt rest).1 (some ⟨.decrypt (c.encrypt (frameBytes payload)).2⟩) := by
  have header := handleDecryption_encrypt c (VarInt.mcSerialize (BitVec.ofNat 32 payload.length))
  have body := handleDecryption_encrypt
    (c.encrypt (VarInt.mcSerialize (BitVec.ofNat 32 payload.length))).2 payload
  refine ⟨_, ((c.encrypt (VarInt.mcSerialize (BitVec.ofNat 32 payload.length))).2.encrypt payload).1, _, ?_,
    header, ?_⟩
  · simp only [frameBytes, Cfb8.encrypt_append, List.append_assoc]
  · simpa only [frameBytes, Cfb8.encrypt_append] using body

/-- **Frames encrypted as one CFB8 stream.** A stream of frames encrypted by one encryptor holds
the frames for the decryptor that starts from the encryptor's register, and decrypting them
takes the decryptor to where encrypting them took the encryptor. -/
theorem holdsFrames_encrypt (payloads : List (List UInt8)) (rest : List UInt8) (c : Cfb8) :
    HoldsFrames (some ⟨.decrypt c⟩) (c.encrypt ((payloads.map frameBytes).flatten ++ rest)).1 payloads
      ((c.encrypt (payloads.map frameBytes).flatten).2.encrypt rest).1
      (some ⟨.decrypt (c.encrypt (payloads.map frameBytes).flatten).2⟩) := by
  induction payloads generalizing c with
  | nil => simpa using .nil _ _
  | cons payload payloads ih =>
    have frame := holdsFrame_encrypt c payload ((payloads.map frameBytes).flatten ++ rest)
    simp only [Cfb8.encrypt_append c (frameBytes payload)] at frame
    simp only [List.map_cons, List.flatten_cons, List.append_assoc, Cfb8.encrypt_append c (frameBytes payload)]
    exact .cons frame (ih _)

namespace CraftReader

/-- What `read_raw_packet` makes of a decoded frame: `P::create`, a rejection as `PacketErr`. -/
def createResult {P : Type} (create : Id → List UInt8 → Except PacketErr P) (packet : Id × List UInt8) :
    Except ReadError P :=
  (create packet.1 packet.2).mapError .packetErr

/-- What `read_packet` makes of a decoded frame: `P::create`, then `deserialize`, a failure of
either as `PacketErr`. -/
def deserializeResult {P Q : Type} (create : Id → List UInt8 → Except PacketErr P)
    (deserialize : P → Except PacketErr Q) (packet : Id × List UInt8) : Except ReadError Q :=
  (createResult create packet).bind fun raw => (deserialize raw).mapError .packetErr

variable {σ : Type} (T : Transport σ) (z : Zlib)

/-- `read_raw_packet` is `read_raw_untyped_packet` followed by `CraftIo.CraftReader.createResult`. -/
theorem readRawPacket_eq_bind {P : Type} (create : Id → List UInt8 → Except PacketErr P) :
    readRawPacket T z create =
      readRawUntypedPacket T z >>= fun packet => liftResult (createResult create packet) := by
  funext r
  simp only [readRawPacket_eq, ReadM.bind_apply]
  cases readRawUntypedPacket T z r with
  | ok packet r' =>
    simp only [Outcome.ok_bind, createResult]
    cases create packet.1 packet.2 <;> rfl
  | _ => rfl

/-- `read_packet` is `read_raw_untyped_packet` followed by
`CraftIo.CraftReader.deserializeResult`. -/
theorem readPacket_eq_bind {P Q : Type} (create : Id → List UInt8 → Except PacketErr P)
    (deserialize : P → Except PacketErr Q) :
    readPacket T z create deserialize =
      readRawUntypedPacket T z >>= fun packet => liftResult (deserializeResult create deserialize packet) := by
  funext r
  simp only [readPacket, deserializeRawPacket, readRawPacket_eq_bind, ReadM.bind_apply]
  cases readRawUntypedPacket T z r with
  | ok packet r' =>
    simp only [Outcome.ok_bind, deserializeResult]
    cases createResult create packet with
    | ok raw =>
      simp only [liftResult, ReadM.pure_apply, Outcome.ok_bind, Except.bind]
      cases deserialize raw <;> rfl
    | error e => rfl
  | _ => rfl

/-- **A read that resynchronizes.** Every call on a settled reader over a frame ends right after
the frame, with the decryptor past exactly its bytes, and returns `result` of the frame's bytes
under the reader's configuration, a value or an error alike; and from `r` over the frames
`payloads` a session of calls returns each frame's result, in order. -/
structure Resyncs {β : Type} (call : ReadM (CraftReader (List UInt8)) β)
    (result : Option (BitVec 32) → Nat → State → PacketDirection → List UInt8 → Except ReadError β)
    (r : CraftReader (List UInt8)) (payloads : List (List UInt8)) : Prop where
  step : ∀ r₀ : CraftReader (List UInt8), r₀.Settled → ∀ payload rest cipher',
    HoldsFrame r₀.encryption r₀.inner payload rest cipher' → payload.length ≤ r₀.maxPacketSize →
      payload.length < 2 ^ 31 →
      ∃ r', AfterFrame r₀ rest cipher' r' ∧
        call r₀ =
          match result r₀.compressionThreshold r₀.maxPacketSize r₀.state r₀.direction payload with
          | .ok a => .ok a r'
          | .error e => .err e r'
  session : run call (List.replicate payloads.length .call) r =
    payloads.map fun payload =>
      some ((result r.compressionThreshold r.maxPacketSize r.state r.direction payload).map some)

section Bind

variable {β : Type} (g : Id × List UInt8 → Except ReadError β)

/-- A read that decodes a frame and hands its packet to `g` ends right after the frame, whatever
it returns. -/
theorem bind_liftResult_of_holdsFrame {r : CraftReader (List UInt8)} (settled : r.Settled)
    {payload rest : List UInt8} {cipher' : Option CraftCipher}
    (holds : HoldsFrame r.encryption r.inner payload rest cipher')
    (capped : payload.length ≤ r.maxPacketSize) (small : payload.length < 2 ^ 31) :
    ∃ r', AfterFrame r rest cipher' r' ∧
      (readRawUntypedPacket Transport.stream z >>= fun packet => liftResult (g packet)) r =
        match (frameResult z r.compressionThreshold r.maxPacketSize r.state r.direction payload).bind g with
        | .ok a => .ok a r'
        | .error e => .err e r' := by
  obtain ⟨r', after, ran⟩ := readRawUntypedPacket_of_holdsFrame z settled holds capped small
  refine ⟨r', after, ?_⟩
  rw [ReadM.bind_apply, ran]
  cases frameResult z r.compressionThreshold r.maxPacketSize r.state r.direction payload with
  | ok packet =>
    change liftResult (g packet) r' = match g packet with | .ok a => .ok a r' | .error e => .err e r'
    cases g packet <;> rfl
  | error e => rfl

/-- A session of such reads over a stream of frames returns each frame's result, in order. -/
theorem run_bind_liftResult {rest : List UInt8} {cipher' : Option CraftCipher} :
    ∀ {payloads : List (List UInt8)} {r : CraftReader (List UInt8)}, r.Settled →
      HoldsFrames r.encryption r.inner payloads rest cipher' →
      (∀ payload ∈ payloads, payload.length ≤ r.maxPacketSize ∧ payload.length < 2 ^ 31) →
      run (readRawUntypedPacket Transport.stream z >>= fun packet => liftResult (g packet))
          (List.replicate payloads.length .call) r =
        payloads.map fun payload =>
          some (((frameResult z r.compressionThreshold r.maxPacketSize r.state r.direction payload).bind g).map some)
  | [], _, _, _, _ => rfl
  | payload :: payloads, r, settled, .cons frame more, fit => by
    obtain ⟨capped, small⟩ := fit payload (List.mem_cons_self _ _)
    obtain ⟨r', after, ran⟩ := bind_liftResult_of_holdsFrame z g settled frame capped small
    have tail := run_bind_liftResult after.settled (by rw [after.encryption_eq, after.inner_eq]; exact more)
      (fun p mem => by rw [after.maxPacketSize_eq]; exact fit p (List.mem_cons_of_mem _ mem))
    rw [after.compressionThreshold_eq, after.maxPacketSize_eq, after.state_eq, after.direction_eq] at tail
    rw [List.length_cons, List.replicate_succ, run, ran, List.map_cons]
    cases (frameResult z r.compressionThreshold r.maxPacketSize r.state r.direction payload).bind g <;>
      exact congrArg _ tail

/-- Reads that decode a frame and hand its packet to `g` resynchronize. -/
theorem resyncs_bind {r : CraftReader (List UInt8)} (settled : r.Settled) {payloads : List (List UInt8)}
    {rest : List UInt8} {cipher' : Option CraftCipher} (holds : HoldsFrames r.encryption r.inner payloads rest cipher')
    (fit : ∀ payload ∈ payloads, payload.length ≤ r.maxPacketSize ∧ payload.length < 2 ^ 31) :
    Resyncs (readRawUntypedPacket Transport.stream z >>= fun packet => liftResult (g packet))
      (fun threshold maxPacketSize state direction payload =>
        (frameResult z threshold maxPacketSize state direction payload).bind g) r payloads :=
  ⟨fun _ settled _ _ _ holds capped small => bind_liftResult_of_holdsFrame z g settled holds capped small,
    run_bind_liftResult z g settled holds fit⟩

end Bind

/-- **Frame-level errors resynchronize.** From a settled reader over a stream of frames, each
with a canonical `outer_len` of at most `max_packet_size`, in plain or decrypted by the reader's
cipher: every call of `read_raw_untyped_packet`, `read_raw_packet` or `read_packet` that reads a
frame ends right after it, with the decryptor past exactly its bytes, whether it returns the
frame's packet or fails on the frame's contents (its `data_len`, its zlib stream, its id VarInt,
`P::create` or `deserialize`); and a session of calls returns each frame's own result, in
order, so a failing frame changes no other frame's result. -/
theorem frame_errors_resynchronize {r : CraftReader (List UInt8)} (settled : r.Settled)
    {payloads : List (List UInt8)} {rest : List UInt8} {cipher' : Option CraftCipher}
    (holds : HoldsFrames r.encryption r.inner payloads rest cipher')
    (fit : ∀ payload ∈ payloads, payload.length ≤ r.maxPacketSize ∧ payload.length < 2 ^ 31)
    {P Q : Type} (create : Id → List UInt8 → Except PacketErr P) (deserialize : P → Except PacketErr Q) :
    Resyncs (readRawUntypedPacket Transport.stream z) (frameResult z) r payloads ∧
      Resyncs (readRawPacket Transport.stream z create)
        (fun threshold maxPacketSize state direction payload =>
          (frameResult z threshold maxPacketSize state direction payload).bind (createResult create)) r payloads ∧
      Resyncs (readPacket Transport.stream z create deserialize)
        (fun threshold maxPacketSize state direction payload =>
          (frameResult z threshold maxPacketSize state direction payload).bind
            (deserializeResult create deserialize)) r payloads := by
  have untyped := resyncs_bind z Except.ok settled holds fit
  have plain : (fun threshold maxPacketSize state direction payload =>
      (frameResult z threshold maxPacketSize state direction payload).bind Except.ok) = frameResult z := by
    funext threshold maxPacketSize state direction payload
    cases frameResult z threshold maxPacketSize state direction payload <;> rfl
  rw [plain, show (readRawUntypedPacket Transport.stream z >>= fun packet => liftResult (Except.ok packet)) =
    readRawUntypedPacket Transport.stream z from ReadM.bind_pure _] at untyped
  rw [readRawPacket_eq_bind, readPacket_eq_bind]
  exact ⟨untyped, resyncs_bind z _ settled holds fit, resyncs_bind z _ settled holds fit⟩

theorem frame_errors_resynchronize_bad_id :
    (wrapWithState [0x01, 0x80, 0x02, 0x00, 0xAA] PacketDirection.clientBound State.play).Settled ∧
      HoldsFrames (wrapWithState [0x01, 0x80, 0x02, 0x00, 0xAA] PacketDirection.clientBound State.play).encryption
        (wrapWithState [0x01, 0x80, 0x02, 0x00, 0xAA] PacketDirection.clientBound State.play).inner
        [[0x80], [0x00, 0xAA]] [] .none ∧
      (∀ payload ∈ [[0x80], [0x00, 0xAA]], payload.length ≤
        (wrapWithState [0x01, 0x80, 0x02, 0x00, 0xAA] PacketDirection.clientBound State.play).maxPacketSize ∧
          payload.length < 2 ^ 31) ∧
      (Resyncs (readRawUntypedPacket Transport.stream Zlib.identity) (frameResult Zlib.identity)
          (wrapWithState [0x01, 0x80, 0x02, 0x00, 0xAA] PacketDirection.clientBound State.play) [[0x80], [0x00, 0xAA]] ∧
        Resyncs (readRawPacket Transport.stream Zlib.identity
            (fun id body => .ok (id, body) : Id → List UInt8 → Except PacketErr (Id × List UInt8)))
          (fun threshold maxPacketSize state direction payload =>
            (frameResult Zlib.identity threshold maxPacketSize state direction payload).bind
              (createResult (fun id body => .ok (id, body) : Id → List UInt8 → Except PacketErr (Id × List UInt8))))
          (wrapWithState [0x01, 0x80, 0x02, 0x00, 0xAA] PacketDirection.clientBound State.play) [[0x80], [0x00, 0xAA]] ∧
        Resyncs (readPacket Transport.stream Zlib.identity
            (fun id body => .ok (id, body) : Id → List UInt8 → Except PacketErr (Id × List UInt8))
            (Except.ok : Id × List UInt8 → Except PacketErr (Id × List UInt8)))
          (fun threshold maxPacketSize state direction payload =>
            (frameResult Zlib.identity threshold maxPacketSize state direction payload).bind
              (deserializeResult (fun id body => .ok (id, body) : Id → List UInt8 → Except PacketErr (Id × List UInt8))
                (Except.ok : Id × List UInt8 → Except PacketErr (Id × List UInt8))))
          (wrapWithState [0x01, 0x80, 0x02, 0x00, 0xAA] PacketDirection.clientBound State.play) [[0x80], [0x00, 0xAA]]) :=
  ⟨⟨rfl, Nat.zero_le _⟩, holdsFrames_plain [[0x80], [0x00, 0xAA]] [], by decide,
    frame_errors_resynchronize Zlib.identity ⟨rfl, Nat.zero_le _⟩ (holdsFrames_plain [[0x80], [0x00, 0xAA]] [])
      (by decide) _ _⟩

end CraftReader

end CraftIo
