import CraftIo.Stream.Queue
import CraftIo.Session.Keys

/-! # Configuration changes take effect at the next frame

A protocol changes the reader's configuration between reads: `set_state` after a login
succeeds, `set_compression_threshold` and `set_max_packet_size` after the peer announces them,
and `enable_encryption` once both sides share a key. The peer switches its own side to
encryption right after its last plaintext frame, and may send encrypted frames before the
reader has read that frame and enabled its decryptor. The reader pulls nothing beyond the frame
it returns, so a change made between calls applies exactly to the frames read after it, and a
late `enable_encryption` still finds the first encrypted byte at the head of the stream.

A caller's script of whole-frame sends, reads, setters and the two sides' switches
(`CraftIo.Action`, run by `CraftIo.CraftReader.runActions`) returns what a queue of frames
returns, each packet tagged with the state set last (`CraftIo.protocolRun`), as long as it keeps
to the protocol (`CraftIo.Suited`): every frame suits the compression threshold and the cap in
force when it is read, and the reader enables encryption once, with the peer's 16-byte key and
IV, after reading every frame sent before the peer switched and before reading one sent after
(`CraftIo.CraftReader.settings_apply_at_next_frame`). How far the two sides have switched is a
`CraftIo.Switch`, and what the stream holds at each point is `CraftIo.CraftReader.Pending`, kept
by one lemma per action.
-/

namespace CraftIo

/-- What happens between two reads, at frame granularity: the peer sends whole frames or
switches its side to encryption, the reader is called, or the caller changes the reader's
configuration. -/
inductive Action
  | send (frames : List WireFrame)
  | call
  | setState (next : State)
  | setCompressionThreshold (threshold : Option (BitVec 32))
  | setMaxPacketSize (maxSize : Nat)
  /-- The peer encrypts what it sends from here on, with `CraftCipher::new(key, iv, true)`. -/
  | peerEncrypts (key iv : List UInt8)
  /-- The reader's `enable_encryption(key, iv)`. -/
  | enableEncryption (key iv : List UInt8)

/-- How far the two sides have switched to encryption. -/
inductive Switch
  /-- Neither side encrypts. -/
  | plain
  /-- The peer encrypts under `key` and `iv`, and the first `held` queued frames were sent
  before it switched; the reader does not decrypt yet. -/
  | peerAhead (key iv : List UInt8) (held : Nat)
  /-- Both sides encrypt, in step. -/
  | both

namespace Switch

/-- The frame at the head of the queue is one the reader can read: not one the peer encrypted
while the reader does not decrypt yet. -/
def Readable : Switch → Prop
  | peerAhead _ _ held => 0 < held
  | _ => True

/-- The switch after the reader has read the frame at the head of the queue. -/
def read : Switch → Switch
  | peerAhead key iv (held + 1) => peerAhead key iv held
  | switch => switch

end Switch

/-- The bytes the frames take on the wire before any encryption. -/
def wireOf (z : Zlib) (frames : List WireFrame) : List UInt8 :=
  (frames.map (·.encode z)).flatten

@[simp] theorem wireOf_nil (z : Zlib) : wireOf z [] = [] := rfl

theorem wireOf_cons (z : Zlib) (w : WireFrame) (frames : List WireFrame) :
    wireOf z (w :: frames) = frameBytes (w.payload z) ++ wireOf z frames := rfl

@[simp] theorem wireOf_append (z : Zlib) (first second : List WireFrame) :
    wireOf z (first ++ second) = wireOf z first ++ wireOf z second := by
  simp [wireOf]

/-- The peer sending a chunk: the bytes on the wire, encrypted by its encryptor if it has one,
and the encryptor after. -/
def sealChunk : Option Cfb8 → List UInt8 → List UInt8 × Option Cfb8
  | none, bytes => (bytes, none)
  | some c, bytes => ((c.encrypt bytes).1, some (c.encrypt bytes).2)

/-- **The protocol as a queue of frames.** Frames sent join the tail; a call returns the packet
of the frame at the head, tagged with the state set last, or `Ok(None)` on an empty queue; a
cap of at most five bytes is the `debug_assert!` of `set_max_packet_size`; and the other
setters and the switches change nothing a read returns. -/
def protocolRun (direction : PacketDirection) :
    State → List Action → List WireFrame → List (Option (Except ReadError (Option (Id × List UInt8))))
  | _, [], _ => []
  | state, .send frames :: actions, queue => protocolRun direction state actions (queue ++ frames)
  | state, .call :: actions, [] => some (.ok none) :: protocolRun direction state actions []
  | state, .call :: actions, w :: queue =>
    some (.ok (some (⟨w.id, state, direction⟩, w.body))) :: protocolRun direction state actions queue
  | _, .setState next :: actions, queue => protocolRun direction next actions queue
  | state, .setCompressionThreshold _ :: actions, queue => protocolRun direction state actions queue
  | state, .setMaxPacketSize maxSize :: actions, queue =>
    if maxSize > 5 then protocolRun direction state actions queue else [.none]
  | state, .peerEncrypts _ _ :: actions, queue => protocolRun direction state actions queue
  | state, .enableEncryption _ _ :: actions, queue => protocolRun direction state actions queue

/-- The script keeps to the protocol: every frame it reads suits the compression threshold and
the cap in force when it is read; the peer switches once; and the reader enables encryption
once, with the peer's key and IV of 16 bytes, after reading every frame sent before the peer
switched and before reading one sent after. -/
def Suited (z : Zlib) : Option (BitVec 32) → Nat → Switch → List Action → List WireFrame → Prop
  | _, _, _, [], _ => True
  | threshold, cap, switch, .send frames :: actions, queue =>
    Suited z threshold cap switch actions (queue ++ frames)
  | threshold, cap, switch, .call :: actions, [] => Suited z threshold cap switch actions []
  | threshold, cap, switch, .call :: actions, w :: queue =>
    switch.Readable ∧ w.Fits z threshold cap ∧ Suited z threshold cap switch.read actions queue
  | threshold, cap, switch, .setState _ :: actions, queue => Suited z threshold cap switch actions queue
  | _, cap, switch, .setCompressionThreshold threshold :: actions, queue =>
    Suited z threshold cap switch actions queue
  | threshold, _, switch, .setMaxPacketSize cap :: actions, queue =>
    Suited z threshold cap switch actions queue
  | threshold, cap, switch, .peerEncrypts key iv :: actions, queue =>
    switch = .plain ∧ Suited z threshold cap (.peerAhead key iv queue.length) actions queue
  | threshold, cap, switch, .enableEncryption key iv :: actions, queue =>
    switch = .peerAhead key iv 0 ∧ key.length = 16 ∧ iv.length = 16 ∧
      Suited z threshold cap .both actions queue

namespace CraftReader

variable (z : Zlib) (aes : Block → Block → Block)

/-- The script run on the buffered reader over a stream, with the peer's encryptor `sender`:
frames sent arrive as one chunk, sealed by the peer; the peer's switch gives it the encryptor
`CraftCipher::new(key, iv, true)`; a call is `read_raw_untyped_packet`; and the setters and
`enable_encryption` are the reader's own, `set_max_packet_size` panicking on its
`debug_assert!` and the script stopping where `enable_encryption` fails. -/
def runActions : List Action → Option Cfb8 → CraftReader (List UInt8) →
    List (Option (Except ReadError (Option (Id × List UInt8))))
  | [], _, _ => []
  | .send frames :: actions, sender, r =>
    runActions actions (sealChunk sender (wireOf z frames)).2
      { r with inner := r.inner ++ (sealChunk sender (wireOf z frames)).1 }
  | .call :: actions, sender, r =>
    match readRawUntypedPacket Transport.stream z r with
    | .ok a r' => some (.ok (some a)) :: runActions actions sender r'
    | .none r' => some (.ok .none) :: runActions actions sender r'
    | .err e r' => some (.error e) :: runActions actions sender r'
    | .panic _ => [.none]
  | .setState next :: actions, sender, r => runActions actions sender (r.setState next)
  | .setCompressionThreshold threshold :: actions, sender, r =>
    runActions actions sender (r.setCompressionThreshold threshold)
  | .setMaxPacketSize maxSize :: actions, sender, r =>
    match r.setMaxPacketSize maxSize with
    | .ok r' => runActions actions sender r'
    | .error _ => [.none]
  | .peerEncrypts key iv :: actions, _, r =>
    runActions actions (some ⟨aes (blockOf key), blockOf iv⟩) r
  | .enableEncryption key iv :: actions, sender, r =>
    match r.enableEncryption aes key iv with
    | .ok r' => runActions actions sender r'
    | .error _ => []

/-- The reader's stream holds the queued frames as the peer sealed them. Before the peer
switches they are on the stream as they are; while only the peer has switched, the first `held`
are as they are and the rest encrypted from the register `CraftCipher::new(key, iv, true)`
starts at; once both have switched, all are encrypted from a register at which the reader's
decryptor stands. The peer's encryptor stands past them. -/
def Pending : Switch → Option Cfb8 → CraftReader (List UInt8) → List WireFrame → Prop
  | .plain, sender, r, queue => sender = none ∧ r.encryption = none ∧ r.inner = wireOf z queue
  | .peerAhead key iv held, sender, r, queue => held ≤ queue.length ∧ r.encryption = none ∧
      r.inner = wireOf z (queue.take held) ++
        ((⟨aes (blockOf key), blockOf iv⟩ : Cfb8).encrypt (wireOf z (queue.drop held))).1 ∧
      sender = some ((⟨aes (blockOf key), blockOf iv⟩ : Cfb8).encrypt (wireOf z (queue.drop held))).2
  | .both, sender, r, queue => ∃ c : Cfb8, r.encryption = some ⟨.decrypt c⟩ ∧
      r.inner = (c.encrypt (wireOf z queue)).1 ∧ sender = some (c.encrypt (wireOf z queue)).2

variable {z aes}

/-- Only the stream and the decryptor matter to `Pending`. -/
theorem Pending.congr {switch : Switch} {sender : Option Cfb8} {r r' : CraftReader (List UInt8)}
    {queue : List WireFrame} (pending : Pending z aes switch sender r queue) (inner : r'.inner = r.inner)
    (encryption : r'.encryption = r.encryption) : Pending z aes switch sender r' queue := by
  cases switch with
  | plain => exact ⟨pending.1, encryption.trans pending.2.1, inner.trans pending.2.2⟩
  | peerAhead key iv held =>
    exact ⟨pending.1, encryption.trans pending.2.1, inner.trans pending.2.2.1, pending.2.2.2⟩
  | both =>
    obtain ⟨c, decrypts, stream, stands⟩ := pending
    exact ⟨c, encryption.trans decrypts, inner.trans stream, stands⟩

/-- Frames the peer sends join the queue. -/
theorem Pending.send {switch : Switch} {sender : Option Cfb8} {r : CraftReader (List UInt8)}
    {queue : List WireFrame} (pending : Pending z aes switch sender r queue) (frames : List WireFrame) :
    Pending z aes switch (sealChunk sender (wireOf z frames)).2
      { r with inner := r.inner ++ (sealChunk sender (wireOf z frames)).1 } (queue ++ frames) := by
  cases switch with
  | plain =>
    obtain ⟨rfl, plain, stream⟩ := pending
    exact ⟨rfl, plain, by simp [sealChunk, stream]⟩
  | peerAhead key iv held =>
    obtain ⟨held_le, plain, stream, rfl⟩ := pending
    refine ⟨by simp only [List.length_append]; omega, plain, ?_, ?_⟩ <;>
      simp [sealChunk, stream, List.take_append_of_le_length held_le, List.drop_append_of_le_length held_le,
        Cfb8.encrypt_append]
  | both =>
    obtain ⟨c, decrypts, stream, rfl⟩ := pending
    refine ⟨c, decrypts, ?_, ?_⟩ <;> simp [sealChunk, stream, Cfb8.encrypt_append]

/-- An empty queue leaves nothing on the stream. -/
theorem Pending.exhausted {switch : Switch} {sender : Option Cfb8} {r : CraftReader (List UInt8)}
    (pending : Pending z aes switch sender r []) : r.inner = [] := by
  cases switch with
  | plain => exact pending.2.2
  | peerAhead key iv held => simpa using pending.2.2.1
  | both =>
    obtain ⟨c, -, stream, -⟩ := pending
    simpa using stream

/-- The frame at the head of the queue, if the reader can read it, is on the stream for the
reader's decryptor, and the reader right after it has the rest of the queue pending. -/
theorem Pending.holdsFrame {switch : Switch} {sender : Option Cfb8} {r : CraftReader (List UInt8)}
    {w : WireFrame} {queue : List WireFrame} (pending : Pending z aes switch sender r (w :: queue))
    (readable : switch.Readable) :
    ∃ rest cipher', HoldsFrame r.encryption r.inner (w.payload z) rest cipher' ∧
      ∀ r' : CraftReader (List UInt8), r'.inner = rest → r'.encryption = cipher' →
        Pending z aes switch.read sender r' queue := by
  cases switch with
  | plain =>
    obtain ⟨rfl, plain, stream⟩ := pending
    refine ⟨wireOf z queue, none, ?_, fun r' inner encryption => ⟨rfl, encryption, inner⟩⟩
    rw [plain, stream, wireOf_cons]
    exact holdsFrame_plain _ _
  | peerAhead key iv held =>
    cases held with
    | zero => exact absurd readable (Nat.lt_irrefl 0)
    | succ held =>
      obtain ⟨held_le, plain, stream, rfl⟩ := pending
      refine ⟨_, none, ?_, fun r' inner encryption =>
        ⟨Nat.le_of_succ_le_succ held_le, encryption, inner, rfl⟩⟩
      rw [plain, stream, List.take_succ_cons, wireOf_cons, List.append_assoc]
      exact holdsFrame_plain _ _
  | both =>
    obtain ⟨c, decrypts, stream, rfl⟩ := pending
    refine ⟨((c.encrypt (frameBytes (w.payload z))).2.encrypt (wireOf z queue)).1,
      some ⟨.decrypt (c.encrypt (frameBytes (w.payload z))).2⟩, ?_,
      fun r' inner encryption => ⟨_, encryption, inner, ?_⟩⟩
    · rw [decrypts, stream, wireOf_cons]
      exact holdsFrame_encrypt c _ _
    · rw [wireOf_cons, Cfb8.encrypt_append]

/-- When the peer switches, every frame queued so far was sent before. -/
theorem Pending.peerEncrypts {sender : Option Cfb8} {r : CraftReader (List UInt8)} {queue : List WireFrame}
    (pending : Pending z aes .plain sender r queue) (key iv : List UInt8) :
    Pending z aes (.peerAhead key iv queue.length) (some ⟨aes (blockOf key), blockOf iv⟩) r queue := by
  obtain ⟨-, plain, stream⟩ := pending
  exact ⟨le_rfl, plain, by simp [stream], by simp⟩

variable (z aes)

/-- A call on a settled reader whose stream has nothing left answers `Ok(None)` and leaves the
reader settled, with its stream, decryptor and configuration as they were. -/
theorem readRawUntypedPacket_exhausted {r : CraftReader (List UInt8)} (settled : r.Settled)
    (exhausted : r.inner = []) :
    ∃ r', readRawUntypedPacket Transport.stream z r = .none r' ∧ AfterFrame r r.inner r.encryption r' := by
  have refines := readUntypedPacketInner_refines Transport.stream z settled
  rw [FrameReader.readFrame_nil z exhausted] at refines
  obtain ⟨r', returned, same, settled'⟩ : ∃ r', readUntypedPacketInner Transport.stream z r = .none r' ∧
      r'.frames = r.frames ∧ r'.Settled := by
    generalize readUntypedPacketInner Transport.stream z r = o at refines ⊢
    generalize r.frames = f at refines ⊢
    cases refines with
    | none settled' => exact ⟨_, rfl, rfl, settled'⟩
  exact ⟨r', returned, settled', congrArg FrameReader.inner same, congrArg FrameReader.encryption same,
    congrArg FrameReader.compressionThreshold same, congrArg FrameReader.maxPacketSize same,
    congrArg FrameReader.state same, congrArg FrameReader.direction same⟩

/-- **Configuration changes take effect at the next frame.** A settled reader whose stream holds
the queued frames as the peer sealed them runs any script of whole-frame sends, reads, setters
and switches to encryption as the queue of frames does: each frame's packet once, in order,
tagged with the state set last before the read, and `Ok(None)` exactly when no frame is waiting,
provided the script keeps to the protocol. -/
theorem settings_apply_at_next_frame :
    ∀ (actions : List Action) (queue : List WireFrame) (switch : Switch) (sender : Option Cfb8)
      (r : CraftReader (List UInt8)), r.Settled → Pending z aes switch sender r queue →
      Suited z r.compressionThreshold r.maxPacketSize switch actions queue →
      runActions z aes actions sender r = protocolRun r.direction r.state actions queue
  | [], _, _, _, _, _, _, _ => rfl
  | .send frames :: actions, queue, switch, sender, r, settled, pending, suited => by
    rw [runActions, protocolRun]
    exact settings_apply_at_next_frame actions (queue ++ frames) switch _ _
      ⟨settled.rawReady_eq, settled.rawOffset_le⟩ (pending.send frames) suited
  | .call :: actions, [], switch, sender, r, settled, pending, suited => by
    obtain ⟨r', called, after⟩ := readRawUntypedPacket_exhausted z settled pending.exhausted
    have kept := settings_apply_at_next_frame actions [] switch sender r' after.settled
      (pending.congr after.inner_eq after.encryption_eq)
      (by rw [after.maxPacketSize_eq, after.compressionThreshold_eq]; exact suited)
    rw [runActions, called, protocolRun, ← after.state_eq, ← after.direction_eq]
    exact congrArg _ kept
  | .call :: actions, w :: queue, switch, sender, r, settled, pending, suited => by
    obtain ⟨readable, fits, suited⟩ := suited
    obtain ⟨rest, cipher', holds, next⟩ := pending.holdsFrame readable
    obtain ⟨r', after, called⟩ := readRawUntypedPacket_of_holdsFrame z settled holds fits.1 fits.2.1
    have kept := settings_apply_at_next_frame actions queue switch.read sender r' after.settled
      (next r' after.inner_eq after.encryption_eq)
      (by rw [after.maxPacketSize_eq, after.compressionThreshold_eq]; exact suited)
    rw [runActions, called, frameResult_payload z _ _ fits, protocolRun, ← after.state_eq, ← after.direction_eq]
    exact congrArg _ kept
  | .setState _ :: actions, queue, switch, sender, r, settled, pending, suited
  | .setCompressionThreshold _ :: actions, queue, switch, sender, r, settled, pending, suited => by
    rw [runActions, protocolRun]
    exact settings_apply_at_next_frame actions queue switch sender _ ⟨settled.rawReady_eq, settled.rawOffset_le⟩
      (pending.congr rfl rfl) suited
  | .setMaxPacketSize maxSize :: actions, queue, switch, sender, r, settled, pending, suited => by
    rw [runActions, protocolRun]
    by_cases large : maxSize > 5
    · rw [setMaxPacketSize, if_pos large, if_pos large]
      exact settings_apply_at_next_frame actions queue switch sender _ ⟨settled.rawReady_eq, settled.rawOffset_le⟩
        (pending.congr rfl rfl) suited
    · rw [setMaxPacketSize, if_neg large, if_neg large]
  | .peerEncrypts key iv :: actions, queue, switch, sender, r, settled, pending, suited => by
    obtain ⟨rfl, suited⟩ := suited
    rw [runActions, protocolRun]
    exact settings_apply_at_next_frame actions queue _ _ r settled (pending.peerEncrypts key iv) suited
  | .enableEncryption key iv :: actions, queue, switch, sender, r, settled, pending, suited => by
    obtain ⟨rfl, keySize, ivSize, suited⟩ := suited
    obtain ⟨-, plain, stream, rfl⟩ := pending
    rw [runActions, protocolRun, enableEncryption_ok aes plain keySize ivSize]
    exact settings_apply_at_next_frame actions queue .both _ _ ⟨settled.rawReady_eq, settled.rawOffset_le⟩
      ⟨_, rfl, by simpa using stream, by simp⟩ suited

theorem settings_apply_at_next_frame_login :
    (wrap ([] : List UInt8) PacketDirection.serverBound).Settled ∧
      Pending Zlib.identity (fun _ block => block) .plain none (wrap ([] : List UInt8) PacketDirection.serverBound) [] ∧
      Suited Zlib.identity (wrap ([] : List UInt8) PacketDirection.serverBound).compressionThreshold
        (wrap ([] : List UInt8) PacketDirection.serverBound).maxPacketSize .plain
        [.send [.plain 0 [1]], .peerEncrypts (List.replicate 16 7) (List.replicate 16 9), .send [.plain 1 [2]],
          .call, .enableEncryption (List.replicate 16 7) (List.replicate 16 9), .call,
          .setCompressionThreshold (some 64), .setState .play, .setMaxPacketSize 1024,
          .send [.uncompressed 2 [3]], .call, .call] [] ∧
      runActions Zlib.identity (fun _ block => block)
          [.send [.plain 0 [1]], .peerEncrypts (List.replicate 16 7) (List.replicate 16 9), .send [.plain 1 [2]],
            .call, .enableEncryption (List.replicate 16 7) (List.replicate 16 9), .call,
            .setCompressionThreshold (some 64), .setState .play, .setMaxPacketSize 1024,
            .send [.uncompressed 2 [3]], .call, .call]
          none (wrap [] PacketDirection.serverBound) =
        protocolRun PacketDirection.serverBound State.handshaking
          [.send [.plain 0 [1]], .peerEncrypts (List.replicate 16 7) (List.replicate 16 9), .send [.plain 1 [2]],
            .call, .enableEncryption (List.replicate 16 7) (List.replicate 16 9), .call,
            .setCompressionThreshold (some 64), .setState .play, .setMaxPacketSize 1024,
            .send [.uncompressed 2 [3]], .call, .call] [] :=
  have settled : (wrap ([] : List UInt8) PacketDirection.serverBound).Settled := ⟨rfl, Nat.zero_le _⟩
  have pending : Pending Zlib.identity (fun _ block => block) .plain none
      (wrap ([] : List UInt8) PacketDirection.serverBound) [] := ⟨rfl, rfl, rfl⟩
  have suited : Suited Zlib.identity (wrap ([] : List UInt8) PacketDirection.serverBound).compressionThreshold
      (wrap ([] : List UInt8) PacketDirection.serverBound).maxPacketSize .plain
      [.send [.plain 0 [1]], .peerEncrypts (List.replicate 16 7) (List.replicate 16 9), .send [.plain 1 [2]],
        .call, .enableEncryption (List.replicate 16 7) (List.replicate 16 9), .call,
        .setCompressionThreshold (some 64), .setState .play, .setMaxPacketSize 1024,
        .send [.uncompressed 2 [3]], .call, .call] [] :=
    ⟨rfl, Nat.zero_lt_one, ⟨by decide, by decide, rfl⟩, rfl, rfl, rfl, trivial, ⟨by decide, by decide, rfl⟩,
      trivial, ⟨by decide, by decide, Option.some_ne_none _⟩, trivial⟩
  ⟨settled, pending, suited,
    settings_apply_at_next_frame Zlib.identity (fun _ block => block) _ [] .plain none _ settled pending suited⟩

end CraftReader

end CraftIo
