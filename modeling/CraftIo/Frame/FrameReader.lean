import CraftIo.Reader.Sync

/-! # Frames read straight from the transport

What the reader is for, stated without its raw buffer. A `CraftIo.FrameReader` keeps only the
transport, the configuration, the decompression buffer and the decryptor. It reads one frame
(`CraftIo.FrameReader.readFrame`) by pulling the length prefix from the transport one byte at a
time, each byte decrypted once (`CraftIo.FrameReader.readLength`); it rejects a length above
`max_packet_size`; it pulls the frame's bytes in one request, none for an empty frame, and
decrypts them once; and it decodes them. The buffered reader refines this one
(`CraftIo.CraftReader.readUntypedPacketInner_refines`).
-/

namespace CraftIo

/-- A reader without its raw buffer and cursors. -/
structure FrameReader (σ : Type) where
  inner : σ
  maxPacketSize : Nat
  decompressBuf : Option (List UInt8)
  compressionThreshold : Option (BitVec 32)
  state : State
  direction : PacketDirection
  encryption : Option CraftCipher

namespace FrameReader

variable {σ : Type} (T : Transport σ) (z : Zlib)

/-- One `read_exact` request of `n` bytes; `UnexpectedEof` gives `Ok(None)`. -/
def pull (n : Nat) : ReadM (FrameReader σ) (List UInt8) := fun f =>
  match T.readExact f.inner n with
  | (.ok bytes, inner) => .ok bytes { f with inner }
  | (.error err, inner) =>
    if err.kind = .unexpectedEof then .none { f with inner } else .err (.ioFailure err) { f with inner }

/-- The bytes decrypted by the installed decryptor, if any. -/
def decrypt (buf : List UInt8) : ReadM (FrameReader σ) (List UInt8) := fun f =>
  match handleDecryption f.encryption buf with
  | .ok (decrypted, encryption) => .ok decrypted { f with encryption }
  | .error p => .panic p

/-- The length prefix from byte `position` on, with the bits `value` so far: each byte is
pulled on its own and decrypted once. -/
def readLength (position : Nat) (value : BitVec 32) : ReadM (FrameReader σ) (BitVec 32) := do
  let copy ← CraftReader.firstByte (← pull T 1)
  let byte := (← decrypt [copy]).headD copy
  let value := value ||| septet byte <<< (position * 7)
  if byte &&& 0x80 = 0 then
    pure value
  else if tooLong : position + 1 > 4 then
    ReadM.panic .varIntTooLong
  else
    readLength (position + 1) value
termination_by 5 - position

/-- The frame's bytes decoded: `packet_buf`, then the id VarInt. -/
def decodeFrame (body : List UInt8) : ReadM (FrameReader σ) (Id × List UInt8) := do
  let f ← get
  let (inner, decompressBuf) := packetBuf z f.compressionThreshold f.maxPacketSize f.decompressBuf body
  set { f with decompressBuf }
  CraftReader.liftResult (splitId f.state f.direction (← CraftReader.liftResult inner))

/-- The frame's `len` bytes, pulled in one request unless the frame is empty. -/
def pullBody (len : Nat) : ReadM (FrameReader σ) (List UInt8) :=
  if 0 < len then pull T len else pure []

/-- The frame's bytes as they came off the wire: the length prefix, the size cap, and the rest
of the frame. -/
def pullFrame : ReadM (FrameReader σ) (List UInt8) := do
  let len := asUsize (← readLength T 0 0)
  if len > (← get).maxPacketSize then
    ReadM.error (.packetTooLarge len (← get).maxPacketSize)
  pullBody T len

/-- **One frame.** The frame's bytes, decrypted once, and their decoding. -/
def readFrame : ReadM (FrameReader σ) (Id × List UInt8) := do
  decodeFrame z (← decrypt (← pullFrame T))

end FrameReader

namespace CraftReader

variable {σ : Type}

/-- The frame reader a reader stands for: the reader without its raw buffer and cursors. -/
def frames (r : CraftReader σ) : FrameReader σ where
  inner := r.inner
  maxPacketSize := r.maxPacketSize
  decompressBuf := r.decompressBuf
  compressionThreshold := r.compressionThreshold
  state := r.state
  direction := r.direction
  encryption := r.encryption

section Frames

variable (r : CraftReader σ)

@[simp] theorem frames_inner : r.frames.inner = r.inner := rfl
@[simp] theorem frames_maxPacketSize : r.frames.maxPacketSize = r.maxPacketSize := rfl
@[simp] theorem frames_decompressBuf : r.frames.decompressBuf = r.decompressBuf := rfl
@[simp] theorem frames_compressionThreshold :
    r.frames.compressionThreshold = r.compressionThreshold := rfl
@[simp] theorem frames_state : r.frames.state = r.state := rfl
@[simp] theorem frames_direction : r.frames.direction = r.direction := rfl
@[simp] theorem frames_encryption : r.frames.encryption = r.encryption := rfl

end Frames

/-- A reader between calls: no byte is ready, and the cursor is inside the raw buffer. -/
structure Settled (r : CraftReader σ) : Prop where
  rawReady_eq : r.rawReady = 0
  rawOffset_le : r.rawOffset ≤ (r.rawBuf.getD []).length

end CraftReader

end CraftIo
