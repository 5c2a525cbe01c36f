import CraftIo.Reader.Types

/-! # The synchronous read path

`read_raw_untyped_packet` compacts the ready window (`CraftIo.CraftReader.moveReadyDataToFront`),
reads the outer length VarInt one byte at a time, decrypting each byte on a copy
(`CraftIo.CraftReader.readPacketLenSync`), checks the length against `max_packet_size`, makes the
frame's bytes ready (`CraftIo.CraftReader.ensureNReadySync`), and then consumes them: it advances
the cursors, decrypts the frame in place and decodes it
(`CraftIo.CraftReader.readUntypedPacketInBuf`). Each definition follows its Rust function line
by line; `debug_assert!`s and the debug-build overflow checks are panics.
-/

namespace CraftIo

namespace CraftReader

variable {σ S : Type} (T : Transport σ) (z : Zlib)

/-- `debug_assert_eq!(left, right)`. -/
def debugAssertEq (left right : Nat) : ReadM S Unit :=
  if left = right then pure () else ReadM.panic .debugAssert

/-- The `check_unexpected_eof!` macro: `Ok(None)` on `UnexpectedEof`, `Err(IoFailure)` on any
other error. -/
def checkUnexpectedEof (result : Except IoError Unit) : ReadM S Unit :=
  match result with
  | .ok () => pure ()
  | .error err => if err.kind = .unexpectedEof then ReadM.none else ReadM.error (.ioFailure err)

/-- The `dsz_unwrap!` macro: a decoded value, or `Err(PacketHeaderErr)`. -/
def dszUnwrap {α : Type} (result : Except VarInt.DeserializeErr α) : ReadM S α :=
  match result with
  | .ok value => pure value
  | .error err => ReadM.error (.packetHeaderErr err)

/-- A `Result<_, ReadError>` under `?`. -/
def liftResult {α : Type} (result : Except ReadError α) : ReadM S α :=
  match result with
  | .ok value => pure value
  | .error err => ReadM.error err

/-- `get_sized_buf(&mut self.raw_buf, start, len)`: the slice of the grown buffer. -/
def getSizedRawBuf (start len : Nat) : ReadM (CraftReader σ) (List UInt8) := fun r =>
  .ok (slice (getSizedBuf r.rawBuf start len) start len)
    { r with rawBuf := some (getSizedBuf r.rawBuf start len) }

/-- `self.inner.read_exact(target)` for the slice `[start, start+len)` of `raw_buf`: on success
the transport's bytes fill the slice. -/
def readExactInto (start len : Nat) : ReadM (CraftReader σ) (Except IoError Unit) := fun r =>
  match T.readExact r.inner len with
  | (.ok bytes, inner) => .ok (.ok ()) { r with inner, rawBuf := r.rawBuf.map (writeSlice · start bytes) }
  | (.error err, inner) => .ok (.error err) { r with inner }

/-- `self.raw_ready -= n`, with its debug-build overflow check. -/
def subRawReady (n : Nat) : ReadM (CraftReader σ) Unit := fun r =>
  if n ≤ r.rawReady then .ok () { r with rawReady := r.rawReady - n } else .panic .subtractOverflow

/-- `handle_decryption` on a copy of the bytes: only the cipher moves. -/
def decryptCopy (buf : List UInt8) : ReadM (CraftReader σ) (List UInt8) := fun r =>
  match handleDecryption r.encryption buf with
  | .ok (decrypted, encryption) => .ok decrypted { r with encryption }
  | .error p => .panic p

/-- `handle_decryption` on the slice of `raw_buf` at `start`: the bytes are decrypted in place. -/
def decryptRawBuf (start : Nat) (buf : List UInt8) : ReadM (CraftReader σ) (List UInt8) := fun r =>
  match handleDecryption r.encryption buf with
  | .ok (decrypted, encryption) =>
    .ok decrypted { r with encryption, rawBuf := r.rawBuf.map (writeSlice · start decrypted) }
  | .error p => .panic p

/-- The first byte of a slice, `slice[0]`. -/
def firstByte (ready : List UInt8) : ReadM S UInt8 :=
  match ready with
  | byte :: _ => pure byte
  | [] => ReadM.panic .sliceIndex

/-- `move_ready_data_to_front`: ready bytes not at the front of the buffer are moved there. -/
def moveReadyDataToFront : ReadM (CraftReader σ) Unit := do
  let r ← get
  if r.rawReady > 0 ∧ r.rawOffset > 0 then
    match r.rawBuf with
    | .none => ReadM.panic (.expect "if raw_ready > 0 and raw_offset > 0 then a raw_buf should exist!")
    | .some rawBuf =>
      match copyWithin rawBuf r.rawOffset (r.rawOffset + r.rawReady) 0 with
      | .none => ReadM.panic .copyWithinRange
      | .some moved => set { r with rawBuf := some moved }
  modify fun r => { r with rawOffset := 0 }

/-- `read_byte_sync`: the one-byte slice at `raw_offset`, read from the transport first unless a
byte is ready. -/
def readByteSync : ReadM (CraftReader σ) (List UInt8) := do
  let r ← get
  if r.rawReady < 1 then
    let target ← getSizedRawBuf r.rawOffset 1
    debugAssertEq target.length 1
    checkUnexpectedEof (← readExactInto T r.rawOffset 1)
    modify fun r => { r with rawReady := 1 }
  let r ← get
  let ready ← getSizedRawBuf r.rawOffset 1
  debugAssertEq ready.length 1
  pure ready

/-- The loop of `read_packet_len_sync` at byte `position`, with the bits `value` so far. Each
byte is copied out of the buffer, the copy is decrypted, and the byte is consumed. -/
def readPacketLenLoop (position : Nat) (value : BitVec 32) : ReadM (CraftReader σ) (BitVec 32) := do
  let copy ← firstByte (← readByteSync T)
  let byte := (← decryptCopy [copy]).headD copy
  let value := value ||| septet byte <<< (position * 7)
  subRawReady 1
  modify fun r => { r with rawOffset := r.rawOffset + 1 }
  if byte &&& 0x80 = 0 then
    pure value
  else if tooLong : position + 1 > 4 then
    ReadM.panic .varIntTooLong
  else
    readPacketLenLoop (position + 1) value
termination_by 5 - position

/-- `read_packet_len_sync`: the outer length VarInt. -/
def readPacketLenSync : ReadM (CraftReader σ) (BitVec 32) :=
  readPacketLenLoop T 0 0

/-- `ensure_n_ready_sync`: reads what is missing for `n` ready bytes, then the ready slice. -/
def ensureNReadySync (n : Nat) : ReadM (CraftReader σ) (List UInt8) := do
  let r ← get
  if r.rawReady < n then
    let toRead := n - r.rawReady
    let _target ← getSizedRawBuf (r.rawOffset + r.rawReady) toRead
    checkUnexpectedEof (← readExactInto T (r.rawOffset + r.rawReady) toRead)
    modify fun r => { r with rawReady := n }
  let r ← get
  getSizedRawBuf r.rawOffset n

/-- `read_raw_inner`: the length of the next frame, once its bytes are ready. -/
def readRawInner : ReadM (CraftReader σ) Nat := do
  moveReadyDataToFront
  let primaryPacketLen := asUsize (← readPacketLenSync T)
  let r ← get
  if primaryPacketLen > r.maxPacketSize then
    ReadM.error (.packetTooLarge primaryPacketLen r.maxPacketSize)
  let _ ← ensureNReadySync T primaryPacketLen
  pure primaryPacketLen

/-- `self.raw_buf.as_mut().expect("should exist right now")[start..start + len]`. -/
def rawBufSlice (start len : Nat) : ReadM (CraftReader σ) (List UInt8) := fun r =>
  match r.rawBuf with
  | .none => .panic (.expect "should exist right now")
  | .some rawBuf => if start + len ≤ rawBuf.length then .ok (slice rawBuf start len) r else .panic .sliceIndex

/-- `read_untyped_packet_in_buf`: consumes the `size` ready bytes of the frame, decrypts them in
place and decodes them. -/
def readUntypedPacketInBuf (size : Nat) : ReadM (CraftReader σ) (Id × List UInt8) := do
  let r ← get
  let offset := r.rawOffset
  if r.rawReady < size then
    ReadM.panic (.notEnoughData r.rawReady size)
  subRawReady size
  modify fun r => { r with rawOffset := r.rawOffset + size }
  let buf ← decryptRawBuf offset (← rawBufSlice offset size)
  let r ← get
  let (inner, decompressBuf) := packetBuf z r.compressionThreshold r.maxPacketSize r.decompressBuf buf
  set { r with decompressBuf }
  liftResult (splitId r.state r.direction (← liftResult inner))

/-- `read_packet_in_buf`: the frame handed to `P::create`. -/
def readPacketInBuf {P : Type} (create : Id → List UInt8 → Except PacketErr P) (size : Nat) :
    ReadM (CraftReader σ) P := do
  let (id, bodyBuf) ← readUntypedPacketInBuf z size
  match create id bodyBuf with
  | .ok raw => pure raw
  | .error err => ReadM.error (.packetErr err)

/-- `read_untyped_packet_inner`, which `read_raw_untyped_packet` calls. -/
def readUntypedPacketInner : ReadM (CraftReader σ) (Id × List UInt8) := do
  readUntypedPacketInBuf z (← readRawInner T)

/-- `read_raw_packet_inner`, which `read_raw_packet` calls. -/
def readRawPacketInner {P : Type} (create : Id → List UInt8 → Except PacketErr P) :
    ReadM (CraftReader σ) P := do
  readPacketInBuf z create (← readRawInner T)

/-- `read_raw_untyped_packet`. -/
def readRawUntypedPacket : ReadM (CraftReader σ) (Id × List UInt8) :=
  readUntypedPacketInner T z

/-- `read_raw_packet`. -/
def readRawPacket {P : Type} (create : Id → List UInt8 → Except PacketErr P) :
    ReadM (CraftReader σ) P :=
  readRawPacketInner T z create

/-- `deserialize_raw_packet`: a raw packet's deserialization under `?`. -/
def deserializeRawPacket {P Q : Type} (deserialize : P → Except PacketErr Q)
    (raw : ReadM (CraftReader σ) P) : ReadM (CraftReader σ) Q := do
  match deserialize (← raw) with
  | .ok deserialized => pure deserialized
  | .error err => ReadM.error (.packetErr err)

/-- `read_packet`, the trait's default method. -/
def readPacket {P Q : Type} (create : Id → List UInt8 → Except PacketErr P)
    (deserialize : P → Except PacketErr Q) : ReadM (CraftReader σ) Q :=
  deserializeRawPacket deserialize (readRawPacket T z create)

/-- `ensure_buf_capacity`: compacts the ready window and grows `raw_buf`. -/
def ensureBufCapacity (capacity : Nat) : ReadM (CraftReader σ) Unit := do
  let r ← get
  let allocTo := if capacity > r.maxPacketSize then r.maxPacketSize else capacity
  moveReadyDataToFront
  let _ ← getSizedRawBuf 0 allocTo

/-- A `debug_assert_eq!` on the length of a slice from `get_sized_buf` never fires. -/
theorem getSizedRawBuf_debugAssertEq {β : Type} (start len : Nat)
    (k : List UInt8 → ReadM (CraftReader σ) β) :
    (getSizedRawBuf start len >>= fun slice => debugAssertEq slice.length len >>= fun _ => k slice) =
      getSizedRawBuf start len >>= k := by
  funext r
  simp [getSizedRawBuf, debugAssertEq]

/-- `read_byte_sync` is `ensure_n_ready_sync(1)` with its slice asserts: a byte is read exactly
when none is ready. -/
theorem readByteSync_eq : readByteSync T = ensureNReadySync T 1 := by
  funext r
  simp only [readByteSync, ensureNReadySync, getSizedRawBuf_debugAssertEq, ReadM.bind_apply,
    ReadM.get_apply, Outcome.ok_bind]
  by_cases fresh : r.rawReady < 1
  · simp [fresh, show r.rawReady = 0 by omega]
  · simp [fresh]

/-- `read_raw_packet` is `read_raw_untyped_packet` with the frame handed to `P::create`. -/
theorem readRawPacket_eq {P : Type} (create : Id → List UInt8 → Except PacketErr P) :
    readRawPacket T z create = readRawUntypedPacket T z >>= fun (id, bodyBuf) =>
      match create id bodyBuf with
      | .ok raw => pure raw
      | .error err => ReadM.error (.packetErr err) := by
  simp only [readRawPacket, readRawPacketInner, readPacketInBuf, readRawUntypedPacket,
    readUntypedPacketInner, ReadM.bind_assoc]

end CraftReader

end CraftIo
