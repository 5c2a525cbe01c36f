import CraftIo.Reader.Sync

/-! # The asynchronous read path agrees with the synchronous one

The async read path is a second copy of the sync one in which `read_exact` may suspend. A
suspension is not observable by a single owner, so each async function is the text of its sync
twin: `read_byte` is the text of `read_byte_sync`, and `read_packet_len_async` runs its own loop
over `read_byte` (`CraftIo.CraftReader.readPacketLenAsyncLoop`), which agrees with the sync loop
byte by byte (`CraftIo.CraftReader.readPacketLenAsyncLoop_eq`, by induction on the position).
`ensure_n_ready_async` and `read_raw_inner_async` add `debug_assert!`s of their own
(`CraftIo.CraftReader.ensureNReadyAsync`, `CraftIo.CraftReader.readRawInnerAsync`). Those never
fire, so the two read paths are the same function of the reader and the transport
(`CraftIo.CraftReader.async_read_eq_sync`): on every reader state and every transport they
return the same outcome, make the same `read_exact` requests and leave the same state.
-/

namespace CraftIo

namespace CraftReader

variable {σ S : Type} (T : Transport σ) (z : Zlib)

/-- `debug_assert!(cond)`. -/
def debugAssert (cond : Prop) [Decidable cond] : ReadM S Unit :=
  if cond then pure () else ReadM.panic .debugAssert

/-- `read_byte`: the byte at `raw_offset`, read from the transport when none is ready. -/
def readByte : ReadM (CraftReader σ) (List UInt8) := do
  let r ← get
  if r.rawReady < 1 then
    let target ← getSizedRawBuf r.rawOffset 1
    debugAssertEq target.length 1
    checkUnexpectedEof (← readExactInto T r.rawOffset 1)
    modify fun r => { r with rawReady := 1 }
  let r ← get
  let ready ← getSizedRawBuf r.rawOffset 1
  debugAssertEq ready.length 1
  pure ready

/-- `read_byte` is the text of `read_byte_sync`. -/
theorem readByte_eq : readByte T = readByteSync T := rfl

/-- The loop of `read_packet_len_async` at byte `position`, with the bits `value` so far. Each
byte `read_byte` hands back is copied, the copy is decrypted, and the byte is consumed. -/
def readPacketLenAsyncLoop (position : Nat) (value : BitVec 32) : ReadM (CraftReader σ) (BitVec 32) := do
  let copy ← firstByte (← readByte T)
  let byte := (← decryptCopy [copy]).headD copy
  let value := value ||| septet byte <<< (position * 7)
  subRawReady 1
  modify fun r => { r with rawOffset := r.rawOffset + 1 }
  if byte &&& 0x80 = 0 then
    pure value
  else if tooLong : position + 1 > 4 then
    ReadM.panic .varIntTooLong
  else
    readPacketLenAsyncLoop (position + 1) value
termination_by 5 - position

/-- `read_packet_len_async`: the outer length VarInt. -/
def readPacketLenAsync : ReadM (CraftReader σ) (BitVec 32) :=
  readPacketLenAsyncLoop T 0 0

/-- The async prefix loop is the sync one: from every position, the same byte reads,
decryptions, cursor moves, result and panic. -/
theorem readPacketLenAsyncLoop_eq (position : Nat) (value : BitVec 32) :
    readPacketLenAsyncLoop T position value = readPacketLenLoop T position value := by
  rw [readPacketLenAsyncLoop, readPacketLenLoop, readByte_eq]
  by_cases tooLong : position + 1 > 4
  · simp only [tooLong, dite_true]
  · simp only [tooLong, dite_false, readPacketLenAsyncLoop_eq (position + 1)]
termination_by 5 - position

/-- `ensure_n_ready_async`: `ensure_n_ready_sync` with a `debug_assert_eq!` on each slice. -/
def ensureNReadyAsync (n : Nat) : ReadM (CraftReader σ) (List UInt8) := do
  let r ← get
  if r.rawReady < n then
    let toRead := n - r.rawReady
    let target ← getSizedRawBuf (r.rawOffset + r.rawReady) toRead
    debugAssertEq target.length toRead
    checkUnexpectedEof (← readExactInto T (r.rawOffset + r.rawReady) toRead)
    modify fun r => { r with rawReady := n }
  let r ← get
  let ready ← getSizedRawBuf r.rawOffset n
  debugAssertEq ready.length n
  pure ready

/-- `read_raw_inner_async`: `read_raw_inner` with a `debug_assert!` that the frame is ready. -/
def readRawInnerAsync : ReadM (CraftReader σ) Nat := do
  moveReadyDataToFront
  let primaryPacketLen := asUsize (← readPacketLenAsync T)
  let r ← get
  if primaryPacketLen > r.maxPacketSize then
    ReadM.error (.packetTooLarge primaryPacketLen r.maxPacketSize)
  let _ ← ensureNReadyAsync T primaryPacketLen
  debugAssert ((← get).rawReady ≥ primaryPacketLen)
  pure primaryPacketLen

/-- `read_raw_untyped_packet_inner_async`, which `read_raw_untyped_packet_async` calls. -/
def readRawUntypedPacketInnerAsync : ReadM (CraftReader σ) (Id × List UInt8) := do
  readUntypedPacketInBuf z (← readRawInnerAsync T)

/-- `read_raw_packet_inner_async`, which `read_raw_packet_async` calls. -/
def readRawPacketInnerAsync {P : Type} (create : Id → List UInt8 → Except PacketErr P) :
    ReadM (CraftReader σ) P := do
  readPacketInBuf z create (← readRawInnerAsync T)

/-- `read_raw_untyped_packet_async`. -/
def readRawUntypedPacketAsync : ReadM (CraftReader σ) (Id × List UInt8) :=
  readRawUntypedPacketInnerAsync T z

/-- `read_raw_packet_async`. -/
def readRawPacketAsync {P : Type} (create : Id → List UInt8 → Except PacketErr P) :
    ReadM (CraftReader σ) P :=
  readRawPacketInnerAsync T z create

/-- `read_packet_async`, the trait's default method. -/
def readPacketAsync {P Q : Type} (create : Id → List UInt8 → Except PacketErr P)
    (deserialize : P → Except PacketErr Q) : ReadM (CraftReader σ) Q :=
  deserializeRawPacket deserialize (readRawPacketAsync T z create)

/-- The slice asserts of `ensure_n_ready_async` hold on every state. -/
theorem ensureNReadyAsync_eq (n : Nat) : ensureNReadyAsync T n = ensureNReadySync T n := by
  simp only [ensureNReadyAsync, ensureNReadySync, getSizedRawBuf_debugAssertEq, ReadM.bind_pure]

/-- `ensure_n_ready_sync` leaves at least `n` bytes ready whenever it returns them. -/
theorem le_rawReady_of_ensureNReadySync {n : Nat} {r r' : CraftReader σ} {ready : List UInt8}
    (returned : ensureNReadySync T n r = .ok ready r') : n ≤ r'.rawReady := by
  unfold ensureNReadySync at returned
  by_cases short : r.rawReady < n
  · simp only [short, if_true, ReadM.bind_apply, ReadM.get_apply, Outcome.ok_bind, getSizedRawBuf,
      readExactInto] at returned
    split at returned
    · simp [checkUnexpectedEof, getSizedRawBuf] at returned
      obtain ⟨-, rfl⟩ := returned
      simp
    · simp only [Outcome.ok_bind, checkUnexpectedEof] at returned
      split at returned <;> simp at returned
  · simp [short, getSizedRawBuf] at returned
    obtain ⟨-, rfl⟩ := returned
    simp only
    omega

/-- The frame-ready assert after `ensure_n_ready_sync` never fires. -/
theorem ensureNReadySync_debugAssert {β : Type} (n : Nat) (k : ReadM (CraftReader σ) β) :
    (ensureNReadySync T n >>= fun _ => get >>= fun r => debugAssert (r.rawReady ≥ n) >>= fun _ => k) =
      ensureNReadySync T n >>= fun _ => k := by
  funext r
  simp only [ReadM.bind_apply]
  refine Outcome.bind_congr fun _ r' returned => ?_
  simp [debugAssert, le_rawReady_of_ensureNReadySync T returned]

/-- The frame-ready assert of `read_raw_inner_async` holds on every state. -/
theorem readRawInnerAsync_eq : readRawInnerAsync T = readRawInner T := by
  simp only [readRawInnerAsync, readRawInner, readPacketLenAsync, readPacketLenSync, readPacketLenAsyncLoop_eq,
    ensureNReadyAsync_eq, ensureNReadySync_debugAssert]

theorem readRawUntypedPacketAsync_eq_sync :
    readRawUntypedPacketAsync T z = readRawUntypedPacket T z := by
  simp only [readRawUntypedPacketAsync, readRawUntypedPacketInnerAsync, readRawInnerAsync_eq]
  rfl

theorem readRawPacketAsync_eq_sync {P : Type} (create : Id → List UInt8 → Except PacketErr P) :
    readRawPacketAsync T z create = readRawPacket T z create := by
  simp only [readRawPacketAsync, readRawPacketInnerAsync, readRawInnerAsync_eq]
  rfl

theorem readPacketAsync_eq_sync {P Q : Type} (create : Id → List UInt8 → Except PacketErr P)
    (deserialize : P → Except PacketErr Q) :
    readPacketAsync T z create deserialize = readPacket T z create deserialize := by
  rw [readPacketAsync, readPacket, readRawPacketAsync_eq_sync]

/-- **Sync and async readers agree.** On every reader state and every transport,
`read_raw_untyped_packet_async` is `read_raw_untyped_packet` and, for every packet kind,
`read_raw_packet_async` is `read_raw_packet`: the same result, the same `read_exact` requests
and the same reader afterwards. -/
theorem async_read_eq_sync :
    readRawUntypedPacketAsync T z = readRawUntypedPacket T z ∧
      ∀ (P : Type) (create : Id → List UInt8 → Except PacketErr P),
        readRawPacketAsync T z create = readRawPacket T z create :=
  ⟨readRawUntypedPacketAsync_eq_sync T z, fun _ create => readRawPacketAsync_eq_sync T z create⟩

end CraftReader

end CraftIo
