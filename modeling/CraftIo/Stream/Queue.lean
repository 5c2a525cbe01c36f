import CraftIo.Stream.Decoding
import CraftIo.Stream.Encryption

/-! # At frame boundaries the reader is a queue

When the peer sends whole frames between the reader's calls, the reader behaves as a queue of
frames (`CraftIo.queueRun`): the frames sent join the tail, and a call returns the packet of the
frame at the head, or answers `Ok(None)` when nothing is queued. A frame reader without a cipher
does exactly this (`CraftIo.FrameReader.run_deliveries`), and so does the buffered reader, both
without a decryptor and with one whose peer encrypts its chunks as one CFB8 stream
(`CraftIo.CraftReader.reads_as_queue`). So retrying after `Ok(None)` loses nothing as long as
every chunk ends on a frame boundary.
-/

namespace CraftIo

/-- What happens between two reads, at frame granularity: the peer sends whole frames, or the
reader is called. -/
inductive Delivery
  | send (frames : List WireFrame)
  | call

namespace Delivery

/-- The frames a delivery sends. -/
def frames : Delivery → List WireFrame
  | send frames => frames
  | call => []

/-- The delivery on the wire: frames sent arrive as one chunk holding their encodings. -/
def toEvent (z : Zlib) : Delivery → Event
  | send frames => .arrive (frames.map (·.encode z)).flatten
  | call => .call

end Delivery

/-- **The reader as a queue of frames.** Frames sent join the tail; a call returns the packet of
the frame at the head, tagged with the reader's state and direction, or `Ok(None)` when the
queue is empty. -/
def queueRun (state : State) (direction : PacketDirection) :
    List Delivery → List WireFrame → List (Option (Except ReadError (Option (Id × List UInt8))))
  | [], _ => []
  | .send frames :: deliveries, queue => queueRun state direction deliveries (queue ++ frames)
  | .call :: deliveries, [] => some (.ok none) :: queueRun state direction deliveries []
  | .call :: deliveries, w :: queue =>
    some (.ok (some (⟨w.id, state, direction⟩, w.body))) :: queueRun state direction deliveries queue

/-- **A frame reader at frame boundaries is a queue.** Without a cipher, over a stream holding
the encodings of the queued frames, with every frame queued or sent suiting the reader, the
session of the deliveries returns what the queue returns. -/
theorem FrameReader.run_deliveries (z : Zlib) :
    ∀ (deliveries : List Delivery) (queue : List WireFrame) (f : FrameReader (List UInt8)),
      f.encryption = none →
      (∀ w ∈ queue ++ deliveries.flatMap Delivery.frames, w.Fits z f.compressionThreshold f.maxPacketSize) →
      f.inner = (queue.map (·.encode z)).flatten →
      FrameReader.run (readFrame Transport.stream z) (deliveries.map (·.toEvent z)) f =
        queueRun f.state f.direction deliveries queue
  | [], _, _, _, _, _ => rfl
  | .send frames :: deliveries, queue, f, plain, fit, stream => by
    rw [List.map_cons, Delivery.toEvent, FrameReader.run, queueRun]
    refine run_deliveries z deliveries (queue ++ frames) _ plain ?_ (by simp [stream])
    simpa only [List.flatMap_cons, Delivery.frames, List.append_assoc] using fit
  | .call :: deliveries, [], f, plain, fit, stream => by
    rw [List.map_cons, Delivery.toEvent, FrameReader.run, FrameReader.readFrame_nil z stream, queueRun]
    exact congrArg _ (run_deliveries z deliveries [] f plain (by simpa [Delivery.frames] using fit) stream)
  | .call :: deliveries, w :: queue, f, plain, fit, stream => by
    have fits := fit w (List.mem_cons_self _ _)
    have holds : HoldsFrame f.encryption f.inner (w.payload z) (queue.map (·.encode z)).flatten .none := by
      rw [plain, stream, List.map_cons, List.flatten_cons, WireFrame.encode]
      exact holdsFrame_plain _ _
    rw [List.map_cons, Delivery.toEvent, FrameReader.run, FrameReader.readFrame_of_holdsFrame z holds fits.1 fits.2.1,
      FrameReader.decodeFrame_eq, frameResult_payload z _ _ fits, queueRun]
    dsimp only
    refine congrArg _ (run_deliveries z deliveries queue _ rfl (fun w' mem => fit w' ?_) rfl)
    simpa only [List.flatMap_cons, Delivery.frames, List.nil_append, List.cons_append] using
      List.mem_cons_of_mem w mem

namespace CraftReader

variable (z : Zlib)

/-- **At frame boundaries the reader is a queue.** A settled reader over a stream holding the
encodings of the queued frames, to which the peer sends whole frames between calls, all suiting
the reader, returns call for call what the queue of frames returns: each frame's packet once, in
order, and `Ok(None)` exactly when no frame is waiting. The same holds with a decryptor at `d`
when the peer encrypts its chunks as one stream from `d` on. -/
theorem reads_as_queue {r : CraftReader (List UInt8)} (settled : r.Settled) (plain : r.encryption = none)
    {queue : List WireFrame} (stream : r.inner = (queue.map (·.encode z)).flatten) (deliveries : List Delivery)
    (fit : ∀ w ∈ queue ++ deliveries.flatMap Delivery.frames, w.Fits z r.compressionThreshold r.maxPacketSize) :
    run (readRawUntypedPacket Transport.stream z) (deliveries.map (·.toEvent z)) r =
        queueRun r.state r.direction deliveries queue ∧
      ∀ d : Cfb8, run (readRawUntypedPacket Transport.stream z)
          (encryptArrivals (d.encrypt r.inner).2 (deliveries.map (·.toEvent z)))
          { r with inner := (d.encrypt r.inner).1, encryption := some ⟨.decrypt d⟩ } =
        queueRun r.state r.direction deliveries queue := by
  have queued := FrameReader.run_deliveries z deliveries queue r.frames plain fit stream
  refine ⟨(run_readRawUntypedPacket z _ settled).trans queued, fun d => ?_⟩
  have settled' : ({ r with inner := (d.encrypt r.inner).1, encryption := some ⟨.decrypt d⟩ } :
      CraftReader (List UInt8)).Settled := ⟨settled.rawReady_eq, settled.rawOffset_le⟩
  rw [run_readRawUntypedPacket z _ settled']
  exact (FrameReader.run_encrypted z _ d r.frames plain).trans queued

theorem reads_as_queue_wrap :
    (wrap ([] : List UInt8) PacketDirection.serverBound).Settled ∧
      (wrap ([] : List UInt8) PacketDirection.serverBound).encryption = none ∧
      (wrap ([] : List UInt8) PacketDirection.serverBound).inner =
        (([] : List WireFrame).map (·.encode Zlib.identity)).flatten ∧
      (∀ w ∈ ([] : List WireFrame) ++ [Delivery.call, .send [.plain 1 [2]], .call].flatMap Delivery.frames,
        w.Fits Zlib.identity (wrap ([] : List UInt8) PacketDirection.serverBound).compressionThreshold
          (wrap ([] : List UInt8) PacketDirection.serverBound).maxPacketSize) ∧
      (run (readRawUntypedPacket Transport.stream Zlib.identity)
          ([Delivery.call, .send [.plain 1 [2]], .call].map (·.toEvent Zlib.identity))
          (wrap ([] : List UInt8) PacketDirection.serverBound) =
        queueRun State.handshaking PacketDirection.serverBound [Delivery.call, .send [.plain 1 [2]], .call] [] ∧
      ∀ d : Cfb8, run (readRawUntypedPacket Transport.stream Zlib.identity)
          (encryptArrivals (d.encrypt []).2 ([Delivery.call, .send [.plain 1 [2]], .call].map (·.toEvent Zlib.identity)))
          { wrap ([] : List UInt8) PacketDirection.serverBound with
            inner := (d.encrypt []).1, encryption := some ⟨.decrypt d⟩ } =
        queueRun State.handshaking PacketDirection.serverBound [Delivery.call, .send [.plain 1 [2]], .call] []) :=
  have settled : (wrap ([] : List UInt8) PacketDirection.serverBound).Settled := ⟨rfl, Nat.zero_le _⟩
  have fit : ∀ w ∈ ([] : List WireFrame) ++ [Delivery.call, .send [.plain 1 [2]], .call].flatMap Delivery.frames,
      w.Fits Zlib.identity (wrap ([] : List UInt8) PacketDirection.serverBound).compressionThreshold
        (wrap ([] : List UInt8) PacketDirection.serverBound).maxPacketSize := by
    intro w mem
    simp only [List.nil_append, List.flatMap_cons, Delivery.frames, List.flatMap_nil, List.append_nil,
      List.mem_singleton] at mem
    subst mem
    exact ⟨by decide, by decide, rfl⟩
  ⟨settled, rfl, rfl, fit, @reads_as_queue Zlib.identity _ settled rfl [] rfl _ fit⟩

end CraftReader

end CraftIo
