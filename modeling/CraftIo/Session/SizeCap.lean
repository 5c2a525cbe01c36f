import CraftIo.Session.Framing
import CraftIo.Stream.Resync

/-! # The size cap

A peer decides the lengths a reader sees, so the cap is what bounds the memory and the reads it
can make the reader ask for. A length prefix above `max_packet_size` is rejected with
`PacketTooLarge` once exactly the prefix is pulled; a read asks the transport for at most five
one-byte requests and then at most one request of at most `max_packet_size` bytes; the raw
buffer grows to at most five bytes past the cap; a compressed frame whose `data_len` reaches
the cap is rejected without touching the decompression buffer, which otherwise grows to fewer
than `max_packet_size` bytes (`CraftIo.CraftReader.reachable_size_cap`). The requests are
observed through a transport that logs them (`CraftIo.Transport.logged`). The request and
decompression bounds are proved of the frame reader and carried over by the refinement; the raw
buffer bound is proved of the buffered reader, following its cursor through the read.
-/

namespace CraftIo

namespace Transport

variable {σ : Type}

/-- The transport `T` with the size of every request logged, answered or not. -/
def logged (T : Transport σ) : Transport (σ × List Nat) where
  readExact s n := ((T.readExact s.1 n).1, (T.readExact s.1 n).2, s.2 ++ [n])
  length_readExact s n bytes answered := T.length_readExact s.1 n bytes answered

end Transport

/-- `decompress` sizes the decompression buffer to the output size it is given. -/
theorem length_decompress_snd (z : Zlib) (src : List UInt8) (target : Option (List UInt8)) (len : Nat) :
    ((decompress z src target len).2.getD []).length = max (target.getD []).length len := by
  have sized : len ≤ (getSizedBuf target 0 len).length := by simp
  simp only [decompress, Zlib.decompressFinish]
  cases z.inflate src with
  | none => simp
  | some out =>
    by_cases fits : out.length ≤ len
    · simp [fits, length_writeSlice (show 0 + out.length ≤ (getSizedBuf target 0 len).length by omega)]
    · have taken : 0 + (out.take len).length ≤ (getSizedBuf target 0 len).length := by simp
      simp [fits, length_writeSlice taken]

/-- `packet_buf` grows the decompression buffer to fewer than `max_packet_size` bytes: it calls
`decompress` only with a `data_len` below the cap. -/
theorem length_packetBuf_snd_le (z : Zlib) (threshold : Option (BitVec 32)) (maxPacketSize : Nat)
    (decompressBuf : Option (List UInt8)) (buf : List UInt8) :
    ((packetBuf z threshold maxPacketSize decompressBuf buf).2.getD []).length ≤
      max (decompressBuf.getD []).length (maxPacketSize - 1) := by
  unfold packetBuf
  split
  · split
    · exact le_max_left _ _
    · dsimp only
      split_ifs with zero large
      · exact le_max_left _ _
      · exact le_max_left _ _
      · rw [length_decompress_snd]
        omega
  · exact le_max_left _ _

namespace FrameReader

variable {σ : Type} (T : Transport σ) (z : Zlib)

/-- The frame reader `f'` after one read from `f` stayed within the size cap: the read made at
most five one-byte requests and then at most one request of at most `max_packet_size` bytes,
and it grew the decompression buffer to fewer than `max_packet_size` bytes. -/
structure WithinCap (f f' : FrameReader (σ × List Nat)) : Prop where
  requests : ∃ k body, f'.inner.2 = f.inner.2 ++ List.replicate k 1 ++ body ∧ k ≤ 5 ∧ body.length ≤ 1 ∧
    ∀ n ∈ body, n ≤ f.maxPacketSize
  decompressBuf_le :
    (f'.decompressBuf.getD []).length ≤ max (f.decompressBuf.getD []).length (f.maxPacketSize - 1)

/-- A request changes only the transport, answered or not. -/
theorem pull_all (n : Nat) (f : FrameReader σ) :
    (pull T n f).All fun f' => f' = { f with inner := (T.readExact f.inner n).2 } := by
  intro f' ended
  unfold pull at ended
  split at ended
  · rename_i answered
    cases ended
    rw [answered]
  · rename_i answered
    split_ifs at ended <;> cases ended <;> rw [answered]

/-- Decryption changes only the cipher. -/
theorem decrypt_all (buf : List UInt8) (f : FrameReader σ) :
    (decrypt buf f).All fun f' => f' = { f with encryption := f'.encryption } := by
  intro f' ended
  unfold decrypt at ended
  split at ended <;> cases ended
  rfl

/-- Decoding changes only the decompression buffer, as `packet_buf` leaves it. -/
theorem decodeFrame_all (payload : List UInt8) (f : FrameReader σ) :
    (decodeFrame z payload f).All fun f' => f' = { f with
      decompressBuf := (packetBuf z f.compressionThreshold f.maxPacketSize f.decompressBuf payload).2 } := by
  rw [decodeFrame_eq]
  split
  · exact .ok rfl
  · exact .err rfl

/-- The prefix loop from byte `position` asks for one byte at a time, at most up to the fifth,
and changes neither the cap nor the decompression buffer. -/
theorem readLength_requests (position : Nat) (value : BitVec 32) (f : FrameReader (σ × List Nat))
    (small : position ≤ 4) :
    (readLength T.logged position value f).All fun f' => ∃ k, position + k ≤ 5 ∧
      f'.inner.2 = f.inner.2 ++ List.replicate k 1 ∧ f'.maxPacketSize = f.maxPacketSize ∧
      f'.decompressBuf = f.decompressBuf := by
  rw [readLength]
  simp only [ReadM.bind_apply]
  refine (pull_all T.logged 1 f).bind_imp (fun f₁ same => ⟨1, by omega, by rw [same]; rfl, by rw [same], by rw [same]⟩)
    fun bytes f₁ _ same => ?_
  have asked : f₁.inner.2 = f.inner.2 ++ [1] := by rw [same]; rfl
  cases bytes with
  | nil => exact Outcome.All.panic
  | cons copy _ =>
    simp only [CraftReader.firstByte, ReadM.pure_apply, Outcome.ok_bind]
    refine (decrypt_all [copy] f₁).bind_imp
      (fun f₂ kept => ⟨1, by omega, by rw [kept, asked]; rfl, by rw [kept, same], by rw [kept, same]⟩)
      fun decrypted f₂ _ kept => ?_
    split_ifs
    · exact .ok ⟨1, by omega, by rw [kept, asked]; rfl, by rw [kept, same], by rw [kept, same]⟩
    · exact Outcome.All.panic
    · refine (readLength_requests (position + 1) _ f₂ (by omega)).imp fun f' ⟨k, fits, log, max, dbuf⟩ =>
        ⟨k + 1, by omega, ?_, by rw [max, kept, same], by rw [dbuf, kept, same]⟩
      rw [log, kept, asked, List.replicate_succ, List.append_assoc, List.singleton_append]
termination_by 5 - position

/-- Pulling a frame asks for the prefix one byte at a time and then, once the length passed the
cap, for at most that many bytes in one request. -/
theorem pullFrame_requests (f : FrameReader (σ × List Nat)) :
    (pullFrame T.logged f).All fun f' => ∃ k body, f'.inner.2 = f.inner.2 ++ List.replicate k 1 ++ body ∧
      k ≤ 5 ∧ body.length ≤ 1 ∧ (∀ n ∈ body, n ≤ f.maxPacketSize) ∧ f'.maxPacketSize = f.maxPacketSize ∧
      f'.decompressBuf = f.decompressBuf := by
  simp only [pullFrame, ReadM.bind_apply]
  refine (readLength_requests T 0 0 f (Nat.zero_le 4)).bind_imp
    (fun f₁ ⟨k, fits, log, max, dbuf⟩ => ⟨k, [], by simpa using log, by omega, by simp, by simp, max, dbuf⟩)
    fun len f₁ _ ⟨k, fits, log, max, dbuf⟩ => ?_
  simp only [ReadM.bind_apply, ReadM.get_apply, Outcome.ok_bind]
  split_ifs with tooLarge
  · exact .err ⟨k, [], by simpa using log, by omega, by simp, by simp, max, dbuf⟩
  · simp only [ReadM.pure_apply, Outcome.ok_bind, pullBody]
    split_ifs
    · refine (pull_all T.logged _ f₁).imp fun f' same => ⟨k, [asUsize len], ?_, by omega, by simp,
        by simp; omega, by rw [same, max], by rw [same, dbuf]⟩
      rw [same]
      exact congrArg (· ++ [asUsize len]) log
    · exact .ok ⟨k, [], by simpa using log, by omega, by simp, by simp, max, dbuf⟩

/-- **A frame read stays within the cap.** -/
theorem readFrame_withinCap (f : FrameReader (σ × List Nat)) : (readFrame T.logged z f).All (WithinCap f) := by
  simp only [readFrame, ReadM.bind_apply]
  refine (pullFrame_requests T f).bind_imp (fun f' ⟨k, body, log, fits, one, capped, _, dbuf⟩ =>
      ⟨⟨k, body, log, fits, one, capped⟩, by rw [dbuf]; exact le_max_left _ _⟩)
    fun body f₁ _ ⟨k, body', log, fits, one, capped, max, dbuf⟩ => ?_
  refine (decrypt_all body f₁).bind_imp (fun f' kept => ⟨⟨k, body', by rw [kept, log], fits, one, capped⟩,
      by rw [kept, dbuf]; exact le_max_left _ _⟩) fun payload f₂ _ kept => ?_
  have max₂ : f₂.maxPacketSize = f.maxPacketSize := by rw [kept]; exact max
  have dbuf₂ : f₂.decompressBuf = f.decompressBuf := by rw [kept]; exact dbuf
  refine (decodeFrame_all z payload f₂).imp fun f' decoded => ⟨⟨k, body', by rw [decoded, kept, log], fits, one, capped⟩, ?_⟩
  rw [decoded]
  exact (length_packetBuf_snd_le z _ _ _ payload).trans (le_of_eq (by rw [max₂, dbuf₂]))

end FrameReader

namespace CraftReader

variable {σ : Type} (T : Transport σ) (z : Zlib)

/-- The raw buffer is at most `bound` bytes long. -/
def RawWithin (bound : Nat) (r : CraftReader σ) : Prop :=
  (r.rawBuf.getD []).length ≤ bound

/-- `ensure_n_ready_sync(n)` with nothing ready grows the raw buffer only to the end of the `n`
bytes it makes ready, and keeps the cursor and the cap. -/
theorem ensureNReadySync_rawWithin (n : Nat) {r : CraftReader σ} (fresh : r.rawReady = 0) {bound : Nat}
    (fits : r.rawOffset + n ≤ bound) (within : RawWithin bound r) :
    (ensureNReadySync T n r).All fun r' => RawWithin bound r' ∧ r'.rawOffset = r.rawOffset ∧
      r'.rawReady ≤ n ∧ r'.maxPacketSize = r.maxPacketSize := by
  unfold RawWithin at within ⊢
  rcases Nat.eq_zero_or_pos n with rfl | pos
  · simp only [ensureNReadySync, fresh, getSizedRawBuf, ReadM.bind_apply, ReadM.get_apply, Outcome.ok_bind,
      Nat.lt_irrefl, if_false, ReadM.pure_apply]
    exact .ok ⟨by simp; omega, rfl, Nat.le_refl _, rfl⟩
  cases result : T.readExact r.inner n with
  | mk read inner =>
    cases read with
    | ok bytes =>
      have filled : bytes.length = n := T.length_readExact _ _ _ (by rw [result])
      simp [ensureNReadySync, fresh, pos, getSizedRawBuf, readExactInto, result, checkUnexpectedEof, filled]
      exact .ok ⟨by simp [filled]; omega, rfl, Nat.le_refl _, rfl⟩
    | error err =>
      simp [ensureNReadySync, fresh, pos, getSizedRawBuf, readExactInto, result, checkUnexpectedEof]
      by_cases eof : err.kind = .unexpectedEof
      · simp [eof]
        exact .none ⟨by simp; omega, rfl, by simp [fresh], rfl⟩
      · simp [eof]
        exact .err ⟨by simp; omega, rfl, by simp [fresh], rfl⟩

/-- The prefix loop from byte `position`, with the cursor there and nothing ready, grows the raw
buffer to at most five bytes and keeps the cursor within them. -/
theorem readPacketLenLoop_rawWithin (position : Nat) (value : BitVec 32) {r : CraftReader σ}
    (fresh : r.rawReady = 0) (cursor : r.rawOffset = position) (small : position ≤ 4) {bound : Nat}
    (room : 5 ≤ bound) (within : RawWithin bound r) :
    (readPacketLenLoop T position value r).All fun r' => RawWithin bound r' ∧ r'.rawOffset ≤ 5 ∧
      r'.maxPacketSize = r.maxPacketSize := by
  rw [readPacketLenLoop, readByteSync_eq]
  simp only [ReadM.bind_apply]
  refine (ensureNReadySync_rawWithin T 1 fresh (by omega) within).bind_imp
    (fun r' ⟨grown, same, _, max⟩ => ⟨grown, by omega, max⟩) fun ready r₁ _ ⟨grown, same, one, max⟩ => ?_
  cases ready with
  | nil => exact Outcome.All.panic
  | cons copy _ =>
    simp only [firstByte, ReadM.pure_apply, Outcome.ok_bind, ReadM.bind_apply, decryptCopy]
    split
    · simp only [Outcome.ok_bind]
      split_ifs with last tooLong <;>
        simp only [ReadM.bind_apply, subRawReady, ReadM.modify_apply, ReadM.pure_apply, ReadM.panic_apply] <;>
        split_ifs with enough <;> simp only [Outcome.ok_bind, Outcome.panic_bind]
      · exact .ok ⟨grown, by simp; omega, max⟩
      · exact Outcome.All.panic
      · exact Outcome.All.panic
      · exact Outcome.All.panic
      · refine Outcome.All.imp (readPacketLenLoop_rawWithin (position + 1) _ ?_ ?_ (by omega) room grown) ?_
        · simp; omega
        · simp; omega
        · exact fun r' kept => ⟨kept.1, kept.2.1, kept.2.2.trans max⟩
      · exact Outcome.All.panic
    · exact Outcome.All.panic
termination_by 5 - position

/-- A returning refined step ends settled. -/
theorem Refines.settled_of_ok {α : Type} {o : Outcome (CraftReader σ) α} {a : Outcome (FrameReader σ) α}
    {x : α} {r' : CraftReader σ} (refines : Refines (fun a r b => a = b ∧ r.Settled) o a)
    (returned : o = .ok x r') : r'.Settled := by
  cases refines with
  | ok related => cases returned; exact related.2
  | _ => cases returned

/-- `read_raw_inner` on a settled reader grows the raw buffer to at most the length prefix and
the frame: five bytes past the cap. -/
theorem readRawInner_rawWithin {r : CraftReader σ} (settled : r.Settled) :
    (readRawInner T r).All (RawWithin (max (r.rawBuf.getD []).length (5 + r.maxPacketSize))) := by
  have front : Settled { r with rawOffset := 0 } := ⟨settled.rawReady_eq, Nat.zero_le _⟩
  simp only [readRawInner, readPacketLenSync, ReadM.bind_apply, moveReadyDataToFront_settled settled,
    Outcome.ok_bind]
  refine (readPacketLenLoop_rawWithin T 0 0 front.rawReady_eq rfl (Nat.zero_le 4) (by omega)
    (le_max_left _ _)).bind_imp (fun _ kept => kept.1) fun v r₁ looped ⟨grown, fits, max⟩ => ?_
  have settled₁ := (readPacketLenLoop_refines T 0 0 front).settled_of_ok looped
  simp only [ReadM.bind_apply, ReadM.get_apply, Outcome.ok_bind]
  split_ifs with tooLarge
  · exact .err grown
  · simp only [ReadM.bind_apply, ReadM.pure_apply, Outcome.ok_bind]
    refine (ensureNReadySync_rawWithin T _ settled₁.rawReady_eq (by simp at max; omega) grown).bind_imp
      (fun _ kept => kept.1) fun _ _ _ kept => .ok kept.1

/-- Consuming a frame decrypts it in place and never grows the raw buffer. -/
theorem readUntypedPacketInBuf_rawWithin (size : Nat) {bound : Nat} {r : CraftReader σ}
    (within : RawWithin bound r) : (readUntypedPacketInBuf z size r).All (RawWithin bound) := by
  unfold RawWithin at within ⊢
  simp only [readUntypedPacketInBuf, ReadM.bind_apply, ReadM.get_apply, Outcome.ok_bind]
  split_ifs with short
  · exact Outcome.All.panic
  simp only [ReadM.bind_apply, ReadM.pure_apply, Outcome.ok_bind, subRawReady]
  split_ifs with enough
  · simp only [Outcome.ok_bind, ReadM.bind_apply, ReadM.modify_apply]
    cases stored : r.rawBuf with
    | none =>
      simp only [rawBufSlice, stored, Outcome.panic_bind]
      exact Outcome.All.panic
    | some buf =>
      simp only [rawBufSlice, stored]
      split_ifs with fits
      · simp only [Outcome.ok_bind, ReadM.bind_apply, decryptRawBuf]
        split
        · rename_i decrypted encryption decryptedOk
          have sized : decrypted.length = size := (length_handleDecryption decryptedOk).trans (length_slice fits)
          have kept : (writeSlice buf r.rawOffset decrypted).length ≤ bound := by
            rw [length_writeSlice (by omega)]
            simpa [stored] using within
          simp only [Outcome.ok_bind, ReadM.bind_apply, ReadM.get_apply, ReadM.set_apply]
          exact (liftResult_all _ (by simpa using kept)).bind fun _ _ _ kept' => liftResult_all _ kept'
        · exact Outcome.All.panic
      · exact Outcome.All.panic
  · exact Outcome.All.panic

/-- What the frame reader's end states satisfy, the buffered reader's end states satisfy
through the frame readers they stand for. -/
theorem Refines.all {α β : Type} {P : α → CraftReader σ → β → Prop} {o : Outcome (CraftReader σ) α}
    {a : Outcome (FrameReader σ) β} {J : FrameReader σ → Prop} (refines : Refines P o a) (holds : a.All J) :
    o.All fun r => J r.frames := by
  intro r' ended
  cases refines with
  | ok _ => cases ended; exact holds _ rfl
  | none _ => cases ended; exact holds _ rfl
  | err _ => cases ended; exact holds _ rfl
  | panic => cases ended

/-- The reader `r'` after one read from `r` stayed within the size cap: its frame reader did,
and the raw buffer grew to at most five bytes past the cap. -/
structure WithinCap (r r' : CraftReader (σ × List Nat)) : Prop where
  frames : FrameReader.WithinCap r.frames r'.frames
  rawBuf_le : (r'.rawBuf.getD []).length ≤ max (r.rawBuf.getD []).length (5 + r.maxPacketSize)

/-- **What the size cap guarantees of a read** `call` from `r`, over a transport whose requests
are logged: a length prefix above `max_packet_size` is rejected with `PacketTooLarge` once
exactly the prefix is pulled; the read stays within the cap; and a compressed frame whose
`data_len` is at least `max_packet_size` is rejected with `PacketTooLarge` right after the
frame, with the decompression buffer untouched. -/
structure SizeCapped {α : Type} (call : ReadM (CraftReader (σ × List Nat)) α)
    (r : CraftReader (σ × List Nat)) : Prop where
  rejects_length : ∀ wire plain len cipher' s', T.logged.Delivers r.intoInner wire s' →
    handleDecryption r.encryption wire = .ok (plain, cipher') → VarInt.mcDeserialize plain = .ok (len, []) →
    r.maxPacketSize < asUsize len →
    ∃ r', call r = .err (.packetTooLarge (asUsize len) r.maxPacketSize) r' ∧ r'.intoInner = s'
  within : (call r).All (WithinCap r)
  rejects_dataLen : ∀ wire body plain len cipher₁ payload cipher' s' threshold dataLen rest,
    T.logged.DeliversFrame r.intoInner wire body s' →
    handleDecryption r.encryption wire = .ok (plain, cipher₁) → VarInt.mcDeserialize plain = .ok (len, []) →
    body.length = asUsize len → asUsize len ≤ r.maxPacketSize →
    handleDecryption cipher₁ body = .ok (payload, cipher') →
    r.compressionThreshold = some threshold → VarInt.mcDeserialize payload = .ok (dataLen, rest) →
    0 < asUsize dataLen → r.maxPacketSize ≤ asUsize dataLen →
    ∃ r', call r = .err (.packetTooLarge (asUsize dataLen) r.maxPacketSize) r' ∧ r'.intoInner = s' ∧
      r'.decompressBuf = r.decompressBuf

/-- A length prefix above the cap is rejected once exactly the prefix is pulled. -/
theorem readRawUntypedPacket_rejects_length {r : CraftReader σ} (settled : r.Settled)
    {wire plain : List UInt8} {len : BitVec 32} {cipher' : Option CraftCipher} {s' : σ}
    (delivered : T.Delivers r.intoInner wire s') (decrypted : handleDecryption r.encryption wire = .ok (plain, cipher'))
    (parsed : VarInt.mcDeserialize plain = .ok (len, [])) (tooLarge : r.maxPacketSize < asUsize len) :
    ∃ r', readRawUntypedPacket T z r = .err (.packetTooLarge (asUsize len) r.maxPacketSize) r' ∧
      r'.intoInner = s' := by
  have refines := readUntypedPacketInner_refines T z settled
  have pulled := @FrameReader.pullFrame_of_delivers σ T r.frames wire plain s' cipher' len delivered decrypted parsed
  rw [if_pos (show asUsize len > r.frames.maxPacketSize from tooLarge)] at pulled
  simp only [FrameReader.readFrame, ReadM.bind_apply, pulled, Outcome.err_bind] at refines
  obtain ⟨r', ran, same, -⟩ := Refines.of_err refines
  exact ⟨r', ran, congrArg FrameReader.inner same⟩

/-- A compressed frame whose `data_len` is at least the cap is rejected right after the frame,
before `decompress` could touch the decompression buffer. -/
theorem readRawUntypedPacket_rejects_dataLen {r : CraftReader σ} (settled : r.Settled)
    {wire body plain payload rest : List UInt8} {len dataLen threshold : BitVec 32}
    {cipher₁ cipher' : Option CraftCipher} {s' : σ}
    (delivered : T.DeliversFrame r.intoInner wire body s')
    (decrypted : handleDecryption r.encryption wire = .ok (plain, cipher₁))
    (parsed : VarInt.mcDeserialize plain = .ok (len, [])) (sized : body.length = asUsize len)
    (capped : asUsize len ≤ r.maxPacketSize) (framed : handleDecryption cipher₁ body = .ok (payload, cipher'))
    (compressed : r.compressionThreshold = some threshold)
    (dataParsed : VarInt.mcDeserialize payload = .ok (dataLen, rest)) (positive : 0 < asUsize dataLen)
    (large : r.maxPacketSize ≤ asUsize dataLen) :
    ∃ r', readRawUntypedPacket T z r = .err (.packetTooLarge (asUsize dataLen) r.maxPacketSize) r' ∧
      r'.intoInner = s' ∧ r'.decompressBuf = r.decompressBuf := by
  have refines := readUntypedPacketInner_refines T z settled
  rw [@FrameReader.readFrame_of_deliversFrame z σ T r.frames wire body plain payload s' len cipher₁ cipher'
    delivered decrypted parsed sized capped framed, FrameReader.decodeFrame_eq] at refines
  have rejected : packetBuf z r.compressionThreshold r.maxPacketSize r.decompressBuf payload =
      (.error (.packetTooLarge (asUsize dataLen) r.maxPacketSize), r.decompressBuf) := by
    simp [packetBuf, compressed, dataParsed, Nat.pos_iff_ne_zero.mp positive, large]
  simp only [frames_compressionThreshold, frames_maxPacketSize, frames_state, frames_direction,
    frames_decompressBuf, frameResult, ← packetBuf_fst_target z _ _ r.decompressBuf, rejected,
    Except.bind] at refines
  obtain ⟨r', ran, same, -⟩ := Refines.of_err refines
  exact ⟨r', ran, congrArg FrameReader.inner same, congrArg FrameReader.decompressBuf same⟩

/-- `read_raw_untyped_packet` on a settled reader stays within the cap. -/
theorem readRawUntypedPacket_withinCap {r : CraftReader (σ × List Nat)} (settled : r.Settled) :
    (readRawUntypedPacket T.logged z r).All (WithinCap r) := by
  have frames := (readUntypedPacketInner_refines T.logged z settled).all (FrameReader.readFrame_withinCap T z r.frames)
  have raw : (readUntypedPacketInner T.logged z r).All
      (RawWithin (max (r.rawBuf.getD []).length (5 + r.maxPacketSize))) := by
    simp only [readUntypedPacketInner, ReadM.bind_apply]
    exact (readRawInner_rawWithin T.logged settled).bind fun _ _ _ kept => readUntypedPacketInBuf_rawWithin z _ kept
  exact (frames.and raw).imp fun _ ⟨capped, grown⟩ => ⟨capped, grown⟩

/-- A read that decodes a frame and hands its packet to `g` keeps the size cap. -/
theorem sizeCapped_bind {β : Type} (g : Id × List UInt8 → Except ReadError β) {r : CraftReader (σ × List Nat)}
    (settled : r.Settled) : SizeCapped T (readRawUntypedPacket T.logged z >>= fun packet => liftResult (g packet)) r where
  rejects_length _ _ _ _ _ delivered decrypted parsed tooLarge := by
    obtain ⟨r', ran, moved⟩ := readRawUntypedPacket_rejects_length T.logged z settled delivered decrypted parsed tooLarge
    exact ⟨r', by rw [ReadM.bind_apply, ran]; rfl, moved⟩
  within := by
    rw [ReadM.bind_apply]
    exact (readRawUntypedPacket_withinCap T z settled).bind fun _ _ _ kept => liftResult_all _ kept
  rejects_dataLen _ _ _ _ _ _ _ _ _ _ _ delivered decrypted parsed sized capped framed compressed dataParsed
      positive large := by
    obtain ⟨r', ran, moved, untouched⟩ := readRawUntypedPacket_rejects_dataLen T.logged z settled delivered
      decrypted parsed sized capped framed compressed dataParsed positive large
    exact ⟨r', by rw [ReadM.bind_apply, ran]; rfl, moved, untouched⟩

variable (aes : Block → Block → Block)

/-- **Size cap.** On every reachable reader, over any transport with its requests logged, each
of `read_raw_untyped_packet`, `read_raw_packet` and `read_packet` rejects a length prefix above
`max_packet_size` with `PacketTooLarge` once exactly the prefix is pulled; asks the transport for
at most five one-byte requests and then at most one request of at most `max_packet_size` bytes;
grows the raw buffer to at most five bytes past the cap; rejects a compressed frame whose
`data_len` reaches the cap with `PacketTooLarge` before the decompression buffer is touched; and
grows the decompression buffer to fewer than `max_packet_size` bytes. -/
theorem reachable_size_cap {r : CraftReader (σ × List Nat)} (reachable : Reachable T.logged z aes r) :
    SizeCapped T (readRawUntypedPacket T.logged z) r ∧
      (∀ (P : Type) (create : Id → List UInt8 → Except PacketErr P),
        SizeCapped T (readRawPacket T.logged z create) r) ∧
      ∀ (P Q : Type) (create : Id → List UInt8 → Except PacketErr P) (deserialize : P → Except PacketErr Q),
        SizeCapped T (readPacket T.logged z create deserialize) r := by
  have settled := (Reachable.good T.logged z aes reachable).settled
  have untyped := sizeCapped_bind T z Except.ok settled
  rw [show (readRawUntypedPacket T.logged z >>= fun packet => liftResult (Except.ok packet)) =
    readRawUntypedPacket T.logged z from ReadM.bind_pure _] at untyped
  refine ⟨untyped, fun P create => ?_, fun P Q create deserialize => ?_⟩
  · rw [readRawPacket_eq_bind]
    exact sizeCapped_bind T z _ settled
  · rw [readPacket_eq_bind]
    exact sizeCapped_bind T z _ settled

/-- Over the stream with its requests logged, the reader `wrap` builds is reachable right after
the call that returns the first of two frames' packet. -/
theorem reachable_size_cap_after_frame :
    ∃ r₁, readRawUntypedPacket Transport.stream.logged Zlib.identity
          (wrap (([0x02, 0x00, 0xAA, 0x02, 0x01, 0xBB] : List UInt8), ([] : List Nat)) .serverBound) =
        .ok (⟨0, .handshaking, .serverBound⟩, [0xAA]) r₁ ∧
      r₁.inner = ([0x02, 0x01, 0xBB], [1, 2]) ∧
      Reachable Transport.stream.logged Zlib.identity (fun key _ => key) r₁ ∧
      (SizeCapped Transport.stream (readRawUntypedPacket Transport.stream.logged Zlib.identity) r₁ ∧
        (∀ (P : Type) (create : Id → List UInt8 → Except PacketErr P),
          SizeCapped Transport.stream (readRawPacket Transport.stream.logged Zlib.identity create) r₁) ∧
        ∀ (P Q : Type) (create : Id → List UInt8 → Except PacketErr P) (deserialize : P → Except PacketErr Q),
          SizeCapped Transport.stream (readPacket Transport.stream.logged Zlib.identity create deserialize) r₁) := by
  have start : Reachable Transport.stream.logged Zlib.identity (fun key _ => key)
      (wrap (([0x02, 0x00, 0xAA, 0x02, 0x01, 0xBB] : List UInt8), ([] : List Nat)) .serverBound) := .wrap _ _ _
  have delivered : Transport.stream.logged.DeliversFrame
      (wrap (([0x02, 0x00, 0xAA, 0x02, 0x01, 0xBB] : List UInt8), ([] : List Nat)) .serverBound).frames.inner
      [0x02] [0x00, 0xAA] ([0x02, 0x01, 0xBB], [1, 2]) := ⟨_, .cons rfl (.nil _), .inr ⟨by decide, rfl⟩⟩
  have refines := readUntypedPacketInner_refines Transport.stream.logged Zlib.identity (start.good _ _ _).settled
  rw [FrameReader.readFrame_of_deliversFrame Zlib.identity _ delivered rfl rfl (by decide) (by decide) rfl,
    FrameReader.decodeFrame_eq] at refines
  obtain ⟨r₁, ran, same, -⟩ := Refines.of_ok refines
  have reachable : Reachable Transport.stream.logged Zlib.identity (fun key _ => key) r₁ :=
    .call start (.readRawUntypedPacket (by rw [readRawUntypedPacket, ran]; rfl))
  exact ⟨r₁, ran, congrArg FrameReader.inner same, reachable, reachable_size_cap _ _ (fun key _ => key) reachable⟩

end CraftReader

end CraftIo
