import CraftIo.Frame.FrameReader

/-! # The buffered reader refines the frame reader

Between calls a reader is settled (`CraftIo.CraftReader.Settled`): nothing is ready and the
cursor is inside the raw buffer. From a settled reader, `read_raw_untyped_packet` does what
`CraftIo.FrameReader.readFrame` does from the frame reader it stands for: the same outcome, the
same transport requests and the same decryptor steps, and it ends settled again
(`CraftIo.CraftReader.readUntypedPacketInner_refines`). The proof follows the call: each byte of
the length prefix is made ready and consumed at once, the frame's bytes are made ready in one
request (`CraftIo.CraftReader.ensureNReadySync_refines`), and consuming them decrypts each byte of
the ready window once (`CraftIo.CraftReader.readUntypedPacketInBuf_refines`).
-/

namespace CraftIo

namespace CraftReader

variable {σ : Type} (T : Transport σ) (z : Zlib)

/-- The ready window `[raw_offset, raw_offset + raw_ready)` of the raw buffer holds `bytes`. -/
structure Window (r : CraftReader σ) (bytes : List UInt8) : Prop where
  rawReady_eq : r.rawReady = bytes.length
  buffered : ∃ buf, r.rawBuf = some buf ∧ r.rawOffset + r.rawReady ≤ buf.length ∧
    slice buf r.rawOffset r.rawReady = bytes

/-- A buffered outcome that does what a frame outcome does: the same ending and, with `P`
relating the values and the reader after `Ok(Some(_))`, a reader that stands for the frame
reader after it, settled after `Ok(None)` and `Err(_)`. -/
inductive Refines {α β : Type} (P : α → CraftReader σ → β → Prop) :
    Outcome (CraftReader σ) α → Outcome (FrameReader σ) β → Prop
  | ok {a : α} {r : CraftReader σ} {b : β} : P a r b → Refines P (.ok a r) (.ok b r.frames)
  | none {r : CraftReader σ} : r.Settled → Refines P (.none r) (.none r.frames)
  | err {e : ReadError} {r : CraftReader σ} : r.Settled → Refines P (.err e r) (.err e r.frames)
  | panic {p : Panic} : Refines P (.panic p) (.panic p)

theorem Refines.bind {α β γ δ : Type} {P : α → CraftReader σ → β → Prop}
    {Q : γ → CraftReader σ → δ → Prop} {o : Outcome (CraftReader σ) α} {a : Outcome (FrameReader σ) β}
    {f : α → CraftReader σ → Outcome (CraftReader σ) γ} {g : β → FrameReader σ → Outcome (FrameReader σ) δ}
    (first : Refines P o a) (next : ∀ x r y, P x r y → Refines Q (f x r) (g y r.frames)) :
    Refines Q (o.bind f) (a.bind g) := by
  cases first with
  | ok related => exact next _ _ _ related
  | none settled => exact .none settled
  | err settled => exact .err settled
  | panic => exact .panic

/-- A refinement whose concrete side does more work after its last transport step. -/
theorem Refines.bind_left {α β γ : Type} {P : α → CraftReader σ → β → Prop}
    {Q : γ → CraftReader σ → β → Prop} {o : Outcome (CraftReader σ) α} {a : Outcome (FrameReader σ) β}
    {f : α → CraftReader σ → Outcome (CraftReader σ) γ}
    (first : Refines P o a) (next : ∀ x r y, P x r y → Refines Q (f x r) (.ok y r.frames)) :
    Refines Q (o.bind f) a := by
  cases first with
  | ok related => exact next _ _ _ related
  | none settled => exact .none settled
  | err settled => exact .err settled
  | panic => exact .panic

/-- `ensure_n_ready_sync(len)` on a settled reader pulls the `len` bytes in one request, none
for `len = 0`, and leaves them in the ready window. -/
theorem ensureNReadySync_refines (len : Nat) {r : CraftReader σ} (settled : r.Settled) :
    Refines (fun ready r' pulled => ready = pulled ∧ pulled.length = len ∧
        r'.rawOffset = r.rawOffset ∧ r'.Window pulled)
      (ensureNReadySync T len r) (FrameReader.pullBody T len r.frames) := by
  rcases Nat.eq_zero_or_pos len with rfl | pos
  · simp [ensureNReadySync, settled.rawReady_eq, getSizedRawBuf, FrameReader.pullBody]
    refine .ok ?_
    exact ⟨rfl, rfl, rfl, ⟨rfl, _, rfl, by simp, by simp [slice]⟩⟩
  cases result : T.readExact r.inner len with
  | mk read inner =>
    cases read with
    | ok bytes =>
      have filled : bytes.length = len := T.length_readExact _ _ _ (by rw [result])
      simp [ensureNReadySync, settled.rawReady_eq, pos, getSizedRawBuf, readExactInto, result,
        checkUnexpectedEof, FrameReader.pullBody, FrameReader.pull, frames, filled]
      refine .ok ?_
      exact ⟨rfl, filled, rfl, ⟨filled.symm, _, rfl, by simp [filled], by simp [filled]⟩⟩
    | error err =>
      simp [ensureNReadySync, settled.rawReady_eq, pos, getSizedRawBuf, readExactInto, result,
        checkUnexpectedEof, FrameReader.pullBody, FrameReader.pull, frames]
      by_cases eof : err.kind = .unexpectedEof
      · simp [eof]
        exact .none ⟨rfl, by simp⟩
      · simp [eof]
        exact .err ⟨rfl, by simp⟩

/-- The loop of `read_packet_len_sync` on a settled reader pulls, decrypts and consumes the
prefix bytes as the frame reader does, and leaves the reader settled. -/
theorem readPacketLenLoop_refines (position : Nat) (value : BitVec 32) {r : CraftReader σ}
    (settled : r.Settled) :
    Refines (fun v r' w => v = w ∧ r'.Settled)
      (readPacketLenLoop T position value r) (FrameReader.readLength T position value r.frames) := by
  have one : FrameReader.pullBody T 1 = FrameReader.pull T 1 := if_pos Nat.one_pos
  rw [readPacketLenLoop, FrameReader.readLength, readByteSync_eq, ← one]
  simp only [ReadM.bind_apply]
  refine (ensureNReadySync_refines T 1 settled).bind fun ready r1 pulled ⟨same, single, _, window⟩ => ?_
  subst same
  obtain ⟨copy, rfl⟩ := List.length_eq_one.mp single
  obtain ⟨ready1, buf, stored, fits, -⟩ := window
  simp only [firstByte, ReadM.pure_apply, Outcome.ok_bind, ReadM.bind_apply]
  cases decrypted : handleDecryption r1.encryption [copy] with
  | error p =>
    simp only [decryptCopy, FrameReader.decrypt, decrypted, frames]
    exact .panic
  | ok d =>
    have settled2 : Settled { r1 with rawReady := 0, rawOffset := r1.rawOffset + 1, encryption := d.2 } :=
      ⟨rfl, by simp only [stored, Option.getD_some]; simp at ready1; omega⟩
    simp [decryptCopy, FrameReader.decrypt, decrypted, frames, subRawReady, ready1]
    split_ifs with last tooLong
    · exact .ok ⟨rfl, settled2⟩
    · exact .panic
    · exact readPacketLenLoop_refines (position + 1) _ settled2
termination_by 5 - position

/-- `move_ready_data_to_front` on a settled reader only rewinds the cursor. -/
theorem moveReadyDataToFront_settled {r : CraftReader σ} (settled : r.Settled) :
    moveReadyDataToFront r = .ok () { r with rawOffset := 0 } := by
  simp [moveReadyDataToFront, settled.rawReady_eq]

/-- `read_raw_inner` on a settled reader pulls the frame as the frame reader does, and leaves
the frame's bytes in the ready window. -/
theorem readRawInner_refines {r : CraftReader σ} (settled : r.Settled) :
    Refines (fun len r' body => body.length = len ∧ r'.Window body)
      (readRawInner T r) (FrameReader.pullFrame T r.frames) := by
  have front : Settled { r with rawOffset := 0 } := ⟨settled.rawReady_eq, Nat.zero_le _⟩
  simp only [readRawInner, FrameReader.pullFrame, readPacketLenSync, ReadM.bind_apply,
    moveReadyDataToFront_settled settled, Outcome.ok_bind]
  refine (readPacketLenLoop_refines T 0 0 front).bind fun v r1 w ⟨same, settled1⟩ => ?_
  subst same
  simp only [ReadM.bind_apply, ReadM.get_apply, Outcome.ok_bind, frames_maxPacketSize]
  split_ifs with tooLarge
  · exact .err settled1
  · simp only [ReadM.bind_apply, ReadM.pure_apply, Outcome.ok_bind]
    exact (ensureNReadySync_refines T _ settled1).bind_left fun _ _ _ ⟨_, size, _, window⟩ =>
      .ok ⟨size, window⟩

/-- A decoding step that only reads its input ends the same way on both sides. -/
theorem liftResult_refines {α : Type} {r : CraftReader σ} (settled : r.Settled)
    (result : Except ReadError α) :
    Refines (fun a r' b => a = b ∧ r'.Settled) (liftResult result r) (liftResult result r.frames) := by
  cases result with
  | ok a => exact .ok ⟨rfl, settled⟩
  | error e => exact .err settled

/-- `read_untyped_packet_in_buf(size)` consumes a ready window of `size` bytes as the frame
reader decrypts and decodes them, and leaves the reader settled. -/
theorem readUntypedPacketInBuf_refines {size : Nat} {r : CraftReader σ} {body : List UInt8}
    (sized : body.length = size) (window : r.Window body) :
    Refines (fun a r' b => a = b ∧ r'.Settled)
      (readUntypedPacketInBuf z size r) ((FrameReader.decrypt body >>= FrameReader.decodeFrame z) r.frames) := by
  obtain ⟨ready, buf, stored, fits, window⟩ := window
  rw [ready, sized] at fits window
  simp [readUntypedPacketInBuf, ready, sized, subRawReady, rawBufSlice, stored, fits, window]
  cases decrypted : handleDecryption r.encryption body with
  | error p =>
    simp [decryptRawBuf, FrameReader.decrypt, decrypted]
    exact .panic
  | ok d =>
    simp [decryptRawBuf, FrameReader.decrypt, decrypted, FrameReader.decodeFrame]
    have consumed : Settled { r with
        rawBuf := some (writeSlice buf r.rawOffset d.1), rawReady := 0,
        rawOffset := r.rawOffset + size, encryption := d.2,
        decompressBuf := (packetBuf z r.compressionThreshold r.maxPacketSize r.decompressBuf d.1).2 } :=
      ⟨rfl, by simp [length_handleDecryption decrypted, sized, fits]⟩
    exact (liftResult_refines consumed _).bind fun _ _ _ ⟨same, settled⟩ =>
      same ▸ liftResult_refines settled _

/-- **The buffered reader refines the frame reader.** From a settled reader,
`read_raw_untyped_packet` ends as `CraftIo.FrameReader.readFrame` ends from the frame reader it
stands for: the same value, error or panic, the same transport and decryptor after, and a
settled reader again. -/
theorem readUntypedPacketInner_refines {r : CraftReader σ} (settled : r.Settled) :
    Refines (fun a r' b => a = b ∧ r'.Settled)
      (readUntypedPacketInner T z r) (FrameReader.readFrame T z r.frames) := by
  simp only [readUntypedPacketInner, FrameReader.readFrame, ReadM.bind_apply]
  exact (readRawInner_refines T settled).bind fun _ _ _ ⟨sized, window⟩ =>
    readUntypedPacketInBuf_refines z sized window

theorem Refines.eq_ok {α : Type} {o : Outcome (CraftReader σ) α} {a : Outcome (FrameReader σ) α}
    {x : α} {r' : CraftReader σ} (refines : Refines (fun a r b => a = b ∧ r.Settled) o a)
    (returned : o = .ok x r') : a = .ok x r'.frames := by
  cases refines with
  | ok related => cases returned; rw [related.1]
  | _ => cases returned

theorem Refines.eq_err {α : Type} {o : Outcome (CraftReader σ) α} {a : Outcome (FrameReader σ) α}
    {e : ReadError} {r' : CraftReader σ} (refines : Refines (fun a r b => a = b ∧ r.Settled) o a)
    (failed : o = .err e r') : a = .err e r'.frames := by
  cases refines <;> cases failed
  rfl

theorem Refines.of_ok {α : Type} {o : Outcome (CraftReader σ) α} {b : α} {f : FrameReader σ}
    (refines : Refines (fun a r b => a = b ∧ r.Settled) o (.ok b f)) :
    ∃ r', o = .ok b r' ∧ r'.frames = f ∧ r'.Settled := by
  cases refines with
  | ok related => exact ⟨_, by rw [related.1], rfl, related.2⟩

theorem Refines.of_err {α : Type} {P : α → CraftReader σ → α → Prop} {o : Outcome (CraftReader σ) α}
    {e : ReadError} {f : FrameReader σ} (refines : Refines P o (.err e f)) :
    ∃ r', o = .err e r' ∧ r'.frames = f ∧ r'.Settled := by
  cases refines with
  | err settled => exact ⟨_, rfl, rfl, settled⟩

end CraftReader

end CraftIo
