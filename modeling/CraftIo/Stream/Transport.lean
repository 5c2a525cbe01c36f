import CraftIo.Frame.Pulls

/-! # Readers over a byte stream

The transport of the results about whole runs: a byte stream read as it arrives
(`CraftIo.Transport.stream`). A request for `n` bytes takes them when that many have arrived
and otherwise fails with `UnexpectedEof`, consuming nothing. A session of a reader over such a
stream is a list of events, each either the arrival of the stream's next chunk or a read call,
and `CraftIo.CraftReader.run` collects what the calls return. Since the reader refines the
frame reader call by call, a whole session of the reader returns what the same session of the
frame reader returns (`CraftIo.CraftReader.run_eq_frames`).
-/

namespace CraftIo

namespace Transport

/-- **A byte stream.** The state is the bytes that have arrived and are not read yet. -/
def stream : Transport (List UInt8) where
  readExact available n :=
    if n ≤ available.length then (.ok (available.take n), available.drop n)
    else (.error ⟨.unexpectedEof⟩, available)
  length_readExact available n bytes := by
    dsimp only
    split_ifs with enough
    · rintro ⟨⟩
      simpa using enough
    · rintro ⟨⟩

theorem stream_readExact_of_le {available : List UInt8} {n : Nat} (enough : n ≤ available.length) :
    stream.readExact available n = (.ok (available.take n), available.drop n) :=
  if_pos enough

theorem stream_readExact_of_lt {available : List UInt8} {n : Nat} (short : available.length < n) :
    stream.readExact available n = (.error ⟨.unexpectedEof⟩, available) :=
  if_neg (by omega)

/-- A stream delivers its first bytes on one-byte requests. -/
theorem stream_delivers (wire rest : List UInt8) : stream.Delivers (wire ++ rest) wire rest := by
  induction wire with
  | nil => exact .nil rest
  | cons byte wire ih => exact .cons (stream_readExact_of_le (by simp)) ih

/-- A stream delivers a frame it starts with: the prefix on one-byte requests, then the rest of
the frame on one request. -/
theorem stream_deliversFrame (wire body rest : List UInt8) :
    stream.DeliversFrame (wire ++ body ++ rest) wire body rest := by
  refine ⟨body ++ rest, by rw [List.append_assoc]; exact stream_delivers wire _, ?_⟩
  rcases Nat.eq_zero_or_pos body.length with empty | pos
  · exact .inl ⟨List.eq_nil_of_length_eq_zero empty, by rw [List.eq_nil_of_length_eq_zero empty]; rfl⟩
  · exact .inr ⟨pos, by simp [stream_readExact_of_le]⟩

end Transport

/-- A codec that stores its input as it is: a stand-in for zlib where only the inflate law
matters. -/
def Zlib.identity : Zlib where
  deflate data := data
  inflate data := some data
  inflate_deflate _ := rfl

/-- What happens to a reader over a stream: the stream's next chunk arrives, or the caller
calls the reader. -/
inductive Event
  | arrive (chunk : List UInt8)
  | call

namespace CraftReader

variable {α : Type}

/-- **A session.** The `ReadResult`s of the calls along the events, `none` standing for a panic,
which ends the session. -/
def run (call : ReadM (CraftReader (List UInt8)) α) :
    List Event → CraftReader (List UInt8) → List (Option (Except ReadError (Option α)))
  | [], _ => []
  | .arrive chunk :: events, r => run call events { r with inner := r.inner ++ chunk }
  | .call :: events, r =>
    match call r with
    | .ok a r' => some (.ok (some a)) :: run call events r'
    | .none r' => some (.ok .none) :: run call events r'
    | .err e r' => some (.error e) :: run call events r'
    | .panic _ => [.none]

end CraftReader

namespace FrameReader

variable {α : Type}

/-- A session of the frame reader. -/
def run (call : ReadM (FrameReader (List UInt8)) α) :
    List Event → FrameReader (List UInt8) → List (Option (Except ReadError (Option α)))
  | [], _ => []
  | .arrive chunk :: events, f => run call events { f with inner := f.inner ++ chunk }
  | .call :: events, f =>
    match call f with
    | .ok a f' => some (.ok (some a)) :: run call events f'
    | .none f' => some (.ok .none) :: run call events f'
    | .err e f' => some (.error e) :: run call events f'
    | .panic _ => [.none]

end FrameReader

namespace CraftReader

variable {α : Type}

/-- **Sessions refine.** A call that refines a frame-reader call from every settled reader gives,
over a whole session from a settled reader, the frame reader's results. -/
theorem run_eq_frames {call : ReadM (CraftReader (List UInt8)) α}
    {spec : ReadM (FrameReader (List UInt8)) α}
    (refines : ∀ r : CraftReader (List UInt8), r.Settled →
      Refines (fun a r b => a = b ∧ r.Settled) (call r) (spec r.frames)) :
    ∀ (events : List Event) (r : CraftReader (List UInt8)), r.Settled →
      run call events r = FrameReader.run spec events r.frames
  | [], _, _ => rfl
  | .arrive chunk :: events, r, settled => by
    rw [run, FrameReader.run]
    exact run_eq_frames refines events _ ⟨settled.rawReady_eq, settled.rawOffset_le⟩
  | .call :: events, r, settled => by
    rw [run, FrameReader.run]
    have step := refines r settled
    generalize call r = o at step ⊢
    generalize spec r.frames = a at step ⊢
    cases step with
    | ok related => dsimp only; rw [related.1, run_eq_frames refines events _ related.2]
    | none settled' => dsimp only; rw [run_eq_frames refines events _ settled']
    | err settled' => dsimp only; rw [run_eq_frames refines events _ settled']
    | panic => rfl

end CraftReader

end CraftIo
