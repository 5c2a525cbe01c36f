import CraftIo.Frame.Safety

/-! # What the frame reader asks of the transport

The transport is a state machine, so what a read does to it is said by the requests it makes
and the answers it gets. `CraftIo.Transport.Delivers` is a run of one-byte requests, each
answered with one byte; `CraftIo.Transport.DeliversFrame` adds the one request for the rest of
a frame. The length prefix is exactly such a run: the frame reader's prefix loop returns a value
precisely when the transport delivers bytes whose decryption is a VarInt of that value
(`CraftIo.FrameReader.readLength_of_delivers`, `CraftIo.FrameReader.delivers_of_readLength`).
-/

namespace CraftIo

namespace Transport

variable {σ : Type} (T : Transport σ)

/-- From `s`, the transport answers successive one-byte requests with `bytes`, and ends at
`s'`. -/
inductive Delivers : σ → List UInt8 → σ → Prop
  | nil (s : σ) : Delivers s [] s
  | cons {s s₁ s' : σ} {byte : UInt8} {bytes : List UInt8} :
      T.readExact s 1 = (.ok [byte], s₁) → Delivers s₁ bytes s' → Delivers s (byte :: bytes) s'

/-- From `s`, the transport answers one-byte requests with the prefix `wire`, then one request
with the rest `body` of the frame, none if it is empty, and ends at `s'`. -/
def DeliversFrame (s : σ) (wire body : List UInt8) (s' : σ) : Prop :=
  ∃ s₁, T.Delivers s wire s₁ ∧
    (body = [] ∧ s' = s₁ ∨ 0 < body.length ∧ T.readExact s₁ body.length = (.ok body, s'))

end Transport

/-- Decrypting a slice byte by byte: the first byte's decryption, then the rest's. -/
theorem handleDecryption_cons {cipher cipher' : Option CraftCipher} {byte : UInt8}
    {bytes plain : List UInt8} (done : handleDecryption cipher (byte :: bytes) = .ok (plain, cipher')) :
    ∃ first cipher₁ rest, handleDecryption cipher [byte] = .ok ([first], cipher₁) ∧
      handleDecryption cipher₁ bytes = .ok (rest, cipher') ∧ plain = first :: rest := by
  rw [show byte :: bytes = [byte] ++ bytes from rfl, handleDecryption_append] at done
  cases front : handleDecryption cipher [byte] with
  | error p => simp [front, Except.bind] at done
  | ok decrypted =>
    obtain ⟨out, cipher₁⟩ := decrypted
    obtain ⟨first, rfl⟩ := List.length_eq_one.mp ((length_handleDecryption front).trans rfl)
    cases back : handleDecryption cipher₁ bytes with
    | error p => simp [front, back, Except.bind, Except.map] at done
    | ok decrypted =>
      simp only [front, back, Except.bind, Except.map, Except.ok.injEq, Prod.mk.injEq] at done
      exact ⟨first, cipher₁, decrypted.1, rfl, by rw [← done.2]; exact back, by rw [← done.1]; rfl⟩

/-- A byte's decryption followed by the rest's is the whole slice's. -/
theorem handleDecryption_cons_of {cipher cipher₁ cipher' : Option CraftCipher} {byte first : UInt8}
    {bytes rest : List UInt8} (one : handleDecryption cipher [byte] = .ok ([first], cipher₁))
    (others : handleDecryption cipher₁ bytes = .ok (rest, cipher')) :
    handleDecryption cipher (byte :: bytes) = .ok (first :: rest, cipher') := by
  rw [show byte :: bytes = [byte] ++ bytes from rfl, handleDecryption_append, one]
  simp [Except.bind, others, Except.map]

/-- Decryption fails only on a cipher used the wrong way round. -/
theorem error_of_handleDecryption {cipher : Option CraftCipher} {buf : List UInt8} {p : Panic}
    (failed : handleDecryption cipher buf = .error p) : p = .unreachable := by
  rcases cipher with _ | ⟨encryptor | decryptor⟩ <;>
    simp [handleDecryption, CraftCipher.decrypt, Except.map] at failed
  exact failed.symm

/-- Decrypting nothing leaves the cipher as it is. -/
theorem handleDecryption_nil {cipher cipher' : Option CraftCipher} {plain : List UInt8}
    (done : handleDecryption cipher [] = .ok (plain, cipher')) : plain = [] ∧ cipher' = cipher := by
  rcases cipher with _ | ⟨encryptor | decryptor⟩ <;>
    simp [handleDecryption, CraftCipher.decrypt, Except.map] at done
  all_goals obtain ⟨rfl, rfl⟩ := done; exact ⟨rfl, rfl⟩

namespace Outcome

variable {S α β : Type}

/-- Every error `o` ends with satisfies `P`. -/
def Fails (P : ReadError → Prop) (o : Outcome S α) : Prop :=
  ∀ e s, o = .err e s → P e

theorem Fails.bind {P : ReadError → Prop} {o : Outcome S α} {f : α → S → Outcome S β}
    (first : o.Fails P) (next : ∀ a s, o = .ok a s → (f a s).Fails P) : (o.bind f).Fails P := by
  intro e s failed
  cases o with
  | ok a s' => exact next a s' rfl e s failed
  | none s' => cases failed
  | err e' s' => cases failed; exact first e s rfl
  | panic p => cases failed

/-- Every state `o` ends in satisfies `I`. -/
def All (I : S → Prop) (o : Outcome S α) : Prop :=
  ∀ s, o.state? = some s → I s

/-- A bind ends in states satisfying `J` when its first step ends in states satisfying the
stronger `I` and every continuation from those ends in states satisfying `J`. -/
theorem All.bind_imp {I J : S → Prop} {o : Outcome S α} {f : α → S → Outcome S β} (first : o.All I)
    (weaker : ∀ s, I s → J s) (next : ∀ a s, o = .ok a s → I s → (f a s).All J) : (o.bind f).All J := by
  intro s ended
  cases o with
  | ok a s' => exact next a s' rfl (first s' rfl) s ended
  | none s' => exact weaker s (first s ended)
  | err e s' => exact weaker s (first s ended)
  | panic p => cases ended

theorem All.bind {I : S → Prop} {o : Outcome S α} {f : α → S → Outcome S β} (first : o.All I)
    (next : ∀ a s, o = .ok a s → I s → (f a s).All I) : (o.bind f).All I :=
  first.bind_imp (fun _ kept => kept) next

theorem All.imp {I J : S → Prop} {o : Outcome S α} (first : o.All I) (weaker : ∀ s, I s → J s) :
    o.All J :=
  fun s ended => weaker s (first s ended)

theorem All.and {I J : S → Prop} {o : Outcome S α} (left : o.All I) (right : o.All J) :
    o.All fun s => I s ∧ J s :=
  fun s ended => ⟨left s ended, right s ended⟩

theorem All.ok {I : S → Prop} {a : α} {s : S} (kept : I s) : (Outcome.ok a s).All I := by
  rintro s' ⟨⟩
  exact kept

theorem All.none {I : S → Prop} {s : S} (kept : I s) : (Outcome.none s : Outcome S α).All I := by
  rintro s' ⟨⟩
  exact kept

theorem All.err {I : S → Prop} {e : ReadError} {s : S} (kept : I s) : (Outcome.err e s : Outcome S α).All I := by
  rintro s' ⟨⟩
  exact kept

theorem All.panic {I : S → Prop} {p : Panic} : (Outcome.panic p : Outcome S α).All I := by
  rintro s' ⟨⟩

end Outcome

/-- A decoding step that only reads its input keeps every property of the state. -/
theorem liftResult_all {S α : Type} {I : S → Prop} (result : Except ReadError α) {s : S} (kept : I s) :
    (CraftReader.liftResult result s).All I := by
  cases result with
  | ok a => exact .ok kept
  | error e => exact .err kept

namespace FrameReader

variable {σ : Type} (T : Transport σ) (z : Zlib)

/-- A one-byte request the transport answers. -/
theorem pull_one {f : FrameReader σ} {byte : UInt8} {s₁ : σ}
    (answered : T.readExact f.inner 1 = (.ok [byte], s₁)) :
    pull T 1 f = .ok [byte] { f with inner := s₁ } := by
  simp [pull, answered]

/-- One step of the prefix loop whose byte the transport answered and the cipher decrypted. -/
theorem readLength_answered {position : Nat} {value : BitVec 32} {f : FrameReader σ} {byte first : UInt8}
    {s₁ : σ} {cipher₁ : Option CraftCipher} (answered : T.readExact f.inner 1 = (.ok [byte], s₁))
    (one : handleDecryption f.encryption [byte] = .ok ([first], cipher₁)) :
    readLength T position value f =
      if first &&& 0x80 = 0 then
        .ok (value ||| septet first <<< (position * 7)) { f with inner := s₁, encryption := cipher₁ }
      else if position + 1 > 4 then .panic .varIntTooLong
      else readLength T (position + 1) (value ||| septet first <<< (position * 7))
        { f with inner := s₁, encryption := cipher₁ } := by
  rw [readLength]
  simp only [ReadM.bind_apply, pull_one T answered, Outcome.ok_bind, CraftReader.firstByte,
    ReadM.pure_apply, decrypt, one, List.headD_cons]
  split_ifs <;> rfl

/-- **The prefix loop's first step.** Its byte is answered and decrypted, or the loop ends with
`Ok(None)`, with an error, or with the decryptor's panic. -/
theorem readLength_cases (position : Nat) (value : BitVec 32) (f : FrameReader σ) :
    (∃ byte first s₁ cipher₁, T.readExact f.inner 1 = (.ok [byte], s₁) ∧
      handleDecryption f.encryption [byte] = .ok ([first], cipher₁)) ∨
    (∃ f', readLength T position value f = .none f') ∨
    (∃ e f', readLength T position value f = .err e f') ∨
    readLength T position value f = .panic .unreachable := by
  rw [readLength]
  simp only [ReadM.bind_apply]
  cases answered : T.readExact f.inner 1 with
  | mk read s₁ =>
    cases read with
    | error err =>
      by_cases eof : err.kind = .unexpectedEof
      · exact .inr (.inl ⟨_, by simp only [pull, answered, eof, if_true, Outcome.none_bind]; rfl⟩)
      · exact .inr (.inr (.inl ⟨_, _, by simp only [pull, answered, eof, if_false, Outcome.err_bind]; rfl⟩))
    | ok bytes =>
      obtain ⟨byte, rfl⟩ := List.length_eq_one.mp (T.length_readExact _ _ _ (by rw [answered]))
      simp only [pull_one T answered, Outcome.ok_bind, CraftReader.firstByte, ReadM.pure_apply,
        ReadM.bind_apply, decrypt]
      cases one : handleDecryption f.encryption [byte] with
      | error p => exact .inr (.inr (.inr (by rw [Outcome.panic_bind, error_of_handleDecryption one])))
      | ok decrypted =>
        obtain ⟨out, cipher₁⟩ := decrypted
        obtain ⟨first, rfl⟩ := List.length_eq_one.mp ((length_handleDecryption one).trans rfl)
        exact .inl ⟨byte, first, s₁, cipher₁, rfl, one⟩

/-- **The prefix loop decodes what the transport delivers.** If the transport delivers `wire`
on one-byte requests and its decryption is a VarInt read from byte `position` on, the loop
returns that VarInt, with the transport and the cipher where the bytes left them. -/
theorem readLength_of_delivers {wire : List UInt8} :
    ∀ {position : Nat} {value decoded : BitVec 32} {f : FrameReader σ} {s' : σ}
      {plain : List UInt8} {cipher' : Option CraftCipher},
      position ≤ 4 → T.Delivers f.inner wire s' →
      handleDecryption f.encryption wire = .ok (plain, cipher') →
      VarInt.mcDeserializeFrom position value plain = .ok (decoded, []) →
      readLength T position value f = .ok decoded { f with inner := s', encryption := cipher' } := by
  induction wire with
  | nil =>
    intro position value decoded f s' plain cipher' small _ decrypted parsed
    obtain rfl : plain = [] := List.eq_nil_of_length_eq_zero (length_handleDecryption decrypted)
    rw [VarInt.mcDeserializeFrom.eq_2 _ _ (by omega)] at parsed
    cases parsed
  | cons byte bytes ih =>
    intro position value decoded f s' plain cipher' small delivered decrypted parsed
    obtain ⟨first, cipher₁, rest, one, others, rfl⟩ := handleDecryption_cons decrypted
    cases delivered with
    | cons answered delivered =>
      rw [readLength_answered T answered one]
      rw [VarInt.mcDeserializeFrom.eq_3 _ _ _ _ (by omega)] at parsed
      split_ifs at parsed ⊢ with last tooLong
      · cases parsed
        obtain rfl : bytes = [] :=
          List.eq_nil_of_length_eq_zero (length_handleDecryption others).symm
        obtain ⟨-, rfl⟩ := handleDecryption_nil others
        cases delivered
        rfl
      · rw [show position + 1 = 5 by omega, VarInt.mcDeserializeFrom.eq_1] at parsed
        cases parsed
      · exact ih (by omega) delivered others parsed

/-- **The prefix loop returns only what the transport delivered.** When the loop returns a
value, the transport delivered bytes on one-byte requests whose decryption is a VarInt of that
value, and the loop changed nothing but the transport and the cipher. -/
theorem delivers_of_readLength (position : Nat) (value : BitVec 32) {decoded : BitVec 32}
    {f f' : FrameReader σ} (small : position ≤ 4)
    (returned : readLength T position value f = .ok decoded f') :
    ∃ wire plain, T.Delivers f.inner wire f'.inner ∧
      handleDecryption f.encryption wire = .ok (plain, f'.encryption) ∧
      VarInt.mcDeserializeFrom position value plain = .ok (decoded, []) ∧
      f' = { f with inner := f'.inner, encryption := f'.encryption } := by
  rcases readLength_cases T position value f with
    ⟨byte, first, s₁, cipher₁, answered, one⟩ | ⟨_, stopped⟩ | ⟨_, _, stopped⟩ | stopped
  case inl =>
    rw [readLength_answered T answered one] at returned
    split_ifs at returned with last tooLong
    · cases returned
      refine ⟨[byte], [first], .cons answered (.nil _), one, ?_, rfl⟩
      rw [VarInt.mcDeserializeFrom.eq_3 _ _ _ _ (by omega), if_pos last]
    · obtain ⟨wire, plain, delivered, others, parsed, same⟩ :=
        delivers_of_readLength (position + 1) _ (by omega) returned
      refine ⟨byte :: wire, first :: plain, .cons answered delivered,
        handleDecryption_cons_of one others, ?_, by rw [same]⟩
      rw [VarInt.mcDeserializeFrom.eq_3 _ _ _ _ (by omega), if_neg last]
      exact parsed
  all_goals rw [stopped] at returned; cases returned
termination_by 5 - position

/-- The prefix loop panics with `VarInt too long` only after the transport delivered the rest of
five bytes whose decryptions all have the continuation bit set. -/
theorem delivers_of_readLength_panic (position : Nat) (value : BitVec 32) {f : FrameReader σ}
    (small : position ≤ 4) (panicked : readLength T position value f = .panic .varIntTooLong) :
    ∃ wire plain cipher' s', T.Delivers f.inner wire s' ∧
      handleDecryption f.encryption wire = .ok (plain, cipher') ∧ position + wire.length = 5 ∧
      ∀ byte ∈ plain, byte &&& 0x80 ≠ 0 := by
  rcases readLength_cases T position value f with
    ⟨byte, first, s₁, cipher₁, answered, one⟩ | ⟨_, stopped⟩ | ⟨_, _, stopped⟩ | stopped
  case inl =>
    rw [readLength_answered T answered one] at panicked
    split_ifs at panicked with last tooLong
    · exact ⟨[byte], [first], cipher₁, s₁, .cons answered (.nil _), one, by simp; omega,
        by simpa using last⟩
    · obtain ⟨wire, plain, cipher', s', delivered, others, long, more⟩ :=
        delivers_of_readLength_panic (position + 1) _ (by omega) panicked
      refine ⟨byte :: wire, first :: plain, cipher', s', .cons answered delivered,
        handleDecryption_cons_of one others, by simp; omega, ?_⟩
      simpa [last] using more
  all_goals rw [stopped] at panicked; cases panicked
termination_by 5 - position

/-- A transport request fails the read only with an I/O error. -/
theorem pull_fails (n : Nat) (f : FrameReader σ) :
    (pull T n f).Fails fun e => ∃ err, e = .ioFailure err := by
  intro e s failed
  unfold pull at failed
  split at failed
  · cases failed
  · split_ifs at failed
    cases failed
    exact ⟨_, rfl⟩

/-- The prefix loop fails only with an I/O error. -/
theorem readLength_fails (position : Nat) (value : BitVec 32) (f : FrameReader σ) :
    (readLength T position value f).Fails fun e => ∃ err, e = .ioFailure err := by
  rw [readLength]
  refine (pull_fails T 1 f).bind fun bytes f₁ _ => ?_
  simp only [ReadM.bind_apply]
  refine Outcome.Fails.bind (fun e s failed => ?_) fun copy f₂ _ => ?_
  · unfold CraftReader.firstByte at failed
    split at failed <;> cases failed
  · refine Outcome.Fails.bind (fun e s failed => ?_) fun byte f₃ _ => ?_
    · unfold decrypt at failed
      split at failed <;> cases failed
    · split_ifs
      · intro e s failed; cases failed
      · intro e s failed; cases failed
      · exact readLength_fails (position + 1) _ f₃
termination_by 5 - position

/-- The frame's bytes from what the transport delivers: once the decrypted prefix is a VarInt,
the size cap decides, and then the rest of the frame is requested. -/
theorem pullFrame_of_delivers {f : FrameReader σ} {wire plain : List UInt8} {s₁ : σ}
    {cipher₁ : Option CraftCipher} {len : BitVec 32} (delivered : T.Delivers f.inner wire s₁)
    (decrypted : handleDecryption f.encryption wire = .ok (plain, cipher₁))
    (parsed : VarInt.mcDeserialize plain = .ok (len, [])) :
    pullFrame T f =
      if asUsize len > f.maxPacketSize then
        .err (.packetTooLarge (asUsize len) f.maxPacketSize) { f with inner := s₁, encryption := cipher₁ }
      else pullBody T (asUsize len) { f with inner := s₁, encryption := cipher₁ } := by
  simp only [pullFrame, ReadM.bind_apply,
    readLength_of_delivers T (Nat.zero_le 4) delivered decrypted parsed, Outcome.ok_bind,
    ReadM.get_apply]
  split_ifs <;> rfl

/-- **A frame pulled is exactly one frame.** When the frame reader has the frame's bytes, the
transport delivered exactly a length prefix, one byte per request, and then the frame's rest in
one request: as many bytes as the decrypted prefix says, at most `max_packet_size`. -/
theorem deliversFrame_of_pullFrame {f f' : FrameReader σ} {body : List UInt8}
    (returned : pullFrame T f = .ok body f') :
    ∃ wire plain len, T.DeliversFrame f.inner wire body f'.inner ∧
      handleDecryption f.encryption wire = .ok (plain, f'.encryption) ∧
      VarInt.mcDeserialize plain = .ok (len, []) ∧ body.length = asUsize len ∧
      asUsize len ≤ f.maxPacketSize ∧ f' = { f with inner := f'.inner, encryption := f'.encryption } := by
  simp only [pullFrame, ReadM.bind_apply] at returned
  obtain ⟨len, f₁, header, returned⟩ := Outcome.eq_ok_of_bind returned
  obtain ⟨wire, plain, delivered, decrypted, parsed, same⟩ :=
    delivers_of_readLength T 0 0 (Nat.zero_le 4) header
  have capped : f₁.maxPacketSize = f.maxPacketSize := by rw [same]
  simp only [ReadM.get_apply, ReadM.bind_apply, Outcome.ok_bind, capped] at returned
  split_ifs at returned with tooLarge
  · simp at returned
  simp only [ReadM.bind_apply, ReadM.pure_apply, Outcome.ok_bind, pullBody] at returned
  split_ifs at returned with pos
  · unfold pull at returned
    split at returned
    · rename_i bytes s' answered
      cases returned
      have filled := T.length_readExact _ _ _ (by rw [answered])
      refine ⟨wire, plain, len, ⟨f₁.inner, delivered, .inr ⟨by omega, by rw [filled]; exact answered⟩⟩,
        decrypted, parsed, filled, by omega, by rw [same]⟩
    · split_ifs at returned
  · cases returned
    exact ⟨wire, plain, len, ⟨_, delivered, .inl ⟨rfl, rfl⟩⟩, decrypted, parsed, by simp; omega,
      by omega, same⟩

/-- **Errors before the frame.** Pulling a frame fails only with an I/O error, or with
`PacketTooLarge` for a decrypted length prefix above `max_packet_size`, once exactly that prefix
was delivered. -/
theorem pullFrame_fails {f f' : FrameReader σ} {e : ReadError} (failed : pullFrame T f = .err e f') :
    (∃ err, e = .ioFailure err) ∨
      ∃ wire plain len, T.Delivers f.inner wire f'.inner ∧
        handleDecryption f.encryption wire = .ok (plain, f'.encryption) ∧
        VarInt.mcDeserialize plain = .ok (len, []) ∧ f.maxPacketSize < asUsize len ∧
        e = .packetTooLarge (asUsize len) f.maxPacketSize := by
  simp only [pullFrame, ReadM.bind_apply] at failed
  rcases Outcome.eq_err_of_bind failed with header | ⟨len, f₁, header, failed⟩
  · exact .inl (readLength_fails T 0 0 f _ _ header)
  obtain ⟨wire, plain, delivered, decrypted, parsed, same⟩ :=
    delivers_of_readLength T 0 0 (Nat.zero_le 4) header
  have capped : f₁.maxPacketSize = f.maxPacketSize := by rw [same]
  simp only [ReadM.get_apply, ReadM.bind_apply, Outcome.ok_bind, capped] at failed
  split_ifs at failed with tooLarge
  · simp only [ReadM.bind_apply, ReadM.get_apply, ReadM.error_apply, Outcome.ok_bind,
      Outcome.err_bind, Outcome.err.injEq, capped] at failed
    obtain ⟨rfl, rfl⟩ := failed
    exact .inr ⟨wire, plain, len, delivered, decrypted, parsed, tooLarge, rfl⟩
  · simp only [ReadM.bind_apply, ReadM.pure_apply, Outcome.ok_bind, pullBody] at failed
    split_ifs at failed
    exact .inl (pull_fails T _ _ e f' failed)

/-- Decrypting and decoding a frame's bytes asks nothing of the transport. -/
theorem decodeTail_inner (body : List UInt8) (f₁ : FrameReader σ) :
    ((decrypt body >>= decodeFrame z) f₁).All fun f' => f'.inner = f₁.inner := by
  simp only [ReadM.bind_apply, decrypt]
  split
  · refine Outcome.All.bind (.ok rfl) fun plain f₂ _ kept => ?_
    simp only [decodeFrame, ReadM.bind_apply, ReadM.get_apply, ReadM.set_apply, Outcome.ok_bind]
    exact Outcome.All.bind (liftResult_all _ kept) fun _ _ _ kept => liftResult_all _ kept
  · exact .panic

/-- A frame read that returns pulled the frame's bytes, and asked the transport nothing after. -/
theorem pullFrame_of_readFrame {f f' : FrameReader σ} {a : Id × List UInt8}
    (returned : readFrame T z f = .ok a f') :
    ∃ body f₁, pullFrame T f = .ok body f₁ ∧ f'.inner = f₁.inner := by
  simp only [readFrame, ReadM.bind_apply] at returned
  obtain ⟨body, f₁, pulled, decoded⟩ := Outcome.eq_ok_of_bind returned
  exact ⟨body, f₁, pulled, decodeTail_inner z body f₁ f' (by rw [decoded]; rfl)⟩

/-- A frame read fails either while pulling the frame's bytes or after, asking the transport
nothing more. -/
theorem pullFrame_of_readFrame_err {f f' : FrameReader σ} {e : ReadError}
    (failed : readFrame T z f = .err e f') :
    pullFrame T f = .err e f' ∨ ∃ body f₁, pullFrame T f = .ok body f₁ ∧ f'.inner = f₁.inner := by
  simp only [readFrame, ReadM.bind_apply] at failed
  rcases Outcome.eq_err_of_bind failed with pulled | ⟨body, f₁, pulled, decoded⟩
  · exact .inl pulled
  · exact .inr ⟨body, f₁, pulled, decodeTail_inner z body f₁ f' (by rw [decoded]; rfl)⟩

end FrameReader

end CraftIo
