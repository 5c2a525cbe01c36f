import CraftIo.Stream.Resync

/-! # Encryption is transparent

A reader with a decryptor, over the CFB8 encryption of a stream, does what a reader without one
does over the stream itself. The prefix bytes are decrypted one at a time on a copy and the
frame's bytes in place once they are consumed, but each pulled byte goes through the decryptor
exactly once, in stream order, so after every read the decryptor stands where the encryptor
stood after the bytes pulled so far (`CraftIo.FrameReader.Advanced`). One read of the two frame
readers ends the same way (`CraftIo.FrameReader.readFrame_encrypted`); a session in which the
peer encrypts its chunks as one stream returns what the plain session returns
(`CraftIo.FrameReader.run_encrypted`); and through the refinement the same holds of the
buffered reader on which `enable_encryption` succeeded
(`CraftIo.CraftReader.encryption_transparency`).
-/

namespace CraftIo

/-- Two outcomes agree: the same value, `Ok(None)`, error or panic, with states related by
`R`. -/
inductive Outcome.Rel {S S' α : Type} (R : S → S' → Prop) : Outcome S α → Outcome S' α → Prop
  | ok {a : α} {s : S} {s' : S'} : R s s' → Outcome.Rel R (.ok a s) (.ok a s')
  | none {s : S} {s' : S'} : R s s' → Outcome.Rel R (.none s) (.none s')
  | err {e : ReadError} {s : S} {s' : S'} : R s s' → Outcome.Rel R (.err e s) (.err e s')
  | panic {p : Panic} : Outcome.Rel R (.panic p) (.panic p)

namespace Outcome

variable {S S' α β : Type}

theorem Rel.imp {R Q : S → S' → Prop} {o : Outcome S α} {o' : Outcome S' α} (related : Rel R o o')
    (weaker : ∀ s s', R s s' → Q s s') : Rel Q o o' := by
  cases related with
  | ok kept => exact .ok (weaker _ _ kept)
  | none kept => exact .none (weaker _ _ kept)
  | err kept => exact .err (weaker _ _ kept)
  | panic => exact .panic

theorem Rel.bind {R Q : S → S' → Prop} {o : Outcome S α} {o' : Outcome S' α} {f : α → S → Outcome S β}
    {g : α → S' → Outcome S' β} (first : Rel R o o') (weaker : ∀ s s', R s s' → Q s s')
    (next : ∀ a s s', o = .ok a s → R s s' → Rel Q (f a s) (g a s')) : Rel Q (o.bind f) (o'.bind g) := by
  cases first with
  | ok kept => exact next _ _ _ rfl kept
  | none kept => exact .none (weaker _ _ kept)
  | err kept => exact .err (weaker _ _ kept)
  | panic => exact .panic

end Outcome

/-- The session a peer makes by encrypting every chunk it sends with one encryptor, from
register `sender` on: `CraftCipher::encrypt` chunk after chunk. -/
def encryptArrivals (sender : Cfb8) : List Event → List Event
  | [] => []
  | .arrive chunk :: events => .arrive (sender.encrypt chunk).1 :: encryptArrivals (sender.encrypt chunk).2 events
  | .call :: events => .call :: encryptArrivals sender events

namespace FrameReader

/-- `f` reading the encryption of its stream: the stream's bytes as an encryptor at register
`sender` encrypts them, and a decryptor at register `receiver`. -/
def encryptedAt (sender receiver : Cfb8) (f : FrameReader (List UInt8)) : FrameReader (List UInt8) :=
  { f with inner := (sender.encrypt f.inner).1, encryption := some ⟨.decrypt receiver⟩ }

/-- Where the plain reader `f` and the reader `encryptedAt d d f` stand after one read: the plain
one at `f'`, having pulled `pulled`, and the other at `fe'`, which reads the encryption of what
is left with a decryptor that has gone through exactly the encryption of `pulled`. -/
def Advanced (d : Cfb8) (f f' fe' : FrameReader (List UInt8)) : Prop :=
  ∃ pulled, f.inner = pulled ++ f'.inner ∧ f'.encryption = none ∧
    fe' = encryptedAt (d.encrypt pulled).2 (d.encrypt pulled).2 f'

theorem Advanced.refl {d : Cfb8} {f : FrameReader (List UInt8)} (plain : f.encryption = none) :
    Advanced d f f (encryptedAt d d f) :=
  ⟨[], rfl, plain, rfl⟩

theorem Advanced.trans {d : Cfb8} {f f₁ f₂ fe₂ : FrameReader (List UInt8)} {pulled : List UInt8}
    (first : f.inner = pulled ++ f₁.inner) (next : Advanced (d.encrypt pulled).2 f₁ f₂ fe₂) :
    Advanced d f f₂ fe₂ := by
  obtain ⟨more, split, plain, rfl⟩ := next
  refine ⟨pulled ++ more, by rw [first, split, List.append_assoc], plain, ?_⟩
  rw [Cfb8.encrypt_append]

/-- A request the stream cannot fill leaves it as it is. -/
theorem pull_short {n : Nat} {f : FrameReader (List UInt8)} (short : f.inner.length < n) :
    pull Transport.stream n f = .none f := by
  simp [pull, Transport.stream_readExact_of_lt short]

/-- A request for the stream's next bytes takes them. -/
theorem pull_plain {bytes rest : List UInt8} {f : FrameReader (List UInt8)} (stream : f.inner = bytes ++ rest) :
    pull Transport.stream bytes.length f = .ok bytes { f with inner := rest } := by
  simp [pull, stream, Transport.stream_readExact_of_le]

/-- The same request on the encrypted stream takes the encryption of those bytes. -/
theorem pull_encryptedAt {bytes rest : List UInt8} {sender receiver : Cfb8} {f : FrameReader (List UInt8)}
    (stream : f.inner = bytes ++ rest) :
    pull Transport.stream bytes.length (encryptedAt sender receiver f) =
      .ok (sender.encrypt bytes).1 (encryptedAt (sender.encrypt bytes).2 receiver { f with inner := rest }) := by
  simp [pull, encryptedAt, stream, Cfb8.encrypt_append, Transport.stream_readExact_of_le]

/-- Without a cipher, decryption hands the bytes back. -/
theorem decrypt_plain (bytes : List UInt8) (f : FrameReader (List UInt8)) (plain : f.encryption = none) :
    decrypt bytes f = .ok bytes f := by
  cases f
  cases plain
  rfl

/-- The decryptor undoes the encryptor that stood at its register, and moves on with it. -/
theorem decrypt_encryptedAt (bytes : List UInt8) (sender receiver : Cfb8) (f : FrameReader (List UInt8)) :
    decrypt (receiver.encrypt bytes).1 (encryptedAt sender receiver f) =
      .ok bytes (encryptedAt sender (receiver.encrypt bytes).2 f) := by
  simp only [decrypt, encryptedAt, handleDecryption_encrypt]

/-- **The prefix loop sees through the encryption.** -/
theorem readLength_encrypted (position : Nat) (value : BitVec 32) (d : Cfb8) {f : FrameReader (List UInt8)}
    (plain : f.encryption = none) :
    Outcome.Rel (Advanced d f) (readLength Transport.stream position value f)
      (readLength Transport.stream position value (encryptedAt d d f)) := by
  rw [readLength]
  simp only [ReadM.bind_apply]
  cases stream : f.inner with
  | nil =>
    rw [pull_short (by simp [stream]), pull_short (by simp [encryptedAt, stream])]
    exact .none (Advanced.refl plain)
  | cons byte rest =>
    have split : f.inner = [byte] ++ rest := stream
    have sent : (d.encrypt [byte]).1 = [(d.encryptByte byte).1] := rfl
    rw [show 1 = [byte].length from rfl, pull_plain split, pull_encryptedAt split]
    simp only [Outcome.ok_bind, CraftReader.firstByte, ReadM.pure_apply, ReadM.bind_apply, sent]
    rw [decrypt_plain [byte] { f with inner := rest } plain, ← sent, decrypt_encryptedAt]
    simp only [Outcome.ok_bind, List.headD_cons]
    split_ifs
    · exact .ok ⟨[byte], split, plain, rfl⟩
    · exact .panic
    · exact (@readLength_encrypted (position + 1) _ _ { f with inner := rest } plain).imp
        fun _ _ next => Advanced.trans split next
termination_by 5 - position

/-- Pulling the rest of a frame and decrypting it sees through the encryption. -/
theorem pullBody_decrypt_encrypted (len : Nat) (d : Cfb8) {f : FrameReader (List UInt8)}
    (plain : f.encryption = none) :
    Outcome.Rel (Advanced d f) ((pullBody Transport.stream len >>= decrypt) f)
      ((pullBody Transport.stream len >>= decrypt) (encryptedAt d d f)) := by
  simp only [pullBody, ReadM.bind_apply]
  split_ifs with pos
  · by_cases enough : len ≤ f.inner.length
    · have split : f.inner = f.inner.take len ++ f.inner.drop len := (List.take_append_drop _ _).symm
      have sized : (f.inner.take len).length = len := by simp; omega
      rw [← sized, pull_plain split, pull_encryptedAt split]
      simp only [Outcome.ok_bind]
      rw [decrypt_plain _ { f with inner := f.inner.drop len } plain, decrypt_encryptedAt]
      exact .ok ⟨_, split, plain, rfl⟩
    · rw [pull_short (by omega), pull_short (by simp [encryptedAt]; omega)]
      exact .none (Advanced.refl plain)
  · simp only [ReadM.pure_apply, Outcome.ok_bind]
    rw [decrypt_plain _ f plain, show ([] : List UInt8) = (d.encrypt []).1 from rfl, decrypt_encryptedAt]
    exact .ok (Advanced.refl plain)

/-- Pulling a frame and decrypting it sees through the encryption. -/
theorem pullFrame_decrypt_encrypted (d : Cfb8) {f : FrameReader (List UInt8)} (plain : f.encryption = none) :
    Outcome.Rel (Advanced d f) ((pullFrame Transport.stream f).bind decrypt)
      ((pullFrame Transport.stream (encryptedAt d d f)).bind decrypt) := by
  simp only [pullFrame, ReadM.bind_apply, Outcome.bind_assoc]
  refine (readLength_encrypted 0 0 d plain).bind (fun _ _ kept => kept) fun len f₁ fe₁ _ advanced => ?_
  obtain ⟨pulled, split, plain₁, rfl⟩ := advanced
  simp only [ReadM.bind_apply, ReadM.get_apply, Outcome.ok_bind, encryptedAt]
  split_ifs
  · exact .err ⟨pulled, split, plain₁, rfl⟩
  · simp only [ReadM.pure_apply, Outcome.ok_bind, ← ReadM.bind_apply]
    exact (pullBody_decrypt_encrypted _ _ plain₁).imp fun _ _ next => Advanced.trans split next

variable (z : Zlib)

/-- **One read sees through the encryption.** Over the encryption of its stream, a frame reader
with the matching decryptor ends a read as the plain one does, with the same value, `Ok(None)`,
error or panic, having pulled the encryption of the same bytes, and with its decryptor past
exactly those. -/
theorem readFrame_encrypted (d : Cfb8) {f : FrameReader (List UInt8)} (plain : f.encryption = none) :
    Outcome.Rel (Advanced d f) (readFrame Transport.stream z f) (readFrame Transport.stream z (encryptedAt d d f)) := by
  show Outcome.Rel _ ((pullFrame Transport.stream f).bind fun body s => (decrypt body s).bind (decodeFrame z))
    ((pullFrame Transport.stream (encryptedAt d d f)).bind fun body s => (decrypt body s).bind (decodeFrame z))
  rw [← Outcome.bind_assoc, ← Outcome.bind_assoc]
  refine (pullFrame_decrypt_encrypted d plain).bind (fun _ _ kept => kept) fun payload f' fe' _ advanced => ?_
  obtain ⟨pulled, split, plain', rfl⟩ := advanced
  rw [decodeFrame_eq, decodeFrame_eq]
  simp only [encryptedAt]
  split
  · exact .ok ⟨pulled, split, plain', rfl⟩
  · exact .err ⟨pulled, split, plain', rfl⟩

/-- **A session sees through the encryption.** A frame reader with a decryptor at `d`, over the
encryption of a stream from `d` on, to which the peer adds chunks encrypted as the same stream,
returns call for call what the plain frame reader returns. -/
theorem run_encrypted : ∀ (events : List Event) (d : Cfb8) (f : FrameReader (List UInt8)), f.encryption = none →
    FrameReader.run (readFrame Transport.stream z) (encryptArrivals (d.encrypt f.inner).2 events) (encryptedAt d d f) =
      FrameReader.run (readFrame Transport.stream z) events f
  | [], _, _, _ => rfl
  | .arrive chunk :: events, d, f, plain => by
    rw [encryptArrivals, FrameReader.run, FrameReader.run,
      ← run_encrypted events d { f with inner := f.inner ++ chunk } plain]
    simp only [encryptedAt, Cfb8.encrypt_append]
  | .call :: events, d, f, plain => by
    have related := readFrame_encrypted z d plain
    rw [encryptArrivals, FrameReader.run, FrameReader.run]
    generalize readFrame Transport.stream z f = o at related ⊢
    generalize readFrame Transport.stream z (encryptedAt d d f) = o' at related ⊢
    cases related with
    | ok advanced | none advanced | err advanced =>
      obtain ⟨pulled, split, plain', rfl⟩ := advanced
      rw [split, Cfb8.encrypt_append]
      exact congrArg _ (run_encrypted events _ _ plain')
    | panic => rfl

end FrameReader

namespace CraftReader

/-- Two buffered reads that refine related frame reads are related through the frame readers
they end at, and both end settled. -/
theorem Refines.rel {σ α : Type} {o₁ o₂ : Outcome (CraftReader σ) α} {a₁ a₂ : Outcome (FrameReader σ) α}
    {R : FrameReader σ → FrameReader σ → Prop}
    (left : Refines (fun a r b => a = b ∧ r.Settled) o₁ a₁) (right : Refines (fun a r b => a = b ∧ r.Settled) o₂ a₂)
    (related : Outcome.Rel R a₁ a₂) :
    Outcome.Rel (fun r r' => r.Settled ∧ r'.Settled ∧ R r.frames r'.frames) o₁ o₂ := by
  rcases left with ⟨⟨rfl, settled₁⟩⟩ | settled₁ | settled₁ | _ <;>
    rcases right with ⟨⟨rfl, settled₂⟩⟩ | settled₂ | settled₂ | _ <;> cases related
  case ok.intro.ok.intro.ok related => exact .ok ⟨settled₁, settled₂, related⟩
  case none.none.none related => exact .none ⟨settled₁, settled₂, related⟩
  case err.err.err related => exact .err ⟨settled₁, settled₂, related⟩
  case panic.panic.panic => exact .panic

variable (z : Zlib)

/-- **Encryption transparency.** Take a settled reader without a decryptor, and the same reader
over the CFB8 encryption of its stream by the encryptor `CraftCipher::new(key, iv, true)`, on
which `enable_encryption(key, iv)` succeeds. When the peer's chunks arrive encrypted by that
encryptor as one stream, the encrypted reader returns, call for call, what the plain one
returns: the same packets, `Ok(None)`, errors and panics. And one call on two such readers, from
any point, ends the same way on both, with the decryptor past exactly the encryption of the
bytes the plain reader pulled. -/
theorem encryption_transparency (aes : Block → Block → Block) {key iv : List UInt8}
    (keySize : key.length = 16) (ivSize : iv.length = 16) {r : CraftReader (List UInt8)} (settled : r.Settled)
    (plain : r.encryption = none) (events : List Event) :
    ∃ sender re, CraftCipher.new aes key iv true = .ok ⟨.encrypt sender⟩ ∧
      { r with inner := (sender.encrypt r.inner).1 }.enableEncryption aes key iv = .ok re ∧
      run (readRawUntypedPacket Transport.stream z) (encryptArrivals (sender.encrypt r.inner).2 events) re =
        run (readRawUntypedPacket Transport.stream z) events r ∧
      ∀ (d : Cfb8) (r₀ re₀ : CraftReader (List UInt8)), r₀.Settled → re₀.Settled → r₀.encryption = none →
        re₀.frames = FrameReader.encryptedAt d d r₀.frames →
        Outcome.Rel (fun r' re' => r'.Settled ∧ re'.Settled ∧ FrameReader.Advanced d r₀.frames r'.frames re'.frames)
          (readRawUntypedPacket Transport.stream z r₀) (readRawUntypedPacket Transport.stream z re₀) := by
  let sender : Cfb8 := ⟨aes (blockOf key), blockOf iv⟩
  let re : CraftReader (List UInt8) :=
    { r with inner := (sender.encrypt r.inner).1, encryption := some ⟨.decrypt sender⟩ }
  have settledE : re.Settled := ⟨settled.rawReady_eq, settled.rawOffset_le⟩
  refine ⟨sender, re, by rw [CraftCipher.new_ok aes keySize ivSize]; rfl, ?_, ?_, ?_⟩
  · simp [re, enableEncryption, setupCraftCipher, plain, CraftCipher.new_ok aes keySize ivSize, Except.map]
  · rw [run_readRawUntypedPacket z _ settled, run_readRawUntypedPacket z _ settledE]
    exact FrameReader.run_encrypted z events _ r.frames plain
  · intro d r₀ re₀ settled₀ settledE plain₀ encrypted
    have related := @FrameReader.readFrame_encrypted z d r₀.frames plain₀
    rw [← encrypted] at related
    exact Refines.rel (readUntypedPacketInner_refines _ z settled₀) (readUntypedPacketInner_refines _ z settledE) related

theorem encryption_transparency_zero_key :
    (List.replicate 16 (0 : UInt8)).length = 16 ∧ (List.replicate 16 (0 : UInt8)).length = 16 ∧
      (wrapWithState ([] : List UInt8) PacketDirection.clientBound State.play).Settled ∧
      (wrapWithState ([] : List UInt8) PacketDirection.clientBound State.play).encryption = none ∧
      ∃ sender re, CraftCipher.new (fun key _ => key) (List.replicate 16 0) (List.replicate 16 0) true =
          .ok ⟨.encrypt sender⟩ ∧
        { wrapWithState ([] : List UInt8) PacketDirection.clientBound State.play with
            inner := (sender.encrypt (wrapWithState ([] : List UInt8) PacketDirection.clientBound State.play).inner).1 }.enableEncryption
          (fun key _ => key) (List.replicate 16 0) (List.replicate 16 0) = .ok re ∧
        run (readRawUntypedPacket Transport.stream Zlib.identity)
            (encryptArrivals (sender.encrypt (wrapWithState ([] : List UInt8) PacketDirection.clientBound State.play).inner).2
              [.arrive [0x02, 0x00, 0xAA], .call, .call]) re =
          run (readRawUntypedPacket Transport.stream Zlib.identity) [.arrive [0x02, 0x00, 0xAA], .call, .call]
            (wrapWithState ([] : List UInt8) PacketDirection.clientBound State.play) ∧
        ∀ (d : Cfb8) (r₀ re₀ : CraftReader (List UInt8)), r₀.Settled → re₀.Settled → r₀.encryption = none →
          re₀.frames = FrameReader.encryptedAt d d r₀.frames →
          Outcome.Rel (fun r' re' => r'.Settled ∧ re'.Settled ∧ FrameReader.Advanced d r₀.frames r'.frames re'.frames)
            (readRawUntypedPacket Transport.stream Zlib.identity r₀)
            (readRawUntypedPacket Transport.stream Zlib.identity re₀) :=
  ⟨by simp, by simp, ⟨rfl, Nat.zero_le _⟩, rfl,
    encryption_transparency Zlib.identity (fun key _ => key) (by simp) (by simp) ⟨rfl, Nat.zero_le _⟩ rfl _⟩

end CraftReader

end CraftIo
