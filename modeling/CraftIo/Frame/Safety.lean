import CraftIo.Frame.Refinement

/-! # Only a too-long length prefix panics

A reader whose cipher, if any, decrypts (`CraftIo.IsDecryptor`) keeps that cipher through a
read, and the frame reader panics only with `panic!("VarInt too long")`
(`CraftIo.FrameReader.readFrame_safe`). Through the refinement the buffered reader inherits
both and ends settled (`CraftIo.CraftReader.readUntypedPacketInner_safe`): none of its slice
ranges, subtractions, `expect`s, `debug_assert`s or the `unreachable!()` of a cipher used the
wrong way can fire.
-/

namespace CraftIo

/-- The cipher, if any, decrypts: it is the kind `enable_encryption` installs. -/
def IsDecryptor : Option CraftCipher → Prop
  | .none => True
  | .some c => ∃ d, c.cipher = .decrypt d

/-- A decryptor decrypts any slice, and stays a decryptor. -/
theorem handleDecryption_of_isDecryptor {cipher : Option CraftCipher} (decrypts : IsDecryptor cipher)
    (buf : List UInt8) :
    ∃ decrypted cipher', handleDecryption cipher buf = .ok (decrypted, cipher') ∧ IsDecryptor cipher' := by
  rcases cipher with _ | c
  · exact ⟨buf, .none, rfl, trivial⟩
  · obtain ⟨d, hd⟩ := decrypts
    refine ⟨(d.decrypt buf).1, some ⟨.decrypt (d.decrypt buf).2⟩, ?_, _, rfl⟩
    simp [handleDecryption, CraftCipher.decrypt, hd, Except.map]

namespace Outcome

variable {S α β : Type} {I : S → Prop} {allowed : Panic → Prop}

/-- Every way `o` ends keeps `I`, and `o` panics only with an `allowed` panic. -/
inductive Safe (I : S → Prop) (allowed : Panic → Prop) : Outcome S α → Prop
  | ok {a : α} {s : S} : I s → Safe I allowed (.ok a s)
  | none {s : S} : I s → Safe I allowed (.none s)
  | err {e : ReadError} {s : S} : I s → Safe I allowed (.err e s)
  | panic {p : Panic} : allowed p → Safe I allowed (.panic p)

theorem Safe.bind {o : Outcome S α} {f : α → S → Outcome S β} (first : o.Safe I allowed)
    (next : ∀ a s, o = .ok a s → I s → (f a s).Safe I allowed) : (o.bind f).Safe I allowed := by
  cases first with
  | ok kept => exact next _ _ rfl kept
  | none kept => exact .none kept
  | err kept => exact .err kept
  | panic allows => exact .panic allows

/-- A safe outcome that returns leaves a state satisfying its invariant. -/
theorem Safe.state {o : Outcome S α} {s : S} (safe : o.Safe I allowed) (returned : o.state? = some s) :
    I s := by
  cases safe <;> cases returned <;> assumption

/-- A safe outcome panics only with an allowed panic. -/
theorem Safe.panic_allowed {o : Outcome S α} {p : Panic} (safe : o.Safe I allowed) (panicked : o = .panic p) :
    allowed p := by
  cases safe <;> cases panicked
  assumption

/-- An outcome that cannot panic does not. -/
theorem Safe.ne_panic {o : Outcome S α} {p : Panic} (safe : o.Safe I fun _ => False) : o ≠ .panic p := by
  rintro rfl
  cases safe with
  | panic never => exact never

/-- A continuation that cannot panic leaves every panic of the sequence to its first step. -/
theorem eq_panic_of_bind {o : Outcome S α} {f : α → S → Outcome S β} {p : Panic}
    (rest : ∀ a s, o = .ok a s → ∀ q, f a s ≠ .panic q) (panicked : o.bind f = .panic p) :
    o = .panic p := by
  cases o with
  | ok a s => exact (rest a s rfl p panicked).elim
  | none s => cases panicked
  | err e s => cases panicked
  | panic q => cases panicked; rfl

end Outcome

/-- A decoding step that only reads its input cannot panic. -/
theorem liftResult_safe {S α : Type} {I : S → Prop} {allowed : Panic → Prop}
    (result : Except ReadError α) {s : S} (kept : I s) :
    (CraftReader.liftResult result s).Safe I allowed := by
  cases result with
  | ok a => exact .ok kept
  | error e => exact .err kept

namespace FrameReader

variable {σ : Type} (T : Transport σ) (z : Zlib) {allowed : Panic → Prop}

/-- The frame reader's cipher, if any, decrypts. -/
def Decrypts (f : FrameReader σ) : Prop :=
  IsDecryptor f.encryption

/-- A request that succeeds fills its slice. -/
theorem length_of_pull {n : Nat} {f f' : FrameReader σ} {bytes : List UInt8}
    (pulled : pull T n f = .ok bytes f') : bytes.length = n := by
  unfold pull at pulled
  split at pulled
  · rename_i read
    cases pulled
    exact T.length_readExact _ _ _ (by rw [read])
  · split at pulled <;> cases pulled

theorem pull_safe (n : Nat) {f : FrameReader σ} (decrypts : f.Decrypts) :
    (pull T n f).Safe Decrypts allowed := by
  unfold pull
  split
  · exact .ok decrypts
  · split
    · exact .none decrypts
    · exact .err decrypts

theorem decrypt_safe (buf : List UInt8) {f : FrameReader σ} (decrypts : f.Decrypts) :
    (decrypt buf f).Safe Decrypts allowed := by
  obtain ⟨decrypted, cipher', done, decrypts'⟩ := handleDecryption_of_isDecryptor decrypts buf
  simp only [decrypt, done]
  exact .ok decrypts'

theorem readLength_safe (position : Nat) (value : BitVec 32) {f : FrameReader σ}
    (decrypts : f.Decrypts) : (readLength T position value f).Safe Decrypts (· = .varIntTooLong) := by
  rw [readLength]
  simp only [ReadM.bind_apply]
  refine (pull_safe T 1 decrypts).bind fun pulled f1 pulled1 decrypts1 => ?_
  obtain ⟨copy, rfl⟩ := List.length_eq_one.mp (length_of_pull T pulled1)
  simp only [CraftReader.firstByte, ReadM.pure_apply, ReadM.bind_apply, Outcome.ok_bind]
  refine (decrypt_safe [copy] decrypts1).bind fun decrypted f2 _ decrypts2 => ?_
  split_ifs
  · exact .ok decrypts2
  · exact .panic rfl
  · exact readLength_safe (position + 1) _ decrypts2
termination_by 5 - position

theorem pullBody_safe (len : Nat) {f : FrameReader σ} (decrypts : f.Decrypts) :
    (pullBody T len f).Safe Decrypts allowed := by
  unfold pullBody
  split_ifs
  · exact pull_safe T _ decrypts
  · exact .ok decrypts

/-- After the prefix, pulling a frame cannot panic. -/
theorem pullFrame_rest_safe (len : BitVec 32) {f : FrameReader σ} (decrypts : f.Decrypts) :
    ((do
        if asUsize len > (← get).maxPacketSize then
          ReadM.error (.packetTooLarge (asUsize len) (← get).maxPacketSize)
        pullBody T (asUsize len) : ReadM (FrameReader σ) (List UInt8)) f).Safe Decrypts allowed := by
  simp only [ReadM.get_apply, Outcome.ok_bind, ReadM.bind_apply]
  split_ifs
  · exact .err decrypts
  · exact pullBody_safe T _ decrypts

theorem pullFrame_safe {f : FrameReader σ} (decrypts : f.Decrypts) :
    (pullFrame T f).Safe Decrypts (· = .varIntTooLong) := by
  simp only [pullFrame, ReadM.bind_apply]
  exact (readLength_safe T 0 0 decrypts).bind fun v f1 _ decrypts1 => pullFrame_rest_safe T v decrypts1

theorem decodeFrame_safe (body : List UInt8) {f : FrameReader σ} (decrypts : f.Decrypts) :
    (decodeFrame z body f).Safe Decrypts allowed := by
  simp only [decodeFrame, ReadM.bind_apply, ReadM.get_apply, ReadM.set_apply, Outcome.ok_bind]
  refine (liftResult_safe _ ?_).bind fun _ _ _ decrypts1 => liftResult_safe _ decrypts1
  exact decrypts

/-- A frame's bytes, once pulled, are decrypted and decoded without a panic. -/
theorem decodeTail_safe (body : List UInt8) {f : FrameReader σ} (decrypts : f.Decrypts) :
    ((decrypt body >>= decodeFrame z) f).Safe Decrypts allowed :=
  (decrypt_safe body decrypts).bind fun plain _ _ decrypts1 => decodeFrame_safe z plain decrypts1

/-- **Only a too-long prefix panics.** A frame reader whose cipher decrypts panics only with
`panic!("VarInt too long")`, and keeps a decrypting cipher. -/
theorem readFrame_safe {f : FrameReader σ} (decrypts : f.Decrypts) :
    (readFrame T z f).Safe Decrypts (· = .varIntTooLong) := by
  simp only [readFrame, ReadM.bind_apply]
  exact (pullFrame_safe T decrypts).bind fun body _ _ decrypts1 => decodeTail_safe z body decrypts1

/-- A frame read panics only where its prefix loop does, once its cipher decrypts. -/
theorem readLength_panic_of_readFrame {f : FrameReader σ} {p : Panic} (decrypts : f.Decrypts)
    (panicked : readFrame T z f = .panic p) : readLength T 0 0 f = .panic p := by
  simp only [readFrame, pullFrame, ReadM.bind_apply, Outcome.bind_assoc] at panicked
  refine Outcome.eq_panic_of_bind (fun len f₁ header q => ?_) panicked
  have decrypts₁ : f₁.Decrypts := (readLength_safe T 0 0 decrypts).state (by rw [header]; rfl)
  exact Outcome.Safe.ne_panic ((pullFrame_rest_safe T len decrypts₁).bind fun body _ _ decrypts₂ =>
    decodeTail_safe z body decrypts₂)

end FrameReader

namespace CraftReader

variable {σ : Type} (T : Transport σ) (z : Zlib)

/-- A reader between calls whose cipher, if any, decrypts. -/
structure Good (r : CraftReader σ) : Prop where
  settled : r.Settled
  decrypts : IsDecryptor r.encryption

/-- A refining outcome is safe when the frame outcome is. -/
theorem Refines.safe {α : Type} {allowed : Panic → Prop} {o : Outcome (CraftReader σ) α}
    {a : Outcome (FrameReader σ) α} (refines : Refines (fun a r b => a = b ∧ r.Settled) o a)
    (safe : a.Safe FrameReader.Decrypts allowed) : o.Safe Good allowed := by
  cases refines with
  | ok related => cases safe with | ok decrypts => exact .ok ⟨related.2, decrypts⟩
  | none settled => cases safe with | none decrypts => exact .none ⟨settled, decrypts⟩
  | err settled => cases safe with | err decrypts => exact .err ⟨settled, decrypts⟩
  | panic => cases safe with | panic allows => exact .panic allows

/-- A refining outcome panics exactly as the frame outcome does. -/
theorem Refines.eq_panic {α β : Type} {P : α → CraftReader σ → β → Prop}
    {o : Outcome (CraftReader σ) α} {a : Outcome (FrameReader σ) β} {p : Panic}
    (refines : Refines P o a) (panicked : o = .panic p) : a = .panic p := by
  cases refines <;> cases panicked
  rfl

/-- From a good reader, `read_raw_untyped_packet` panics only on a too-long prefix and every
other ending leaves a good reader. -/
theorem readUntypedPacketInner_safe {r : CraftReader σ} (good : r.Good) :
    (readUntypedPacketInner T z r).Safe Good (· = .varIntTooLong) :=
  (readUntypedPacketInner_refines T z good.settled).safe (FrameReader.readFrame_safe T z good.decrypts)

end CraftReader

end CraftIo
