import CraftIo.Session.SizeCap
import CraftIo.Stream.Buffers

/-! # The key is fixed once installed

`enable_encryption` installs a decryptor only on a reader without one: `setup_craft_cipher`
refuses a second with `AlreadyEnabled`, and `CraftCipher::new` names the IV before the key when
a size is wrong (`CraftIo.CraftReader.enableEncryption_eq_error`). Every read hands the decryptor
to `handle_decryption`, which moves its shift register and never its key
(`CraftIo.Keyed.handleDecryption`), and nothing else touches it. So from a good reader whose
decryptor runs AES under a key, every public call leaves a decryptor under the same key
(`CraftIo.CraftReader.Call.keyed`), and after `enable_encryption(key, iv)` has succeeded, every
reader any run of calls reaches still decrypts under that key and refuses another
`enable_encryption` (`CraftIo.CraftReader.key_fixed_once_enabled`): no call drops the decryption
or re-keys it.
-/

namespace CraftIo

/-- The cipher is a decryptor running the block function `key`, AES under some key. -/
def Keyed (key : Block → Block) (cipher : Option CraftCipher) : Prop :=
  ∃ d : Cfb8, cipher = some ⟨.decrypt d⟩ ∧ d.cipher = key

/-- Decrypting moves the shift register and keeps the block function. -/
theorem Cfb8.cipher_decrypt (c : Cfb8) : ∀ data, (c.decrypt data).2.cipher = c.cipher
  | [] => rfl
  | byte :: rest => Cfb8.cipher_decrypt (c.decryptByte byte).2 rest

/-- `handle_decryption` keeps the decryptor's key. -/
theorem Keyed.handleDecryption {key : Block → Block} {cipher cipher' : Option CraftCipher}
    {buf out : List UInt8} (keyed : Keyed key cipher) (done : handleDecryption cipher buf = .ok (out, cipher')) :
    Keyed key cipher' := by
  obtain ⟨d, rfl, rfl⟩ := keyed
  simp only [CraftIo.handleDecryption, CraftCipher.decrypt, Except.map, Except.ok.injEq, Prod.mk.injEq] at done
  exact ⟨_, done.2.symm, Cfb8.cipher_decrypt d buf⟩

namespace FrameReader

variable {σ : Type} (T : Transport σ) (z : Zlib) {I : Option CraftCipher → Prop}

/-- Decrypting keeps every property of the cipher that `handle_decryption` keeps. -/
theorem decrypt_cipher
    (closed : ∀ {cipher cipher' buf out}, I cipher → handleDecryption cipher buf = .ok (out, cipher') → I cipher')
    (buf : List UInt8) {f : FrameReader σ} (holds : I f.encryption) :
    (decrypt buf f).All fun f' => I f'.encryption := by
  unfold decrypt
  cases done : handleDecryption f.encryption buf with
  | ok result => exact Outcome.All.ok (closed holds done)
  | error p => exact Outcome.All.panic

/-- The prefix loop keeps every property of the cipher that `handle_decryption` keeps. -/
theorem readLength_cipher
    (closed : ∀ {cipher cipher' buf out}, I cipher → handleDecryption cipher buf = .ok (out, cipher') → I cipher')
    (position : Nat) (value : BitVec 32) (f : FrameReader σ) (holds : I f.encryption) :
    (readLength T position value f).All fun f' => I f'.encryption := by
  rw [readLength]
  simp only [ReadM.bind_apply]
  refine (pull_all T 1 f).bind_imp (fun f₁ same => by rw [same]; exact holds) fun bytes f₁ _ same => ?_
  have holds₁ : I f₁.encryption := by rw [same]; exact holds
  cases bytes with
  | nil => exact Outcome.All.panic
  | cons copy _ =>
    simp only [CraftReader.firstByte, ReadM.pure_apply, Outcome.ok_bind]
    refine (decrypt_cipher closed [copy] holds₁).bind fun _ f₂ _ holds₂ => ?_
    split_ifs
    · exact .ok holds₂
    · exact Outcome.All.panic
    · exact readLength_cipher closed (position + 1) _ f₂ holds₂
termination_by 5 - position

/-- **One read keeps the cipher's invariants.** A property of the cipher that
`handle_decryption` keeps holds after every read from a frame reader whose cipher has it. -/
theorem readFrame_cipher
    (closed : ∀ {cipher cipher' buf out}, I cipher → handleDecryption cipher buf = .ok (out, cipher') → I cipher')
    {f : FrameReader σ} (holds : I f.encryption) :
    (readFrame T z f).All fun f' => I f'.encryption := by
  show ((pullFrame T f).bind fun body s => (decrypt body s).bind (decodeFrame z)).All _
  refine Outcome.All.bind ?_ fun body f₁ _ holds₁ =>
    (decrypt_cipher closed body holds₁).bind fun payload f₂ _ holds₂ =>
      (decodeFrame_all z payload f₂).imp fun f' same => by rw [same]; exact holds₂
  simp only [pullFrame, ReadM.bind_apply]
  refine (readLength_cipher T closed 0 0 f holds).bind fun len f₁ _ holds₁ => ?_
  simp only [ReadM.bind_apply, ReadM.get_apply, Outcome.ok_bind]
  split_ifs
  · exact .err holds₁
  · simp only [ReadM.pure_apply, Outcome.ok_bind, pullBody]
    split_ifs
    · exact (pull_all T _ f₁).imp fun f' same => by rw [same]; exact holds₁
    · exact .ok holds₁

end FrameReader

namespace CraftReader

variable {σ : Type} (T : Transport σ) (z : Zlib) (aes : Block → Block → Block)

/-- `CraftCipher::new` fails exactly on a wrong size, naming the IV when the IV's is wrong and
the key otherwise. -/
theorem new_eq_error {key iv : List UInt8} {encryption : Bool} {e : CipherError} :
    CraftCipher.new aes key iv encryption = .error e ↔
      (iv.length ≠ 16 ∧ e = .badSize iv.length .iv) ∨
        (iv.length = 16 ∧ key.length ≠ 16 ∧ e = .badSize key.length .key) := by
  unfold CraftCipher.new bytesSize
  split_ifs with ivSize keySize <;> simp_all [eq_comm]

/-- **What `enable_encryption` refuses.** It fails exactly when a cipher is installed, with
`AlreadyEnabled`, or when `CraftCipher::new` fails on a size, with that error; a failed call
hands back no reader, so the reader stays as it was. -/
theorem enableEncryption_eq_error (r : CraftReader σ) {key iv : List UInt8} {e : CipherError} :
    r.enableEncryption aes key iv = .error e ↔
      (r.encryption.isSome ∧ e = .alreadyEnabled) ∨
        (r.encryption = none ∧ CraftCipher.new aes key iv false = .error e) := by
  unfold enableEncryption setupCraftCipher
  cases r.encryption with
  | some c => simp [Except.map, eq_comm]
  | none =>
    cases CraftCipher.new aes key iv false <;> simp [Except.map]

/-- A successful `enable_encryption(key, iv)` installs a decryptor under AES with `key`. -/
theorem enableEncryption_keyed {r r' : CraftReader σ} {key iv : List UInt8}
    (enabled : r.enableEncryption aes key iv = .ok r') : Keyed (aes (blockOf key)) r'.encryption := by
  unfold enableEncryption setupCraftCipher at enabled
  cases installed : r.encryption with
  | some c => simp [installed, Except.map] at enabled
  | none =>
    simp only [installed, CraftCipher.new, Bool.false_eq_true, if_false] at enabled
    split_ifs at enabled
    · simp [Except.map] at enabled
    · simp [Except.map] at enabled
    · simp only [Except.map, Except.ok.injEq] at enabled
      exact ⟨_, by rw [← enabled], rfl⟩

/-- `enable_encryption(key, iv)` on a reader without a cipher, with a 16-byte key and IV,
installs the decryptor of `CraftCipher::new(key, iv, false)` and changes nothing else. -/
theorem enableEncryption_ok {r : CraftReader σ} {key iv : List UInt8} (plain : r.encryption = none)
    (keySize : key.length = 16) (ivSize : iv.length = 16) :
    r.enableEncryption aes key iv = .ok { r with encryption := some ⟨.decrypt ⟨aes (blockOf key), blockOf iv⟩⟩ } := by
  simp [enableEncryption, setupCraftCipher, plain, CraftCipher.new, bytesSize, keySize, ivSize, Except.map]

/-- A read keeps the key of a good reader's decryptor. -/
theorem readRawUntypedPacket_keyed {key : Block → Block} {r : CraftReader σ} (good : r.Good)
    (keyed : Keyed key r.encryption) : (readRawUntypedPacket T z r).All fun r' => Keyed key r'.encryption :=
  Refines.all (readUntypedPacketInner_refines T z good.settled)
    (FrameReader.readFrame_cipher T z Keyed.handleDecryption keyed)

/-- **Every call keeps the key.** A public call that returns, on a good reader whose decryptor
runs `key`, leaves a decryptor that runs `key`. -/
theorem Call.keyed {r r' : CraftReader σ} (call : Call T z aes r r') (good : r.Good) {key : Block → Block}
    (keyed : Keyed key r.encryption) : Keyed key r'.encryption := by
  have reads := readRawUntypedPacket_keyed T z good keyed
  have typed : ∀ {β : Type} (g : Id × List UInt8 → Except ReadError β),
      ((CraftReader.readRawUntypedPacket T z >>= fun packet => liftResult (g packet)) r).All
        fun r' => Keyed key r'.encryption := fun g => by
    rw [ReadM.bind_apply]
    exact reads.bind fun packet _ _ keyed' => liftResult_all (g packet) keyed'
  cases call with
  | readRawUntypedPacket returned => exact reads _ returned
  | readRawPacket create returned =>
    rw [readRawPacket_eq_bind] at returned
    exact typed _ _ returned
  | readPacket create deserialize returned =>
    rw [readPacket_eq_bind] at returned
    exact typed _ _ returned
  | readRawUntypedPacketAsync returned =>
    rw [readRawUntypedPacketAsync_eq_sync] at returned
    exact reads _ returned
  | readRawPacketAsync create returned =>
    rw [readRawPacketAsync_eq_sync, readRawPacket_eq_bind] at returned
    exact typed _ _ returned
  | readPacketAsync create deserialize returned =>
    rw [readPacketAsync_eq_sync, readPacket_eq_bind] at returned
    exact typed _ _ returned
  | setState | setCompressionThreshold | ensureCompressionBufCapacity => exact keyed
  | setMaxPacketSize maxSize set =>
    unfold CraftReader.setMaxPacketSize at set
    split_ifs at set
    cases set
    exact keyed
  | enableEncryption key' iv enabled =>
    obtain ⟨d, installed, -⟩ := keyed
    simp [CraftReader.enableEncryption, setupCraftCipher, installed, Except.map] at enabled
  | ensureBufCapacity capacity returned =>
    obtain ⟨r₁, ensured, -, same⟩ := ensureBufCapacity_settled capacity good.settled
    rw [ensured] at returned
    cases returned
    have unchanged : r'.encryption = r.encryption := congrArg FrameReader.encryption same
    rw [unchanged]
    exact keyed

/-- **The key is fixed once installed.** After `enable_encryption(key, iv)` succeeds on a
reachable reader, every reader that any run of public calls reaches from there decrypts under
AES with `key`, and refuses every further `enable_encryption` with `AlreadyEnabled`. -/
theorem key_fixed_once_enabled {r r₁ r' : CraftReader σ} (reachable : Reachable T z aes r) {key iv : List UInt8}
    (enabled : r.enableEncryption aes key iv = .ok r₁) (calls : Relation.ReflTransGen (Call T z aes) r₁ r') :
    Keyed (aes (blockOf key)) r'.encryption ∧
      ∀ key' iv', r'.enableEncryption aes key' iv' = .error .alreadyEnabled := by
  have kept : Reachable T z aes r' ∧ Keyed (aes (blockOf key)) r'.encryption := by
    induction calls with
    | refl => exact ⟨.call reachable (.enableEncryption key iv enabled), enableEncryption_keyed aes enabled⟩
    | tail _ call ih => exact ⟨.call ih.1 call, call.keyed T z aes ih.1.good ih.2⟩
  obtain ⟨d, installed, -⟩ := kept.2
  exact ⟨kept.2, fun key' iv' => (enableEncryption_eq_error aes r').mpr (.inl ⟨by simp [installed], rfl⟩)⟩

/-- Over a stream that holds one frame encrypted under the key and IV, the run after
`enable_encryption` reads the frame through the new decryptor and then calls `set_state`. -/
theorem key_fixed_once_enabled_after_read :
    Reachable Transport.stream Zlib.identity (fun _ block => block)
        (wrap ((⟨fun block => block, blockOf (List.replicate 16 0)⟩ : Cfb8).encrypt (frameBytes [0x00, 0xAA])).1
          PacketDirection.serverBound) ∧
      ∃ r₁ r₂, (wrap ((⟨fun block => block, blockOf (List.replicate 16 0)⟩ : Cfb8).encrypt
            (frameBytes [0x00, 0xAA])).1 PacketDirection.serverBound).enableEncryption (fun _ block => block)
            (List.replicate 16 0) (List.replicate 16 0) = .ok r₁ ∧
        readRawUntypedPacket Transport.stream Zlib.identity r₁ = .ok (⟨0, .handshaking, .serverBound⟩, [0xAA]) r₂ ∧
        Relation.ReflTransGen (Call Transport.stream Zlib.identity (fun _ block => block)) r₁ (r₂.setState .play) ∧
        Keyed ((fun _ block => block) (blockOf (List.replicate 16 0))) (r₂.setState .play).encryption ∧
        ∀ key' iv', (r₂.setState .play).enableEncryption (fun _ block => block) key' iv' = .error .alreadyEnabled := by
  have reachable : Reachable Transport.stream Zlib.identity (fun _ block => block)
      (wrap ((⟨fun block => block, blockOf (List.replicate 16 0)⟩ : Cfb8).encrypt (frameBytes [0x00, 0xAA])).1
        PacketDirection.serverBound) := .wrap _ _ _
  have plain : (wrap ((⟨fun block => block, blockOf (List.replicate 16 0)⟩ : Cfb8).encrypt
      (frameBytes [0x00, 0xAA])).1 PacketDirection.serverBound).encryption = none := rfl
  have enabled := enableEncryption_ok (fun _ block => block) plain (List.length_replicate 16 0)
    (List.length_replicate 16 0)
  have holds := holdsFrame_encrypt ⟨fun block => block, blockOf (List.replicate 16 0)⟩ [0x00, 0xAA] []
  rw [List.append_nil] at holds
  obtain ⟨r₂, -, ran⟩ := readRawUntypedPacket_of_holdsFrame Zlib.identity
    ((reachable.call (.enableEncryption _ _ enabled)).good _ _ _).settled holds (by decide) (by decide)
  have calls : Relation.ReflTransGen (Call Transport.stream Zlib.identity (fun _ block => block)) _ (r₂.setState .play) :=
    .tail (.single (.readRawUntypedPacket (by rw [ran]; rfl))) (.setState .play)
  exact ⟨reachable, _, r₂, enabled, ran, calls, key_fixed_once_enabled _ _ _ reachable enabled calls⟩

end CraftReader

end CraftIo
