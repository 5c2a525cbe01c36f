import CraftIo.Foundation.Bytes

/-! # The CFB8 cipher adapter

`CraftCipher` wraps one direction of AES-128/CFB8 from the `cfb8` crate. AES-128 under the key
is an arbitrary function on 16-byte blocks. One byte step XORs the byte with the first byte of
AES of the shift register, then shifts the ciphertext byte into the register
(`CraftIo.Cfb8.encryptByte`, `CraftIo.Cfb8.decryptByte`). `CraftCipher::encrypt` and
`CraftCipher::decrypt` run the step over a slice, so a stream may be split into calls anywhere
(`CraftIo.Cfb8.decrypt_append`), and a decryptor in the same state as the encryptor reads back
the plaintext and ends in the state the encryptor ends in (`CraftIo.Cfb8.decrypt_encrypt`).
-/

namespace CraftIo

/-- A 16-byte block. -/
abbrev Block := Fin 16 → UInt8

/-- The block a 16-byte slice holds. -/
def blockOf (bytes : List UInt8) : Block :=
  fun i => bytes.getD i.val 0

/-- The shift register after the byte `byte` is shifted in at its end. -/
def shiftIn (register : Block) (byte : UInt8) : Block :=
  fun i => if h : i.val < 15 then register ⟨i.val + 1, by omega⟩ else byte

/-- The state of one direction of the `cfb8` crate: AES-128 under the key, and the shift
register, initially the IV. -/
structure Cfb8 where
  cipher : Block → Block
  iv : Block

namespace Cfb8

/-- The keystream byte of the current register. -/
def keystream (c : Cfb8) : UInt8 :=
  c.cipher c.iv 0

/-- `Encryptor::encrypt_block_mut` on a one-byte block. -/
def encryptByte (c : Cfb8) (byte : UInt8) : UInt8 × Cfb8 :=
  let out := byte ^^^ c.keystream
  (out, { c with iv := shiftIn c.iv out })

/-- `Decryptor::decrypt_block_mut` on a one-byte block: the register takes the ciphertext byte. -/
def decryptByte (c : Cfb8) (byte : UInt8) : UInt8 × Cfb8 :=
  (byte ^^^ c.keystream, { c with iv := shiftIn c.iv byte })

/-- The encryptor run over a slice, one byte block at a time. -/
def encrypt (c : Cfb8) : List UInt8 → List UInt8 × Cfb8
  | [] => ([], c)
  | byte :: rest =>
    let (out, c) := c.encryptByte byte
    let (outs, c) := c.encrypt rest
    (out :: outs, c)

/-- The decryptor run over a slice, one byte block at a time. -/
def decrypt (c : Cfb8) : List UInt8 → List UInt8 × Cfb8
  | [] => ([], c)
  | byte :: rest =>
    let (out, c) := c.decryptByte byte
    let (outs, c) := c.decrypt rest
    (out :: outs, c)

@[simp] theorem encrypt_nil (c : Cfb8) : c.encrypt [] = ([], c) := rfl

@[simp] theorem decrypt_nil (c : Cfb8) : c.decrypt [] = ([], c) := rfl

@[simp] theorem length_decrypt (c : Cfb8) (data : List UInt8) :
    (c.decrypt data).1.length = data.length := by
  induction data generalizing c with
  | nil => rfl
  | cons byte rest ih => simp [decrypt, ih]

@[simp] theorem length_encrypt (c : Cfb8) (data : List UInt8) :
    (c.encrypt data).1.length = data.length := by
  induction data generalizing c with
  | nil => rfl
  | cons byte rest ih => simp [encrypt, ih]

/-- Encrypting a stream in two calls is encrypting it in one. -/
theorem encrypt_append (c : Cfb8) (first second : List UInt8) :
    c.encrypt (first ++ second) =
      ((c.encrypt first).1 ++ ((c.encrypt first).2.encrypt second).1,
        ((c.encrypt first).2.encrypt second).2) := by
  induction first generalizing c with
  | nil => rfl
  | cons byte rest ih => simp [encrypt, ih]

/-- Decrypting a stream in two calls is decrypting it in one. -/
theorem decrypt_append (c : Cfb8) (first second : List UInt8) :
    c.decrypt (first ++ second) =
      ((c.decrypt first).1 ++ ((c.decrypt first).2.decrypt second).1,
        ((c.decrypt first).2.decrypt second).2) := by
  induction first generalizing c with
  | nil => rfl
  | cons byte rest ih => simp [decrypt, ih]

theorem xor_xor_cancel (a b : UInt8) : a ^^^ b ^^^ b = a := by
  apply UInt8.eq_of_toBitVec_eq
  show a.toBitVec ^^^ b.toBitVec ^^^ b.toBitVec = a.toBitVec
  simp [BitVec.xor_assoc]

/-- **The decryptor undoes the encryptor.** From the same state, decrypting the ciphertext gives
the plaintext back and leaves the decryptor where the encryptor ended. -/
theorem decrypt_encrypt (c : Cfb8) (plain : List UInt8) :
    c.decrypt (c.encrypt plain).1 = (plain, (c.encrypt plain).2) := by
  induction plain generalizing c with
  | nil => rfl
  | cons byte rest ih =>
    simp only [encrypt, decrypt, decryptByte, encryptByte, xor_xor_cancel]
    rw [ih]

end Cfb8

/-- `BYTES_SIZE`, the size of a key and of an IV. -/
def bytesSize : Nat := 16

/-- The part of a cipher a size error names. -/
inductive CipherComponent
  | key
  | iv
  deriving DecidableEq, Repr

/-- `CipherError`. -/
inductive CipherError
  | alreadyEnabled
  | badSize (size : Nat) (component : CipherComponent)
  deriving DecidableEq, Repr

/-- The direction a `CraftCipher` was built for. -/
inductive CipherDirection
  | encrypt (encryptor : Cfb8)
  | decrypt (decryptor : Cfb8)

/-- `CraftCipher`: one direction of AES-128/CFB8. -/
structure CraftCipher where
  cipher : CipherDirection

namespace CraftCipher

/-- `CraftCipher::new`: the IV's size is checked before the key's; `aes` is AES-128 as a
function of the key. -/
def new (aes : Block → Block → Block) (key iv : List UInt8) (encryption : Bool) :
    Except CipherError CraftCipher :=
  if iv.length ≠ bytesSize then .error (.badSize iv.length .iv)
  else if key.length ≠ bytesSize then .error (.badSize key.length .key)
  else .ok ⟨if encryption then .encrypt ⟨aes (blockOf key), blockOf iv⟩
    else .decrypt ⟨aes (blockOf key), blockOf iv⟩⟩

/-- `CraftCipher::encrypt`; the `unreachable!()` arm on a decryptor is a panic. -/
def encrypt (c : CraftCipher) (data : List UInt8) : Except Panic (List UInt8 × CraftCipher) :=
  match c.cipher with
  | .encrypt encryptor => .ok ((encryptor.encrypt data).1, ⟨.encrypt (encryptor.encrypt data).2⟩)
  | .decrypt _ => .error .unreachable

/-- `CraftCipher::decrypt`; the `unreachable!()` arm on an encryptor is a panic. -/
def decrypt (c : CraftCipher) (data : List UInt8) : Except Panic (List UInt8 × CraftCipher) :=
  match c.cipher with
  | .decrypt decryptor => .ok ((decryptor.decrypt data).1, ⟨.decrypt (decryptor.decrypt data).2⟩)
  | .encrypt _ => .error .unreachable

/-- Successive `encrypt` calls on the chunks of a stream. -/
def encryptEach (c : CraftCipher) : List (List UInt8) → Except Panic (List (List UInt8) × CraftCipher)
  | [] => .ok ([], c)
  | chunk :: rest => do
    let (out, c) ← c.encrypt chunk
    let (outs, c) ← c.encryptEach rest
    pure (out :: outs, c)

/-- Successive `decrypt` calls on the chunks of a stream. -/
def decryptEach (c : CraftCipher) : List (List UInt8) → Except Panic (List (List UInt8) × CraftCipher)
  | [] => .ok ([], c)
  | chunk :: rest => do
    let (out, c) ← c.decrypt chunk
    let (outs, c) ← c.decryptEach rest
    pure (out :: outs, c)

/-- `new` succeeds on a 16-byte key and IV, with the key's AES and the IV as register. -/
theorem new_ok (aes : Block → Block → Block) {key iv : List UInt8} (keySize : key.length = 16)
    (ivSize : iv.length = 16) (encryption : Bool) :
    new aes key iv encryption = .ok ⟨if encryption then .encrypt ⟨aes (blockOf key), blockOf iv⟩
      else .decrypt ⟨aes (blockOf key), blockOf iv⟩⟩ := by
  simp [new, bytesSize, keySize, ivSize]

/-- Calls on the chunks of a stream encrypt it as one stream. -/
theorem encryptEach_encrypt (encryptor : Cfb8) (chunks : List (List UInt8)) :
    ∃ outs, (⟨.encrypt encryptor⟩ : CraftCipher).encryptEach chunks =
      .ok (outs, ⟨.encrypt (encryptor.encrypt chunks.flatten).2⟩) ∧
      outs.flatten = (encryptor.encrypt chunks.flatten).1 := by
  induction chunks generalizing encryptor with
  | nil => exact ⟨[], rfl, rfl⟩
  | cons chunk rest ih =>
    obtain ⟨outs, run, joined⟩ := ih (encryptor.encrypt chunk).2
    refine ⟨(encryptor.encrypt chunk).1 :: outs, ?_, ?_⟩
    · simp only [encryptEach, encrypt, bind, Except.bind, run, pure, Except.pure, List.flatten_cons,
        Cfb8.encrypt_append]
    · simp [joined, Cfb8.encrypt_append]

/-- Calls on the chunks of a stream decrypt it as one stream. -/
theorem decryptEach_decrypt (decryptor : Cfb8) (chunks : List (List UInt8)) :
    ∃ outs, (⟨.decrypt decryptor⟩ : CraftCipher).decryptEach chunks =
      .ok (outs, ⟨.decrypt (decryptor.decrypt chunks.flatten).2⟩) ∧
      outs.flatten = (decryptor.decrypt chunks.flatten).1 := by
  induction chunks generalizing decryptor with
  | nil => exact ⟨[], rfl, rfl⟩
  | cons chunk rest ih =>
    obtain ⟨outs, run, joined⟩ := ih (decryptor.decrypt chunk).2
    refine ⟨(decryptor.decrypt chunk).1 :: outs, ?_, ?_⟩
    · simp only [decryptEach, decrypt, bind, Except.bind, run, pure, Except.pure, List.flatten_cons,
        Cfb8.decrypt_append]
    · simp [joined, Cfb8.decrypt_append]

/-- **CFB8 round trip under any chunking.** An encryptor and a decryptor built from one 16-byte
key and IV: whatever chunks the plaintext is encrypted in, and whatever chunks the ciphertext
is then decrypted in, the decrypted chunks make up the plaintext. -/
theorem craftCipher_round_trip (aes : Block → Block → Block) {key iv : List UInt8}
    (keySize : key.length = 16) (ivSize : iv.length = 16) (plain pieces : List (List UInt8)) :
    ∃ encryptor decryptor cipherText encryptor',
      new aes key iv true = .ok encryptor ∧ new aes key iv false = .ok decryptor ∧
      encryptor.encryptEach plain = .ok (cipherText, encryptor') ∧
      (pieces.flatten = cipherText.flatten →
        ∃ decrypted decryptor', decryptor.decryptEach pieces = .ok (decrypted, decryptor') ∧
          decrypted.flatten = plain.flatten) := by
  let start : Cfb8 := ⟨aes (blockOf key), blockOf iv⟩
  obtain ⟨cipherText, encrypted, cipherJoined⟩ := encryptEach_encrypt start plain
  refine ⟨_, _, cipherText, _, new_ok aes keySize ivSize true, new_ok aes keySize ivSize false,
    encrypted, fun sameStream => ?_⟩
  obtain ⟨decrypted, run, joined⟩ := decryptEach_decrypt start pieces
  refine ⟨decrypted, _, run, ?_⟩
  rw [joined, sameStream, cipherJoined, Cfb8.decrypt_encrypt]

/-- The round trip for an all-zero key and IV, a stream encrypted in two chunks and decrypted
in one. -/
theorem craftCipher_round_trip_zero :
    (List.replicate 16 (0 : UInt8)).length = 16 ∧
      ∃ encryptor decryptor cipherText encryptor',
        new (fun key _ => key) (List.replicate 16 0) (List.replicate 16 0) true = .ok encryptor ∧
        new (fun key _ => key) (List.replicate 16 0) (List.replicate 16 0) false =
          .ok decryptor ∧
        encryptor.encryptEach [[1], [2, 3]] = .ok (cipherText, encryptor') ∧
        ([[1, 2, 3]].flatten = cipherText.flatten →
          ∃ decrypted decryptor', decryptor.decryptEach [[1, 2, 3]] = .ok (decrypted, decryptor') ∧
            decrypted.flatten = [[1], [2, 3]].flatten) :=
  ⟨rfl, @craftCipher_round_trip (fun key _ => key) (List.replicate 16 0) (List.replicate 16 0)
    rfl rfl _ _⟩

end CraftCipher

end CraftIo
