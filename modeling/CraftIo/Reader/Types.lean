import CraftIo.Foundation.VarInt
import CraftIo.Cipher.Cfb8

/-! # The reader's state, its collaborators and its outcomes

A `CraftReader` wraps a transport `inner : σ` that answers `read_exact` requests
(`CraftIo.Transport`). It owns a raw buffer with two cursors, `rawOffset` and `rawReady`, a
decompression buffer, its configuration and an optional decryptor. A call on the reader is a
state-passing function `CraftIo.ReadM`: it ends in `Ok(Some(a))`, `Ok(None)` or `Err(e)`, each
with the reader after the call, or in a panic (`CraftIo.Outcome`). The `?` operator and the
`rr_unwrap!` macro are the monad's bind, which hands on every outcome but `Ok(Some(_))`.

The collaborators outside this repository are abstract: the transport is any state machine
whose successful reads fill the requested slice, and zlib is any codec whose inflation undoes
its deflation (`CraftIo.Zlib`).
-/

namespace CraftIo

/-- mcproto's protocol `State`. -/
inductive State
  | handshaking
  | status
  | login
  | play
  deriving DecidableEq, Repr

/-- mcproto's `PacketDirection`. -/
inductive PacketDirection
  | serverBound
  | clientBound
  deriving DecidableEq, Repr

/-- mcproto's packet `Id`: the numeric id, tagged with the reader's state and direction. -/
structure Id where
  id : BitVec 32
  state : State
  direction : PacketDirection
  deriving DecidableEq, Repr

/-- mcproto's `PacketErr`, raised by `P::create` and by deserialization. -/
inductive PacketErr
  | unknownId (id : Id)
  | deserializeFailed (err : VarInt.DeserializeErr)
  | extraData (data : List UInt8)
  deriving DecidableEq, Repr

/-- `io::ErrorKind`, as far as the reader tells kinds apart. -/
inductive ErrorKind
  | unexpectedEof
  | other (code : Nat)
  deriving DecidableEq, Repr

/-- `io::Error`. -/
structure IoError where
  kind : ErrorKind
  deriving DecidableEq, Repr

/-- `DecompressErr`. -/
inductive DecompressErr
  | bufError
  | failure
  deriving DecidableEq, Repr

/-- `ReadError`. -/
inductive ReadError
  | ioFailure (err : IoError)
  | packetHeaderErr (err : VarInt.DeserializeErr)
  | packetErr (err : PacketErr)
  | decompressFailed (err : DecompressErr)
  | packetTooLarge (size maxSize : Nat)
  deriving DecidableEq, Repr

/-- A byte source behind `read_exact`, with state `σ`: a request for `n` bytes either fills the
`n`-byte slice or fails with an `io::Error`, and moves the source to its next state. -/
structure Transport (σ : Type) where
  readExact : σ → Nat → Except IoError (List UInt8) × σ
  length_readExact : ∀ inner n bytes, (readExact inner n).1 = .ok bytes → bytes.length = n

/-- The zlib codec behind flate2: the bytes a whole zlib stream inflates to, `none` for a
stream that is corrupt or ends early, and a compressor whose streams inflate back. -/
structure Zlib where
  deflate : List UInt8 → List UInt8
  inflate : List UInt8 → Option (List UInt8)
  inflate_deflate : ∀ data, inflate (deflate data) = some data

/-- flate2's `Status`, as a first call with `FlushDecompress::Finish` reports it. -/
inductive Status
  | streamEnd
  | bufError
  deriving DecidableEq, Repr

/-- One call of `Decompress::decompress(src, out, FlushDecompress::Finish)` on a fresh zlib
stream whose output slice holds `capacity` bytes: the status and the bytes written, or `none`
for a `DecompressError`. A first call with `Finish` either ends the stream or reports
`BufError`, so flate2's `Status::Ok` does not arise. The codec does not tell a stream that ends
early from a corrupt one, so such a stream is a `DecompressError` here where flate2 reports
`BufError`; the reader turns both into `DecompressFailed`. -/
def Zlib.decompressFinish (z : Zlib) (src : List UInt8) (capacity : Nat) :
    Option (Status × List UInt8) :=
  match z.inflate src with
  | some out => if out.length ≤ capacity then some (.streamEnd, out) else some (.bufError, out.take capacity)
  | none => none

/-- `handle_decryption`: the slice decrypted when a cipher is installed, and the cipher after. -/
def handleDecryption (cipher : Option CraftCipher) (buf : List UInt8) :
    Except Panic (List UInt8 × Option CraftCipher) :=
  match cipher with
  | .none => .ok (buf, .none)
  | .some c => (c.decrypt buf).map fun decrypted => (decrypted.1, .some decrypted.2)

/-- Decryption keeps the slice's length. -/
theorem length_handleDecryption {cipher cipher' : Option CraftCipher} {buf decrypted : List UInt8}
    (done : handleDecryption cipher buf = .ok (decrypted, cipher')) : decrypted.length = buf.length := by
  rcases cipher with _ | ⟨_ | decryptor⟩ <;>
    simp [handleDecryption, CraftCipher.decrypt, Except.map] at done
  · rw [← done.1]
  · rw [← done.1, Cfb8.length_decrypt]

/-- Decrypting a slice in two calls is decrypting it in one. -/
theorem handleDecryption_append (cipher : Option CraftCipher) (first second : List UInt8) :
    handleDecryption cipher (first ++ second) =
      (handleDecryption cipher first).bind fun (front, cipher) =>
        (handleDecryption cipher second).map fun (back, cipher) => (front ++ back, cipher) := by
  rcases cipher with _ | ⟨encryptor | decryptor⟩
  · rfl
  · rfl
  · simp [handleDecryption, CraftCipher.decrypt, Except.map, Except.bind, Cfb8.decrypt_append]

/-- `decompress(src, target, decompressed_len)`: the output slice, or the error, and the
decompression buffer after. -/
def decompress (z : Zlib) (src : List UInt8) (target : Option (List UInt8))
    (decompressedLen : Nat) : Except ReadError (List UInt8) × Option (List UInt8) :=
  let decompressBuf := getSizedBuf target 0 decompressedLen
  match z.decompressFinish src decompressedLen with
  | .some (.streamEnd, out) =>
    (.ok (slice (writeSlice decompressBuf 0 out) 0 out.length), .some (writeSlice decompressBuf 0 out))
  | .some (.bufError, out) => (.error (.decompressFailed .bufError), .some (writeSlice decompressBuf 0 out))
  | .none => (.error (.decompressFailed .failure), .some decompressBuf)

/-- The `packet_buf` of `read_untyped_packet_in_buf`, and the decompression buffer after. With a
compression threshold a `data_len` VarInt comes first: zero means the rest of the frame is the
inner packet, anything else is the inner packet's decompressed size. -/
def packetBuf (z : Zlib) (threshold : Option (BitVec 32)) (maxPacketSize : Nat)
    (decompressBuf : Option (List UInt8)) (buf : List UInt8) :
    Except ReadError (List UInt8) × Option (List UInt8) :=
  match threshold with
  | .some _ =>
    match VarInt.mcDeserialize buf with
    | .error err => (.error (.packetHeaderErr err), decompressBuf)
    | .ok (dataLen, rest) =>
      let dataLen := asUsize dataLen
      if dataLen = 0 then (.ok rest, decompressBuf)
      else if dataLen ≥ maxPacketSize then
        (.error (.packetTooLarge dataLen maxPacketSize), decompressBuf)
      else decompress z rest decompressBuf dataLen
  | .none => (.ok buf, decompressBuf)

/-- The frame's `(Id, body)` from its inner packet: the id VarInt and the bytes after it. -/
def splitId (state : State) (direction : PacketDirection) (packetBuf : List UInt8) :
    Except ReadError (Id × List UInt8) :=
  match VarInt.mcDeserialize packetBuf with
  | .ok (rawId, bodyBuf) => .ok ({ id := rawId, state, direction }, bodyBuf)
  | .error err => .error (.packetHeaderErr err)

/-- `DEAFULT_MAX_PACKET_SIZE`, 32 MB. -/
def deafultMaxPacketSize : Nat := 32 * 1000 * 1000

/-- `CraftReader<R>` with its `compression` and `encryption` features on. -/
structure CraftReader (σ : Type) where
  inner : σ
  rawBuf : Option (List UInt8)
  rawReady : Nat
  rawOffset : Nat
  maxPacketSize : Nat
  decompressBuf : Option (List UInt8)
  compressionThreshold : Option (BitVec 32)
  state : State
  direction : PacketDirection
  encryption : Option CraftCipher

namespace CraftReader

variable {σ : Type}

/-- `CraftReader::wrap_with_state`. -/
def wrapWithState (inner : σ) (direction : PacketDirection) (state : State) : CraftReader σ where
  inner := inner
  rawBuf := none
  rawReady := 0
  rawOffset := 0
  decompressBuf := none
  compressionThreshold := none
  state := state
  direction := direction
  encryption := none
  maxPacketSize := deafultMaxPacketSize

/-- `CraftReader::wrap`. -/
def wrap (inner : σ) (direction : PacketDirection) : CraftReader σ :=
  wrapWithState inner direction .handshaking

/-- `into_inner`. -/
def intoInner (r : CraftReader σ) : σ :=
  r.inner

/-- `set_state`. -/
def setState (r : CraftReader σ) (next : State) : CraftReader σ :=
  { r with state := next }

/-- `set_compression_threshold`. -/
def setCompressionThreshold (r : CraftReader σ) (threshold : Option (BitVec 32)) : CraftReader σ :=
  { r with compressionThreshold := threshold }

/-- `set_max_packet_size`, with its `debug_assert!(max_size > 5)`. -/
def setMaxPacketSize (r : CraftReader σ) (maxSize : Nat) : Except Panic (CraftReader σ) :=
  if maxSize > 5 then .ok { r with maxPacketSize := maxSize } else .error .debugAssert

/-- `setup_craft_cipher`: a second cipher is refused. -/
def setupCraftCipher (aes : Block → Block → Block) (target : Option CraftCipher)
    (key iv : List UInt8) (encryption : Bool) : Except CipherError (Option CraftCipher) :=
  match target with
  | some _ => .error .alreadyEnabled
  | none => (CraftCipher.new aes key iv encryption).map some

/-- `enable_encryption`: installs a decryptor. -/
def enableEncryption (aes : Block → Block → Block) (r : CraftReader σ) (key iv : List UInt8) :
    Except CipherError (CraftReader σ) :=
  (setupCraftCipher aes r.encryption key iv false).map fun encryption => { r with encryption }

/-- `ensure_compression_buf_capacity`. -/
def ensureCompressionBufCapacity (r : CraftReader σ) (capacity : Nat) : CraftReader σ :=
  let allocTo := if capacity > r.maxPacketSize then r.maxPacketSize else capacity
  { r with decompressBuf := some (getSizedBuf r.decompressBuf 0 allocTo) }

end CraftReader

/-- How a call on the reader ends: `Ok(Some(a))`, `Ok(None)` or `Err(e)`, each with the state
after the call, or a panic. -/
inductive Outcome (S α : Type)
  | ok (a : α) (s : S)
  | none (s : S)
  | err (e : ReadError) (s : S)
  | panic (p : Panic)

namespace Outcome

variable {S S' α β : Type}

/-- Go on with `f` after `Ok(Some(_))`; hand every other outcome on. -/
def bind (o : Outcome S α) (f : α → S → Outcome S β) : Outcome S β :=
  match o with
  | .ok a s => f a s
  | .none s => .none s
  | .err e s => .err e s
  | .panic p => .panic p

@[simp] theorem ok_bind (a : α) (s : S) (f : α → S → Outcome S β) : (ok a s).bind f = f a s := rfl
@[simp] theorem none_bind (s : S) (f : α → S → Outcome S β) : (none s).bind f = none s := rfl
@[simp] theorem err_bind (e : ReadError) (s : S) (f : α → S → Outcome S β) :
    (err e s).bind f = err e s := rfl
@[simp] theorem panic_bind (p : Panic) (f : α → S → Outcome S β) :
    (panic p : Outcome S α).bind f = panic p := rfl

/-- Two continuations that agree after every `Ok(Some(_))` give the same outcome. -/
theorem bind_congr {o : Outcome S α} {f g : α → S → Outcome S β}
    (agree : ∀ a s, o = .ok a s → f a s = g a s) : o.bind f = o.bind g := by
  cases o with
  | ok a s => exact agree a s rfl
  | none s => rfl
  | err e s => rfl
  | panic p => rfl

theorem bind_assoc {γ : Type} (o : Outcome S α) (f : α → S → Outcome S β)
    (g : β → S → Outcome S γ) : (o.bind f).bind g = o.bind fun a s => (f a s).bind g := by
  cases o <;> rfl

/-- A bind returns only after its first step returned. -/
theorem eq_ok_of_bind {o : Outcome S α} {f : α → S → Outcome S β} {b : β} {s : S}
    (returned : o.bind f = .ok b s) : ∃ a s₁, o = .ok a s₁ ∧ f a s₁ = .ok b s := by
  cases o with
  | ok a s₁ => exact ⟨a, s₁, rfl, returned⟩
  | none _ | err _ _ | panic _ => cases returned

/-- A bind fails in its first step, or after the first step returned. -/
theorem eq_err_of_bind {o : Outcome S α} {f : α → S → Outcome S β} {e : ReadError} {s : S}
    (failed : o.bind f = .err e s) : o = .err e s ∨ ∃ a s₁, o = .ok a s₁ ∧ f a s₁ = .err e s := by
  cases o with
  | ok a s₁ => exact .inr ⟨a, s₁, rfl, failed⟩
  | err _ _ => cases failed; exact .inl rfl
  | none _ | panic _ => cases failed

/-- The outcome with its state mapped. -/
def map (g : S → S') : Outcome S α → Outcome S' α
  | .ok a s => .ok a (g s)
  | .none s => .none (g s)
  | .err e s => .err e (g s)
  | .panic p => .panic p

/-- The state after the call, unless it panicked. -/
def state? : Outcome S α → Option S
  | .ok _ s => some s
  | .none s => some s
  | .err _ s => some s
  | .panic _ => Option.none

/-- The `ReadResult` the call returns, unless it panicked: `none` stands for `Ok(None)`. -/
def result? : Outcome S α → Option (Except ReadError (Option α))
  | .ok a _ => some (.ok (some a))
  | .none _ => some (.ok Option.none)
  | .err e _ => some (.error e)
  | .panic _ => Option.none

end Outcome

/-- A call on a reader with state `S` returning `α`. -/
def ReadM (S α : Type) : Type := S → Outcome S α

namespace ReadM

variable {S α β : Type}

instance : Monad (ReadM S) where
  pure a := fun s => .ok a s
  bind m f := fun s => (m s).bind f

instance : MonadStateOf S (ReadM S) where
  get := fun s => .ok s s
  set s := fun _ => .ok () s
  modifyGet f := fun s => .ok (f s).1 (f s).2

/-- `return Ok(None)`. -/
def none : ReadM S α := fun s => .none s

/-- `return Err(e)`. -/
def error (e : ReadError) : ReadM S α := fun s => .err e s

/-- A panic. -/
def panic (p : Panic) : ReadM S α := fun _ => .panic p

@[simp] theorem pure_apply (a : α) (s : S) : (pure a : ReadM S α) s = .ok a s := rfl
@[simp] theorem bind_apply (m : ReadM S α) (f : α → ReadM S β) (s : S) :
    (m >>= f) s = (m s).bind f := rfl
@[simp] theorem get_apply (s : S) : (get : ReadM S S) s = .ok s s := rfl
@[simp] theorem set_apply (s s' : S) : (set s' : ReadM S Unit) s = .ok () s' := rfl
@[simp] theorem modify_apply (f : S → S) (s : S) : (modify f : ReadM S Unit) s = .ok () (f s) := rfl
@[simp] theorem none_apply (s : S) : (none : ReadM S α) s = .none s := rfl
@[simp] theorem error_apply (e : ReadError) (s : S) : (error e : ReadM S α) s = .err e s := rfl
@[simp] theorem panic_apply (p : Panic) (s : S) : (panic p : ReadM S α) s = .panic p := rfl

theorem bind_assoc {γ : Type} (m : ReadM S α) (f : α → ReadM S β) (g : β → ReadM S γ) :
    m >>= f >>= g = m >>= fun a => f a >>= g := by
  funext s
  exact Outcome.bind_assoc (m s) f g

@[simp] theorem bind_pure (m : ReadM S α) : m >>= pure = m := by
  funext s
  simp only [bind_apply]
  cases m s <;> rfl

end ReadM

end CraftIo
