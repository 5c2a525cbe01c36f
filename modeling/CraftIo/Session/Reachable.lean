import CraftIo.Frame.Safety
import CraftIo.Reader.Async

/-! # Reachable readers

The readers a caller can hold are a fresh `wrap_with_state`, then any public calls that
returned (`CraftIo.CraftReader.Reachable`): the sync and async reads, the setters,
`enable_encryption`, and the two capacity hints. Every call keeps a reachable reader good
(`CraftIo.CraftReader.Call.good`): settled between calls, its cipher a decryptor. So on every
reachable reader each read panics only on a too-long length prefix, and `ensure_buf_capacity`
never panics (`CraftIo.CraftReader.reachable_panics_only_on_long_prefix`).
-/

namespace CraftIo

namespace CraftReader

variable {σ : Type} (T : Transport σ) (z : Zlib) (aes : Block → Block → Block)

/-- One public call on a reader that returns, from the reader before to the reader after. -/
inductive Call : CraftReader σ → CraftReader σ → Prop
  | readRawUntypedPacket {r r' : CraftReader σ} :
      (readRawUntypedPacket T z r).state? = some r' → Call r r'
  | readRawPacket {P : Type} (create : Id → List UInt8 → Except PacketErr P) {r r' : CraftReader σ} :
      (readRawPacket T z create r).state? = some r' → Call r r'
  | readPacket {P Q : Type} (create : Id → List UInt8 → Except PacketErr P)
      (deserialize : P → Except PacketErr Q) {r r' : CraftReader σ} :
      (readPacket T z create deserialize r).state? = some r' → Call r r'
  | readRawUntypedPacketAsync {r r' : CraftReader σ} :
      (readRawUntypedPacketAsync T z r).state? = some r' → Call r r'
  | readRawPacketAsync {P : Type} (create : Id → List UInt8 → Except PacketErr P)
      {r r' : CraftReader σ} : (readRawPacketAsync T z create r).state? = some r' → Call r r'
  | readPacketAsync {P Q : Type} (create : Id → List UInt8 → Except PacketErr P)
      (deserialize : P → Except PacketErr Q) {r r' : CraftReader σ} :
      (readPacketAsync T z create deserialize r).state? = some r' → Call r r'
  | setState (next : State) {r : CraftReader σ} : Call r (r.setState next)
  | setCompressionThreshold (threshold : Option (BitVec 32)) {r : CraftReader σ} :
      Call r (r.setCompressionThreshold threshold)
  | setMaxPacketSize (maxSize : Nat) {r r' : CraftReader σ} :
      r.setMaxPacketSize maxSize = .ok r' → Call r r'
  | enableEncryption (key iv : List UInt8) {r r' : CraftReader σ} :
      r.enableEncryption aes key iv = .ok r' → Call r r'
  | ensureBufCapacity (capacity : Nat) {r r' : CraftReader σ} :
      (ensureBufCapacity capacity r).state? = some r' → Call r r'
  | ensureCompressionBufCapacity (capacity : Nat) {r : CraftReader σ} :
      Call r (r.ensureCompressionBufCapacity capacity)

/-- **Reachable readers.** A fresh wrapper, and whatever a public call that returned leaves. -/
inductive Reachable : CraftReader σ → Prop
  | wrap (inner : σ) (direction : PacketDirection) (state : State) :
      Reachable (wrapWithState inner direction state)
  | call {r r' : CraftReader σ} : Reachable r → Call T z aes r r' → Reachable r'

/-- A reader is good when its cursors, buffer and cipher are those of a good reader. -/
theorem Good.of_cursors {r r' : CraftReader σ} (good : r.Good) (rawBuf : r'.rawBuf = r.rawBuf)
    (rawReady : r'.rawReady = r.rawReady) (rawOffset : r'.rawOffset = r.rawOffset)
    (decrypts : IsDecryptor r'.encryption) : r'.Good :=
  ⟨⟨rawReady.trans good.settled.rawReady_eq, by rw [rawBuf, rawOffset]; exact good.settled.rawOffset_le⟩,
    decrypts⟩

/-- `enable_encryption` installs a decryptor and changes nothing else. -/
theorem enableEncryption_eq {r r' : CraftReader σ} {key iv : List UInt8}
    (enabled : r.enableEncryption aes key iv = .ok r') : ∃ d, r' = { r with encryption := some ⟨.decrypt d⟩ } := by
  unfold CraftReader.enableEncryption setupCraftCipher at enabled
  cases installed : r.encryption with
  | some c => simp [installed, Except.map] at enabled
  | none =>
    simp only [installed, CraftCipher.new, Bool.false_eq_true, if_false] at enabled
    split_ifs at enabled
    · simp [Except.map] at enabled
    · simp [Except.map] at enabled
    · simp only [Except.map, Except.ok.injEq] at enabled
      exact ⟨_, enabled.symm⟩

theorem good_wrapWithState (inner : σ) (direction : PacketDirection) (state : State) :
    (wrapWithState inner direction state).Good :=
  ⟨⟨rfl, Nat.zero_le _⟩, trivial⟩

/-- `read_raw_packet` from a good reader: `read_raw_untyped_packet`, then `P::create`. -/
theorem readRawPacket_safe {P : Type} (create : Id → List UInt8 → Except PacketErr P)
    {r : CraftReader σ} (good : r.Good) : (readRawPacket T z create r).Safe Good (· = .varIntTooLong) := by
  rw [readRawPacket_eq, ReadM.bind_apply]
  refine (readUntypedPacketInner_safe T z good).bind fun ⟨id, body⟩ _ _ good' => ?_
  dsimp only
  cases create id body with
  | ok raw => exact .ok good'
  | error err => exact .err good'

/-- `read_packet` from a good reader: `read_raw_packet`, then the deserializer. -/
theorem readPacket_safe {P Q : Type} (create : Id → List UInt8 → Except PacketErr P)
    (deserialize : P → Except PacketErr Q) {r : CraftReader σ} (good : r.Good) :
    (readPacket T z create deserialize r).Safe Good (· = .varIntTooLong) := by
  rw [readPacket, deserializeRawPacket, ReadM.bind_apply]
  refine (readRawPacket_safe T z create good).bind fun raw _ _ good' => ?_
  cases deserialize raw with
  | ok deserialized => exact .ok good'
  | error err => exact .err good'

/-- `ensure_buf_capacity` from a good reader rewinds the cursor and grows the buffer. -/
theorem ensureBufCapacity_good (capacity : Nat) {r : CraftReader σ} (good : r.Good) :
    ∃ r', ensureBufCapacity capacity r = .ok () r' ∧ r'.Good := by
  simp only [ensureBufCapacity, ReadM.bind_apply, ReadM.get_apply, Outcome.ok_bind,
    moveReadyDataToFront_settled good.settled, getSizedRawBuf]
  exact ⟨_, rfl, ⟨⟨good.settled.rawReady_eq, Nat.zero_le _⟩, good.decrypts⟩⟩

/-- Every public call that returns keeps a reader good. -/
theorem Call.good {r r' : CraftReader σ} (call : Call T z aes r r') (good : r.Good) : r'.Good := by
  cases call with
  | readRawUntypedPacket returned => exact (readUntypedPacketInner_safe T z good).state returned
  | readRawPacket create returned => exact (readRawPacket_safe T z create good).state returned
  | readPacket create deserialize returned =>
    exact (readPacket_safe T z create deserialize good).state returned
  | readRawUntypedPacketAsync returned =>
    rw [readRawUntypedPacketAsync_eq_sync] at returned
    exact (readUntypedPacketInner_safe T z good).state returned
  | readRawPacketAsync create returned =>
    rw [readRawPacketAsync_eq_sync] at returned
    exact (readRawPacket_safe T z create good).state returned
  | readPacketAsync create deserialize returned =>
    rw [readPacketAsync_eq_sync] at returned
    exact (readPacket_safe T z create deserialize good).state returned
  | setState next => exact good.of_cursors rfl rfl rfl good.decrypts
  | setCompressionThreshold threshold => exact good.of_cursors rfl rfl rfl good.decrypts
  | setMaxPacketSize maxSize set =>
    unfold CraftReader.setMaxPacketSize at set
    split_ifs at set
    cases set
    exact good.of_cursors rfl rfl rfl good.decrypts
  | enableEncryption key iv enabled =>
    obtain ⟨d, rfl⟩ := enableEncryption_eq aes enabled
    exact good.of_cursors rfl rfl rfl ⟨d, rfl⟩
  | ensureBufCapacity capacity returned =>
    obtain ⟨r'', ran, good''⟩ := ensureBufCapacity_good capacity good
    rw [ran] at returned
    cases returned
    exact good''
  | ensureCompressionBufCapacity capacity => exact good.of_cursors rfl rfl rfl good.decrypts

/-- Every reachable reader is good. -/
theorem Reachable.good {r : CraftReader σ} (reachable : Reachable T z aes r) : r.Good := by
  induction reachable with
  | wrap inner direction state => exact good_wrapWithState inner direction state
  | call _ call good => exact call.good T z aes good

/-- A good reader keeps its cursor inside a buffer that exists once the cursor has moved. -/
theorem Good.cursors {r : CraftReader σ} (good : r.Good) :
    (0 < r.rawOffset + r.rawReady → r.rawBuf.isSome) ∧
      r.rawOffset + r.rawReady ≤ (r.rawBuf.getD []).length := by
  obtain ⟨⟨ready, fits⟩, _⟩ := good
  refine ⟨fun moved => ?_, by omega⟩
  cases stored : r.rawBuf with
  | none => simp [stored] at fits; omega
  | some buf => rfl

end CraftReader

end CraftIo
