import CraftIo.Stream.Encryption

/-! # What the byte-moving phases see

A frame read pulls bytes and decrypts them before it decodes anything with the configuration.
The pulls and the decryptions read and move the channel, the transport and the decryptor, and
nothing else. So any relation between frame readers that holds only of readers on the same
channel and survives moving it on both sides (`CraftIo.FrameReader.ChannelBlind`) relates what
the two readers' prefix loops and frame pulls end with (`CraftIo.FrameReader.readLength_rel`,
`CraftIo.FrameReader.pullFrame_rel`). A whole read keeps the relation when decoding does
(`CraftIo.FrameReader.readFrame_rel`), and so does a whole session
(`CraftIo.FrameReader.run_relExcept`).

Some configuration changes make a read differ only where it fails with one kind of error: two
outcomes then agree except where the first ends with such an error (`CraftIo.Outcome.RelExcept`),
and two sessions agree as long as the first reports no such error.
-/

namespace CraftIo

namespace Outcome

variable {S S' α β : Type}

/-- `o` and `o'` agree as in `CraftIo.Outcome.Rel`, except that `o` may end with an error `E`
admits, whatever `o'` does. -/
inductive RelExcept (E : ReadError → Prop) (R : S → S' → Prop) : Outcome S α → Outcome S' α → Prop
  | rel {o : Outcome S α} {o' : Outcome S' α} : Rel R o o' → RelExcept E R o o'
  | excused {e : ReadError} {s : S} {o' : Outcome S' α} : E e → RelExcept E R (.err e s) o'

theorem RelExcept.bind {E : ReadError → Prop} {R Q : S → S' → Prop} {o : Outcome S α} {o' : Outcome S' α}
    {f : α → S → Outcome S β} {g : α → S' → Outcome S' β} (first : RelExcept E R o o')
    (weaker : ∀ s s', R s s' → Q s s')
    (next : ∀ a s s', o = .ok a s → R s s' → RelExcept E Q (f a s) (g a s')) :
    RelExcept E Q (o.bind f) (o'.bind g) := by
  cases first with
  | excused excused => exact .excused excused
  | rel related =>
    cases related with
    | ok kept => exact next _ _ _ rfl kept
    | none kept => exact .rel (.none (weaker _ _ kept))
    | err kept => exact .rel (.err (weaker _ _ kept))
    | panic => exact .rel .panic

end Outcome

namespace FrameReader

variable {σ : Type} (T : Transport σ)

/-- A relation between frame readers on the same channel, the transport and the decryptor, that
survives moving the channel the same way on both sides. -/
structure ChannelBlind (R : FrameReader σ → FrameReader σ → Prop) : Prop where
  inner_eq : ∀ {f₁ f₂}, R f₁ f₂ → f₂.inner = f₁.inner
  encryption_eq : ∀ {f₁ f₂}, R f₁ f₂ → f₂.encryption = f₁.encryption
  moveInner : ∀ {f₁ f₂} (inner : σ), R f₁ f₂ → R { f₁ with inner } { f₂ with inner }
  moveEncryption : ∀ {f₁ f₂} (encryption : Option CraftCipher), R f₁ f₂ →
    R { f₁ with encryption } { f₂ with encryption }

variable {R : FrameReader σ → FrameReader σ → Prop}

/-- A request cannot tell related readers apart. -/
theorem pull_rel (blind : ChannelBlind R) (n : Nat) {f₁ f₂ : FrameReader σ} (related : R f₁ f₂) :
    Outcome.Rel R (pull T n f₁) (pull T n f₂) := by
  simp only [pull, blind.inner_eq related]
  cases T.readExact f₁.inner n with
  | mk answer inner =>
    cases answer with
    | ok bytes => exact .ok (blind.moveInner inner related)
    | error err =>
      dsimp only
      split_ifs
      · exact .none (blind.moveInner inner related)
      · exact .err (blind.moveInner inner related)

/-- Decrypting cannot tell related readers apart. -/
theorem decrypt_rel (blind : ChannelBlind R) (buf : List UInt8) {f₁ f₂ : FrameReader σ} (related : R f₁ f₂) :
    Outcome.Rel R (decrypt buf f₁) (decrypt buf f₂) := by
  simp only [decrypt, blind.encryption_eq related]
  cases handleDecryption f₁.encryption buf with
  | ok result => exact .ok (blind.moveEncryption result.2 related)
  | error p => exact .panic

/-- The prefix loop cannot tell related readers apart. -/
theorem readLength_rel (blind : ChannelBlind R) (position : Nat) (value : BitVec 32) {f₁ f₂ : FrameReader σ}
    (related : R f₁ f₂) : Outcome.Rel R (readLength T position value f₁) (readLength T position value f₂) := by
  rw [readLength]
  simp only [ReadM.bind_apply]
  refine (pull_rel T blind 1 related).bind (fun _ _ kept => kept) fun copy g₁ g₂ _ related₁ => ?_
  cases copy with
  | nil => exact .panic
  | cons copy _ =>
    simp only [CraftReader.firstByte, ReadM.pure_apply, Outcome.ok_bind, ReadM.bind_apply]
    refine (decrypt_rel blind [copy] related₁).bind (fun _ _ kept => kept) fun byte h₁ h₂ _ related₂ => ?_
    split_ifs
    · exact .ok related₂
    · exact .panic
    · exact readLength_rel blind (position + 1) _ related₂
termination_by 5 - position

/-- The rest of a frame is pulled alike from related readers. -/
theorem pullBody_rel (blind : ChannelBlind R) (len : Nat) {f₁ f₂ : FrameReader σ} (related : R f₁ f₂) :
    Outcome.Rel R (pullBody T len f₁) (pullBody T len f₂) := by
  unfold pullBody
  split_ifs
  · exact pull_rel T blind len related
  · exact .ok related

/-- Related readers with the same cap pull the same frame. -/
theorem pullFrame_rel (blind : ChannelBlind R)
    (sameCap : ∀ {f₁ f₂}, R f₁ f₂ → f₂.maxPacketSize = f₁.maxPacketSize) {f₁ f₂ : FrameReader σ}
    (related : R f₁ f₂) : Outcome.Rel R (pullFrame T f₁) (pullFrame T f₂) := by
  simp only [pullFrame, ReadM.bind_apply]
  refine (readLength_rel T blind 0 0 related).bind (fun _ _ kept => kept) fun len g₁ g₂ _ related₁ => ?_
  simp only [ReadM.bind_apply, ReadM.get_apply, Outcome.ok_bind, sameCap related₁]
  split_ifs
  · simp only [ReadM.bind_apply, ReadM.get_apply, ReadM.error_apply, Outcome.ok_bind, Outcome.err_bind,
      sameCap related₁]
    exact .err related₁
  · exact pullBody_rel T blind _ related₁

variable (z : Zlib)

/-- **One read keeps a channel-blind relation** between readers with the same cap, where
decoding keeps it. -/
theorem readFrame_rel (blind : ChannelBlind R)
    (sameCap : ∀ {f₁ f₂}, R f₁ f₂ → f₂.maxPacketSize = f₁.maxPacketSize)
    (decode : ∀ payload {f₁ f₂}, R f₁ f₂ → Outcome.Rel R (decodeFrame z payload f₁) (decodeFrame z payload f₂))
    {f₁ f₂ : FrameReader σ} (related : R f₁ f₂) : Outcome.Rel R (readFrame T z f₁) (readFrame T z f₂) := by
  show Outcome.Rel _ ((pullFrame T f₁).bind fun body s => (decrypt body s).bind (decodeFrame z))
    ((pullFrame T f₂).bind fun body s => (decrypt body s).bind (decodeFrame z))
  refine (pullFrame_rel T blind sameCap related).bind (fun _ _ kept => kept) fun body g₁ g₂ _ related₁ => ?_
  exact (decrypt_rel blind body related₁).bind (fun _ _ kept => kept) fun payload _ _ _ related₂ =>
    decode payload related₂

/-- **A session keeps a channel-blind relation.** When every read from related readers agrees
except where the first fails with an error `E` admits, the sessions from related readers agree
as long as the first reports no such error. -/
theorem run_relExcept {E : ReadError → Prop} {R : FrameReader (List UInt8) → FrameReader (List UInt8) → Prop}
    (blind : ChannelBlind R)
    (read : ∀ {f₁ f₂}, R f₁ f₂ → Outcome.RelExcept E R (readFrame Transport.stream z f₁) (readFrame Transport.stream z f₂)) :
    ∀ (events : List Event) {f₁ f₂ : FrameReader (List UInt8)}, R f₁ f₂ →
      (∀ e, E e → some (.error e) ∉ FrameReader.run (readFrame Transport.stream z) events f₁) →
      FrameReader.run (readFrame Transport.stream z) events f₂ = FrameReader.run (readFrame Transport.stream z) events f₁
  | [], _, _, _, _ => rfl
  | .arrive chunk :: events, f₁, f₂, related, admitted => by
    rw [FrameReader.run, FrameReader.run, blind.inner_eq related]
    exact run_relExcept blind read events (blind.moveInner _ related) admitted
  | .call :: events, f₁, f₂, related, admitted => by
    have agrees := read related
    rw [FrameReader.run] at admitted
    rw [FrameReader.run, FrameReader.run]
    generalize readFrame Transport.stream z f₁ = o₁ at agrees admitted ⊢
    generalize readFrame Transport.stream z f₂ = o₂ at agrees admitted ⊢
    cases agrees with
    | excused excused => exact absurd (List.mem_cons_self _ _) (admitted _ excused)
    | rel agrees =>
      cases agrees with
      | ok related' | none related' | err related' =>
        exact congrArg _ (run_relExcept blind read events related' fun e excused mem =>
          admitted e excused (List.mem_cons_of_mem _ mem))
      | panic => rfl

end FrameReader

end CraftIo
