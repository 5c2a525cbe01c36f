import Mathlib.Data.List.Basic

/-! # Byte buffers and panics

A call of the reader that panics is modelled as ending in a `CraftIo.Panic` that names the
source's panic site. The reader keeps its bytes in `Vec<u8>` buffers, modelled as lists of bytes. A buffer is only
ever grown to hold a slice (`CraftIo.getSizedBuf`), read through a slice (`CraftIo.slice`),
written through a slice (`CraftIo.writeSlice`) and compacted (`CraftIo.copyWithin`). Growing
never moves the bytes already there (`CraftIo.getSizedBuf_prefix`), and a slice that fits is
read back as it was written (`CraftIo.slice_writeSlice`).
-/

namespace CraftIo

/-- The panic sites of the read path, in a debug build. -/
inductive Panic
  /-- `panic!("VarInt too long")` in the length-prefix loop. -/
  | varIntTooLong
  /-- `panic!("not enough data is ready, got {} ready and {} desired ready!", ready, size)`. -/
  | notEnoughData (ready size : Nat)
  /-- The debug-build overflow check of a `usize` subtraction. -/
  | subtractOverflow
  /-- `Option::expect` on `None`, with its message. -/
  | expect (msg : String)
  /-- A slice index or range outside its buffer. -/
  | sliceIndex
  /-- `copy_within` with a range outside its buffer. -/
  | copyWithinRange
  /-- A failing `debug_assert!` or `debug_assert_eq!`. -/
  | debugAssert
  /-- `unreachable!()` in `CraftCipher::encrypt` or `CraftCipher::decrypt`. -/
  | unreachable
  deriving DecidableEq, Repr

/-- The slice `buf[start, start+len)`, cut short where the buffer ends. -/
def slice (buf : List UInt8) (start len : Nat) : List UInt8 :=
  (buf.drop start).take len

/-- The buffer with the slice starting at `start` overwritten by `bytes`. -/
def writeSlice (buf : List UInt8) (start : Nat) (bytes : List UInt8) : List UInt8 :=
  buf.take start ++ bytes ++ buf.drop (start + bytes.length)

/-- Modelled from the spec: `get_sized_buf` of `util.rs`, which is not under `src/` (§4.1).
It allocates the buffer when it is absent and grows it, zero-filled, until it holds
`start + len` bytes; it never shrinks it and never moves the bytes already in it. The
caller's slice is `[start, start+len)` of the buffer it returns. The doubling policy of §4.1
concerns the capacity of the allocation, which no caller observes. -/
def getSizedBuf (buf : Option (List UInt8)) (start len : Nat) : List UInt8 :=
  buf.getD [] ++ List.replicate (start + len - (buf.getD []).length) 0

/-- `buf.copy_within(srcStart..srcEnd, dest)`; `none` where the range makes Rust panic. -/
def copyWithin (buf : List UInt8) (srcStart srcEnd dest : Nat) : Option (List UInt8) :=
  if srcStart ≤ srcEnd ∧ srcEnd ≤ buf.length ∧ dest + (srcEnd - srcStart) ≤ buf.length then
    some (writeSlice buf dest (slice buf srcStart (srcEnd - srcStart)))
  else none

theorem length_slice {buf : List UInt8} {start len : Nat} (fits : start + len ≤ buf.length) :
    (slice buf start len).length = len := by
  simp only [slice, List.length_take, List.length_drop]
  omega

@[simp] theorem length_getSizedBuf (buf : Option (List UInt8)) (start len : Nat) :
    (getSizedBuf buf start len).length = max (buf.getD []).length (start + len) := by
  simp only [getSizedBuf, List.length_append, List.length_replicate]
  omega

theorem le_length_getSizedBuf (buf : Option (List UInt8)) (start len : Nat) :
    start + len ≤ (getSizedBuf buf start len).length := by
  simp only [length_getSizedBuf]
  omega

/-- The slice the caller of `get_sized_buf` gets always has the length it asked for. -/
@[simp] theorem length_slice_getSizedBuf (buf : Option (List UInt8)) (start len : Nat) :
    (slice (getSizedBuf buf start len) start len).length = len :=
  length_slice (le_length_getSizedBuf buf start len)

/-- A buffer already long enough is returned as it is. -/
theorem getSizedBuf_of_le {buf : List UInt8} {start len : Nat} (fits : start + len ≤ buf.length) :
    getSizedBuf (some buf) start len = buf := by
  simp [getSizedBuf, Nat.sub_eq_zero_of_le fits]

/-- Growing keeps the bytes already in the buffer. -/
theorem getSizedBuf_prefix (buf : Option (List UInt8)) (start len : Nat) :
    (getSizedBuf buf start len).take (buf.getD []).length = buf.getD [] := by
  simp [getSizedBuf]

@[simp] theorem length_writeSlice {buf bytes : List UInt8} {start : Nat}
    (fits : start + bytes.length ≤ buf.length) :
    (writeSlice buf start bytes).length = buf.length := by
  simp only [writeSlice, List.length_append, List.length_take, List.length_drop]
  omega

/-- A slice reads back the bytes just written through it. -/
theorem slice_writeSlice {buf bytes : List UInt8} {start : Nat}
    (fits : start + bytes.length ≤ buf.length) :
    slice (writeSlice buf start bytes) start bytes.length = bytes := by
  have taken : (buf.take start).length = start := by simp; omega
  simp [slice, writeSlice, List.drop_append_of_le_length, taken, List.take_append_of_le_length]

section Fill

variable {buf : Option (List UInt8)} {start len : Nat} {bytes : List UInt8}

/-- Writing `len` bytes into the slice of the grown buffer keeps its length. -/
@[simp] theorem length_writeSlice_getSizedBuf (filled : bytes.length = len) :
    (writeSlice (getSizedBuf buf start len) start bytes).length =
      max (buf.getD []).length (start + len) := by
  rw [length_writeSlice (by rw [filled]; exact le_length_getSizedBuf buf start len), length_getSizedBuf]

/-- The filled buffer is already large enough for its slice. -/
@[simp] theorem getSizedBuf_writeSlice (filled : bytes.length = len) :
    getSizedBuf (some (writeSlice (getSizedBuf buf start len) start bytes)) start len =
      writeSlice (getSizedBuf buf start len) start bytes :=
  getSizedBuf_of_le (by rw [length_writeSlice_getSizedBuf filled]; omega)

/-- The filled slice reads back the bytes written. -/
@[simp] theorem slice_writeSlice_getSizedBuf (filled : bytes.length = len) :
    slice (writeSlice (getSizedBuf buf start len) start bytes) start len = bytes := by
  subst filled
  exact slice_writeSlice (le_length_getSizedBuf buf start _)

end Fill

end CraftIo
