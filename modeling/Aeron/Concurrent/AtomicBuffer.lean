/-
# Atomic buffer as a little-endian byte array

`AtomicBuffer` wraps a fixed-capacity region of bytes. Fields are read and written
little-endian, as on every platform Aeron supports. In a sequential model the ordered and
volatile accessors read and write the same bytes as the plain ones; what they add, the
memory ordering towards other threads, is not observable here.

The model reads a field as the slice of bytes at its index and writes it by splicing in the
field's bytes. A write that would not fit is left out (the C++ buffer asserts its bounds),
so the capacity never changes. All read-after-write reasoning goes through one lemma,
`getElem?_writeSlice`, saying which bytes a write replaced.

`AtomicBuffer.h` itself is not among the modelled sources; its accessors are modelled from
the spec's description of a little-endian shared buffer.
-/

import Mathlib.Data.List.Basic
import Mathlib.Tactic.Ring
import Aeron.Util.BitUtil

namespace Aeron

/-- The natural number with the given little-endian bytes. -/
def decodeLittleEndian : List UInt8 → Nat
  | [] => 0
  | byte :: rest => byte.toNat + 256 * decodeLittleEndian rest

/-- The `width` little-endian bytes of `value`, dropping what does not fit. -/
def encodeLittleEndian : Nat → Nat → List UInt8
  | 0, _ => []
  | width + 1, value => UInt8.ofNat (value % 256) :: encodeLittleEndian width (value / 256)

@[simp] theorem length_encodeLittleEndian (width value : Nat) :
    (encodeLittleEndian width value).length = width := by
  induction width generalizing value with
  | zero => rfl
  | succ width ih => simp [encodeLittleEndian, ih]

/-- Decoding what was encoded gives the value modulo the field's range. -/
theorem decode_encodeLittleEndian (width value : Nat) :
    decodeLittleEndian (encodeLittleEndian width value) = value % 256 ^ width := by
  induction width generalizing value with
  | zero => simp [encodeLittleEndian, decodeLittleEndian, Nat.mod_one]
  | succ width ih =>
    have hbyte : (UInt8.ofNat (value % 256)).toNat = value % 256 :=
      UInt8.toNat_ofNat_of_lt (Nat.mod_lt _ (by norm_num))
    rw [encodeLittleEndian, decodeLittleEndian, hbyte, ih, pow_succ', Nat.mod_mul]

/-- Modelled from the spec: the shared buffer, as its bytes. -/
structure AtomicBuffer where
  bytes : List UInt8
  deriving DecidableEq, Repr

namespace AtomicBuffer

/-- A buffer of `capacity` zero bytes, as a freshly mapped term is. -/
def zeroed (capacity : Nat) : AtomicBuffer := ⟨List.replicate capacity 0⟩

/-- The buffer's capacity. -/
def capacity (buffer : AtomicBuffer) : Nat := buffer.bytes.length

/-- The `width` bytes at `index`. -/
def readSlice (buffer : AtomicBuffer) (index width : Nat) : List UInt8 :=
  (buffer.bytes.drop index).take width

/-- The buffer with `slice` written at `index`, when it fits. -/
def writeSlice (buffer : AtomicBuffer) (index : Nat) (slice : List UInt8) : AtomicBuffer :=
  if index + slice.length ≤ buffer.capacity then
    ⟨buffer.bytes.take index ++ slice ++ buffer.bytes.drop (index + slice.length)⟩
  else buffer

/-- A write replaces exactly the bytes of its slice. -/
theorem getElem?_writeSlice (buffer : AtomicBuffer) {index : Nat} {slice : List UInt8}
    (hroom : index + slice.length ≤ buffer.capacity) (at_ : Nat) :
    (buffer.writeSlice index slice).bytes[at_]? =
      if index ≤ at_ ∧ at_ < index + slice.length then slice[at_ - index]?
      else buffer.bytes[at_]? := by
  simp only [writeSlice, if_pos hroom]
  unfold capacity at hroom
  have htake : (buffer.bytes.take index).length = index := by simp; omega
  by_cases hbefore : at_ < index
  · rw [List.append_assoc, List.getElem?_append_left (by omega), List.getElem?_take_of_lt hbefore,
      if_neg (by omega)]
  · rw [List.append_assoc, List.getElem?_append_right (by omega), htake]
    by_cases hinside : at_ < index + slice.length
    · rw [List.getElem?_append_left (by omega), if_pos ⟨by omega, hinside⟩]
    · rw [List.getElem?_append_right (by omega), List.getElem?_drop, if_neg (by omega)]
      congr 1; omega

theorem getElem?_readSlice (buffer : AtomicBuffer) (index width at_ : Nat) :
    (buffer.readSlice index width)[at_]? = if at_ < width then buffer.bytes[index + at_]? else none := by
  unfold readSlice
  split
  · rw [List.getElem?_take_of_lt ‹_›, List.getElem?_drop]
  · rw [List.getElem?_eq_none]; simp; omega

@[simp] theorem capacity_writeSlice (buffer : AtomicBuffer) (index : Nat) (slice : List UInt8) :
    (buffer.writeSlice index slice).capacity = buffer.capacity := by
  unfold writeSlice capacity
  split
  · simp only [List.length_append, List.length_take, List.length_drop]; omega
  · rfl

/-- Reading back the slice just written gives it back. -/
theorem readSlice_writeSlice_self (buffer : AtomicBuffer) {index : Nat} {slice : List UInt8}
    (hroom : index + slice.length ≤ buffer.capacity) :
    (buffer.writeSlice index slice).readSlice index slice.length = slice := by
  apply List.ext_getElem?
  intro at_
  rw [getElem?_readSlice]
  split
  · rw [getElem?_writeSlice _ hroom, if_pos ⟨by omega, by omega⟩, Nat.add_sub_cancel_left]
  · rw [List.getElem?_eq_none (by omega)]

/-- A write leaves every slice that does not overlap it as it was. -/
theorem readSlice_writeSlice_of_disjoint (buffer : AtomicBuffer) {index : Nat}
    {slice : List UInt8} {other width : Nat}
    (hdisjoint : other + width ≤ index ∨ index + slice.length ≤ other) :
    (buffer.writeSlice index slice).readSlice other width = buffer.readSlice other width := by
  by_cases hroom : index + slice.length ≤ buffer.capacity
  · apply List.ext_getElem?
    intro at_
    rw [getElem?_readSlice, getElem?_readSlice]
    split
    · rw [getElem?_writeSlice _ hroom, if_neg (by omega)]
    · rfl
  · simp only [writeSlice, if_neg hroom]

/-! ## How writes compose -/

theorem writeSlice_of_not_le (buffer : AtomicBuffer) {index : Nat} {slice : List UInt8}
    (hroom : ¬ index + slice.length ≤ buffer.capacity) : buffer.writeSlice index slice = buffer := by
  simp only [writeSlice, if_neg hroom]

/-- Buffers with the same byte at every index are equal. -/
theorem eq_of_getElem? {buffer other : AtomicBuffer}
    (hbytes : ∀ at_ : Nat, buffer.bytes[at_]? = other.bytes[at_]?) : buffer = other := by
  cases buffer; cases other
  exact congrArg _ (List.ext_getElem? hbytes)

/-- Writes to disjoint slices commute. -/
theorem writeSlice_comm (buffer : AtomicBuffer) {index other : Nat}
    {slice otherSlice : List UInt8}
    (hdisjoint : index + slice.length ≤ other ∨ other + otherSlice.length ≤ index) :
    (buffer.writeSlice index slice).writeSlice other otherSlice =
      (buffer.writeSlice other otherSlice).writeSlice index slice := by
  by_cases hroom : index + slice.length ≤ buffer.capacity
  · have hroom' : index + slice.length ≤ (buffer.writeSlice other otherSlice).capacity := by
      rwa [capacity_writeSlice]
    by_cases hother : other + otherSlice.length ≤ buffer.capacity
    · have hother' : other + otherSlice.length ≤ (buffer.writeSlice index slice).capacity := by
        rwa [capacity_writeSlice]
      refine eq_of_getElem? fun at_ => ?_
      rw [getElem?_writeSlice _ hother', getElem?_writeSlice _ hroom,
        getElem?_writeSlice _ hroom', getElem?_writeSlice _ hother]
      split_ifs <;> first | rfl | omega
    · have hother' : ¬ other + otherSlice.length ≤ (buffer.writeSlice index slice).capacity := by
        rwa [capacity_writeSlice]
      rw [writeSlice_of_not_le _ hother', writeSlice_of_not_le _ hother]
  · have hroom' : ¬ index + slice.length ≤ (buffer.writeSlice other otherSlice).capacity := by
      rwa [capacity_writeSlice]
    rw [writeSlice_of_not_le _ hroom, writeSlice_of_not_le _ hroom']

/-- A second write of the same slot replaces the first. -/
theorem writeSlice_writeSlice_self (buffer : AtomicBuffer) (index : Nat)
    {slice slice' : List UInt8} (hlength : slice'.length = slice.length) :
    (buffer.writeSlice index slice).writeSlice index slice' = buffer.writeSlice index slice' := by
  by_cases hroom : index + slice.length ≤ buffer.capacity
  · have hroom' : index + slice'.length ≤ buffer.capacity := hlength ▸ hroom
    have hroom'' : index + slice'.length ≤ (buffer.writeSlice index slice).capacity := by
      rwa [capacity_writeSlice]
    refine eq_of_getElem? fun at_ => ?_
    rw [getElem?_writeSlice _ hroom'', getElem?_writeSlice _ hroom,
      getElem?_writeSlice _ hroom']
    split_ifs <;> first | rfl | omega
  · have hroom' : ¬ index + slice'.length ≤ buffer.capacity := hlength ▸ hroom
    rw [writeSlice_of_not_le _ hroom, writeSlice_of_not_le _ hroom']

/-- Writing back the bytes just read changes nothing. -/
theorem writeSlice_readSlice (buffer : AtomicBuffer) (index width : Nat) :
    buffer.writeSlice index (buffer.readSlice index width) = buffer := by
  by_cases hroom : index + (buffer.readSlice index width).length ≤ buffer.capacity
  · have hlength : (buffer.readSlice index width).length ≤ width := by
      simp only [readSlice, List.length_take]; omega
    refine eq_of_getElem? fun at_ => ?_
    rw [getElem?_writeSlice _ hroom]
    split_ifs with hinside
    · rw [getElem?_readSlice, if_pos (by omega), Nat.add_sub_cancel' hinside.1]
    · rfl
  · exact writeSlice_of_not_le _ hroom

/-- The unsigned value of the `width` bytes at `index`. -/
def getBytes (buffer : AtomicBuffer) (index width : Nat) : Nat :=
  decodeLittleEndian (buffer.readSlice index width)

/-- The buffer with `value` written, little-endian, in the `width` bytes at `index`. -/
def putBytes (buffer : AtomicBuffer) (index width value : Nat) : AtomicBuffer :=
  buffer.writeSlice index (encodeLittleEndian width value)

/-- `AtomicBuffer::getUInt8`. -/
def getUInt8 (buffer : AtomicBuffer) (index : Nat) : UInt8 :=
  UInt8.ofNat (buffer.getBytes index 1)

/-- `AtomicBuffer::getUInt16`. -/
def getUInt16 (buffer : AtomicBuffer) (index : Nat) : UInt16 :=
  UInt16.ofNat (buffer.getBytes index 2)

/-- `AtomicBuffer::getInt32`: the four bytes as a two's-complement `int32`. -/
def getInt32 (buffer : AtomicBuffer) (index : Nat) : Int :=
  toInt32 (buffer.getBytes index 4)

/-- `AtomicBuffer::getInt32Volatile`. -/
def getInt32Volatile (buffer : AtomicBuffer) (index : Nat) : Int := buffer.getInt32 index

/-- `AtomicBuffer::putUInt8`. -/
def putUInt8 (buffer : AtomicBuffer) (index : Nat) (value : UInt8) : AtomicBuffer :=
  buffer.putBytes index 1 value.toNat

/-- `AtomicBuffer::putUInt16`. -/
def putUInt16 (buffer : AtomicBuffer) (index : Nat) (value : UInt16) : AtomicBuffer :=
  buffer.putBytes index 2 value.toNat

/-- `AtomicBuffer::putInt32`: an `int32` argument, stored as its 32-bit two's complement. -/
def putInt32 (buffer : AtomicBuffer) (index : Nat) (value : Int) : AtomicBuffer :=
  buffer.putBytes index 4 (value % 2 ^ 32).toNat

/-- `AtomicBuffer::putInt32Ordered`. -/
def putInt32Ordered (buffer : AtomicBuffer) (index : Nat) (value : Int) : AtomicBuffer :=
  buffer.putInt32 index value

@[simp] theorem capacity_putBytes (buffer : AtomicBuffer) (index width value : Nat) :
    (buffer.putBytes index width value).capacity = buffer.capacity :=
  capacity_writeSlice _ _ _

/-- A field reads back what was put in it, modulo its range. -/
theorem getBytes_putBytes_self (buffer : AtomicBuffer) {index width : Nat} (value : Nat)
    (hroom : index + width ≤ buffer.capacity) :
    (buffer.putBytes index width value).getBytes index width = value % 256 ^ width := by
  have hroom' : index + (encodeLittleEndian width value).length ≤ buffer.capacity := by
    simpa using hroom
  have := readSlice_writeSlice_self buffer hroom'
  rw [length_encodeLittleEndian] at this
  rw [getBytes, putBytes, this, decode_encodeLittleEndian]

/-- Encoding the value of some bytes in as many bytes gives them back. -/
theorem encode_decodeLittleEndian (bytes : List UInt8) :
    encodeLittleEndian bytes.length (decodeLittleEndian bytes) = bytes := by
  induction bytes with
  | nil => rfl
  | cons byte rest ih =>
    have hbyte := byte.toNat_lt_size
    rw [List.length_cons, encodeLittleEndian, decodeLittleEndian,
      Nat.add_mul_mod_self_left, Nat.mod_eq_of_lt hbyte, Nat.add_mul_div_left _ _ (by norm_num),
      Nat.div_eq_of_lt hbyte, Nat.zero_add, ih]
    exact congrArg (· :: rest) (UInt8.toNat.inj (UInt8.toNat_ofNat_of_lt hbyte))

/-- Writes of disjoint fields commute. -/
theorem putBytes_comm (buffer : AtomicBuffer) {index width other otherWidth : Nat}
    (value otherValue : Nat) (hdisjoint : index + width ≤ other ∨ other + otherWidth ≤ index) :
    (buffer.putBytes index width value).putBytes other otherWidth otherValue =
      (buffer.putBytes other otherWidth otherValue).putBytes index width value :=
  writeSlice_comm buffer (by simpa using hdisjoint)

/-- A second write of a field replaces the first. -/
theorem putBytes_putBytes_self (buffer : AtomicBuffer) (index width value value' : Nat) :
    (buffer.putBytes index width value).putBytes index width value' =
      buffer.putBytes index width value' :=
  writeSlice_writeSlice_self buffer index (by simp)

/-- Writing back the value a field holds changes nothing. -/
theorem putBytes_getBytes (buffer : AtomicBuffer) (index width : Nat) :
    buffer.putBytes index width (buffer.getBytes index width) = buffer := by
  by_cases hlength : (buffer.readSlice index width).length = width
  · have hencode := encode_decodeLittleEndian (buffer.readSlice index width)
    rw [hlength] at hencode
    rw [putBytes, getBytes, hencode, writeSlice_readSlice]
  · refine writeSlice_of_not_le _ fun hroom => hlength ?_
    simp only [length_encodeLittleEndian] at hroom
    simp only [readSlice, List.length_take, List.length_drop]
    unfold capacity at hroom
    omega

/-- A field write leaves every field that does not overlap it unchanged. -/
theorem getBytes_putBytes_of_disjoint (buffer : AtomicBuffer) {index width other otherWidth : Nat}
    (value : Nat) (hdisjoint : other + otherWidth ≤ index ∨ index + width ≤ other) :
    (buffer.putBytes index width value).getBytes other otherWidth =
      buffer.getBytes other otherWidth := by
  rw [getBytes, putBytes, readSlice_writeSlice_of_disjoint buffer (by simpa using hdisjoint),
    getBytes]

theorem getUInt16_putUInt16_self (buffer : AtomicBuffer) {index : Nat} (value : UInt16)
    (hroom : index + 2 ≤ buffer.capacity) :
    (buffer.putUInt16 index value).getUInt16 index = value := by
  rw [getUInt16, putUInt16, getBytes_putBytes_self _ _ hroom,
    Nat.mod_eq_of_lt (by simpa using value.toNat_lt_size)]
  exact UInt16.toNat.inj (UInt16.toNat_ofNat_of_lt value.toNat_lt_size)

theorem getInt32_putInt32_self (buffer : AtomicBuffer) {index : Nat} (value : Int)
    (hroom : index + 4 ≤ buffer.capacity) :
    (buffer.putInt32 index value).getInt32 index = toInt32 value := by
  have hlt : (value % 2 ^ 32).toNat < 256 ^ 4 := by omega
  rw [getInt32, putInt32, getBytes_putBytes_self _ _ hroom, Nat.mod_eq_of_lt hlt,
    Int.toNat_of_nonneg (by omega)]
  unfold toInt32; omega

end AtomicBuffer

end Aeron
