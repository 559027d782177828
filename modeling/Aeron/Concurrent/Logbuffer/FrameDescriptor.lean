/-
# Frame descriptor: header accessors over a log buffer

A frame starts with a 32-byte header: the frame length in bytes 0 to 3, the version in
byte 4, the flags in byte 5, the type in bytes 6 and 7 and the term offset in bytes 8
to 11, as the layout above `FrameDescriptor` draws it and its `*_OFFSET` constants say.
`HeaderField` is that layout as data.

Every writer puts its value at its field's offset, and changes nothing else of the header
(`headerWriters_read`). Each writer is the write of its field's slot (`frameFlags_eq` and
its siblings), so together the writers form a record of independent fields: they commute,
the last write of a field wins, writing back what a field holds is no change, and no write
reaches another frame (`putField_record_laws`). Two readers do not read where their field
is: the `const` overload of `frameType` and `frameVersion` read at the frame offset itself,
which is the length field. So they disagree with the writer, with the layout and with
`isPaddingFrame` (`frameType_frameVersion_read_length_field`).

The C++ buffer checks its bounds and throws on a write past its end; the model leaves such a
write out, so every law here is stated for a header that fits the buffer.

`DataFrameHeader.h` is not among the modelled sources: its field offsets are modelled from
the layout, and the padding frame type `HDR_TYPE_PAD` is a parameter.
-/

import Mathlib.Data.UInt
import Aeron.Concurrent.AtomicBuffer

namespace Aeron

/-- The fields of a frame header. -/
inductive HeaderField
  | frameLength
  | version
  | flags
  | type
  | termOffset
  deriving DecidableEq, Repr

namespace HeaderField

/-- `LENGTH_OFFSET`, `VERSION_OFFSET`, `FLAGS_OFFSET`, `TYPE_OFFSET`, `TERM_OFFSET`. -/
def offset : HeaderField → Nat
  | frameLength => 0
  | version => 4
  | flags => 5
  | type => 6
  | termOffset => 8

/-- Each field's width in bytes, from the layout. -/
def width : HeaderField → Nat
  | frameLength => 4
  | version => 1
  | flags => 1
  | type => 2
  | termOffset => 4

/-- Distinct fields occupy disjoint bytes. -/
theorem disjoint {field other : HeaderField} (hne : field ≠ other) :
    other.offset + other.width ≤ field.offset ∨ field.offset + field.width ≤ other.offset := by
  cases field <;> cases other <;> simp_all [offset, width]

theorem offset_add_width_le (field : HeaderField) : field.offset + field.width ≤ 32 := by
  cases field <;> decide

/-- The unsigned value of a field of the header at `frameOffset`, read at its layout
offset. -/
def read (field : HeaderField) (buffer : AtomicBuffer) (frameOffset : Nat) : Nat :=
  buffer.getBytes (frameOffset + field.offset) field.width

end HeaderField

/-- Modelled from the spec: `DataFrameHeader::FRAME_LENGTH_FIELD_OFFSET`, where the layout
puts the length. -/
def DataFrameHeader.frameLengthFieldOffset : Nat := 0

/-- Modelled from the spec: `DataFrameHeader::FLAGS_FIELD_OFFSET`. -/
def DataFrameHeader.flagsFieldOffset : Nat := 5

/-- Modelled from the spec: `DataFrameHeader::TYPE_FIELD_OFFSET`. -/
def DataFrameHeader.typeFieldOffset : Nat := 6

/-- Modelled from the spec: `DataFrameHeader::TERM_OFFSET_FIELD_OFFSET`. -/
def DataFrameHeader.termOffsetFieldOffset : Nat := 8

/-- Modelled from the spec: `DataFrameHeader::LENGTH`, the 32-byte header. -/
def DataFrameHeader.length : Int := 32

namespace FrameDescriptor

/-- `FRAME_ALIGNMENT`. -/
def frameAlignment : Nat := 32

/-- `MAX_MESSAGE_LENGTH`. -/
def maxMessageLength : Int := 16 * 1024 * 1024

/-- `checkHeaderLength`: the `IllegalStateException` message, if it throws. -/
def checkHeaderLength (length : Int) : Except String Unit :=
  if length ≠ DataFrameHeader.length then
    .error ("frame header length " ++ toString length ++ " must be equal to " ++
      toString DataFrameHeader.length)
  else .ok ()

/-- `checkMaxFrameLength`, with the mask taken on the `int32` bit pattern of the
`index_t`. -/
def checkMaxFrameLength (length : Int) : Except String Unit :=
  if (length % 2 ^ 32).toNat &&& (frameAlignment - 1) ≠ 0 then
    .error ("max frame length must be a multiple of " ++ toString frameAlignment ++
      ", length=" ++ toString length)
  else .ok ()

/-- `computeMaxMessageLength`, with `index_t` division truncating. -/
def computeMaxMessageLength (capacity : Int) : Int := min (capacity.tdiv 8) maxMessageLength

/-- `typeOffset`. -/
def typeOffset (frameOffset : Nat) : Nat := frameOffset + DataFrameHeader.typeFieldOffset

/-- `flagsOffset`. -/
def flagsOffset (frameOffset : Nat) : Nat := frameOffset + DataFrameHeader.flagsFieldOffset

/-- `lengthOffset`. -/
def lengthOffset (frameOffset : Nat) : Nat := frameOffset + DataFrameHeader.frameLengthFieldOffset

/-- `termOffsetOffset`. -/
def termOffsetOffset (frameOffset : Nat) : Nat :=
  frameOffset + DataFrameHeader.termOffsetFieldOffset

/-- The writing overload of `frameType`. -/
def putFrameType (logBuffer : AtomicBuffer) (frameOffset : Nat) (type : UInt16) : AtomicBuffer :=
  logBuffer.putUInt16 (typeOffset frameOffset) type

/-- The reading (`const`) overload of `frameType`. -/
def frameType (logBuffer : AtomicBuffer) (frameOffset : Nat) : UInt16 :=
  logBuffer.getUInt16 frameOffset

/-- `frameFlags`. -/
def frameFlags (logBuffer : AtomicBuffer) (frameOffset : Nat) (flags : UInt8) : AtomicBuffer :=
  logBuffer.putUInt8 (flagsOffset frameOffset) flags

/-- `frameTermOffset`. -/
def frameTermOffset (logBuffer : AtomicBuffer) (frameOffset : Nat) (termOffset : Int) :
    AtomicBuffer :=
  logBuffer.putInt32 (termOffsetOffset frameOffset) termOffset

/-- `isPaddingFrame`, for the padding type `HDR_TYPE_PAD`. -/
def isPaddingFrame (hdrTypePad : UInt16) (logBuffer : AtomicBuffer) (frameOffset : Nat) : Bool :=
  logBuffer.getUInt16 (typeOffset frameOffset) == hdrTypePad

/-- `frameLengthVolatile`. -/
def frameLengthVolatile (logBuffer : AtomicBuffer) (frameOffset : Nat) : Int :=
  logBuffer.getInt32Volatile (lengthOffset frameOffset)

/-- `frameLengthOrdered`. -/
def frameLengthOrdered (logBuffer : AtomicBuffer) (frameOffset : Nat) (frameLength : Int) :
    AtomicBuffer :=
  logBuffer.putInt32Ordered (lengthOffset frameOffset) frameLength

/-- `frameVersion`. -/
def frameVersion (logBuffer : AtomicBuffer) (frameOffset : Nat) : UInt8 :=
  logBuffer.getUInt8 frameOffset

/-! ## The writers against the layout -/

/-- Writing one header field, as the bytes of its layout slot. -/
def putField (field : HeaderField) (logBuffer : AtomicBuffer) (frameOffset value : Nat) :
    AtomicBuffer :=
  logBuffer.putBytes (frameOffset + field.offset) field.width value

theorem frameLengthOrdered_eq (logBuffer : AtomicBuffer) (frameOffset : Nat) (frameLength : Int) :
    frameLengthOrdered logBuffer frameOffset frameLength =
      putField .frameLength logBuffer frameOffset (frameLength % 2 ^ 32).toNat := rfl

theorem putFrameType_eq (logBuffer : AtomicBuffer) (frameOffset : Nat) (type : UInt16) :
    putFrameType logBuffer frameOffset type = putField .type logBuffer frameOffset type.toNat := rfl

theorem frameFlags_eq (logBuffer : AtomicBuffer) (frameOffset : Nat) (flags : UInt8) :
    frameFlags logBuffer frameOffset flags = putField .flags logBuffer frameOffset flags.toNat := rfl

theorem frameTermOffset_eq (logBuffer : AtomicBuffer) (frameOffset : Nat) (termOffset : Int) :
    frameTermOffset logBuffer frameOffset termOffset =
      putField .termOffset logBuffer frameOffset (termOffset % 2 ^ 32).toNat := rfl

/-- A field write inside the buffer sets its own field, modulo its width, and leaves every
other field of the header as it was. -/
theorem read_putField (field other : HeaderField) {logBuffer : AtomicBuffer} {frameOffset : Nat}
    (hheader : frameOffset + 32 ≤ logBuffer.capacity) (value : Nat) :
    other.read (putField field logBuffer frameOffset value) frameOffset =
      if other = field then value % 256 ^ field.width else other.read logBuffer frameOffset := by
  unfold HeaderField.read putField
  split
  · subst other
    exact AtomicBuffer.getBytes_putBytes_self _ _
      (by have := field.offset_add_width_le; omega)
  · exact AtomicBuffer.getBytes_putBytes_of_disjoint _ _
      (by rcases HeaderField.disjoint (Ne.symm ‹other ≠ field›) with h | h <;> omega)

/-- A field write of a value that fits the field reads back as that value. -/
theorem read_putField_of_lt (field other : HeaderField) {logBuffer : AtomicBuffer}
    {frameOffset : Nat} (hheader : frameOffset + 32 ≤ logBuffer.capacity) {value : Nat}
    (hvalue : value < 256 ^ field.width) :
    other.read (putField field logBuffer frameOffset value) frameOffset =
      if other = field then value else other.read logBuffer frameOffset := by
  rw [read_putField field other hheader, Nat.mod_eq_of_lt hvalue]

/-- Each writer of `FrameDescriptor` sets its own field of a header that fits the buffer to
the bit pattern of its value, and leaves every other field of the header as it was. -/
theorem headerWriters_read {logBuffer : AtomicBuffer} {frameOffset : Nat}
    (hheader : frameOffset + 32 ≤ logBuffer.capacity) (other : HeaderField) :
    (∀ frameLength : Int,
      other.read (frameLengthOrdered logBuffer frameOffset frameLength) frameOffset =
        if other = .frameLength then (frameLength % 2 ^ 32).toNat
        else other.read logBuffer frameOffset) ∧
    (∀ type : UInt16, other.read (putFrameType logBuffer frameOffset type) frameOffset =
      if other = .type then type.toNat else other.read logBuffer frameOffset) ∧
    (∀ flags : UInt8, other.read (frameFlags logBuffer frameOffset flags) frameOffset =
      if other = .flags then flags.toNat else other.read logBuffer frameOffset) ∧
    (∀ termOffset : Int,
      other.read (frameTermOffset logBuffer frameOffset termOffset) frameOffset =
        if other = .termOffset then (termOffset % 2 ^ 32).toNat
        else other.read logBuffer frameOffset) :=
  ⟨fun frameLength => read_putField_of_lt .frameLength other hheader (by
      show (frameLength % 2 ^ 32).toNat < 256 ^ 4; omega),
    fun type => read_putField_of_lt .type other hheader type.val.isLt,
    fun flags => read_putField_of_lt .flags other hheader flags.val.isLt,
    fun termOffset => read_putField_of_lt .termOffset other hheader (by
      show (termOffset % 2 ^ 32).toNat < 256 ^ 4; omega)⟩

/-- On a zeroed header, the flags writer sets the flags byte and leaves the type. -/
theorem headerWriters_read_flags :
    0 + 32 ≤ (AtomicBuffer.zeroed 32).capacity ∧
      (HeaderField.flags.read (frameFlags (AtomicBuffer.zeroed 32) 0 0xC0) 0 =
          if HeaderField.flags = .flags then (0xC0 : UInt8).toNat
          else HeaderField.flags.read (AtomicBuffer.zeroed 32) 0) ∧
      (HeaderField.type.read (frameFlags (AtomicBuffer.zeroed 32) 0 0xC0) 0 =
          if HeaderField.type = .flags then (0xC0 : UInt8).toNat
          else HeaderField.type.read (AtomicBuffer.zeroed 32) 0) :=
  have hheader : 0 + 32 ≤ (AtomicBuffer.zeroed 32).capacity := by decide
  ⟨hheader, (headerWriters_read hheader .flags).2.2.1 0xC0,
    (headerWriters_read hheader .type).2.2.1 0xC0⟩

/-- The volatile length reads back the `int32` the ordered write stored. -/
theorem frameLengthVolatile_frameLengthOrdered {logBuffer : AtomicBuffer} {frameOffset : Nat}
    (hheader : frameOffset + 32 ≤ logBuffer.capacity) (frameLength : Int) :
    frameLengthVolatile (frameLengthOrdered logBuffer frameOffset frameLength) frameOffset =
      toInt32 frameLength :=
  AtomicBuffer.getInt32_putInt32_self _ _ (by unfold lengthOffset DataFrameHeader.frameLengthFieldOffset; omega)

theorem frameLengthVolatile_frameLengthOrdered_negative :
    0 + 32 ≤ (AtomicBuffer.zeroed 64).capacity ∧
      frameLengthVolatile (frameLengthOrdered (AtomicBuffer.zeroed 64) 0 (-32)) 0 = toInt32 (-32) :=
  ⟨by decide, frameLengthVolatile_frameLengthOrdered (by decide) (-32)⟩

/-! ## How header writes compose -/

/-- Writes of two different fields of a header commute. -/
theorem putField_comm {field other : HeaderField} (hne : field ≠ other) (logBuffer : AtomicBuffer)
    (frameOffset value otherValue : Nat) :
    putField other (putField field logBuffer frameOffset value) frameOffset otherValue =
      putField field (putField other logBuffer frameOffset otherValue) frameOffset value :=
  AtomicBuffer.putBytes_comm _ _ _ (by rcases HeaderField.disjoint hne with h | h <;> omega)

/-- A write to one header leaves every field of a header it does not overlap. -/
theorem read_putField_of_apart (field other : HeaderField) {logBuffer : AtomicBuffer}
    {frameOffset otherOffset : Nat}
    (hapart : frameOffset + 32 ≤ otherOffset ∨ otherOffset + 32 ≤ frameOffset) (value : Nat) :
    other.read (putField field logBuffer frameOffset value) otherOffset =
      other.read logBuffer otherOffset := by
  have := field.offset_add_width_le
  have := other.offset_add_width_le
  exact AtomicBuffer.getBytes_putBytes_of_disjoint _ _ (by omega)

/-- The header writers form a record of independent fields. Each writer is the write of its
field's slot; and on every buffer and at every frame offset whose header fits, writes of two
different fields commute, the second write of a field replaces the first, writing back the
value a field holds changes nothing, and a write to one frame's header leaves every field of
a frame whose header it does not overlap. -/
theorem putField_record_laws :
    (∀ logBuffer frameOffset (frameLength : Int), frameLengthOrdered logBuffer frameOffset
      frameLength = putField .frameLength logBuffer frameOffset (frameLength % 2 ^ 32).toNat) ∧
    (∀ logBuffer frameOffset (type : UInt16),
      putFrameType logBuffer frameOffset type = putField .type logBuffer frameOffset type.toNat) ∧
    (∀ logBuffer frameOffset (flags : UInt8),
      frameFlags logBuffer frameOffset flags = putField .flags logBuffer frameOffset flags.toNat) ∧
    (∀ logBuffer frameOffset (termOffset : Int), frameTermOffset logBuffer frameOffset
      termOffset = putField .termOffset logBuffer frameOffset (termOffset % 2 ^ 32).toNat) ∧
    (∀ (field other : HeaderField) (logBuffer : AtomicBuffer) (frameOffset : Nat),
      frameOffset + 32 ≤ logBuffer.capacity → field ≠ other → ∀ value otherValue,
      putField other (putField field logBuffer frameOffset value) frameOffset otherValue =
        putField field (putField other logBuffer frameOffset otherValue) frameOffset value) ∧
    (∀ (field : HeaderField) (logBuffer : AtomicBuffer) (frameOffset : Nat),
      frameOffset + 32 ≤ logBuffer.capacity → ∀ value value',
      putField field (putField field logBuffer frameOffset value) frameOffset value' =
        putField field logBuffer frameOffset value') ∧
    (∀ (field : HeaderField) (logBuffer : AtomicBuffer) (frameOffset : Nat),
      frameOffset + 32 ≤ logBuffer.capacity →
      putField field logBuffer frameOffset (field.read logBuffer frameOffset) = logBuffer) ∧
    (∀ (field other : HeaderField) (logBuffer : AtomicBuffer) (frameOffset otherOffset : Nat),
      frameOffset + 32 ≤ logBuffer.capacity →
      frameOffset + 32 ≤ otherOffset ∨ otherOffset + 32 ≤ frameOffset → ∀ value,
      other.read (putField field logBuffer frameOffset value) otherOffset =
        other.read logBuffer otherOffset) :=
  ⟨frameLengthOrdered_eq, putFrameType_eq, frameFlags_eq, frameTermOffset_eq,
    fun _ _ logBuffer frameOffset _ hne => putField_comm hne logBuffer frameOffset,
    fun _ _ _ _ _ _ => AtomicBuffer.putBytes_putBytes_self _ _ _ _ _,
    fun _ _ _ _ => AtomicBuffer.putBytes_getBytes _ _ _,
    fun field other _ _ _ _ hapart => read_putField_of_apart field other hapart⟩

/-- On a zeroed header, writing the flags and the type in either order gives the same
header, and a second flags write replaces the first. -/
theorem putField_record_laws_flags_type :
    0 + 32 ≤ (AtomicBuffer.zeroed 32).capacity ∧ HeaderField.flags ≠ HeaderField.type ∧
      putField .type (putField .flags (AtomicBuffer.zeroed 32) 0 0xC0) 0 1 =
        putField .flags (putField .type (AtomicBuffer.zeroed 32) 0 1) 0 0xC0 ∧
      putField .flags (putField .flags (AtomicBuffer.zeroed 32) 0 0xC0) 0 0x80 =
        putField .flags (AtomicBuffer.zeroed 32) 0 0x80 :=
  have hheader : 0 + 32 ≤ (AtomicBuffer.zeroed 32).capacity := by decide
  have hne : HeaderField.flags ≠ HeaderField.type := by decide
  ⟨hheader, hne, putField_record_laws.2.2.2.2.1 .flags .type _ 0 hheader hne 0xC0 1,
    putField_record_laws.2.2.2.2.2.1 .flags _ 0 hheader 0xC0 0x80⟩

/-! ## The misplaced readers -/

/-- The `const` `frameType` and `frameVersion` read the length field: on a zeroed header
whose type was written as `1` (a data frame) `frameType` returns `0`; on one whose version
byte is `1` `frameVersion` returns `0`; and for every padding type, a header whose type field
holds it while its length field holds the next value is a padding frame whose `frameType` is
not the padding type. -/
theorem frameType_frameVersion_read_length_field (hdrTypePad : UInt16) :
    frameType (putFrameType (AtomicBuffer.zeroed 32) 0 1) 0 = 0 ∧
      frameVersion ((AtomicBuffer.zeroed 32).putUInt8 HeaderField.version.offset 1) 0 = 0 ∧
      ((AtomicBuffer.zeroed 32).putUInt8 HeaderField.version.offset 1).getUInt8
        HeaderField.version.offset = 1 ∧
      isPaddingFrame hdrTypePad
          (((AtomicBuffer.zeroed 32).putUInt16 0 (hdrTypePad + 1)).putUInt16 6 hdrTypePad) 0 =
        true ∧
      frameType (((AtomicBuffer.zeroed 32).putUInt16 0 (hdrTypePad + 1)).putUInt16 6 hdrTypePad) 0 ≠
        hdrTypePad := by
  have hroom : 6 + 2 ≤ ((AtomicBuffer.zeroed 32).putUInt16 0 (hdrTypePad + 1)).capacity := by
    rw [AtomicBuffer.putUInt16, AtomicBuffer.capacity_putBytes]; decide
  have hlength : (((AtomicBuffer.zeroed 32).putUInt16 0 (hdrTypePad + 1)).putUInt16 6
      hdrTypePad).getUInt16 0 = hdrTypePad + 1 := by
    rw [AtomicBuffer.getUInt16, AtomicBuffer.putUInt16,
      AtomicBuffer.getBytes_putBytes_of_disjoint _ _ (by norm_num), ← AtomicBuffer.getUInt16,
      AtomicBuffer.getUInt16_putUInt16_self _ _ (by decide)]
  refine ⟨by decide, by decide, by decide, ?_, ?_⟩
  · simp only [isPaddingFrame, typeOffset, DataFrameHeader.typeFieldOffset, beq_iff_eq]
    exact AtomicBuffer.getUInt16_putUInt16_self _ _ hroom
  · rw [frameType, hlength]
    exact fun heq => absurd (add_right_eq_self.mp heq) (by decide)

end FrameDescriptor

end Aeron
