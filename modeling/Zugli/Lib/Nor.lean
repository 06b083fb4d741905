import Mathlib

/-!
# NOR flash

A chip holds one byte at each address. Reads and writes move whole words, an erase clears whole
sectors to ones, and a write can only clear bits. A request that is misaligned or leaves the
chip is refused and changes nothing.
-/

namespace Nor

/-- Bytes in a word. -/
def wordSize : Nat := 4

/-- Bytes in a sector. -/
def sectorSize : Nat := 4096

/-- The byte at each address. -/
abbrev Image := Nat → UInt8

/-- A run of bytes of an image. -/
def slice (image : Image) (offset length : Nat) : List UInt8 :=
  (List.range length).map fun index => image (offset + index)

/-- An image with a range of addresses set to ones. -/
def erased (image : Image) (start stop : Nat) : Image := fun address =>
  if start ≤ address ∧ address < stop then 0xFF else image address

/-- An image with the bits of the bytes cleared from an offset on. -/
def programmed (image : Image) (offset : Nat) (bytes : List UInt8) : Image := fun address =>
  if offset ≤ address then image address &&& bytes.getD (address - offset) 0xFF
  else image address

/-- An image with the bits of some of the bytes cleared from an offset on. -/
def programmedWhere (landed : Nat → Bool) (image : Image) (offset : Nat) (bytes : List UInt8) :
    Image := fun address =>
  if offset ≤ address ∧ landed (address - offset) = true then
    image address &&& bytes.getD (address - offset) 0xFF
  else image address

@[simp] theorem length_slice (image : Image) (offset length : Nat) :
    (slice image offset length).length = length := by simp [slice]

/-- A blank byte takes the value written to it. -/
theorem blank_and (byte : UInt8) : 0xFF &&& byte = byte := UInt8.neg_one_and

/-- A part of a slice is a slice. -/
theorem slice_part (image : Image) (offset skip length total : Nat)
    (inside : skip + length ≤ total) :
    slice image (offset + skip) length = ((slice image offset total).drop skip).take length := by
  apply List.ext_getElem
  · simp only [length_slice, List.length_take, List.length_drop]
    omega
  · intro index _ _
    simp [slice, Nat.add_assoc]

/-- Bytes written over a blank range read back. -/
theorem slice_programmed {image : Image} {offset : Nat} {bytes : List UInt8}
    (blank : ∀ index < bytes.length, image (offset + index) = 0xFF) :
    slice (programmed image offset bytes) offset bytes.length = bytes := by
  apply List.ext_getElem
  · exact length_slice _ _ _
  · intro index _ small
    simp [slice, programmed, blank index small, small, blank_and]

/-- Over a blank byte a write leaves its byte when that has landed, and ones otherwise. -/
theorem programmedWhere_blank {landed : Nat → Bool} {image : Image} {offset index : Nat}
    (bytes : List UInt8) (blank : image (offset + index) = 0xFF) :
    programmedWhere landed image offset bytes (offset + index) =
      if landed index then bytes.getD index 0xFF else 0xFF := by
  have place : offset + index - offset = index := by omega
  have behind : offset ≤ offset + index := by omega
  simp only [programmedWhere, place, behind, true_and, blank, blank_and]

/-- An erased range reads as ones. -/
theorem slice_erased (image : Image) {start stop length : Nat} (inside : start + length ≤ stop) :
    slice (erased image start stop) start length = List.replicate length 0xFF := by
  apply List.ext_getElem
  · simp
  · intro index small _
    have within : start + index < stop := by
      rw [length_slice] at small
      omega
    simp [slice, erased, within]

/-- The content of a chip of a given size. -/
structure Chip (capacity : Nat) where
  /-- The byte at each address. -/
  image : Image

namespace Chip

variable {capacity : Nat}

/-- Read whole words. -/
def read (chip : Chip capacity) (offset length : Nat) : Option (List UInt8) :=
  if wordSize ∣ offset ∧ wordSize ∣ length ∧ offset + length ≤ capacity then
    some (slice chip.image offset length)
  else none

/-- Erase whole sectors. -/
def erase (chip : Chip capacity) (start stop : Nat) : Option (Chip capacity) :=
  if sectorSize ∣ start ∧ sectorSize ∣ stop ∧ start ≤ stop ∧ stop ≤ capacity then
    some ⟨erased chip.image start stop⟩
  else none

/-- Write whole words. -/
def write (chip : Chip capacity) (offset : Nat) (bytes : List UInt8) : Option (Chip capacity) :=
  if wordSize ∣ offset ∧ wordSize ∣ bytes.length ∧ offset + bytes.length ≤ capacity then
    some ⟨programmed chip.image offset bytes⟩
  else none

/-- A write of whole words that the power fails during: some of the bytes have landed. -/
def writeWhere (landed : Nat → Bool) (chip : Chip capacity) (offset : Nat) (bytes : List UInt8) :
    Option (Chip capacity) :=
  if wordSize ∣ offset ∧ wordSize ∣ bytes.length ∧ offset + bytes.length ≤ capacity then
    some ⟨programmedWhere landed chip.image offset bytes⟩
  else none

/-- An aligned read inside the chip returns its content. -/
theorem read_aligned (chip : Chip capacity) {offset length : Nat}
    (offsetAligned : wordSize ∣ offset) (lengthAligned : wordSize ∣ length)
    (inside : offset + length ≤ capacity) :
    chip.read offset length = some (slice chip.image offset length) :=
  if_pos ⟨offsetAligned, lengthAligned, inside⟩

/-- An aligned erase inside the chip succeeds. -/
theorem erase_aligned (chip : Chip capacity) {start stop : Nat}
    (startAligned : sectorSize ∣ start) (stopAligned : sectorSize ∣ stop)
    (ordered : start ≤ stop) (inside : stop ≤ capacity) :
    chip.erase start stop = some ⟨erased chip.image start stop⟩ :=
  if_pos ⟨startAligned, stopAligned, ordered, inside⟩

/-- An aligned write inside the chip succeeds. -/
theorem write_aligned (chip : Chip capacity) {offset : Nat} {bytes : List UInt8}
    (offsetAligned : wordSize ∣ offset) (lengthAligned : wordSize ∣ bytes.length)
    (inside : offset + bytes.length ≤ capacity) :
    chip.write offset bytes = some ⟨programmed chip.image offset bytes⟩ :=
  if_pos ⟨offsetAligned, lengthAligned, inside⟩

/-- An aligned write inside the chip starts, also when the power fails during it. -/
theorem writeWhere_aligned (landed : Nat → Bool) (chip : Chip capacity) {offset : Nat}
    {bytes : List UInt8} (offsetAligned : wordSize ∣ offset)
    (lengthAligned : wordSize ∣ bytes.length) (inside : offset + bytes.length ≤ capacity) :
    chip.writeWhere landed offset bytes =
      some ⟨programmedWhere landed chip.image offset bytes⟩ :=
  if_pos ⟨offsetAligned, lengthAligned, inside⟩

end Chip

/-! ## Little-endian words -/

/-- The bytes of a 32-bit word, the lowest first. -/
def toLeBytes (value : Nat) : List UInt8 :=
  [UInt8.ofNat value, UInt8.ofNat (value / 256), UInt8.ofNat (value / 65536),
    UInt8.ofNat (value / 16777216)]

/-- The word of its bytes, the lowest first. -/
def fromLeBytes (bytes : List UInt8) : Nat :=
  bytes.foldr (fun byte high => byte.toNat + 256 * high) 0

@[simp] theorem length_toLeBytes (value : Nat) : (toLeBytes value).length = 4 := rfl

/-- A word is read back from its bytes. -/
theorem fromLeBytes_toLeBytes {value : Nat} (word : value < 2 ^ 32) :
    fromLeBytes (toLeBytes value) = value := by
  simp only [fromLeBytes, toLeBytes, List.foldr_cons, List.foldr_nil, UInt8.toNat_ofNat']
  omega

/-- The bytes of a word are read back from it. -/
theorem toLeBytes_fromLeBytes (first second third fourth : UInt8) :
    toLeBytes (fromLeBytes [first, second, third, fourth]) = [first, second, third, fourth] := by
  have small : ∀ byte : UInt8, byte.toNat < 256 := fun byte => byte.toNat_lt
  have one := small first
  have two := small second
  have three := small third
  have four := small fourth
  simp only [fromLeBytes, toLeBytes, List.foldr_cons, List.foldr_nil, List.cons.injEq, and_true,
    ← UInt8.toNat_inj, UInt8.toNat_ofNat']
  omega

end Nor
