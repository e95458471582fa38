import ChipEight.Word
import ChipEight.Failure

/-!
# Memory

Four thousand and ninety-six bytes.  Addresses wrap: only their twelve low bits count.  The font
lies at the bottom, a glyph of five rows for each hexadecimal digit, and programs are loaded behind
the first five hundred and twelve bytes.
-/

namespace ChipEight

namespace Font

/-- Bytes of one glyph. -/
def glyphSize : Nat := 5

/-- The glyphs of the digits in ascending order. -/
def glyphs : List UInt8 :=
  [0xF0, 0x90, 0x90, 0x90, 0xF0,
    0x20, 0x60, 0x20, 0x20, 0x70,
    0xF0, 0x10, 0xF0, 0x80, 0xF0,
    0xF0, 0x10, 0xF0, 0x10, 0xF0,
    0x90, 0x90, 0xF0, 0x10, 0x10,
    0xF0, 0x80, 0xF0, 0x10, 0xF0,
    0xF0, 0x80, 0xF0, 0x90, 0xF0,
    0xF0, 0x10, 0x20, 0x40, 0x40,
    0xF0, 0x90, 0xF0, 0x90, 0xF0,
    0xF0, 0x90, 0xF0, 0x10, 0xF0,
    0xF0, 0x90, 0xF0, 0x90, 0x90,
    0xE0, 0x90, 0xE0, 0x90, 0xE0,
    0xF0, 0x80, 0x80, 0x80, 0xF0,
    0xE0, 0x90, 0x90, 0x90, 0xE0,
    0xF0, 0x80, 0xF0, 0x80, 0xF0,
    0xF0, 0x80, 0xF0, 0x80, 0x80]

end Font

/-- The bytes of the machine. -/
structure Memory where
  /-- One byte for each address. -/
  cells : Vector UInt8 4096

namespace Memory

/-- Number of bytes. -/
def size : Nat := 4096

/-- Where programs begin. -/
def programStart : Nat := 0x200

/-- Bytes from the start of programs to the end of memory. -/
def programCapacity : Nat := size - programStart

/-- Memory that holds nothing but zeros. -/
def blank : Memory := ⟨Vector.replicate 4096 0⟩

/-- The byte at an address. -/
def read (memory : Memory) (address : Nat) : UInt8 :=
  memory.cells[Fin.ofNat 4096 address]

/-- Replace the byte at an address. -/
def write (memory : Memory) (address : Nat) (value : UInt8) : Memory :=
  ⟨memory.cells.set (address % 4096) value (Nat.mod_lt _ (by decide))⟩

/-- Replace the bytes from an address on. -/
def writeBlock (memory : Memory) (start : Nat) : List UInt8 → Memory
  | [] => memory
  | value :: rest => (memory.write start value).writeBlock (start + 1) rest

/-- The bytes from an address on, as many as asked for. -/
def readBlock (memory : Memory) (start count : Nat) : List UInt8 :=
  (List.range count).map fun offset => memory.read (start + offset)

/-- Memory at power-on: the font from address zero. -/
def initial : Memory :=
  blank.writeBlock 0 Font.glyphs

/-- A position counted from the end if negative, and kept within memory. -/
def position (place : Int) : Nat :=
  (if place < 0 then place + size else place).toNat

/-- The bytes from one position up to another. -/
def slice (memory : Memory) (first last : Int) : List UInt8 :=
  (memory.cells.toArray.extract (position first) (position last)).toList

theorem read_write (memory : Memory) (written address : Nat) (value : UInt8) :
    (memory.write written value).read address =
      if written % 4096 = address % 4096 then value else memory.read address := by
  simp [read, write, Vector.getElem_set]

theorem ext_read {left right : Memory}
    (same : ∀ address, left.read address = right.read address) : left = right := by
  obtain ⟨left⟩ := left
  obtain ⟨right⟩ := right
  congr 1
  refine Vector.ext fun place bound => ?_
  simpa [read, Nat.mod_eq_of_lt bound] using same place

theorem read_mod (memory : Memory) (address : Nat) :
    memory.read (address % 4096) = memory.read address := by
  simp [read]

theorem read_writeBlock_of_outside (memory : Memory) (start address : Nat) (values : List UInt8)
    (outside : ∀ offset < values.length, (start + offset) % 4096 ≠ address % 4096) :
    (memory.writeBlock start values).read address = memory.read address := by
  induction values generalizing memory start with
  | nil => rfl
  | cons value rest ih =>
      rw [writeBlock, ih, read_write, if_neg]
      · simpa using outside 0 (by simp)
      · intro offset bound
        have := outside (offset + 1) (by simpa using bound)
        simpa [Nat.add_assoc, Nat.add_comm 1] using this

theorem read_writeBlock_of_inside (memory : Memory) (start : Nat) (values : List UInt8)
    (short : values.length ≤ 4096) (offset : Nat) (bound : offset < values.length) :
    (memory.writeBlock start values).read (start + offset) = values[offset] := by
  induction values generalizing memory start offset with
  | nil => simp at bound
  | cons value rest ih =>
      simp only [List.length_cons] at short bound
      cases offset with
      | zero =>
          rw [writeBlock, read_writeBlock_of_outside, read_write]
          · simp
          · intro offset inside
            omega
      | succ offset =>
          rw [writeBlock]
          have later := ih (memory.write start value) (start + 1) (by omega) offset (by omega)
          simpa [Nat.add_assoc, Nat.add_comm 1] using later

end Memory

/-- A program that fits into memory. -/
structure Program where
  /-- The bytes of the program, in order. -/
  bytes : Array UInt8
  /-- There is room for every byte. -/
  fits : bytes.size ≤ Memory.programCapacity

namespace Program

/-- The program without a byte. -/
def empty : Program := ⟨#[], Nat.zero_le _⟩

/-- The program with given bytes, if it fits. -/
def ofBytes (bytes : Array UInt8) : Except Failure Program :=
  if fits : bytes.size ≤ Memory.programCapacity then
    .ok ⟨bytes, fits⟩
  else
    .error (.programTooLarge bytes.size Memory.programCapacity)

end Program

/-- Copy a program to its place. -/
def Memory.load (memory : Memory) (program : Program) : Memory :=
  memory.writeBlock programStart program.bytes.toList

end ChipEight
