import ChipEight.Word

/-!
# Instructions

The instruction set as a type, and the instruction that a word encodes.  A word outside the
instruction set encodes none.
-/

namespace ChipEight

/-! ## Arithmetic on registers

Each operation takes the values of two registers and gives the new value of the first one, with a
flag when the operation sets one.  Values are integers: sums, differences and left shifts are cut
to a byte at once, everything else only when it is stored.
-/

/-- The operations between two registers. -/
inductive Arithmetic
  | copy
  | or
  | and
  | xor
  | add
  | subtract
  | shiftRight
  | subtractFrom
  | shiftLeft
  deriving DecidableEq, Repr

namespace Arithmetic

/-- What an operation leaves behind. -/
structure Result where
  /-- The new value of the first register. -/
  value : Int
  /-- The new value of the flag register, if the operation sets it. -/
  flag : Option Int
  deriving DecidableEq, Repr

/-- The operation that the last nibble of a word selects. -/
def ofNibble? (nibble : Nat) : Option Arithmetic :=
  match nibble with
  | 0x0 => some copy
  | 0x1 => some or
  | 0x2 => some and
  | 0x3 => some xor
  | 0x4 => some add
  | 0x5 => some subtract
  | 0x6 => some shiftRight
  | 0x7 => some subtractFrom
  | 0xE => some shiftLeft
  | _ => none

/-- A flag that is one exactly when the condition holds. -/
def flagWhen (condition : Bool) : Option Int :=
  some (if condition then 1 else 0)

/-- The outcome on the values of the first and the second register.  A subtraction sets its flag
only if the minuend is strictly greater; a left shift sets it to the outgoing bit in its old
place. -/
def apply (operation : Arithmetic) (first second : Int) : Result :=
  match operation with
  | copy => ⟨second, none⟩
  | or => ⟨Bits.or first second, none⟩
  | and => ⟨Bits.and first second, none⟩
  | xor => ⟨Bits.xor first second, none⟩
  | add => ⟨(first + second) % 256, flagWhen (255 < first + second)⟩
  | subtract => ⟨(first - second) % 256, flagWhen (second < first)⟩
  | shiftRight => ⟨first / 2, some (first % 2)⟩
  | subtractFrom => ⟨(second - first) % 256, flagWhen (first < second)⟩
  | shiftLeft => ⟨2 * first % 256, some (128 * (first / 128 % 2))⟩

/-- The flag that is stored: that of a left shift may be reduced to zero or one. -/
def storedFlag (operation : Arithmetic) (normalize : Bool) (flag : Int) : Int :=
  if operation = shiftLeft ∧ normalize ∧ flag ≠ 0 then 1 else flag

end Arithmetic

/-! ## The instruction set -/

/-- When a skip instruction passes over the next word. -/
inductive Condition
  | equalsByte (register : Register) (value : UInt8)
  | differsFromByte (register : Register) (value : UInt8)
  | equalsRegister (left right : Register)
  | differsFromRegister (left right : Register)
  | keyHeld (register : Register)
  | keyFree (register : Register)
  deriving DecidableEq, Repr

/-- One instruction of the machine. -/
inductive Instruction
  /-- Turn every pixel off. -/
  | clearScreen
  /-- Continue at the address saved last. -/
  | returnFromCall
  /-- A routine of the host processor, which has no effect here. -/
  | hostRoutine (address : Address)
  /-- Continue at an address. -/
  | jump (address : Address)
  /-- Save the counter and continue at an address. -/
  | call (address : Address)
  /-- Pass over the next word if the condition holds. -/
  | skip (condition : Condition)
  /-- Store a byte in a register. -/
  | setByte (target : Register) (value : UInt8)
  /-- Add a byte to a register, without a flag. -/
  | addByte (target : Register) (value : UInt8)
  /-- Combine two registers. -/
  | arithmetic (operation : Arithmetic) (target source : Register)
  /-- Point the index at an address. -/
  | setIndex (address : Address)
  /-- Continue at an address plus register zero. -/
  | jumpOffset (address : Address)
  /-- Store the selected bits of a random byte. -/
  | random (target : Register) (mask : UInt8)
  /-- Toggle a sprite of some height at the place two registers give. -/
  | draw (column row : Register) (height : Nibble)
  /-- Read the delay timer. -/
  | readDelay (target : Register)
  /-- Wait for a key and store it. -/
  | awaitKey (target : Register)
  /-- Set the delay timer. -/
  | setDelay (source : Register)
  /-- Set the sound timer. -/
  | setSound (source : Register)
  /-- Add a register to the index. -/
  | addIndex (source : Register)
  /-- Point the index at the glyph of a digit. -/
  | pointAtGlyph (source : Register)
  /-- Store the three decimal digits of a register. -/
  | storeDecimal (source : Register)
  /-- Store the registers from zero to the last one named. -/
  | storeRegisters (last : Register)
  /-- Load the registers from zero to the last one named. -/
  | loadRegisters (last : Register)
  deriving DecidableEq, Repr

namespace Instruction

/-- Words of the first class: two of them mean something, and only as whole numbers. -/
def ofSystemWord (word : Word) : Instruction :=
  if word.raw = 0x00E0 then clearScreen
  else if word.raw = 0x00EE then returnFromCall
  else hostRoutine word.address

/-- Words that compare two registers have zero as their last nibble. -/
def ofComparison? (word : Word) (condition : Register → Register → Condition) :
    Option Instruction :=
  if word.nibble = 0 then some (skip (condition word.x word.y)) else none

/-- Words that test a key are selected by their last byte. -/
def ofKeyWord? (word : Word) : Option Instruction :=
  match word.byte.toNat with
  | 0x9E => some (skip (.keyHeld word.x))
  | 0xA1 => some (skip (.keyFree word.x))
  | _ => none

/-- Words of the last class are selected by their last byte. -/
def ofMiscellaneousWord? (word : Word) : Option Instruction :=
  match word.byte.toNat with
  | 0x07 => some (readDelay word.x)
  | 0x0A => some (awaitKey word.x)
  | 0x15 => some (setDelay word.x)
  | 0x18 => some (setSound word.x)
  | 0x1E => some (addIndex word.x)
  | 0x29 => some (pointAtGlyph word.x)
  | 0x33 => some (storeDecimal word.x)
  | 0x55 => some (storeRegisters word.x)
  | 0x65 => some (loadRegisters word.x)
  | _ => none

/-- The instruction that a word encodes. -/
def ofWord? (word : Word) : Option Instruction :=
  match word.opcode.val with
  | 0x0 => some (ofSystemWord word)
  | 0x1 => some (jump word.address)
  | 0x2 => some (call word.address)
  | 0x3 => some (skip (.equalsByte word.x word.byte))
  | 0x4 => some (skip (.differsFromByte word.x word.byte))
  | 0x5 => ofComparison? word .equalsRegister
  | 0x6 => some (setByte word.x word.byte)
  | 0x7 => some (addByte word.x word.byte)
  | 0x8 => (Arithmetic.ofNibble? word.nibble.val).map fun operation =>
      arithmetic operation word.x word.y
  | 0x9 => ofComparison? word .differsFromRegister
  | 0xA => some (setIndex word.address)
  | 0xB => some (jumpOffset word.address)
  | 0xC => some (random word.x word.byte)
  | 0xD => some (draw word.x word.y word.nibble)
  | 0xE => ofKeyWord? word
  | _ => ofMiscellaneousWord? word

end Instruction
end ChipEight
