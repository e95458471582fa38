import Mathlib.Algebra.Group.Nat.Defs
import ChipEight.Machine
import ChipEight.Word

/-!
# The fields of a word

Masks and shifts cut a word into its fields.  On an integer of any size and sign they leave what
quotients and remainders of its sixteen low bits are, and the four nibbles make up these bits again.
-/

namespace ChipEight

/-! ## Masks, shifts and nibbles -/

namespace Bits

/-- The opposite bits of a number under a mask of ones: what the number falls short of the mask. -/
theorem ones_xor_and (width value : Nat) :
    (2 ^ width - 1) ^^^ (2 ^ width - 1 &&& value) = 2 ^ width - (value % 2 ^ width + 1) := by
  have bound : value % 2 ^ width < 2 ^ width := Nat.mod_lt _ (Nat.two_pow_pos width)
  refine Nat.eq_of_testBit_eq fun place => ?_
  rw [Nat.testBit_two_pow_sub_succ bound, Nat.testBit_xor, Nat.testBit_and,
    Nat.testBit_two_pow_sub_one, Nat.testBit_mod_two_pow]
  cases decide (place < width) <;> simp

/-- Some successive bits of a number, moved to the right, are a remainder of a quotient. -/
theorem and_mask_shiftRight (number : Int) (shift width : Nat) :
    and number (((2 ^ width - 1) * 2 ^ shift : Nat) : Int) >>> shift =
      number / (2 ^ shift : Nat) % (2 ^ width : Nat) := by
  have ones : ((2 ^ width - 1) * 2 ^ shift) >>> shift = 2 ^ width - 1 := by
    rw [Nat.shiftRight_eq_div_pow, Nat.mul_div_cancel _ (Nat.two_pow_pos shift)]
  cases number with
  | ofNat value =>
      have kept : (value &&& (2 ^ width - 1) * 2 ^ shift) >>> shift =
          value / 2 ^ shift % 2 ^ width := by
        rw [Nat.shiftRight_and_distrib, ones, Nat.and_two_pow_sub_one_eq_mod,
          Nat.shiftRight_eq_div_pow]
      exact congrArg Int.ofNat kept
  | negSucc value =>
      -- The bits of a negative number are the opposite ones of the number below its absolute value.
      have kept : ((2 ^ width - 1) * 2 ^ shift ^^^ ((2 ^ width - 1) * 2 ^ shift &&& value)) >>>
          shift = 2 ^ width - (value / 2 ^ shift % 2 ^ width + 1) := by
        rw [Nat.shiftRight_xor_distrib, Nat.shiftRight_and_distrib, ones, ones_xor_and,
          Nat.shiftRight_eq_div_pow]
      have bound : value / 2 ^ shift % 2 ^ width < 2 ^ width :=
        Nat.mod_lt _ (Nat.two_pow_pos width)
      have quotient : Int.negSucc value / (2 ^ shift : Nat) = Int.negSucc (value / 2 ^ shift) := by
        rw [← Int.shiftRight_eq_div_pow, Int.negSucc_shiftRight, Nat.shiftRight_eq_div_pow]
      rw [quotient, Int.negSucc_emod _ (by exact_mod_cast Nat.two_pow_pos width)]
      refine (congrArg Int.ofNat kept).trans ?_
      simp only [Int.ofNat_eq_natCast]
      omega

/-- The lowest bits of a number are a remainder. -/
theorem and_mask (number : Int) (width : Nat) :
    and number ((2 ^ width - 1 : Nat) : Int) = number % (2 ^ width : Nat) := by
  have unmoved := and_mask_shiftRight number 0 width
  simpa using unmoved

end Bits

namespace Word

theorem val_x (word : Word) : word.x.val = word.low / 256 % 16 := rfl

theorem val_y (word : Word) : word.y.val = word.low / 16 % 16 := rfl

theorem val_address (word : Word) : word.address.val = word.low % 4096 := rfl

/-- The four nibbles of a word make up its sixteen low bits. -/
theorem low_eq_nibbles (word : Word) :
    word.low = 4096 * word.opcode + 256 * word.x + 16 * word.y + word.nibble := by
  rw [val_opcode, val_x, val_y, val_nibble]
  omega

/-- All fields of a word, as numbers. -/
structure Fields where
  /-- The first nibble. -/
  opcode : Int
  /-- The second nibble. -/
  x : Int
  /-- The third nibble. -/
  y : Int
  /-- The last nibble. -/
  nibble : Int
  /-- The last byte. -/
  byte : Int
  /-- The last twelve bits. -/
  address : Int
  deriving DecidableEq, Repr

/-- The fields that a word is decoded into. -/
def fields (word : Word) : Fields :=
  ⟨word.opcode.val, word.x.val, word.y.val, word.nibble.val, word.byte.toNat, word.address.val⟩

namespace Fields

/-- The fields that masks and shifts cut out of a number. -/
def ofBits (number : Int) : Fields where
  opcode := Bits.and number 0xF000 >>> (12 : Nat)
  x := Bits.and number 0x0F00 >>> (8 : Nat)
  y := Bits.and number 0x00F0 >>> (4 : Nat)
  nibble := Bits.and number 0x000F
  byte := Bits.and number 0x00FF
  address := Bits.and number 0x0FFF

/-- The fields of two successive bytes. -/
def ofBytes (high low : Int) : Fields where
  opcode := high / 16
  x := high % 16
  y := low / 16
  nibble := low % 16
  byte := low
  address := 256 * (high % 16) + low

end Fields

theorem low_eq_emod (word : Word) : (word.low : Int) = word.raw % 65536 :=
  Int.toNat_of_nonneg (Int.emod_nonneg _ (by decide))

/-- Masks and shifts leave the fields of a word, whatever number it is. -/
theorem fields_eq_ofBits (word : Word) : word.fields = .ofBits word.raw := by
  have low := word.low_eq_emod
  have opcode : Bits.and word.raw 0xF000 >>> (12 : Nat) = word.raw / 4096 % 16 :=
    Bits.and_mask_shiftRight word.raw 12 4
  have x : Bits.and word.raw 0x0F00 >>> (8 : Nat) = word.raw / 256 % 16 :=
    Bits.and_mask_shiftRight word.raw 8 4
  have y : Bits.and word.raw 0x00F0 >>> (4 : Nat) = word.raw / 16 % 16 :=
    Bits.and_mask_shiftRight word.raw 4 4
  have nibble : Bits.and word.raw 0x000F = word.raw % 16 := Bits.and_mask word.raw 4
  have byte : Bits.and word.raw 0x00FF = word.raw % 256 := Bits.and_mask word.raw 8
  have address : Bits.and word.raw 0x0FFF = word.raw % 4096 := Bits.and_mask word.raw 12
  simp only [fields, Fields.ofBits, opcode, x, y, nibble, byte, address, Fields.mk.injEq,
    val_opcode, val_x, val_y, val_nibble, toNat_byte, val_address]
  omega

/-- A word has the fields of its sixteen low bits. -/
theorem fields_emod (number : Int) : (mk (number % 65536)).fields = (mk number).fields := by
  have same : (mk (number % 65536)).low = (mk number).low := by simp [low]
  simp only [fields, opcode, x, y, nibble, byte, address, same]

/-- A word of two bytes has their fields. -/
theorem fields_ofBytes (high low : UInt8) :
    (ofBytes high low).fields = .ofBytes high.toNat low.toNat := by
  have highBound := high.toNat_lt
  have lowBound := low.toNat_lt
  have bytes := low_ofBytes high low
  simp only [fields, Fields.ofBytes, Fields.mk.injEq, val_opcode, val_x, val_y, val_nibble,
    toNat_byte, val_address, bytes]
  omega

end Word

/-! ## Fetching a word

The word at the counter is made of the two bytes there, and its fields are the halves of these
bytes.  Bytes are counted modulo the size of memory and the counter modulo its width, so that a word
may begin with the last byte of memory and end with the first one.
-/

namespace Memory

/-- An address is read modulo the size of memory. -/
theorem getElem?_cells (memory : Memory) (address : Nat) :
    memory.cells[address % 4096]? = some (memory.read address) := by
  rw [Vector.getElem?_eq_getElem (Nat.mod_lt _ (by decide))]
  rfl

end Memory

namespace Machine

theorem counter_advance (machine : Machine) :
    machine.advance.counter = UInt16.ofNat ((machine.counter.toNat + 2) % 65536) := by
  apply UInt16.toNat_inj.mp
  rw [toNat_counter_advance, UInt16.toNat_ofNat', Nat.mod_mod]

/-- A fetch reads two bytes and moves the counter behind them, and nothing else. -/
theorem fetch_eq (machine : Machine) :
    machine.fetch =
      ({ machine with counter := UInt16.ofNat ((machine.counter.toNat + 2) % 65536) },
        Word.ofBytes (machine.memory.read machine.counter.toNat)
          (machine.memory.read (machine.counter.toNat + 1))) := by
  rw [← machine.counter_advance]
  rfl

/-- A fetch and the fields of what it fetches agree with the bytes in memory, wherever the counter
stands.  The fields of a word that is any number are those of its sixteen low bits, which its four
nibbles make up, and they are what masks and shifts leave of it. -/
theorem fetch_agrees_with_bytes :
    (∀ machine : Machine, ∃ high low : UInt8,
      machine.memory.cells[machine.counter.toNat % 4096]? = some high ∧
        machine.memory.cells[(machine.counter.toNat + 1) % 4096]? = some low ∧
        machine.fetch =
          ({ machine with counter := UInt16.ofNat ((machine.counter.toNat + 2) % 65536) },
            ⟨256 * high.toNat + low.toNat⟩) ∧
        machine.fetch.2.fields = .ofBytes high.toNat low.toNat) ∧
    ∀ number : Int,
      (Word.mk number).raw = number ∧
        (Word.mk number).fields = (Word.mk (number % 65536)).fields ∧
        (Word.mk number).fields = .ofBits number ∧
        4096 * (Word.mk number).fields.opcode + 256 * (Word.mk number).fields.x +
          16 * (Word.mk number).fields.y + (Word.mk number).fields.nibble = number % 65536 := by
  refine ⟨fun machine => ?_, fun number => ⟨rfl, ?_, ?_, ?_⟩⟩
  · exact ⟨_, _, machine.memory.getElem?_cells _, machine.memory.getElem?_cells _,
      machine.fetch_eq, Word.fields_ofBytes _ _⟩
  · exact (Word.fields_emod number).symm
  · exact (Word.mk number).fields_eq_ofBits
  · have nibbles := (Word.mk number).low_eq_nibbles
    have low : ((Word.mk number).low : Int) = number % 65536 := Word.low_eq_emod _
    simp only [Word.fields]
    omega

/-- A word that begins with the last byte of memory. -/
example :
    let machine : Machine := (Machine.initial {}).storeCounter 0x1FFF
    machine.fetch.2 = ⟨0x00F0⟩ ∧ machine.fetch.1.counter = 0x2001 := by
  decide +kernel

end Machine
end ChipEight
