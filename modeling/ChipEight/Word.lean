/-!
# Instruction words

A word is an integer of any size.  Its fields are read from its sixteen low bits, a negative number
standing for its two's complement; the number itself is kept.
-/

namespace ChipEight

/-! ## Nibbles and bits

A nibble is half a byte.  One of them numbers a register or a key, and three make an address.

Bitwise operations act on integers of any size and sign, in two's complement: each bit of a negative
number is the opposite of that bit of the natural number one below its absolute value.
-/

/-- A number of four bits. -/
abbrev Nibble := Fin 16

/-- A twelve-bit address. -/
abbrev Address := Fin 4096

/-- There are nibbles, so numerals of registers and keys make sense and every number has a low
nibble. -/
instance nibblesExist : @NeZero Nat Zero.ofOfNat0 16 := ⟨by decide⟩

/-- There are addresses, so the twelve low bits of every number are one. -/
instance addressesExist : @NeZero Nat Zero.ofOfNat0 4096 := ⟨by decide⟩

namespace Bits

/-- The bits that both numbers have. -/
def and : Int → Int → Int
  | .ofNat left, .ofNat right => .ofNat (left &&& right)
  | .ofNat left, .negSucc right => .ofNat (left ^^^ (left &&& right))
  | .negSucc left, .ofNat right => .ofNat (right ^^^ (right &&& left))
  | .negSucc left, .negSucc right => .negSucc (left ||| right)

/-- The bits that at least one number has. -/
def or : Int → Int → Int
  | .ofNat left, .ofNat right => .ofNat (left ||| right)
  | .ofNat left, .negSucc right => .negSucc (right ^^^ (right &&& left))
  | .negSucc left, .ofNat right => .negSucc (left ^^^ (left &&& right))
  | .negSucc left, .negSucc right => .negSucc (left &&& right)

/-- The bits that exactly one number has. -/
def xor : Int → Int → Int
  | .ofNat left, .ofNat right => .ofNat (left ^^^ right)
  | .ofNat left, .negSucc right => .negSucc (left ^^^ right)
  | .negSucc left, .ofNat right => .negSucc (left ^^^ right)
  | .negSucc left, .negSucc right => .ofNat (left ^^^ right)

theorem and_natCast (left right : Nat) : and left right = (left &&& right : Nat) := rfl

theorem or_natCast (left right : Nat) : or left right = (left ||| right : Nat) := rfl

theorem xor_natCast (left right : Nat) : xor left right = (left ^^^ right : Nat) := rfl

end Bits

/-! ## Fields -/

/-- Number of one of the sixteen registers. -/
abbrev Register := Nibble

/-- An instruction word before it is decoded. -/
structure Word where
  /-- The number as it was given. -/
  raw : Int
  deriving DecidableEq, Repr

namespace Word

/-- The word that two successive bytes make, the first one being the high half. -/
def ofBytes (high low : UInt8) : Word :=
  ⟨256 * high.toNat + low.toNat⟩

/-- The sixteen low bits. -/
def low (word : Word) : Nat :=
  (word.raw % 65536).toNat

/-- The first nibble, which selects the class of the instruction. -/
def opcode (word : Word) : Nibble := Fin.ofNat 16 (word.low / 4096)

/-- The second nibble, the number of the first register. -/
def x (word : Word) : Register := Fin.ofNat 16 (word.low / 256)

/-- The third nibble, the number of the second register. -/
def y (word : Word) : Register := Fin.ofNat 16 (word.low / 16)

/-- The last nibble. -/
def nibble (word : Word) : Nibble := Fin.ofNat 16 word.low

/-- The last byte. -/
def byte (word : Word) : UInt8 := UInt8.ofNat word.low

/-- The last twelve bits. -/
def address (word : Word) : Address := Fin.ofNat 4096 word.low

theorem low_lt (word : Word) : word.low < 65536 := by
  simp only [low]
  omega

theorem val_opcode (word : Word) : word.opcode.val = word.low / 4096 := by
  have := word.low_lt
  simp only [opcode, Fin.val_ofNat]
  omega

theorem val_nibble (word : Word) : word.nibble.val = word.low % 16 := rfl

theorem toNat_byte (word : Word) : word.byte.toNat = word.low % 256 := by
  simp [byte]

theorem low_ofBytes (high low : UInt8) :
    (ofBytes high low).low = 256 * high.toNat + low.toNat := by
  have := high.toNat_lt
  have := low.toNat_lt
  simp only [ofBytes, Word.low]
  omega

/-- A word made of two bytes is its own low part. -/
theorem raw_ofBytes (high low : UInt8) :
    (ofBytes high low).raw = ((ofBytes high low).low : Nat) := by
  rw [low_ofBytes]
  simp [ofBytes]

end Word
end ChipEight
