import ChipEight.Instruction
import ChipEight.Text

/-!
# Assembly text

An instruction is written as a mnemonic and its operands.  A word is disassembled by tests of its
own; one that has no mnemonic is written as data.
-/

namespace ChipEight

/-- Operands that have a name of their own. -/
inductive Symbol
  | delayTimer
  | soundTimer
  | key
  | index
  | glyph
  | decimal
  | block
  deriving DecidableEq, Repr

namespace Symbol

/-- The name of a symbol. -/
def text : Symbol → String
  | delayTimer => "DT"
  | soundTimer => "ST"
  | key => "K"
  | index => "I"
  | glyph => "F"
  | decimal => "B"
  | block => "[I]"

end Symbol

/-- One operand of an instruction. -/
inductive Operand
  | register (number : Register)
  | byte (value : UInt8)
  | address (value : Address)
  | count (value : Nibble)
  | symbol (name : Symbol)
  deriving DecidableEq, Repr

namespace Operand

/-- Registers, bytes and addresses are hexadecimal; a count is decimal. -/
def text : Operand → String
  | register number => "V" ++ Hex.ofNat 1 number
  | byte value => "0x" ++ Hex.ofNat 2 value.toNat
  | address value => "0x" ++ Hex.ofNat 3 value
  | count value => toString value.val
  | symbol name => name.text

end Operand

/-- An instruction as it is written. -/
structure Assembly where
  /-- The name of the operation. -/
  mnemonic : String
  /-- What the operation is applied to. -/
  operands : List Operand
  deriving DecidableEq, Repr

namespace Assembly

/-- The mnemonic, a blank if there are operands, and these with commas between them. -/
def text (line : Assembly) : String :=
  match line.operands with
  | [] => line.mnemonic
  | operands => line.mnemonic ++ " " ++ ", ".intercalate (operands.map Operand.text)

end Assembly

/-- The mnemonic of an operation between registers. -/
def Arithmetic.mnemonic : Arithmetic → String
  | copy => "LD"
  | or => "OR"
  | and => "AND"
  | xor => "XOR"
  | add => "ADD"
  | subtract => "SUB"
  | shiftRight => "SHR"
  | subtractFrom => "SUBN"
  | shiftLeft => "SHL"

/-- A skip instruction as it is written. -/
def Condition.assembly : Condition → Assembly
  | equalsByte register value => ⟨"SE", [.register register, .byte value]⟩
  | differsFromByte register value => ⟨"SNE", [.register register, .byte value]⟩
  | equalsRegister left right => ⟨"SE", [.register left, .register right]⟩
  | differsFromRegister left right => ⟨"SNE", [.register left, .register right]⟩
  | keyHeld register => ⟨"SKP", [.register register]⟩
  | keyFree register => ⟨"SKNP", [.register register]⟩

/-- An instruction as it is written. -/
def Instruction.assembly : Instruction → Assembly
  | clearScreen => ⟨"CLS", []⟩
  | returnFromCall => ⟨"RET", []⟩
  | hostRoutine address => ⟨"SYS", [.address address]⟩
  | jump address => ⟨"JP", [.address address]⟩
  | call address => ⟨"CALL", [.address address]⟩
  | skip condition => condition.assembly
  | setByte target value => ⟨"LD", [.register target, .byte value]⟩
  | addByte target value => ⟨"ADD", [.register target, .byte value]⟩
  | arithmetic operation target source =>
      ⟨operation.mnemonic, [.register target, .register source]⟩
  | setIndex address => ⟨"LD", [.symbol .index, .address address]⟩
  | jumpOffset address => ⟨"JP", [.register 0, .address address]⟩
  | random target mask => ⟨"RND", [.register target, .byte mask]⟩
  | draw column row height => ⟨"DRW", [.register column, .register row, .count height]⟩
  | readDelay target => ⟨"LD", [.register target, .symbol .delayTimer]⟩
  | awaitKey target => ⟨"LD", [.register target, .symbol .key]⟩
  | setDelay source => ⟨"LD", [.symbol .delayTimer, .register source]⟩
  | setSound source => ⟨"LD", [.symbol .soundTimer, .register source]⟩
  | addIndex source => ⟨"ADD", [.symbol .index, .register source]⟩
  | pointAtGlyph source => ⟨"LD", [.symbol .glyph, .register source]⟩
  | storeDecimal source => ⟨"LD", [.symbol .decimal, .register source]⟩
  | storeRegisters last => ⟨"LD", [.symbol .block, .register last]⟩
  | loadRegisters last => ⟨"LD", [.register last, .symbol .block]⟩

namespace Word

/-- The first register of a word as it is written. -/
def firstRegisterText (word : Word) : String :=
  "V" ++ Hex.ofNat 1 word.x

/-- The second register of a word as it is written. -/
def secondRegisterText (word : Word) : String :=
  "V" ++ Hex.ofNat 1 word.y

/-- The last byte of a word as it is written. -/
def byteText (word : Word) : String :=
  "0x" ++ Hex.ofNat 2 word.byte.toNat

/-- The last twelve bits of a word as they are written. -/
def addressText (word : Word) : String :=
  "0x" ++ Hex.ofNat 3 word.address

/-- A word that has no mnemonic, as data. -/
def dataText (word : Word) : String :=
  "DW 0x" ++ Hex.ofInt 4 word.raw

/-- The text of a word of the first class: two of them are told by the whole number. -/
def systemText (word : Word) : String :=
  if word.raw = 0x00E0 then "CLS"
  else if word.raw = 0x00EE then "RET"
  else "SYS " ++ word.addressText

/-- The text of a word that compares two registers: its last nibble is zero. -/
def comparisonText (word : Word) (mnemonic : String) : String :=
  if word.nibble = 0 then
    mnemonic ++ " " ++ word.firstRegisterText ++ ", " ++ word.secondRegisterText
  else
    word.dataText

/-- The mnemonics of the words that combine two registers, by their last nibbles. -/
def arithmeticMnemonics : List (Nibble × String) :=
  [(0x0, "LD"), (0x1, "OR"), (0x2, "AND"), (0x3, "XOR"), (0x4, "ADD"), (0x5, "SUB"), (0x6, "SHR"),
    (0x7, "SUBN"), (0xE, "SHL")]

/-- The text of a word that combines two registers. -/
def arithmeticText (word : Word) : String :=
  match arithmeticMnemonics.lookup word.nibble with
  | some mnemonic =>
      mnemonic ++ " " ++ word.firstRegisterText ++ ", " ++ word.secondRegisterText
  | none => word.dataText

/-- The text of a word that tests a key. -/
def keyText (word : Word) : String :=
  if word.byte = 0x9E then "SKP " ++ word.firstRegisterText
  else if word.byte = 0xA1 then "SKNP " ++ word.firstRegisterText
  else word.dataText

/-- What stands before and behind the number of the register in a word of the last class, by the
last byte of the word. -/
def miscellaneousFrames : List (UInt8 × String × String) :=
  [(0x07, "LD V", ", DT"), (0x0A, "LD V", ", K"), (0x15, "LD DT, V", ""), (0x18, "LD ST, V", ""),
    (0x1E, "ADD I, V", ""), (0x29, "LD F, V", ""), (0x33, "LD B, V", ""), (0x55, "LD [I], V", ""),
    (0x65, "LD V", ", [I]")]

/-- The text of a word of the last class. -/
def miscellaneousText (word : Word) : String :=
  match miscellaneousFrames.lookup word.byte with
  | some (front, back) => front ++ Hex.ofNat 1 word.x ++ back
  | none => word.dataText

/-- The assembly text of a word, which is decided from the word alone. -/
def disassemble (word : Word) : String :=
  if word.opcode = 0x0 then word.systemText
  else if word.opcode = 0x1 then "JP " ++ word.addressText
  else if word.opcode = 0x2 then "CALL " ++ word.addressText
  else if word.opcode = 0x3 then "SE " ++ word.firstRegisterText ++ ", " ++ word.byteText
  else if word.opcode = 0x4 then "SNE " ++ word.firstRegisterText ++ ", " ++ word.byteText
  else if word.opcode = 0x5 then word.comparisonText "SE"
  else if word.opcode = 0x6 then "LD " ++ word.firstRegisterText ++ ", " ++ word.byteText
  else if word.opcode = 0x7 then "ADD " ++ word.firstRegisterText ++ ", " ++ word.byteText
  else if word.opcode = 0x8 then word.arithmeticText
  else if word.opcode = 0x9 then word.comparisonText "SNE"
  else if word.opcode = 0xA then "LD I, " ++ word.addressText
  else if word.opcode = 0xB then "JP V0, " ++ word.addressText
  else if word.opcode = 0xC then "RND " ++ word.firstRegisterText ++ ", " ++ word.byteText
  else if word.opcode = 0xD then
    "DRW " ++ word.firstRegisterText ++ ", " ++ word.secondRegisterText ++ ", " ++
      toString word.nibble.val
  else if word.opcode = 0xE then word.keyText
  else word.miscellaneousText

end Word
end ChipEight
