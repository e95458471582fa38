import ChipEight.Proofs.Assembly.Reading
import ChipEight.Proofs.Execution.Mnemonic
import ChipEight.Proofs.Instruction.Fields

/-!
# Assembling what was disassembled

An assembler that undoes disassembly: it finds the instruction that is written as a line, and puts
the word together from its digits.  So no two words of sixteen bits have one text.
-/

namespace ChipEight

/-- The last nibble of the words that combine two registers. -/
def Arithmetic.nibble : Arithmetic → Nat
  | copy => 0x0
  | or => 0x1
  | and => 0x2
  | xor => 0x3
  | add => 0x4
  | subtract => 0x5
  | shiftRight => 0x6
  | subtractFrom => 0x7
  | shiftLeft => 0xE

theorem Arithmetic.nibble_of_ofNibble? {digit : Nat} {operation : Arithmetic}
    (known : ofNibble? digit = some operation) : operation.nibble = digit := by
  revert known
  fun_cases ofNibble? digit <;> rintro ⟨⟩ <;> rfl

namespace Word

/-- A number of sixteen bits. -/
def Fits (word : Word) : Prop :=
  0 ≤ word.raw ∧ word.raw < 65536

instance (word : Word) : Decidable word.Fits :=
  inferInstanceAs (Decidable (_ ∧ _))

/-- The word of a class with an address. -/
def ofAddress (opcode : Nat) (address : Address) : Word :=
  ⟨4096 * opcode + address.val⟩

/-- The word of a class with a register and a last byte. -/
def ofByte (opcode : Nat) (x : Register) (byte : Nat) : Word :=
  ⟨4096 * opcode + 256 * x.val + byte⟩

/-- The word of a class with two registers and a last nibble. -/
def ofNibbles (opcode : Nat) (x y : Register) (nibble : Nat) : Word :=
  ⟨4096 * opcode + 256 * x.val + 16 * y.val + nibble⟩

variable {word : Word} {opcode : Nat}

theorem Fits.raw_eq (fits : word.Fits) : word.raw = word.low := by
  have low := word.low_eq_emod
  have := fits.1
  have := fits.2
  omega

theorem ofAddress_eq (fits : word.Fits) (first : word.low / 4096 = opcode) :
    ofAddress opcode word.address = word := by
  have raw := fits.raw_eq
  obtain ⟨number⟩ := word
  simp only [ofAddress, val_address, mk.injEq] at raw first ⊢
  omega

theorem ofByte_eq {byte : Nat} (fits : word.Fits) (first : word.low / 4096 = opcode)
    (last : word.low % 256 = byte) : ofByte opcode word.x byte = word := by
  have raw := fits.raw_eq
  obtain ⟨number⟩ := word
  simp only [ofByte, val_x, mk.injEq] at raw first last ⊢
  omega

theorem ofNibbles_eq {nibble : Nat} (fits : word.Fits) (first : word.low / 4096 = opcode)
    (last : word.low % 16 = nibble) : ofNibbles opcode word.x word.y nibble = word := by
  have raw := fits.raw_eq
  obtain ⟨number⟩ := word
  simp only [ofNibbles, val_x, val_y, mk.injEq] at raw first last ⊢
  omega

end Word

namespace Instruction

/-- The word of sixteen bits that encodes an instruction. -/
def word : Instruction → Word
  | clearScreen => ⟨0x00E0⟩
  | returnFromCall => ⟨0x00EE⟩
  | hostRoutine address => .ofAddress 0x0 address
  | jump address => .ofAddress 0x1 address
  | call address => .ofAddress 0x2 address
  | skip (.equalsByte register value) => .ofByte 0x3 register value.toNat
  | skip (.differsFromByte register value) => .ofByte 0x4 register value.toNat
  | skip (.equalsRegister left right) => .ofNibbles 0x5 left right 0
  | setByte target value => .ofByte 0x6 target value.toNat
  | addByte target value => .ofByte 0x7 target value.toNat
  | arithmetic operation target source => .ofNibbles 0x8 target source operation.nibble
  | skip (.differsFromRegister left right) => .ofNibbles 0x9 left right 0
  | setIndex address => .ofAddress 0xA address
  | jumpOffset address => .ofAddress 0xB address
  | random target mask => .ofByte 0xC target mask.toNat
  | draw column row height => .ofNibbles 0xD column row height.val
  | skip (.keyHeld register) => .ofByte 0xE register 0x9E
  | skip (.keyFree register) => .ofByte 0xE register 0xA1
  | readDelay target => .ofByte 0xF target 0x07
  | awaitKey target => .ofByte 0xF target 0x0A
  | setDelay source => .ofByte 0xF source 0x15
  | setSound source => .ofByte 0xF source 0x18
  | addIndex source => .ofByte 0xF source 0x1E
  | pointAtGlyph source => .ofByte 0xF source 0x29
  | storeDecimal source => .ofByte 0xF source 0x33
  | storeRegisters last => .ofByte 0xF last 0x55
  | loadRegisters last => .ofByte 0xF last 0x65

/-- A word of sixteen bits is the one that encodes its instruction. -/
theorem word_of_encodes {word : Word} {instruction : Instruction} (fits : word.Fits)
    (encoded : word.Encodes instruction) : instruction.word = word := by
  cases instruction with
  | clearScreen | returnFromCall => exact congrArg Word.mk encoded.symm
  | hostRoutine address =>
      obtain ⟨first, -, -, rfl⟩ := encoded
      exact Word.ofAddress_eq fits first
  | jump address | call address | setIndex address | jumpOffset address =>
      obtain ⟨first, rfl⟩ := encoded
      exact Word.ofAddress_eq fits first
  | setByte target value | addByte target value | random target value =>
      obtain ⟨first, rfl, rfl⟩ := encoded
      exact Word.ofByte_eq fits first word.toNat_byte.symm
  | arithmetic operation target source =>
      obtain ⟨first, known, rfl, rfl⟩ := encoded
      exact Word.ofNibbles_eq fits first (Arithmetic.nibble_of_ofNibble? known).symm
  | draw column row height =>
      obtain ⟨first, rfl, rfl, rfl⟩ := encoded
      exact Word.ofNibbles_eq fits first word.val_nibble.symm
  | skip condition =>
      cases condition with
      | equalsByte register value | differsFromByte register value =>
          obtain ⟨first, rfl, rfl⟩ := encoded
          exact Word.ofByte_eq fits first word.toNat_byte.symm
      | equalsRegister left right | differsFromRegister left right =>
          obtain ⟨first, last, rfl, rfl⟩ := encoded
          exact Word.ofNibbles_eq fits first last
      | keyHeld register | keyFree register =>
          obtain ⟨first, last, rfl⟩ := encoded
          exact Word.ofByte_eq fits first last
  | readDelay | awaitKey | setDelay | setSound | addIndex | pointAtGlyph | storeDecimal
  | storeRegisters | loadRegisters =>
      obtain ⟨first, last, rfl⟩ := encoded
      exact Word.ofByte_eq fits first last

/-- The instructions that take operands of given kinds, with these operands where they are free. -/
def withOperands : List Operand → List Instruction
  | [] => [clearScreen, returnFromCall]
  | [.address address] => [hostRoutine address, jump address, call address]
  | [.register register] => [skip (.keyHeld register), skip (.keyFree register)]
  | [.register register, .byte value] =>
      [skip (.equalsByte register value), skip (.differsFromByte register value),
        setByte register value, addByte register value, random register value]
  | [.register first, .register second] =>
      skip (.equalsRegister first second) :: skip (.differsFromRegister first second) ::
        [Arithmetic.copy, .or, .and, .xor, .add, .subtract, .shiftRight, .subtractFrom,
          .shiftLeft].map fun operation => arithmetic operation first second
  | [.symbol _, .address address] => [setIndex address]
  | [.register _, .address address] => [jumpOffset address]
  | [.register target, .symbol _] => [readDelay target, awaitKey target, loadRegisters target]
  | [.symbol _, .register source] =>
      [setDelay source, setSound source, addIndex source, pointAtGlyph source,
        storeDecimal source, storeRegisters source]
  | [.register column, .register row, .count height] => [draw column row height]
  | _ => []

/-- The instruction that is written as a line.  What the kinds of its operands leave open, such as
the mnemonic and the symbols, is settled by writing each candidate. -/
def ofAssembly? (line : Assembly) : Option Instruction :=
  (withOperands line.operands).find? fun instruction => instruction.assembly == line

theorem ofAssembly?_assembly (instruction : Instruction) :
    ofAssembly? instruction.assembly = some instruction := by
  cases instruction with
  | skip condition =>
      cases condition <;> simp [ofAssembly?, withOperands, assembly, Condition.assembly]
  | arithmetic operation target source =>
      cases operation <;>
        simp [ofAssembly?, withOperands, assembly, Arithmetic.mnemonic, Condition.assembly]
  | _ => simp [ofAssembly?, withOperands, assembly, Condition.assembly]

end Instruction

namespace Word

/-- The word that the only operand of a line of data is. -/
def ofData? : List (List Char) → Option Word
  | ['0' :: 'x' :: digits] => (Hex.value? digits).map fun number => ⟨number⟩
  | _ => none

/-- The word that a mnemonic and operands are written for. -/
def ofFields? : List (List Char) → Option Word
  | [] => none
  | mnemonic :: operands =>
      if mnemonic = "DW".toList then
        ofData? operands
      else do
        let operands ← operands.mapM Operand.ofText?
        let instruction ← Instruction.ofAssembly? ⟨String.ofList mnemonic, operands⟩
        return instruction.word

/-- The word of sixteen bits that a line is written for. -/
def assemble? (text : String) : Option Word :=
  ofFields? (fieldsOf text)

/-- Every instruction is assembled from its text. -/
theorem assemble?_text (instruction : Instruction) :
    assemble? instruction.assembly.text = some instruction.word := by
  have plain : ∀ mnemonic ∈ Instruction.mnemonics,
      IsField mnemonic.toList ∧ mnemonic.toList ≠ "DW".toList := by decide
  obtain ⟨field, known⟩ := plain _ instruction.mnemonic_mem
  have found : Instruction.ofAssembly?
      ⟨instruction.assembly.mnemonic, instruction.assembly.operands⟩ = some instruction :=
    instruction.ofAssembly?_assembly
  rw [assemble?, Assembly.fieldsOf_text field, ofFields?, if_neg known, Operand.mapM_ofText?,
    String.ofList_toList]
  simp [found]

/-- A number that is not negative is read back from a line of data. -/
theorem assemble?_data (number : Nat) :
    assemble? ("DW 0x" ++ Hex.ofInt 4 number) = some ⟨number⟩ := by
  have written : ("DW 0x" ++ Hex.ofInt 4 number).toList =
      "DW".toList ++ ' ' :: [',', ' '].intercalate [['0', 'x'] ++ Hex.padded 4 number] := by
    rw [String.toList_append, List.intercalate_singleton]
    exact congrArg _ (Hex.toList_ofNat 4 number)
  have operand : IsField (['0', 'x'] ++ Hex.padded 4 number) :=
    IsField.append (by decide) (isField_padded 4 number)
  rw [assemble?, fieldsOf_line written (by simp), ofFields?, if_pos rfl]
  · simp [ofData?, Hex.value?_padded]
  · intro field member
    simp only [List.mem_cons, List.not_mem_nil, or_false] at member
    rcases member with rfl | rfl
    · decide
    · exact operand

/-- Assembling undoes disassembling. -/
theorem assemble?_disassemble {word : Word} (fits : word.Fits) :
    assemble? word.disassemble = some word := by
  rw [disassemble_eq]
  cases encoded : Instruction.ofWord? word with
  | none =>
      simp only [textOf, dataText, fits.raw_eq, assemble?_data]
      rw [← fits.raw_eq]
  | some instruction =>
      simp only [textOf, assemble?_text]
      rw [Instruction.word_of_encodes fits (Instruction.encodes_of_ofWord? encoded)]

/-- Disassembly loses nothing.  The text of a word of sixteen bits is assembled to this word again,
whether it names an instruction with its operands or data, and different words have different
texts. -/
theorem disassembly_lossless :
    (∀ word : Word, word.Fits → assemble? word.disassemble = some word) ∧
      ∀ first second : Word, first.Fits → second.Fits → first ≠ second →
        first.disassemble ≠ second.disassemble := by
  refine ⟨fun word fits => assemble?_disassemble fits, ?_⟩
  intro first second firstFits secondFits different same
  have firstRead := assemble?_disassemble firstFits
  rw [same, assemble?_disassemble secondFits] at firstRead
  exact different (Option.some.inj firstRead).symm

/-- Loading the address `0x00B` into the index is not read as storing decimal digits of a register,
and the largest word, which is data, is read back as it is. -/
theorem disassembly_lossless_index :
    let index : Word := ⟨0xA00B⟩
    let digits : Word := ⟨0xF033⟩
    let data : Word := ⟨0xFFFF⟩
    (index.Fits ∧ digits.Fits ∧ data.Fits ∧ index ≠ digits) ∧
      index.disassemble ≠ digits.disassemble ∧ assemble? data.disassemble = some data := by
  intro index digits data
  obtain ⟨reads, apart⟩ := disassembly_lossless
  have indexFits : index.Fits := by decide
  have digitsFits : digits.Fits := by decide
  have dataFits : data.Fits := by decide
  have different : index ≠ digits := by decide
  exact ⟨⟨indexFits, digitsFits, dataFits, different⟩,
    apart index digits indexFits digitsFits different, reads data dataFits⟩

end Word
end ChipEight
