import ChipEight.Instruction

/-!
# Words and instructions

Which words encode an instruction, told from the digits of the word, and which encode none.  The
words of the first class are the exception: two of them are told from the whole number.
-/

namespace ChipEight

namespace Word

/-- A word of the last class with a given last byte, and the register that it names. -/
def IsMiscellaneous (word : Word) (byte : Nat) (register : Register) : Prop :=
  word.low / 4096 = 0xF ∧ word.low % 256 = byte ∧ register = word.x

/-- The digits of the words that encode an instruction. -/
def Encodes (word : Word) : Instruction → Prop
  | .clearScreen => word.raw = 0x00E0
  | .returnFromCall => word.raw = 0x00EE
  | .hostRoutine address =>
      word.low / 4096 = 0x0 ∧ word.raw ≠ 0x00E0 ∧ word.raw ≠ 0x00EE ∧ address = word.address
  | .jump address => word.low / 4096 = 0x1 ∧ address = word.address
  | .call address => word.low / 4096 = 0x2 ∧ address = word.address
  | .skip (.equalsByte register value) =>
      word.low / 4096 = 0x3 ∧ register = word.x ∧ value = word.byte
  | .skip (.differsFromByte register value) =>
      word.low / 4096 = 0x4 ∧ register = word.x ∧ value = word.byte
  | .skip (.equalsRegister left right) =>
      word.low / 4096 = 0x5 ∧ word.low % 16 = 0 ∧ left = word.x ∧ right = word.y
  | .setByte target value => word.low / 4096 = 0x6 ∧ target = word.x ∧ value = word.byte
  | .addByte target value => word.low / 4096 = 0x7 ∧ target = word.x ∧ value = word.byte
  | .arithmetic operation target source =>
      word.low / 4096 = 0x8 ∧ Arithmetic.ofNibble? (word.low % 16) = some operation ∧
        target = word.x ∧ source = word.y
  | .skip (.differsFromRegister left right) =>
      word.low / 4096 = 0x9 ∧ word.low % 16 = 0 ∧ left = word.x ∧ right = word.y
  | .setIndex address => word.low / 4096 = 0xA ∧ address = word.address
  | .jumpOffset address => word.low / 4096 = 0xB ∧ address = word.address
  | .random target mask => word.low / 4096 = 0xC ∧ target = word.x ∧ mask = word.byte
  | .draw column row height =>
      word.low / 4096 = 0xD ∧ column = word.x ∧ row = word.y ∧ height = word.nibble
  | .skip (.keyHeld register) =>
      word.low / 4096 = 0xE ∧ word.low % 256 = 0x9E ∧ register = word.x
  | .skip (.keyFree register) =>
      word.low / 4096 = 0xE ∧ word.low % 256 = 0xA1 ∧ register = word.x
  | .readDelay target => word.IsMiscellaneous 0x07 target
  | .awaitKey target => word.IsMiscellaneous 0x0A target
  | .setDelay source => word.IsMiscellaneous 0x15 source
  | .setSound source => word.IsMiscellaneous 0x18 source
  | .addIndex source => word.IsMiscellaneous 0x1E source
  | .pointAtGlyph source => word.IsMiscellaneous 0x29 source
  | .storeDecimal source => word.IsMiscellaneous 0x33 source
  | .storeRegisters last => word.IsMiscellaneous 0x55 last
  | .loadRegisters last => word.IsMiscellaneous 0x65 last

/-- The digits of the words outside the instruction set. -/
def IsUnknown (word : Word) : Prop :=
  (word.low / 4096 = 0x5 ∨ word.low / 4096 = 0x9) ∧ word.low % 16 ≠ 0 ∨
    word.low / 4096 = 0x8 ∧ word.low % 16 ∉ [0, 1, 2, 3, 4, 5, 6, 7, 0xE] ∨
    word.low / 4096 = 0xE ∧ word.low % 256 ∉ [0x9E, 0xA1] ∨
    word.low / 4096 = 0xF ∧
      word.low % 256 ∉ [0x07, 0x0A, 0x15, 0x18, 0x1E, 0x29, 0x33, 0x55, 0x65]

instance (word : Word) : Decidable word.IsUnknown :=
  inferInstanceAs (Decidable (_ ∨ _ ∨ _ ∨ _))

theorem nibble_eq_zero_iff {word : Word} : word.nibble = 0 ↔ word.low % 16 = 0 := by
  rw [Fin.ext_iff, val_nibble, Fin.val_zero]

/-- A word that is a small number lies in the first class. -/
theorem opcode_of_raw {word : Word} {number : Nat} (small : number < 4096)
    (raw : word.raw = number) : word.opcode.val = 0 := by
  rw [val_opcode, low, raw]
  omega

end Word

namespace Instruction

theorem ofComparison?_eq_some_iff {word : Word} {condition : Register → Register → Condition}
    {instruction : Instruction} :
    ofComparison? word condition = some instruction ↔
      word.low % 16 = 0 ∧ instruction = skip (condition word.x word.y) := by
  simp only [ofComparison?, Word.nibble_eq_zero_iff]
  split <;> simp_all [eq_comm]

theorem ofComparison?_eq_none_iff {word : Word} {condition : Register → Register → Condition} :
    ofComparison? word condition = none ↔ word.low % 16 ≠ 0 := by
  simp [ofComparison?, Word.nibble_eq_zero_iff]

theorem ofNibble?_eq_none_iff {nibble : Nat} :
    Arithmetic.ofNibble? nibble = none ↔ nibble ∉ [0, 1, 2, 3, 4, 5, 6, 7, 0xE] := by
  fun_cases Arithmetic.ofNibble? nibble <;> simp_all

theorem ofKeyWord?_eq_some_iff {word : Word} {instruction : Instruction} :
    ofKeyWord? word = some instruction ↔
      word.low % 256 = 0x9E ∧ instruction = skip (.keyHeld word.x) ∨
        word.low % 256 = 0xA1 ∧ instruction = skip (.keyFree word.x) := by
  rw [← Word.toNat_byte]
  fun_cases ofKeyWord? word <;> grind

theorem ofKeyWord?_eq_none_iff {word : Word} :
    ofKeyWord? word = none ↔ word.low % 256 ∉ [0x9E, 0xA1] := by
  rw [← Word.toNat_byte]
  fun_cases ofKeyWord? word <;> simp_all

theorem ofMiscellaneousWord?_eq_none_iff {word : Word} :
    ofMiscellaneousWord? word = none ↔
      word.low % 256 ∉ [0x07, 0x0A, 0x15, 0x18, 0x1E, 0x29, 0x33, 0x55, 0x65] := by
  rw [← Word.toNat_byte]
  fun_cases ofMiscellaneousWord? word <;> simp_all

/-- A word encodes no instruction exactly if it is outside the instruction set. -/
theorem ofWord?_eq_none_iff {word : Word} : ofWord? word = none ↔ word.IsUnknown := by
  rw [Word.IsUnknown, ← Word.val_opcode]
  fun_cases ofWord? word
  case case16 =>
      -- The last class is what remains when the fifteen others are excluded.
      have last : word.opcode.val = 0xF := by grind
      simp [last, ofMiscellaneousWord?_eq_none_iff]
  all_goals
    simp [*, ofComparison?_eq_none_iff, ofNibble?_eq_none_iff, ofKeyWord?_eq_none_iff,
      Word.val_nibble]

theorem encodes_of_ofWord? {word : Word} {instruction : Instruction}
    (encoded : ofWord? word = some instruction) : word.Encodes instruction := by
  have digit := word.val_opcode
  revert encoded
  fun_cases ofWord? word
  case case1 =>
      fun_cases ofSystemWord word <;> rintro ⟨⟩ <;> simp_all [Word.Encodes]
  case case6 | case10 =>
      rw [ofComparison?_eq_some_iff]
      rintro ⟨last, rfl⟩
      simp_all [Word.Encodes]
  case case9 =>
      rw [Option.map_eq_some_iff]
      rintro ⟨operation, known, rfl⟩
      simp_all [Word.Encodes, Word.val_nibble]
  case case15 =>
      rw [ofKeyWord?_eq_some_iff]
      rintro (⟨last, rfl⟩ | ⟨last, rfl⟩) <;> simp_all [Word.Encodes]
  case case16 =>
      have last : word.low / 4096 = 0xF := by grind
      have byte := word.toNat_byte
      fun_cases ofMiscellaneousWord? word <;> rintro ⟨⟩ <;>
        simp_all [Word.Encodes, Word.IsMiscellaneous]
  all_goals
    rintro ⟨⟩
    simp_all [Word.Encodes]

theorem ofWord?_of_encodes {word : Word} {instruction : Instruction}
    (encoded : word.Encodes instruction) : ofWord? word = some instruction := by
  have digit := word.val_opcode
  have byte := word.toNat_byte
  cases instruction with
  | clearScreen =>
      have first := Word.opcode_of_raw (by decide) encoded
      simp only [Word.Encodes] at encoded
      simp [ofWord?, first, ofSystemWord, encoded]
  | returnFromCall =>
      have first := Word.opcode_of_raw (by decide) encoded
      simp only [Word.Encodes] at encoded
      simp [ofWord?, first, ofSystemWord, encoded]
  | hostRoutine address =>
      obtain ⟨first, noClear, noReturn, rfl⟩ := encoded
      simp [ofWord?, digit.trans first, ofSystemWord, noClear, noReturn]
  | skip condition =>
      cases condition <;>
        simp_all [Word.Encodes, ofWord?, ofComparison?_eq_some_iff, ofKeyWord?_eq_some_iff]
  | arithmetic operation target source =>
      simp_all [Word.Encodes, ofWord?, Word.val_nibble]
  | _ => simp_all [Word.Encodes, Word.IsMiscellaneous, ofWord?, ofMiscellaneousWord?]

/-- The instruction of a word is the one that its digits tell. -/
theorem ofWord?_eq_some_iff {word : Word} {instruction : Instruction} :
    ofWord? word = some instruction ↔ word.Encodes instruction :=
  ⟨encodes_of_ofWord?, ofWord?_of_encodes⟩

end Instruction

theorem Word.Encodes.unique {word : Word} {first second : Instruction}
    (encoded : word.Encodes first) (again : word.Encodes second) : first = second := by
  have known := Instruction.ofWord?_of_encodes encoded
  rw [Instruction.ofWord?_of_encodes again] at known
  exact (Option.some.inj known).symm

end ChipEight
