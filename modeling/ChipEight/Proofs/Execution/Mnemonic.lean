import ChipEight.Proofs.Assembly.Reading
import ChipEight.Proofs.Execution.Fault

/-!
# Mnemonics

The assembly text of a word tells whether the word can be executed: it is a line of data exactly for
the words that every machine rejects.
-/

namespace ChipEight

/-- Whether a text is a line of data. -/
def IsDataLine (text : String) : Prop :=
  "DW".toList <+: text.toList

namespace Assembly

theorem mnemonic_prefix_text (line : Assembly) : line.mnemonic.toList <+: line.text.toList := by
  obtain ⟨mnemonic, operands⟩ := line
  cases operands with
  | nil => exact List.prefix_rfl
  | cons operand rest => simp [text]

/-- A text begins as its mnemonic does. -/
theorem isDataLine_iff {line : Assembly} (long : 2 ≤ line.mnemonic.toList.length) :
    IsDataLine line.text ↔ "DW".toList <+: line.mnemonic.toList := by
  constructor
  · intro data
    exact List.prefix_of_prefix_length_le data line.mnemonic_prefix_text long
  · intro data
    exact data.trans line.mnemonic_prefix_text

end Assembly

namespace Instruction

/-- The mnemonics of all instructions. -/
def mnemonics : List String :=
  ["CLS", "RET", "SYS", "JP", "CALL", "SE", "SNE", "SKP", "SKNP", "LD", "ADD", "OR", "AND", "XOR",
    "SUB", "SHR", "SUBN", "SHL", "RND", "DRW"]

theorem mnemonic_mem (instruction : Instruction) :
    instruction.assembly.mnemonic ∈ mnemonics := by
  cases instruction with
  | skip condition => cases condition <;> simp [assembly, Condition.assembly, mnemonics]
  | arithmetic operation target source =>
      cases operation <;> simp [assembly, Arithmetic.mnemonic, mnemonics]
  | _ => simp [assembly, mnemonics]

/-- No mnemonic names data. -/
theorem not_isDataLine (instruction : Instruction) : ¬ IsDataLine instruction.assembly.text := by
  have apart : ∀ mnemonic ∈ mnemonics,
      2 ≤ mnemonic.toList.length ∧ ¬ "DW".toList <+: mnemonic.toList := by decide
  obtain ⟨long, other⟩ := apart _ instruction.mnemonic_mem
  rwa [Assembly.isDataLine_iff long]

end Instruction

/-- A word is written as data exactly if it is outside the instruction set. -/
theorem Word.isDataLine_disassemble_iff {word : Word} :
    IsDataLine word.disassemble ↔ word.IsUnknown := by
  rw [← Instruction.ofWord?_eq_none_iff, disassemble_eq]
  cases Instruction.ofWord? word with
  | none => simp [textOf, dataText, IsDataLine]
  | some instruction => simp [textOf, instruction.not_isDataLine]

namespace Machine

variable {width height : Nat}

/-- Whether a word cannot be executed because no instruction is known for it. -/
def FindsUnknown (machine : Machine) (screen : Screen width height) (held : HeldKeys)
    (word : Word) : Prop :=
  ∃ opcode address,
    machine.execute screen held word = .error (.fault ⟨.unknownOpcode opcode, address⟩)

/-- Whether a word is executed, or fails only because the call stack is full or empty. -/
def FindsKnown (machine : Machine) (screen : Screen width height) (held : HeldKeys)
    (word : Word) : Prop :=
  (∃ result, machine.execute screen held word = .ok result) ∨
    (∃ depth address,
      machine.execute screen held word = .error (.fault ⟨.stackOverflow depth, address⟩)) ∨
    ∃ address, machine.execute screen held word = .error (.fault ⟨.stackUnderflow, address⟩)

theorem execute_of_isUnknown {word : Word} (unknown : word.IsUnknown) (machine : Machine)
    (screen : Screen width height) (held : HeldKeys) :
    machine.execute screen held word = .error (.fault ⟨.unknownOpcode word.raw, none⟩) := by
  simp only [execute, Instruction.ofWord?_eq_none_iff.mpr unknown]

theorem unknownOpcode_of_execute (columns : 0 < width) (rows : 0 < height) {machine : Machine}
    {screen : Screen width height} {held : HeldKeys} {word : Word} {opcode : Int}
    {address : Option Int}
    (failed : machine.execute screen held word =
      .error (.fault ⟨.unknownOpcode opcode, address⟩)) :
    word.IsUnknown ∧ opcode = word.raw := by
  obtain ⟨cause, faults, same⟩ := (execute_eq_error_iff columns rows).mp failed
  cases faults with
  | unknownOpcode unknown =>
      cases same
      exact ⟨unknown, rfl⟩
  | stackOverflow | stackUnderflow => cases same

theorem findsUnknown_iff (columns : 0 < width) (rows : 0 < height) {machine : Machine}
    {screen : Screen width height} {held : HeldKeys} {word : Word} :
    machine.FindsUnknown screen held word ↔ word.IsUnknown := by
  constructor
  · rintro ⟨opcode, address, failed⟩
    exact (unknownOpcode_of_execute columns rows failed).1
  · intro unknown
    exact ⟨_, _, execute_of_isUnknown unknown machine screen held⟩

/-- Whatever the machine, a word that is executed or fails only for the call stack is known. -/
theorem FindsKnown.not_isUnknown {machine : Machine} {screen : Screen width height}
    {held : HeldKeys} {word : Word} (known : machine.FindsKnown screen held word) :
    ¬ word.IsUnknown := by
  intro unknown
  have rejected := execute_of_isUnknown unknown machine screen held
  rcases known with ⟨result, ended⟩ | ⟨depth, address, ended⟩ | ⟨address, ended⟩
  all_goals
    rw [rejected] at ended
    cases ended

/-- Assembly text and execution know the same words.  A word is written as data exactly if it cannot
be executed because it is unknown, which the fault tells; so this does not depend on the machine,
and every word that is executed, or fails only for the call stack, is written with a mnemonic. -/
theorem isDataLine_iff_findsUnknown (columns : 0 < width) (rows : 0 < height) (word : Word)
    (machine : Machine) (screen : Screen width height) (held : HeldKeys) :
    (IsDataLine word.disassemble ↔ machine.FindsUnknown screen held word) ∧
      (∀ opcode address,
        machine.execute screen held word = .error (.fault ⟨.unknownOpcode opcode, address⟩) →
          opcode = word.raw) ∧
      (∀ (other : Machine) (shown : Screen width height) (keys : HeldKeys),
        machine.FindsUnknown screen held word ↔ other.FindsUnknown shown keys word) ∧
      (machine.FindsKnown screen held word →
        ∃ instruction, word.Encodes instruction ∧ word.disassemble = instruction.assembly.text ∧
          instruction.assembly.mnemonic ∈ Instruction.mnemonics) := by
  refine ⟨?_, fun opcode address failed => ?_, fun other shown keys => ?_, fun known => ?_⟩
  · rw [Word.isDataLine_disassemble_iff, findsUnknown_iff columns rows]
  · exact (unknownOpcode_of_execute columns rows failed).2
  · rw [findsUnknown_iff columns rows, findsUnknown_iff columns rows]
  · have encoded : Instruction.ofWord? word ≠ none := fun missing =>
      known.not_isUnknown (Instruction.ofWord?_eq_none_iff.mp missing)
    obtain ⟨instruction, encoded⟩ := Option.ne_none_iff_exists'.mp encoded
    refine ⟨instruction, Instruction.encodes_of_ofWord? encoded, ?_, instruction.mnemonic_mem⟩
    rw [Word.disassemble_eq, encoded, Word.textOf]

/-- A negative word that no machine executes, and a call. -/
theorem isDataLine_iff_findsUnknown_negative :
    let machine := Machine.initial {}
    let screen := Screen.blank 1 1
    let held : HeldKeys := Vector.replicate 16 false
    let unknown : Word := ⟨-1⟩
    let call : Word := ⟨0x2300⟩
    machine.execute screen held unknown = .error (.fault ⟨.unknownOpcode (-1), none⟩) ∧
      IsDataLine unknown.disassemble ∧ unknown.raw = -1 ∧ machine.FindsKnown screen held call ∧
      ∃ instruction, call.Encodes instruction ∧
        call.disassemble = instruction.assembly.text ∧
          instruction.assembly.mnemonic ∈ Instruction.mnemonics := by
  intro machine screen held unknown call
  have failed := execute_of_isUnknown (by decide : unknown.IsUnknown) machine screen held
  have encoded : call.Encodes (.call 0x300) := ⟨by decide, by decide⟩
  have known : machine.FindsKnown screen held call :=
    .inl ⟨_, execute_eq_ok_iff.mpr ⟨.call 0x300, encoded, rfl⟩⟩
  obtain ⟨data, raw, -, -⟩ :=
    isDataLine_iff_findsUnknown Nat.one_pos Nat.one_pos unknown machine screen held
  obtain ⟨-, -, -, written⟩ :=
    isDataLine_iff_findsUnknown Nat.one_pos Nat.one_pos call machine screen held
  exact ⟨failed, data.mpr ⟨_, _, failed⟩, (raw _ _ failed).symm, known, written known⟩

end Machine
end ChipEight
