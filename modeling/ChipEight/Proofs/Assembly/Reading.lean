import Mathlib.Algebra.Group.Nat.Defs
import Mathlib.Data.Fin.Basic
import ChipEight.Assembly
import ChipEight.Text

/-!
# Reading assembly text

A line falls into fields at its blanks once the commas are gone: the mnemonic and the operands.  An
operand is told by how it begins and, if it is a number, by how many digits it has.
-/

namespace ChipEight

/-! ## Disassembly and decoding

A word is disassembled by tests of its own and not by way of the instruction that it encodes.  The
text is all the same that of its instruction, and a word that encodes none is written as data.
-/

namespace Assembly

theorem text_one (mnemonic : String) (operand : Operand) :
    text ⟨mnemonic, [operand]⟩ = mnemonic ++ " " ++ operand.text :=
  rfl

theorem text_two (mnemonic : String) (first second : Operand) :
    text ⟨mnemonic, [first, second]⟩ = mnemonic ++ " " ++ (first.text ++ ", " ++ second.text) :=
  rfl

theorem text_three (mnemonic : String) (first second third : Operand) :
    text ⟨mnemonic, [first, second, third]⟩ =
      mnemonic ++ " " ++ (first.text ++ ", " ++ second.text ++ ", " ++ third.text) :=
  rfl

end Assembly

namespace Word

/-- The text of an instruction, or the data of a word if it encodes none. -/
def textOf (word : Word) : Option Instruction → String
  | some instruction => instruction.assembly.text
  | none => word.dataText

theorem byte_of_toNat {word : Word} {number : Nat} (digits : word.byte.toNat = number) :
    word.byte = UInt8.ofNat number := by
  rw [← digits, UInt8.ofNat_toNat]

theorem systemText_eq (word : Word) :
    word.systemText = word.textOf (some (Instruction.ofSystemWord word)) := by
  simp only [systemText, Instruction.ofSystemWord, textOf]
  split
  · rfl
  · split <;> rfl

theorem comparisonText_eq (word : Word) {mnemonic : String}
    {condition : Register → Register → Condition}
    (named : ∀ left right,
      (condition left right).assembly = ⟨mnemonic, [.register left, .register right]⟩) :
    word.comparisonText mnemonic = word.textOf (Instruction.ofComparison? word condition) := by
  simp only [comparisonText, Instruction.ofComparison?]
  split
  · simp [textOf, Instruction.assembly, named, Assembly.text_two, Operand.text, firstRegisterText,
      secondRegisterText, String.append_assoc]
  · rfl

/-- The table of mnemonics knows the operations that a nibble selects, and no others. -/
theorem lookup_arithmeticMnemonics (nibble : Nibble) :
    arithmeticMnemonics.lookup nibble =
      (Arithmetic.ofNibble? nibble.val).map Arithmetic.mnemonic := by
  revert nibble
  decide

theorem arithmeticText_eq (word : Word) :
    word.arithmeticText =
      word.textOf ((Arithmetic.ofNibble? word.nibble.val).map fun operation =>
        .arithmetic operation word.x word.y) := by
  rw [arithmeticText, lookup_arithmeticMnemonics]
  cases Arithmetic.ofNibble? word.nibble.val with
  | none => rfl
  | some operation =>
      simp [textOf, Instruction.assembly, Assembly.text_two, Operand.text, firstRegisterText,
        secondRegisterText, String.append_assoc]

theorem keyText_eq (word : Word) : word.keyText = word.textOf (Instruction.ofKeyWord? word) := by
  fun_cases Instruction.ofKeyWord? word
  case case3 => simp_all [keyText, ← UInt8.toNat_inj, textOf]
  all_goals
    rename_i digits
    simp [keyText, byte_of_toNat digits, textOf, Instruction.assembly, Condition.assembly,
      Assembly.text_one, Operand.text, firstRegisterText, ← String.append_assoc]

theorem miscellaneousText_eq (word : Word) :
    word.miscellaneousText = word.textOf (Instruction.ofMiscellaneousWord? word) := by
  fun_cases Instruction.ofMiscellaneousWord? word
  case case10 =>
    have missing : miscellaneousFrames.lookup word.byte = none := by
      rw [List.lookup_eq_none_iff]
      simp_all [miscellaneousFrames, ← UInt8.toNat_inj]
    rw [miscellaneousText, missing, textOf]
  all_goals
    rename_i digits
    simp [miscellaneousText, byte_of_toNat digits, miscellaneousFrames, List.lookup_cons, textOf,
      Instruction.assembly, Assembly.text_two, Operand.text, Symbol.text, ← String.toList_inj]

/-- The tests of the disassembler and those of the decoder tell the same words apart. -/
theorem disassemble_eq (word : Word) :
    word.disassemble = word.textOf (Instruction.ofWord? word) := by
  have zero : Hex.ofNat 1 0 = "0" := by
    simp [Hex.ofNat, Hex.ofInt, Hex.padded, Hex.digits, Hex.digit]
  fun_cases Instruction.ofWord? word
  case case1 digit => simp [disassemble, Fin.ext_iff, digit, systemText_eq]
  case case6 digit | case10 digit =>
    simp only [disassemble, Fin.ext_iff, digit]
    exact comparisonText_eq word fun _ _ => rfl
  case case9 digit => simp [disassemble, Fin.ext_iff, digit, arithmeticText_eq]
  case case15 digit => simp [disassemble, Fin.ext_iff, digit, keyText_eq]
  case case16 =>
    -- The last class is what remains when the fifteen others are excluded.
    have last : word.opcode.val = 0xF := by grind
    simp [disassemble, Fin.ext_iff, last, miscellaneousText_eq]
  all_goals
    rename_i digit
    simp [disassemble, Fin.ext_iff, digit, textOf, Instruction.assembly, Condition.assembly,
      Assembly.text_one, Assembly.text_two, Assembly.text_three, Operand.text, Symbol.text,
      firstRegisterText, secondRegisterText, byteText, addressText, zero, ← String.toList_inj]

end Word

/-! ## Reading hexadecimal text

The digits of a number give it back, also behind the zeros that fill a width.  A number that its
width has room for fills it exactly, so the number of digits tells the width.
-/

namespace Hex

/-- The value that a digit stands for. -/
def digitValue? (character : Char) : Option Nat :=
  (List.range 16).find? fun value => digit value == character

/-- The number that digits stand for, most significant first. -/
def value? (characters : List Char) : Option Nat :=
  characters.foldlM (fun number character => (digitValue? character).map (16 * number + ·)) 0

theorem digitValue?_digit {value : Nat} (small : value < 16) :
    digitValue? (digit value) = some value := by
  have all : ∀ value ∈ List.range 16, digitValue? (digit value) = some value := by decide
  exact all value (List.mem_range.mpr small)

theorem value?_concat (front : List Char) (last : Char) :
    value? (front ++ [last]) =
      (value? front).bind fun number => (digitValue? last).map (16 * number + ·) := by
  simp [value?, List.foldlM_append]

theorem value?_singleton_digit {value : Nat} (small : value < 16) :
    value? [digit value] = some value := by
  simp [value?, digitValue?_digit small]

theorem value?_digits (value : Nat) : value? (digits value) = some value := by
  fun_induction digits value with
  | case1 value small => exact value?_singleton_digit small
  | case2 value large ih =>
      rw [value?_concat, ih, digitValue?_digit (Nat.mod_lt _ (by decide))]
      simp only [Option.bind_some, Option.map_some, Option.some.injEq]
      omega

theorem value?_zeros_append (count : Nat) (characters : List Char) :
    value? (List.replicate count '0' ++ characters) = value? characters := by
  induction count with
  | zero => rfl
  | succ count ih =>
      have zero : digitValue? '0' = some 0 := by decide
      rw [← ih]
      simp [value?, List.replicate_succ, zero]

/-- Zeros in front do not change the number. -/
theorem value?_padded (width value : Nat) : value? (padded width value) = some value := by
  rw [padded, List.leftpad, value?_zeros_append, value?_digits]

/-- A number below a power of sixteen has at most as many digits as the power tells. -/
theorem length_digits_le {width value : Nat} (room : 0 < width) (fits : value < 16 ^ width) :
    (digits value).length ≤ width := by
  fun_induction digits value generalizing width with
  | case1 value small => exact room
  | case2 value large ih =>
      match width, room with
      | 1, _ => omega
      | width + 2, _ =>
          have shorter : value / 16 < 16 ^ (width + 1) := by
            rw [Nat.pow_succ] at fits
            omega
          have := ih (Nat.succ_pos width) shorter
          rw [List.length_append, List.length_singleton]
          omega

theorem length_padded_eq {width value : Nat} (room : 0 < width) (fits : value < 16 ^ width) :
    (padded width value).length = width := by
  rw [length_padded, Nat.max_eq_left (length_digits_le room fits)]

/-- Every character of a number is a digit. -/
theorem mem_padded {width value : Nat} {character : Char}
    (member : character ∈ padded width value) :
    ∃ small < 16, character = digit small := by
  rw [padded, List.leftpad, List.mem_append, List.mem_replicate] at member
  rcases member with ⟨-, rfl⟩ | member
  · exact ⟨0, by decide, rfl⟩
  · fun_induction digits value with
    | case1 value small => exact ⟨value, small, List.mem_singleton.mp member⟩
    | case2 value large ih =>
        rcases List.mem_append.mp member with earlier | last
        · exact ih earlier
        · exact ⟨value % 16, Nat.mod_lt _ (by decide), List.mem_singleton.mp last⟩

theorem toList_ofNat (width value : Nat) : (ofNat width value).toList = padded width value :=
  String.toList_ofList

end Hex

/-! ## Fields and operands -/

/-- The operands that are not built from a number in base sixteen. -/
def Operand.named : List Operand :=
  [Symbol.delayTimer, .soundTimer, .key, .index, .glyph, .decimal, .block].map Operand.symbol ++
    (List.finRange 16).map Operand.count

/-- The operand that is written as a text. -/
def Operand.ofText? : List Char → Option Operand
  | 'V' :: digits => (Hex.value? digits).map fun number => .register (Fin.ofNat 16 number)
  | '0' :: 'x' :: digits =>
      match digits.length with
      | 2 => (Hex.value? digits).map fun number => .byte (UInt8.ofNat number)
      | 3 => (Hex.value? digits).map fun number => .address (Fin.ofNat 4096 number)
      | _ => none
  | characters => named.find? fun operand => operand.text.toList == characters

namespace Operand

theorem ofText?_of_mem_named {operand : Operand} (member : operand ∈ named) :
    ofText? operand.text.toList = some operand := by
  have all : ∀ operand ∈ named, ofText? operand.text.toList = some operand := by decide
  exact all operand member

theorem mem_named_symbol (name : Symbol) : symbol name ∈ named := by
  cases name <;> decide

theorem mem_named_count (value : Nibble) : count value ∈ named :=
  List.mem_append_right _ (List.mem_map_of_mem (List.mem_finRange value))

/-- Every operand is read back from its text. -/
theorem ofText?_text (operand : Operand) : ofText? operand.text.toList = some operand := by
  cases operand with
  | register number =>
      simp [text, Hex.toList_ofNat, ofText?, Hex.value?_padded]
  | byte value =>
      have width : (Hex.padded 2 value.toNat).length = 2 :=
        Hex.length_padded_eq (by decide) value.toNat_lt
      simp [text, Hex.toList_ofNat, ofText?, width, Hex.value?_padded]
  | address value =>
      have width : (Hex.padded 3 value.val).length = 3 :=
        Hex.length_padded_eq (by decide) value.isLt
      simp [text, Hex.toList_ofNat, ofText?, width, Hex.value?_padded]
  | count value => exact ofText?_of_mem_named (mem_named_count value)
  | symbol name => exact ofText?_of_mem_named (mem_named_symbol name)

end Operand

/-- Characters that can be one field of a line: none of them ends a field. -/
def IsField (characters : List Char) : Prop :=
  ' ' ∉ characters ∧ ',' ∉ characters

instance (characters : List Char) : Decidable (IsField characters) :=
  inferInstanceAs (Decidable (_ ∧ _))

theorem IsField.append {front back : List Char} (first : IsField front) (second : IsField back) :
    IsField (front ++ back) := by
  simp_all [IsField]

theorem isField_padded (width value : Nat) : IsField (Hex.padded width value) := by
  have apart : ∀ small < 16, Hex.digit small ≠ ' ' ∧ Hex.digit small ≠ ',' := by decide
  constructor
  all_goals
    intro member
    obtain ⟨small, bound, same⟩ := Hex.mem_padded member
  · exact (apart small bound).1 same.symm
  · exact (apart small bound).2 same.symm

theorem Operand.isField_of_mem_named {operand : Operand} (member : operand ∈ named) :
    IsField operand.text.toList := by
  have all : ∀ operand ∈ named, IsField operand.text.toList := by decide
  exact all operand member

theorem Operand.isField_text (operand : Operand) : IsField operand.text.toList := by
  cases operand with
  | register number | byte value | address value =>
      rw [text, String.toList_append, Hex.toList_ofNat]
      exact IsField.append (by decide) (isField_padded _ _)
  | count value => exact isField_of_mem_named (mem_named_count value)
  | symbol name => exact isField_of_mem_named (mem_named_symbol name)

/-- The fields of a text: what stands between the blanks when the commas are gone. -/
def fieldsOf (text : String) : List (List Char) :=
  (text.toList.filter (· != ',')).splitOn ' '

theorem IsField.filter_eq {field : List Char} (plain : IsField field) :
    field.filter (· != ',') = field := by
  rw [List.filter_eq_self]
  intro character member
  simp only [bne_iff_ne]
  rintro rfl
  exact plain.2 member

theorem filter_intercalate {fields : List (List Char)} (plain : ∀ field ∈ fields, IsField field) :
    ([',', ' '].intercalate fields).filter (· != ',') = [' '].intercalate fields := by
  -- A separator stands only before another field, so the induction looks at the next one too.
  induction fields with
  | nil => rfl
  | cons field rest ih =>
      have here : field.filter (· != ',') = field := (plain field List.mem_cons_self).filter_eq
      have later := ih fun other member => plain other (List.mem_cons_of_mem field member)
      cases rest with
      | nil => simpa using here
      | cons next rest =>
          rw [List.intercalate_cons_cons, List.intercalate_cons_cons, List.filter_append,
            List.filter_append, here, later]
          rfl

theorem fieldsOf_of_isField {text : String} (plain : IsField text.toList) :
    fieldsOf text = [text.toList] := by
  rw [fieldsOf, plain.filter_eq]
  have whole : ([' '].intercalate [text.toList]).splitOn ' ' = [text.toList] :=
    List.splitOn_intercalate ' ' (by simpa using plain.1) (by simp)
  simpa using whole

/-- The fields of a mnemonic with operands. -/
theorem fieldsOf_line {text : String} {mnemonic : List Char} {operands : List (List Char)}
    (written : text.toList = mnemonic ++ ' ' :: [',', ' '].intercalate operands)
    (nonempty : operands ≠ []) (plain : ∀ field ∈ mnemonic :: operands, IsField field) :
    fieldsOf text = mnemonic :: operands := by
  have bare := (plain mnemonic List.mem_cons_self).filter_eq
  have listed := filter_intercalate fun field member =>
    plain field (List.mem_cons_of_mem mnemonic member)
  have joined : text.toList.filter (· != ',') = [' '].intercalate (mnemonic :: operands) := by
    rw [written, List.filter_append, bare, List.filter_cons_of_pos (by decide), listed,
      List.intercalate_cons_of_ne_nil nonempty]
    simp
  rw [fieldsOf, joined]
  exact List.splitOn_intercalate ' ' (fun field member => (plain field member).1) (by simp)

namespace Assembly

/-- The fields of a line are its mnemonic and the texts of its operands. -/
theorem fieldsOf_text {line : Assembly} (plain : IsField line.mnemonic.toList) :
    fieldsOf line.text =
      line.mnemonic.toList :: line.operands.map fun operand => operand.text.toList := by
  obtain ⟨mnemonic, operands⟩ := line
  cases operands with
  | nil => exact fieldsOf_of_isField plain
  | cons operand rest =>
      refine fieldsOf_line ?_ (by simp) ?_
      · simp [text, String.toList_intercalate, Function.comp_def]
      · intro field member
        rcases List.mem_cons.mp member with rfl | member
        · exact plain
        · obtain ⟨written, -, rfl⟩ := List.mem_map.mp member
          exact written.isField_text

end Assembly

/-- Operands are read back one by one. -/
theorem Operand.mapM_ofText? (operands : List Operand) :
    (operands.map fun operand => operand.text.toList).mapM ofText? = some operands := by
  induction operands with
  | nil => rfl
  | cons operand rest ih => simp [ofText?_text, ih]

end ChipEight
