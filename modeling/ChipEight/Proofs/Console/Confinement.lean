import Mathlib.Tactic.ByContra
import ChipEight.Proofs.Console.Step
import ChipEight.Proofs.Execution.Footprint

/-!
# Confinement of words

Executing a word changes only those parts of a console that the digits of the word name.  Every part
is listed with the words that may change it.
-/

namespace ChipEight

variable {width height : Nat}

namespace Word

/-- The digits of the six skips. -/
def IsSkip (word : Word) : Prop :=
  word.low / 4096 = 0x3 ∨ word.low / 4096 = 0x4 ∨
    (word.low / 4096 = 0x5 ∨ word.low / 4096 = 0x9) ∧ word.low % 16 = 0 ∨
      word.low / 4096 = 0xE ∧ (word.low % 256 = 0x9E ∨ word.low % 256 = 0xA1)

/-- The digits of the words that may write a register: some that name it first, those that set the
flag, and the word that loads every register up to the one that it names. -/
def MayWrite (word : Word) (number : Register) : Prop :=
  number = word.x ∧
      (word.low / 4096 ∈ [0x6, 0x7, 0x8, 0xC] ∨ word.IsMiscellaneous 0x07 word.x) ∨
    number = Machine.flagRegister ∧
        (word.low / 4096 = 0x8 ∧ word.low % 16 ∈ [4, 5, 6, 7, 0xE] ∨ word.low / 4096 = 0xD) ∨
      number ≤ word.x ∧ word.IsMiscellaneous 0x65 word.x

/-- The digits of the words that may write a cell some way behind the index. -/
def MayStore (word : Word) (offset : Nat) : Prop :=
  word.IsMiscellaneous 0x33 word.x ∧ offset < 3 ∨
    word.IsMiscellaneous 0x55 word.x ∧ offset ≤ word.x.val

theorem low_of_raw {word : Word} {number : Nat} (small : number < 65536)
    (raw : word.raw = number) : word.low = number := by
  rw [low, raw]
  omega

namespace Encodes

variable {word : Word} {instruction : Instruction}

theorem isSkip {condition : Condition} (encoded : word.Encodes (.skip condition)) :
    word.IsSkip := by
  cases condition <;> simp_all [Encodes, IsSkip]

theorem mayWrite (encoded : word.Encodes instruction) {number : Register}
    (writes : instruction.Writes number) : word.MayWrite number := by
  cases instruction with
  | arithmetic operation target source =>
      obtain ⟨digit, known, rfl, -⟩ := encoded
      rcases writes with rfl | ⟨flagged, rfl⟩
      · exact .inl ⟨rfl, .inl (by simp [digit])⟩
      · exact .inr (.inl ⟨rfl, .inl ⟨digit, (Arithmetic.setsFlag_iff known).mp flagged⟩⟩)
  | setByte target value | addByte target value | random target value =>
      obtain ⟨digit, rfl, -⟩ := encoded
      exact .inl ⟨writes, .inl (by simp [digit])⟩
  | readDelay target =>
      obtain ⟨digit, last, rfl⟩ := encoded
      exact .inl ⟨writes, .inr ⟨digit, last, rfl⟩⟩
  | draw column row rows => exact .inr (.inl ⟨writes, .inr encoded.1⟩)
  | loadRegisters last =>
      obtain ⟨digit, low, rfl⟩ := encoded
      exact .inr (.inr ⟨writes, digit, low, rfl⟩)
  | _ => cases writes

theorem mayStore (encoded : word.Encodes instruction) {offset : Nat}
    (within : offset < instruction.cellsWritten) : word.MayStore offset := by
  cases instruction with
  | storeDecimal source =>
      obtain ⟨digit, last, rfl⟩ := encoded
      exact .inl ⟨⟨digit, last, rfl⟩, within⟩
  | storeRegisters last =>
      obtain ⟨digit, low, rfl⟩ := encoded
      exact .inr ⟨⟨digit, low, rfl⟩, Nat.le_of_lt_succ within⟩
  | _ => simp [Instruction.cellsWritten] at within

end Encodes
end Word

namespace Console

/-- For every part of a console the words that may change it. -/
structure Confined (word : Word) (before after : Console width height) : Prop where
  /-- Only a draw of a random byte changes the random key. -/
  randomKey : after.machine.randomKey ≠ before.machine.randomKey → word.low / 4096 = 0xC
  /-- Cells change only from the index on, as far as the word stores. -/
  memory : ∀ address, after.machine.memory.read address ≠ before.machine.memory.read address →
    ∃ offset, (before.machine.index.toNat + offset) % 4096 = address % 4096 ∧
      word.MayStore offset
  /-- Only calls and the return change the call stack. -/
  stack : after.machine.stack ≠ before.machine.stack →
    word.low / 4096 = 0x2 ∨ word.low = 0x00EE
  /-- Only the word that sets the delay timer changes it. -/
  delay : after.machine.delay ≠ before.machine.delay → word.IsMiscellaneous 0x15 word.x
  /-- Only the word that sets the sound timer changes it. -/
  sound : after.machine.sound ≠ before.machine.sound → word.IsMiscellaneous 0x18 word.x
  /-- The index is set, added to, or pointed at a glyph. -/
  index : after.machine.index ≠ before.machine.index →
    word.low / 4096 = 0xA ∨ word.IsMiscellaneous 0x1E word.x ∨ word.IsMiscellaneous 0x29 word.x
  /-- Jumps, calls, the return and skips change the counter. -/
  counter : after.machine.counter ≠ before.machine.counter →
    word.low = 0x00EE ∨ word.low / 4096 ∈ [0x1, 0x2, 0xB] ∨ word.IsSkip
  /-- Only the word that waits for a key changes what the machine waits for. -/
  waiting : after.machine.waiting ≠ before.machine.waiting → word.IsMiscellaneous 0x0A word.x
  /-- Registers change only if the word may write them. -/
  register : ∀ number, after.machine.register number ≠ before.machine.register number →
    word.MayWrite number
  /-- The screen is cleared or drawn on. -/
  pixel : ∀ column row, after.screen.pixel column row ≠ before.screen.pixel column row →
    word.low = 0x00E0 ∨ word.low / 4096 = 0xD
  /-- Keys and listener never change. -/
  keypad_eq : after.keypad = before.keypad
  /-- The settings never change. -/
  config_eq : after.machine.config = before.machine.config

theorem Confined.refl (word : Word) (console : Console width height) :
    console.Confined word console where
  randomKey changed := (changed rfl).elim
  memory _ changed := (changed rfl).elim
  stack changed := (changed rfl).elim
  delay changed := (changed rfl).elim
  sound changed := (changed rfl).elim
  index changed := (changed rfl).elim
  counter changed := (changed rfl).elim
  waiting changed := (changed rfl).elim
  register _ changed := (changed rfl).elim
  pixel _ _ changed := (changed rfl).elim
  keypad_eq := rfl
  config_eq := rfl

/-- An instruction that succeeds is confined to the digits of its word. -/
theorem confined_of_perform {console : Console width height} {word : Word}
    {instruction : Instruction} (encoded : word.Encodes instruction) {after : Machine}
    {drawn : Screen width height}
    (performed : console.machine.perform console.screen console.keypad.held instruction =
      .ok (after, drawn)) :
    console.Confined word { console with machine := after, screen := drawn } where
  randomKey changed := by
    have footprint := Machine.footprint_of_perform performed
    cases instruction with
    | random target mask => exact encoded.1
    -- By the footprint every other instruction keeps the key; so for each part below.
    | _ => grind [Machine.Footprint]
  memory address changed := by
    by_contra elsewhere
    refine changed (Machine.read_of_perform performed fun offset within same => elsewhere ?_)
    exact ⟨offset, same, encoded.mayStore within⟩
  stack changed := by
    have footprint := Machine.footprint_of_perform performed
    cases instruction with
    | call address => exact .inl encoded.1
    | returnFromCall => exact .inr (Word.low_of_raw (by decide) encoded)
    | _ => exact (changed (footprint.stack_eq (by simp) (by simp))).elim
  delay changed := by
    have footprint := Machine.footprint_of_perform performed
    cases instruction with
    | setDelay source => exact ⟨encoded.1, encoded.2.1, rfl⟩
    | _ => grind [Machine.Footprint]
  sound changed := by
    have footprint := Machine.footprint_of_perform performed
    cases instruction with
    | setSound source => exact ⟨encoded.1, encoded.2.1, rfl⟩
    | _ => grind [Machine.Footprint]
  index changed := by
    have footprint := Machine.footprint_of_perform performed
    cases instruction with
    | setIndex address => exact .inl encoded.1
    | addIndex source => exact .inr (.inl ⟨encoded.1, encoded.2.1, rfl⟩)
    | pointAtGlyph source => exact .inr (.inr ⟨encoded.1, encoded.2.1, rfl⟩)
    | _ => grind [Machine.Footprint]
  counter changed := by
    have footprint := Machine.footprint_of_perform performed
    cases instruction with
    | returnFromCall => exact .inl (Word.low_of_raw (by decide) encoded)
    | jump address | call address | jumpOffset address =>
        exact .inr (.inl (by simp [encoded.1]))
    | skip condition => exact .inr (.inr encoded.isSkip)
    | _ => grind [Machine.Footprint]
  waiting changed := by
    have footprint := Machine.footprint_of_perform performed
    cases instruction with
    | awaitKey target => exact ⟨encoded.1, encoded.2.1, rfl⟩
    | _ => exact (changed (footprint.waiting_eq (by simp))).elim
  register number changed := by
    by_contra unnamed
    exact changed (Machine.register_of_perform performed fun writes =>
      unnamed (encoded.mayWrite writes))
  pixel column row changed := by
    cases instruction with
    | clearScreen => exact .inl (Word.low_of_raw (by decide) encoded)
    | draw column row rows => exact .inr encoded.1
    | _ =>
        obtain rfl : drawn = console.screen := Machine.screen_of_perform performed rfl
        exact (changed rfl).elim
  keypad_eq := rfl
  config_eq := (Machine.footprint_of_perform performed).config_eq

/-- Executing a word changes nothing but what the digits of the word name, and nothing at all if it
is refused. -/
theorem confined_execute (console : Console width height) (word : Word) :
    console.Confined word (console.perform (.execute word)).console := by
  rw [perform_execute]
  cases executed : console.machine.execute console.screen console.keypad.held word with
  | error failure => exact .refl word console
  | ok result =>
      obtain ⟨instruction, encoded, performed⟩ := Machine.execute_eq_ok_iff.mp executed
      exact confined_of_perform encoded performed

end Console
end ChipEight
