import ChipEight.Proofs.Execution.Footprint
import Mathlib.Tactic.SplitIfs

/-!
# Where a machine goes on

The place of the next word after a step, told from the digits of the word that was executed, and the
skips, which come in pairs that pass over the next word under opposite conditions.
-/

namespace ChipEight
namespace Machine

variable {width height : Nat}

/-- Whether the key that a register names by its low digit is held. -/
def holdsKeyOf (machine : Machine) (held : HeldKeys) (number : Register) : Bool :=
  held.get (Fin.ofNat 16 (machine.register number).toNat)

/-- The digits of the words that pass over the next one, with the conditions under which they do. -/
def PassesOver (machine : Machine) (held : HeldKeys) (word : Word) : Prop :=
  word.low / 4096 = 0x3 ∧ (machine.register word.x).toNat = word.low % 256 ∨
    word.low / 4096 = 0x4 ∧ (machine.register word.x).toNat ≠ word.low % 256 ∨
    word.low / 4096 = 0x5 ∧ word.low % 16 = 0 ∧ machine.register word.x = machine.register word.y ∨
    word.low / 4096 = 0x9 ∧ word.low % 16 = 0 ∧ machine.register word.x ≠ machine.register word.y ∨
    word.low / 4096 = 0xE ∧ word.low % 256 = 0x9E ∧ machine.holdsKeyOf held word.x = true ∨
    word.low / 4096 = 0xE ∧ word.low % 256 = 0xA1 ∧ machine.holdsKeyOf held word.x = false

instance (machine : Machine) (held : HeldKeys) (word : Word) :
    Decidable (machine.PassesOver held word) :=
  inferInstanceAs (Decidable (_ ∨ _))

/-- The place of the next word after a step: a jump or a call names it, a jump with an offset adds a
register to what it names, a return takes the address that was saved last, and every other word goes
on to the next one or passes over it. -/
def successor (machine : Machine) (held : HeldKeys) : Nat :=
  let word := machine.word
  if word.low / 4096 = 0x1 ∨ word.low / 4096 = 0x2 then
    word.low % 4096
  else if word.low / 4096 = 0xB then
    word.low % 4096 + (machine.register 0).toNat
  else if word.low = 0x00EE then
    (machine.stack.toList.getLastD 0).toNat
  else if machine.PassesOver held word then
    (machine.counter.toNat + 4) % 65536
  else
    (machine.counter.toNat + 2) % 65536

/-- The place of the next word after an instruction, with the counter behind the word already. -/
def destination (machine : Machine) (held : HeldKeys) : Instruction → UInt16
  | .returnFromCall => machine.stack.toList.getLastD 0
  | .jump address | .call address => UInt16.ofNat address
  | .skip condition => if condition.holds machine held then machine.counter + 2 else machine.counter
  | .jumpOffset address => UInt16.ofNat (address + (machine.register 0).toNat)
  | _ => machine.counter

theorem counter_of_perform {before after : Machine} {screen drawn : Screen width height}
    {held : HeldKeys} {instruction : Instruction} (wellFormed : before.stack.WellFormed)
    (performed : before.perform screen held instruction = .ok (after, drawn)) :
    after.counter = before.destination held instruction := by
  have footprint := footprint_of_perform performed
  cases instruction with
  | jump address | jumpOffset address =>
      cases performed
      rfl
  | call address =>
      obtain ⟨stack, -, rfl⟩ := footprint
      rfl
  | returnFromCall =>
      obtain ⟨stack, counter, popped, rfl⟩ := footprint
      simp [destination, CallStack.toList_pop wellFormed popped]
  | skip condition =>
      cases performed
      simp only [destination]
      split <;> rfl
  | _ => grind [Footprint, destination]

/-- A skip passes over the next word exactly if its condition holds. -/
theorem passesOver_iff {machine : Machine} {held : HeldKeys} {word : Word} {condition : Condition}
    (encoded : word.Encodes (.skip condition)) :
    machine.PassesOver held word ↔ condition.holds machine held = true := by
  have byte := word.toNat_byte
  cases condition with
  | equalsByte register value | differsFromByte register value =>
      obtain ⟨digit, rfl, rfl⟩ := encoded
      simp [PassesOver, digit, Condition.holds, ← byte, UInt8.toNat_inj]
  | equalsRegister left right | differsFromRegister left right =>
      obtain ⟨digit, last, rfl, rfl⟩ := encoded
      simp [PassesOver, digit, last, Condition.holds]
  | keyHeld register | keyFree register =>
      obtain ⟨digit, last, rfl⟩ := encoded
      simp [PassesOver, digit, last, Condition.holds, holdsKeyOf]

/-- Only skips pass over the next word. -/
theorem encodes_of_passesOver {machine : Machine} {held : HeldKeys} {word : Word}
    (passes : machine.PassesOver held word) : ∃ condition, word.Encodes (.skip condition) := by
  rcases passes with ⟨digit, -⟩ | ⟨digit, -⟩ | ⟨digit, last, -⟩ | ⟨digit, last, -⟩ |
    ⟨digit, last, -⟩ | ⟨digit, last, -⟩
  · exact ⟨.equalsByte word.x word.byte, digit, rfl, rfl⟩
  · exact ⟨.differsFromByte word.x word.byte, digit, rfl, rfl⟩
  · exact ⟨.equalsRegister word.x word.y, digit, last, rfl, rfl⟩
  · exact ⟨.differsFromRegister word.x word.y, digit, last, rfl, rfl⟩
  · exact ⟨.keyHeld word.x, digit, last, rfl⟩
  · exact ⟨.keyFree word.x, digit, last, rfl⟩

theorem holds_advance (machine : Machine) (held : HeldKeys) (condition : Condition) :
    condition.holds machine.advance held = condition.holds machine held := by
  cases condition <;> rfl

/-- A word that was fetched is the return exactly if its low bits are. -/
theorem raw_word_eq_iff {machine : Machine} {number : Nat} :
    machine.word.raw = number ↔ machine.word.low = number := by
  have raw : machine.word.raw = (machine.word.low : Nat) := Word.raw_ofBytes _ _
  omega

/-- The digits of a word tell where its instruction leads, for no other instruction has them. -/
theorem toNat_destination {machine : Machine} {held : HeldKeys} {instruction : Instruction}
    (encoded : machine.word.Encodes instruction) :
    (machine.advance.destination held instruction).toNat = machine.successor held := by
  have address := Nat.mod_lt machine.word.low (by decide : 0 < 4096)
  simp only [successor]
  split_ifs with direct offset back passes
  · have place : (UInt16.ofNat machine.word.address).toNat = machine.word.low % 4096 := by
      rw [UInt16.toNat_ofNat', Word.address, Fin.val_ofNat]
      omega
    rcases direct with jump | call
    · obtain rfl := encoded.unique (show machine.word.Encodes (.jump _) from ⟨jump, rfl⟩)
      exact place
    · obtain rfl := encoded.unique (show machine.word.Encodes (.call _) from ⟨call, rfl⟩)
      exact place
  · obtain rfl := encoded.unique (show machine.word.Encodes (.jumpOffset _) from ⟨offset, rfl⟩)
    have := (machine.register 0).toNat_lt
    change (UInt16.ofNat (machine.word.address + (machine.register 0).toNat)).toNat = _
    rw [UInt16.toNat_ofNat', Word.address, Fin.val_ofNat]
    exact Nat.mod_eq_of_lt (by omega)
  · obtain rfl := encoded.unique
      (show machine.word.Encodes .returnFromCall from raw_word_eq_iff.mpr back)
    rfl
  · obtain ⟨condition, skip⟩ := encodes_of_passesOver passes
    obtain rfl := encoded.unique skip
    have holds := (passesOver_iff skip).mp passes
    have once := machine.toNat_counter_advance
    have twice := machine.advance.toNat_counter_advance
    simp only [destination, holds_advance, holds]
    exact twice.trans (by omega)
  · cases instruction with
    | jump address => exact (direct (.inl encoded.1)).elim
    | call address => exact (direct (.inr encoded.1)).elim
    | jumpOffset address => exact (offset encoded.1).elim
    | returnFromCall => exact (back (raw_word_eq_iff.mp encoded)).elim
    | skip condition =>
        have fails : condition.holds machine held = false := by
          simpa using mt (passesOver_iff encoded).mpr passes
        simp only [destination, holds_advance, fails]
        exact machine.toNat_counter_advance
    | _ => exact machine.toNat_counter_advance

/-- Two skips with the same operands, of which the first one passes over the next word if a
condition holds and the second one if it does not. -/
inductive Opposite (machine : Machine) (held : HeldKeys) : Word → Word → Bool → Prop
  /-- A register holds a byte. -/
  | byte {first second : Word} (equals : first.low / 4096 = 0x3)
      (differs : second.low / 4096 = 0x4) (operands : first.low % 4096 = second.low % 4096) :
      Opposite machine held first second
        (decide ((machine.register first.x).toNat = first.low % 256))
  /-- Two registers hold the same byte. -/
  | register {first second : Word} (equals : first.low / 4096 = 0x5)
      (differs : second.low / 4096 = 0x9) (last : first.low % 16 = 0)
      (operands : first.low % 4096 = second.low % 4096) :
      Opposite machine held first second
        (decide (machine.register first.x = machine.register first.y))
  /-- The key that a register names is held. -/
  | key {first second : Word}
      (isHeld : first.low / 4096 = 0xE ∧ first.low % 256 = 0x9E)
      (isFree : second.low / 4096 = 0xE ∧ second.low % 256 = 0xA1) (operand : first.x = second.x) :
      Opposite machine held first second (machine.holdsKeyOf held first.x)

theorem operands_eq {first second : Word} (same : first.low % 4096 = second.low % 4096) :
    first.x = second.x ∧ first.y = second.y ∧ first.byte = second.byte := by
  refine ⟨Fin.ext ?_, Fin.ext ?_, UInt8.toNat_inj.mp ?_⟩
  · simp only [Word.x, Fin.val_ofNat]
    omega
  · simp only [Word.y, Fin.val_ofNat]
    omega
  · rw [Word.toNat_byte, Word.toNat_byte]
    omega

theorem Opposite.exists_encodes {machine : Machine} {held : HeldKeys} {first second : Word}
    {condition : Bool} (opposite : machine.Opposite held first second condition) :
    ∃ met unmet, first.Encodes (.skip met) ∧ second.Encodes (.skip unmet) ∧
      met.holds machine held = condition ∧ unmet.holds machine held = !condition := by
  cases opposite with
  | byte equals differs operands =>
      obtain ⟨x, -, byte⟩ := operands_eq operands
      have value := first.toNat_byte
      refine ⟨.equalsByte first.x first.byte, .differsFromByte second.x second.byte,
        ⟨equals, rfl, rfl⟩, ⟨differs, rfl, rfl⟩, ?_, ?_⟩
      · simp only [Condition.holds, ← value, UInt8.toNat_inj]
      · simp only [Condition.holds, ← value, UInt8.toNat_inj, ← x, ← byte, decide_not, ne_eq]
  | register equals differs last operands =>
      obtain ⟨x, y, -⟩ := operands_eq operands
      refine ⟨.equalsRegister first.x first.y, .differsFromRegister second.x second.y,
        ⟨equals, last, rfl, rfl⟩, ⟨differs, by omega, rfl, rfl⟩, rfl, ?_⟩
      simp only [Condition.holds, ← x, ← y, decide_not, ne_eq]
  | key isHeld isFree operand =>
      refine ⟨.keyHeld first.x, .keyFree second.x, ⟨isHeld.1, isHeld.2, rfl⟩,
        ⟨isFree.1, isFree.2, rfl⟩, rfl, ?_⟩
      rw [← operand]
      rfl

theorem execute_of_skip {machine : Machine} {word : Word} {condition : Condition}
    (encoded : word.Encodes (.skip condition)) (screen : Screen width height) (held : HeldKeys) :
    machine.execute screen held word =
      .ok (if condition.holds machine held then machine.advance else machine, screen) :=
  execute_eq_ok_iff.mpr ⟨_, encoded, rfl⟩

/-- Exactly one of two opposite skips passes over the next word, and nothing else happens. -/
theorem execute_opposite {machine : Machine} {held : HeldKeys} {first second : Word}
    {condition : Bool} (opposite : machine.Opposite held first second condition)
    (screen : Screen width height) :
    machine.execute screen held first =
        .ok (if condition then machine.advance else machine, screen) ∧
      machine.execute screen held second =
        .ok (if condition then machine else machine.advance, screen) := by
  obtain ⟨met, unmet, firstEncodes, secondEncodes, holds, fails⟩ := opposite.exists_encodes
  rw [execute_of_skip firstEncodes, execute_of_skip secondEncodes, holds, fails]
  cases condition <;> exact ⟨rfl, rfl⟩

/-- A step that succeeds goes on where the digits of its word say, and of two opposite skips exactly
one passes over the next word, whichever keys are held, while nothing but the counter changes. -/
theorem goes_on_at_successor (machine : Machine) (screen : Screen width height) (held : HeldKeys) :
    (∀ after drawn, machine.stack.WellFormed → machine.step screen held = .ok (after, drawn) →
      after.counter.toNat = machine.successor held) ∧
      ∀ first second condition, machine.Opposite held first second condition →
        machine.execute screen held first =
            .ok (if condition then { machine with counter := machine.counter + 2 } else machine,
              screen) ∧
          machine.execute screen held second =
            .ok (if condition then machine else { machine with counter := machine.counter + 2 },
              screen) := by
  constructor
  · intro after drawn wellFormed stepped
    obtain ⟨instruction, encoded, performed⟩ := step_eq_ok_iff.mp stepped
    have advanced : machine.advance.stack.WellFormed := wellFormed
    rw [counter_of_perform advanced performed]
    exact toNat_destination encoded
  · intro first second condition opposite
    exact execute_opposite opposite screen

/-- A skip at the upper end of the counter, and the skip that is opposite to it. -/
theorem goes_on_at_successor_wrapping :
    let machine : Machine :=
      { initial {} with
        counter := 0xFFFE
        memory := (Memory.initial.write 0xFFE 0x31).write 0xFFF 0x00 }
    let screen := Screen.blank 1 1
    let held : HeldKeys := Vector.replicate 16 false
    machine.stack.WellFormed ∧
      (∃ after, machine.step screen held = .ok (after, screen) ∧ after.counter.toNat = 2) ∧
      machine.Opposite held ⟨0x3100⟩ ⟨0x4100⟩ true ∧
      machine.execute screen held ⟨0x3100⟩ =
        .ok ({ machine with counter := machine.counter + 2 }, screen) ∧
      machine.execute screen held ⟨0x4100⟩ = .ok (machine, screen) := by
  intro machine screen held
  have wellFormed : machine.stack.WellFormed := CallStack.wellFormed_empty 16
  obtain ⟨reached, opposites⟩ := goes_on_at_successor machine screen held
  have opposite : machine.Opposite held ⟨0x3100⟩ ⟨0x4100⟩ true :=
    .byte (by decide) (by decide) (by decide)
  have word : machine.word = ⟨0x3100⟩ := by
    simp [machine, Machine.word, Memory.read_write, Word.ofBytes]
  have stepped : ∃ after, machine.step screen held = .ok (after, screen) := by
    refine ⟨_, step_eq_ok_iff.mpr ⟨.skip (.equalsByte 1 0), ?_, rfl⟩⟩
    rw [word]
    exact ⟨by decide, by decide, by decide⟩
  obtain ⟨after, stepped⟩ := stepped
  have place : machine.successor held = 2 := by
    simp only [successor, word]
    decide
  obtain ⟨passes, stays⟩ := opposites _ _ _ opposite
  exact ⟨wellFormed, ⟨after, stepped, (reached _ _ wellFormed stepped).trans place⟩, opposite,
    passes, stays⟩

end Machine
end ChipEight
