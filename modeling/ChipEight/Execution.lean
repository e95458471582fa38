import ChipEight.Instruction
import ChipEight.Machine
import ChipEight.Screen

/-!
# Execution

What an instruction does to the machine and the screen.  The counter stands behind the word while
it is executed.  Either the instruction succeeds or neither the machine nor the screen changes.

A machine is replaced by the one after the instruction, but a screen is drawn on in place, so it is
there even if the instruction fails.
-/

namespace ChipEight

variable {width height : Nat}

/-- Whether the next word is passed over. -/
def Condition.holds (machine : Machine) (held : HeldKeys) : Condition → Bool
  | equalsByte register value => machine.register register = value
  | differsFromByte register value => machine.register register ≠ value
  | equalsRegister left right => machine.register left = machine.register right
  | differsFromRegister left right => machine.register left ≠ machine.register right
  | keyHeld register => held.get (Fin.ofNat 16 (machine.register register).toNat)
  | keyFree register => !held.get (Fin.ofNat 16 (machine.register register).toNat)

namespace Machine

/-- Continue at an address. -/
def jump (machine : Machine) (address : Address) : Machine :=
  { machine with counter := UInt16.ofNat address }

/-- Save the counter and continue at an address. -/
def call (machine : Machine) (address : Address) : Except Fault.Cause Machine := do
  let stack ← machine.stack.push machine.counter.toNat
  return { machine with stack }.jump address

/-- Continue at the address saved last. -/
def returnFromCall (machine : Machine) : Except Fault.Cause Machine := do
  let (stack, address) ← machine.stack.pop
  return { machine with stack, counter := address }

/-- Combine two registers. The flag is stored last, so it wins if both go to one register. -/
def combine (machine : Machine) (operation : Arithmetic) (target source : Register) : Machine :=
  let result :=
    operation.apply (machine.register target).toNat (machine.register source).toNat
  let stored := machine.setRegister target (UInt8.ofInt result.value)
  match result.flag with
  | none => stored
  | some flag =>
      stored.setFlag
        (UInt8.ofInt (operation.storedFlag machine.config.normalizeShiftFlag flag))

/-- Draw a random byte and store the bits that the mask selects. -/
def drawRandom (machine : Machine) (target : Register) (mask : UInt8) : Machine :=
  { machine with randomKey := Threefry.next machine.randomKey }.setRegister target
    (Threefry.byte machine.randomKey &&& mask)

/-- Point the index at the glyph of the low digit of a register. -/
def pointAtGlyph (machine : Machine) (source : Register) : Machine :=
  { machine with
    index := UInt16.ofNat (Font.glyphSize * ((machine.register source).toNat % 16)) }

/-- Store the hundreds, tens and units of a register from the index on. -/
def storeDecimal (machine : Machine) (source : Register) : Machine :=
  let value := machine.register source
  let digits := [value / 100, value / 10 % 10, value % 10]
  { machine with memory := machine.memory.writeBlock machine.index.toNat digits }

/-- Store the registers up to the last one named from the index on. -/
def storeRegisters (machine : Machine) (last : Register) : Machine :=
  { machine with
    memory :=
      machine.memory.writeBlock machine.index.toNat (machine.registers.toList.take (last + 1)) }

/-- Load the registers up to the last one named from the index on. -/
def loadRegisters (machine : Machine) (last : Register) : Machine :=
  { machine with
    registers := machine.registers.mapFinIdx fun number value _ =>
      if number ≤ last.val then machine.memory.read (machine.index.toNat + number) else value }

/-- Toggle the sprite at the index at the place two registers give; the flag tells whether it met
a pixel that was on. -/
def drawSprite (machine : Machine) (screen : Screen width height) (column row : Register)
    (rows : Nat) : Except Failure (Machine × Screen width height) := do
  let sprite := machine.memory.readBlock machine.index.toNat rows
  let (drawn, met) ←
    screen.draw (machine.register column).toNat (machine.register row).toNat sprite
  return (machine.setFlag (if met then 1 else 0), drawn)

/-- The outcome of an instruction that leaves the screen alone. -/
def withScreen (screen : Screen width height) :
    Except Fault.Cause Machine → Except Failure (Machine × Screen width height)
  | .ok machine => .ok (machine, screen)
  | .error cause => .error (.fault ⟨cause, none⟩)

/-- Carry out an instruction. -/
def perform (machine : Machine) (screen : Screen width height) (held : HeldKeys) :
    Instruction → Except Failure (Machine × Screen width height)
  | .clearScreen => .ok (machine, screen.clear)
  | .returnFromCall => withScreen screen machine.returnFromCall
  | .hostRoutine _ => .ok (machine, screen)
  | .jump address => .ok (machine.jump address, screen)
  | .call address => withScreen screen (machine.call address)
  | .skip condition =>
      .ok (if condition.holds machine held then machine.advance else machine, screen)
  | .setByte target value => .ok (machine.setRegister target value, screen)
  | .addByte target value =>
      .ok (machine.setRegister target (machine.register target + value), screen)
  | .arithmetic operation target source => .ok (machine.combine operation target source, screen)
  | .setIndex address => .ok ({ machine with index := UInt16.ofNat address }, screen)
  | .jumpOffset address =>
      .ok ({ machine with counter := UInt16.ofNat (address + (machine.register 0).toNat) }, screen)
  | .random target mask => .ok (machine.drawRandom target mask, screen)
  | .draw column row rows => machine.drawSprite screen column row rows
  | .readDelay target => .ok (machine.setRegister target machine.delay, screen)
  | .awaitKey target => .ok ({ machine with waiting := some target }, screen)
  | .setDelay source => .ok ({ machine with delay := machine.register source }, screen)
  | .setSound source => .ok ({ machine with sound := machine.register source }, screen)
  | .addIndex source =>
      .ok ({ machine with index := machine.index + (machine.register source).toUInt16 }, screen)
  | .pointAtGlyph source => .ok (machine.pointAtGlyph source, screen)
  | .storeDecimal source => .ok (machine.storeDecimal source, screen)
  | .storeRegisters last => .ok (machine.storeRegisters last, screen)
  | .loadRegisters last => .ok (machine.loadRegisters last, screen)

/-- Carry out the instruction that a word encodes, if it encodes one. -/
def execute (machine : Machine) (screen : Screen width height) (held : HeldKeys) (word : Word) :
    Except Failure (Machine × Screen width height) :=
  match Instruction.ofWord? word with
  | some instruction => machine.perform screen held instruction
  | none => .error (.fault ⟨.unknownOpcode word.raw, none⟩)

/-- Fetch a word and carry out its instruction. A fault carries the address of the word. -/
def step (machine : Machine) (screen : Screen width height) (held : HeldKeys) :
    Except Failure (Machine × Screen width height) :=
  let (advanced, word) := machine.fetch
  match advanced.execute screen held word with
  | .error (.fault fault) => .error (.fault { fault with address := some machine.counter.toNat })
  | outcome => outcome

end Machine

/-- What is there once an instruction has been executed on a screen in place. -/
structure Executed (width height : Nat) where
  /-- The screen, whatever became of the instruction. -/
  screen : Screen width height
  /-- The machine afterwards, or why the instruction failed. -/
  result : Except Failure Machine

namespace Machine

/-- Toggle the sprite at the index in place. -/
def drawInPlace (machine : Machine) (screen : Screen width height) (column row : Register)
    (rows : Nat) : Executed width height :=
  let sprite := machine.memory.readBlock machine.index.toNat rows
  let (drawn, met) := screen.toggleInPlace
    (Screen.spritePixels (machine.register column).toNat (machine.register row).toNat sprite)
  ⟨drawn, met.map fun met => machine.setFlag (if met then 1 else 0)⟩

/-- Carry out an instruction in place. Two instructions use the screen. -/
def performInPlace (machine : Machine) (screen : Screen width height) (held : HeldKeys) :
    Instruction → Executed width height
  | .clearScreen => ⟨screen.clear, .ok machine⟩
  | .draw column row rows => machine.drawInPlace screen column row rows
  | instruction => ⟨screen, (machine.perform screen held instruction).map Prod.fst⟩

/-- Carry out in place the instruction that a word encodes, if it encodes one. -/
def executeInPlace (machine : Machine) (screen : Screen width height) (held : HeldKeys)
    (word : Word) : Executed width height :=
  match Instruction.ofWord? word with
  | some instruction => machine.performInPlace screen held instruction
  | none => ⟨screen, .error (.fault ⟨.unknownOpcode word.raw, none⟩)⟩

/-- Fetch a word and carry out its instruction in place. A fault carries the address of the word. -/
def stepInPlace (machine : Machine) (screen : Screen width height) (held : HeldKeys) :
    Executed width height :=
  let (advanced, word) := machine.fetch
  let executed := advanced.executeInPlace screen held word
  match executed.result with
  | .error (.fault fault) =>
      { executed with
        result := .error (.fault { fault with address := some machine.counter.toNat }) }
  | _ => executed

end Machine
end ChipEight
