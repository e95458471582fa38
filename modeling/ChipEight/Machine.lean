import ChipEight.CallStack
import ChipEight.Failure
import ChipEight.Keypad
import ChipEight.Memory
import ChipEight.Precision
import ChipEight.Value
import ChipEight.Word

/-!
# The machine

Memory, registers, call stack, timers and random key, without any device, and the settings that are
fixed when a machine is made.  Values written from outside are integers of any size and are cut to
the width of their place.
-/

namespace ChipEight

/-! ## Random bytes

A counter-based generator: the Threefry block function with two words and twenty rounds.  A key is
split into the key that replaces it and the key of one draw, so each draw depends on the seed and
on how many draws came before, and on nothing else.
-/

namespace Threefry

/-- Two words of thirty-two bits: a key, or the counter and output of a block. -/
structure Pair where
  /-- The first word. -/
  first : UInt32
  /-- The second word. -/
  second : UInt32
  deriving DecidableEq, Repr

/-- Rotate a word to the left by less than its width. -/
def rotateLeft (word amount : UInt32) : UInt32 :=
  (word <<< amount) ||| (word >>> (32 - amount))

/-- One round: add, rotate, mix. -/
def round (state : Pair) (amount : UInt32) : Pair :=
  let first := state.first + state.second
  ⟨first, rotateLeft state.second amount ^^^ first⟩

/-- Rotation amounts of the groups at even places. -/
def evenRotations : List UInt32 := [13, 15, 26, 6]

/-- Rotation amounts of the groups at odd places. -/
def oddRotations : List UInt32 := [17, 29, 16, 24]

/-- Four rounds, then the addition of two key words and the place of the next group. -/
def group (rotations : List UInt32) (left right count : UInt32) (state : Pair) : Pair :=
  let mixed := rotations.foldl round state
  ⟨mixed.first + left, mixed.second + right + count⟩

/-- The block function: twenty rounds of a counter under a key. -/
def block (key counter : Pair) : Pair :=
  let parity := key.first ^^^ key.second ^^^ 0x1BD11BDA
  let start : Pair := ⟨counter.first + key.first, counter.second + key.second⟩
  group evenRotations key.second parity 1 start
    |> group oddRotations parity key.first 2
    |> group evenRotations key.first key.second 3
    |> group oddRotations key.second parity 4
    |> group evenRotations parity key.first 5

/-- The key that a seed starts with: its thirty-two low bits. -/
def ofSeed (seed : Int64) : Pair :=
  ⟨0, UInt32.ofInt seed.toInt⟩

/-- The key after one draw. -/
def next (key : Pair) : Pair :=
  block key ⟨0, 0⟩

/-- The byte that a key draws. -/
def byte (key : Pair) : UInt8 :=
  let drawn := block (block (block key ⟨0, 1⟩) ⟨0, 1⟩) ⟨0, 0⟩
  (drawn.first ^^^ drawn.second).toUInt8

/-- The known answer of the block function for the digits of pi. -/
example : block ⟨0x13198A2E, 0x03707344⟩ ⟨0x243F6A88, 0x85A308D3⟩ = ⟨0xC4923A9C, 0x483DF7A0⟩ := by
  decide

/-- The first two bytes that a seed gives. -/
example : (byte (ofSeed 1), byte (next (ofSeed 1))) = (244, 250) := by
  decide +kernel

end Threefry

/-! ## State and settings -/

/-- The settings of one machine. -/
structure Config where
  /-- Where the random bytes start. -/
  seed : Int64 := 0
  /-- Instructions between two ticks of the timers; none if not positive. -/
  instructionsPerFrame : Int := 10
  /-- Calls that may be open at the same time. -/
  stackSize : Nat := 16
  /-- Whether a left shift stores its flag as zero or one. -/
  normalizeShiftFlag : Bool := false
  /-- Pitch of the buzzer in hertz. -/
  toneFrequency : Int := 440
  deriving DecidableEq, Repr

namespace Config

/-- A seed has sixty-four bits. -/
def seedOfInt (seed : Int) : Except Failure Int64 :=
  if Precision.bounded.admits seed then .ok (Int64.ofInt seed) else .error .numberTooLarge

/-- The settings by name. -/
def items (config : Config) : List (String × Value) :=
  [("seed", .integer config.seed.toInt),
    ("instructions_per_frame", .integer config.instructionsPerFrame),
    ("stack_size", .integer config.stackSize),
    ("normalize_shift_flag", .flag config.normalizeShiftFlag),
    ("tone_frequency", .integer config.toneFrequency)]

end Config

/-- The state of a machine. -/
structure Machine where
  /-- The bytes of the machine. -/
  memory : Memory
  /-- The sixteen general registers, the last of which also takes flags. -/
  registers : Vector UInt8 16
  /-- The index register, which points into memory. -/
  index : UInt16
  /-- Where the next word is fetched. -/
  counter : UInt16
  /-- Return addresses of open calls. -/
  stack : CallStack
  /-- The delay timer. -/
  delay : UInt8
  /-- The sound timer. -/
  sound : UInt8
  /-- The register that waits for a key, if the machine is paused. -/
  waiting : Option Register
  /-- The key of the next random byte. -/
  randomKey : Threefry.Pair
  /-- The settings, which never change. -/
  config : Config

namespace Machine

/-- The register that takes flags. -/
def flagRegister : Register := 15

/-- A machine at power-on. -/
def initial (config : Config) : Machine where
  memory := .initial
  registers := Vector.replicate 16 0
  index := 0
  counter := UInt16.ofNat Memory.programStart
  stack := .empty config.stackSize
  delay := 0
  sound := 0
  waiting := none
  randomKey := Threefry.ofSeed config.seed
  config := config

/-- Whether the machine waits for a key. -/
def paused (machine : Machine) : Bool :=
  machine.waiting.isSome

/-- Whether the sound timer asks for the tone. -/
def shouldSound (machine : Machine) : Bool :=
  machine.sound ≠ 0

/-- The byte in a register. -/
def register (machine : Machine) (number : Register) : UInt8 :=
  machine.registers[number]

/-- Replace the byte in a register. -/
def setRegister (machine : Machine) (number : Register) (value : UInt8) : Machine :=
  { machine with registers := machine.registers.set number value }

/-- Replace the byte in the flag register. -/
def setFlag (machine : Machine) (value : UInt8) : Machine :=
  machine.setRegister flagRegister value

/-- The register with a number, if there is one. A negative number counts from the end, and only
the thirty-two low bits of the place count. -/
def registerAt (number : Int) : Except Failure (Option Register) :=
  let place := if number < 0 then number + 16 else number
  let low := place % 4294967296
  if !Precision.bounded.keeps place then .error .numberTooLarge
  else if bound : low < 16 then
    have nonneg : 0 ≤ low := Int.emod_nonneg _ (by decide)
    .ok (some ⟨low.toNat, by omega⟩)
  else
    .ok none

/-- Store the low byte of a value in a register; a number without a register has no effect. -/
def storeRegister (machine : Machine) (number value : Int) : Except Failure Machine := do
  match ← registerAt number with
  | some number => return machine.setRegister number (UInt8.ofInt value)
  | none => return machine

/-- Point the counter at the sixteen low bits of an address. -/
def storeCounter (machine : Machine) (address : Int) : Machine :=
  { machine with counter := UInt16.ofInt address }

/-- Point the index at the sixteen low bits of an address. -/
def storeIndex (machine : Machine) (address : Int) : Machine :=
  { machine with index := UInt16.ofInt address }

/-- The word at the counter. -/
def word (machine : Machine) : Word :=
  let place := machine.counter.toNat
  Word.ofBytes (machine.memory.read place) (machine.memory.read (place + 1))

/-- Move the counter to the next word. -/
def advance (machine : Machine) : Machine :=
  { machine with counter := machine.counter + 2 }

/-- The word at the counter, and the machine with its counter behind it. -/
def fetch (machine : Machine) : Machine × Word :=
  (machine.advance, machine.word)

/-- A timer goes down by one, but not below zero. -/
def countDown (timer : UInt8) : UInt8 :=
  if timer = 0 then 0 else timer - 1

/-- Both timers go down. -/
def tick (machine : Machine) : Machine :=
  { machine with delay := countDown machine.delay, sound := countDown machine.sound }

/-- Copy a program to its place in memory. -/
def load (machine : Machine) (program : Program) : Machine :=
  { machine with memory := machine.memory.load program }

/-- End a wait by storing the key; without one nothing happens. -/
def resume (machine : Machine) (key : Key) : Machine :=
  match machine.waiting with
  | some number => { machine.setRegister number (UInt8.ofNat key) with waiting := none }
  | none => machine

theorem stack_resume (machine : Machine) (key : Key) :
    (machine.resume key).stack = machine.stack := by
  simp only [resume]
  split <;> rfl

theorem toNat_counter_advance (machine : Machine) :
    machine.advance.counter.toNat = (machine.counter.toNat + 2) % 65536 :=
  UInt16.toNat_add machine.counter 2

@[simp]
theorem register_setRegister (machine : Machine) (written number : Register) (value : UInt8) :
    (machine.setRegister written value).register number =
      if written = number then value else machine.register number := by
  simp [setRegister, register, Vector.getElem_set, Fin.ext_iff]

end Machine

end ChipEight
