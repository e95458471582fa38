import ChipEight.Buzzer
import ChipEight.Execution
import ChipEight.Journal

/-!
# The console

A machine with its screen, keypad and buzzer.  A fault stops it until it is reset.  While it waits
for a key it neither executes nor counts time.  Each operation gives the console that it leaves
behind, what there is to tell, and why it was refused if it was.
-/

namespace ChipEight

/-- A machine with its devices. The one listener that the keypad may have resumes the machine. -/
structure Console (width height : Nat) where
  /-- The machine. -/
  machine : Machine
  /-- The screen it draws on. -/
  screen : Screen width height
  /-- The keys it reads. -/
  keypad : Keypad Unit
  /-- The tone it sounds. -/
  buzzer : Buzzer
  /-- Why the machine stopped, if it did. -/
  fault : Option Fault
  /-- The program that a reset loads. -/
  program : Program

/-- What an operation leaves behind. -/
structure Outcome (width height : Nat) where
  /-- The console afterwards. -/
  console : Console width height
  /-- What there is to tell, in order. -/
  notices : List Notice := []
  /-- Why the operation was refused, if it was. -/
  failure : Option Failure := none

variable {width height : Nat}

/-- Go on with another operation unless the first one was refused. -/
def Outcome.andThen (first : Outcome width height)
    (next : Console width height → Outcome width height) : Outcome width height :=
  match first.failure with
  | some _ => first
  | none =>
      let second := next first.console
      { second with notices := first.notices ++ second.notices }

namespace Console

/-- A console at power-on. -/
def initial (config : Config) (width height : Nat) : Console width height where
  machine := .initial config
  screen := .blank width height
  keypad := .released
  buzzer := .silent config.toneFrequency
  fault := none
  program := .empty

/-- A console is made, and its settings are told. -/
def create (config : Config) (width height : Nat) : Outcome width height :=
  { console := initial config width height, notices := [.configured config.items] }

/-- Whether a fault has stopped the machine. -/
def halted (console : Console width height) : Bool :=
  console.fault.isSome

/-- Whether the machine waits for a key. -/
def paused (console : Console width height) : Bool :=
  console.machine.paused

/-- Load a program and remember it. -/
def load (console : Console width height) (bytes : Array UInt8) (source : String) :
    Outcome width height :=
  match Program.ofBytes bytes with
  | .ok program =>
      { console := { console with machine := console.machine.load program, program }
        notices := [.loaded bytes.size source] }
  | .error failure => { console, failure := some failure }

/-- Load a program from a file, if it can be read. -/
def loadFile (console : Console width height) (path : String)
    (contents : Except Folder.Problem (Array UInt8)) : Outcome width height :=
  match contents with
  | .ok bytes => console.load bytes path
  | .error problem => { console, failure := some (.file problem path) }

/-- Start afresh with the remembered program; only the held keys stay. -/
def reset (console : Console width height) : Console width height :=
  { console with
    machine := (Machine.initial console.machine.config).load console.program
    screen := console.screen.clear
    keypad := console.keypad.cancel
    buzzer := console.buzzer.stop
    fault := none }

/-- Execute one instruction of a machine that neither stopped nor waits. -/
def executeNext (console : Console width height) : Outcome width height :=
  let machine := console.machine
  let trace := Notice.executing machine.counter.toNat machine.word
  let executed := machine.stepInPlace console.screen console.keypad.held
  let drawn := { console with screen := executed.screen }
  match executed.result with
  | .ok after =>
      match after.waiting with
      | none => { console := { drawn with machine := after }, notices := [trace] }
      | some register =>
          { console := { drawn with machine := after, keypad := console.keypad.listen () }
            notices := [trace, .awaitingKey register] }
  | .error (.fault fault) =>
      { console := { drawn with fault := some fault }
        notices := [trace, .stopped (.fault fault), .registers machine]
        failure := some (.fault fault) }
  | .error failure => { console := drawn, notices := [trace], failure := some failure }

/-- Execute one instruction. A machine that waits for a key does nothing, and one that a fault has
stopped refuses. -/
def step (console : Console width height) : Outcome width height :=
  match console.fault with
  | some fault => { console, failure := some (.haltedAfter fault) }
  | none => if console.paused then { console } else console.executeNext

/-- Execute a number of instructions, or fewer if one makes the machine wait. -/
def steps (count : Nat) (console : Console width height) : Outcome width height :=
  match count with
  | 0 => { console }
  | count + 1 => if console.paused then { console } else console.step.andThen (steps count)

/-- Count the timers down unless the machine waits. -/
def tick (console : Console width height) : Console width height :=
  if console.paused then console else { console with machine := console.machine.tick }

/-- Let the tone sound exactly while the sound timer runs. -/
def updateTone (console : Console width height) : Console width height :=
  { console with buzzer := console.buzzer.set console.machine.shouldSound }

/-- One frame: instructions, then timers, then the tone. -/
def runFrame (console : Console width height) : Outcome width height :=
  (console.steps console.machine.config.instructionsPerFrame.toNat).andThen fun after =>
    { console := after.tick.updateTone }

/-- End a wait with a key. -/
def deliver (console : Console width height) (key : Key) : Outcome width height :=
  if console.paused then
    { console := { console with machine := console.machine.resume key }, notices := [.resumed key] }
  else
    { console }

/-- Hold a key down, which ends a wait. -/
def press (console : Console width height) (key : Key) : Outcome width height :=
  let (keypad, due) := console.keypad.press key
  match due with
  | none => { console := { console with keypad } }
  | some () => { console with keypad }.deliver key

/-- Let go of a key. -/
def release (console : Console width height) (key : Key) : Console width height :=
  { console with keypad := console.keypad.release key }

/-- Send the listener of the keypad away. -/
def cancelWait (console : Console width height) : Console width height :=
  { console with keypad := console.keypad.cancel }

end Console

/-! ## Operations on a console

Everything that can be done to a console, as data, so that a history of it is a list.  The last
group acts on the machine alone: it heeds neither a wait nor a fault and tells nothing.
-/

/-- Something that is done to a console. -/
inductive Operation
  /-- Execute one instruction. -/
  | step
  /-- Run one frame. -/
  | frame
  /-- Count the timers down. -/
  | tick
  /-- Start or stop the tone. -/
  | tone
  /-- Load a program. -/
  | load (bytes : Array UInt8) (source : String)
  /-- Load a program from a file. -/
  | loadFile (path : String) (contents : Except Folder.Problem (Array UInt8))
  /-- Start afresh. -/
  | reset
  /-- Hold a key down. -/
  | press (code : Int)
  /-- Let go of a key. -/
  | release (code : Int)
  /-- Send the listener of the keypad away. -/
  | cancelWait
  /-- End a wait with a key. -/
  | deliver (code : Int)
  /-- Execute a word that was not fetched. -/
  | execute (word : Word)
  /-- Fetch and execute one word. -/
  | machineStep
  /-- Count the timers down, waiting or not. -/
  | machineTick
  /-- Load a program without remembering it. -/
  | machineLoad (bytes : Array UInt8)
  /-- Load a program from a file without remembering it. -/
  | machineLoadFile (path : String) (contents : Except Folder.Problem (Array UInt8))
  /-- End a wait and leave the listener in place. -/
  | machineResume (code : Int)

namespace Console

/-- An outcome that consists of a console alone. -/
def settled (console : Console width height) : Outcome width height :=
  { console }

/-- An operation that was refused and changed nothing. -/
def refused (console : Console width height) (failure : Failure) : Outcome width height :=
  { console, failure := some failure }

/-- Act with the key that a code stands for. -/
def withKey (console : Console width height) (code : Int) (act : Key → Outcome width height) :
    Outcome width height :=
  match Key.ofInt code with
  | .ok key => act key
  | .error failure => console.refused failure

/-- Take over the screen that an execution left behind, and the machine if it succeeded. -/
def adopt (console : Console width height) (executed : Executed width height) :
    Outcome width height :=
  let drawn := { console with screen := executed.screen }
  match executed.result with
  | .ok machine => settled { drawn with machine }
  | .error failure => drawn.refused failure

/-- Load a program into the machine without remembering it. -/
def loadMachine (console : Console width height) (bytes : Array UInt8) : Outcome width height :=
  match Program.ofBytes bytes with
  | .ok program => settled { console with machine := console.machine.load program }
  | .error failure => console.refused failure

/-- What an operation leaves behind. -/
def perform (console : Console width height) : Operation → Outcome width height
  | .step => console.step
  | .frame => console.runFrame
  | .tick => settled console.tick
  | .tone => settled console.updateTone
  | .load bytes source => console.load bytes source
  | .loadFile path contents => console.loadFile path contents
  | .reset => settled console.reset
  | .press code => console.withKey code console.press
  | .release code => console.withKey code fun key => settled (console.release key)
  | .cancelWait => settled console.cancelWait
  | .deliver code => console.withKey code console.deliver
  | .execute word =>
      console.adopt (console.machine.executeInPlace console.screen console.keypad.held word)
  | .machineStep => console.adopt (console.machine.stepInPlace console.screen console.keypad.held)
  | .machineTick => settled { console with machine := console.machine.tick }
  | .machineLoad bytes => console.loadMachine bytes
  | .machineLoadFile path contents =>
      match contents with
      | .ok bytes => console.loadMachine bytes
      | .error problem => console.refused (.file problem path)
  | .machineResume code =>
      console.withKey code fun key => settled { console with machine := console.machine.resume key }

/-- The console after a history of operations, refused ones included. -/
def run (console : Console width height) : List Operation → Console width height
  | [] => console
  | operation :: rest => (console.perform operation).console.run rest

end Console
end ChipEight
