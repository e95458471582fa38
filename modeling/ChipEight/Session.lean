import ChipEight.Console
import ChipEight.Journal

/-!
# Sessions

A console with its journal.  Whatever an operation has to tell goes into the journal the moment it
happens, in between what the operation does.  Whether an instruction is announced at all is asked of
the journal before the instruction is executed.
-/

namespace ChipEight

/-- A console and its journal. -/
structure Session (width height : Nat) where
  /-- The console. -/
  console : Console width height
  /-- Where its notices go. -/
  journal : Journal

/-- What an operation leaves behind, with the text that the journal wrote. -/
structure Report (width height : Nat) where
  /-- The session afterwards. -/
  session : Session width height
  /-- The text of the journal. -/
  text : String
  /-- Why the operation was refused, if it was. -/
  failure : Option Failure

variable {width height : Nat}

/-- Go on with something else unless the first part was refused. -/
def Report.andThen (first : Report width height)
    (next : Session width height → Report width height) : Report width height :=
  match first.failure with
  | some _ => first
  | none =>
      let second := next first.session
      { second with text := first.text ++ second.text }

namespace Session

/-- Nothing is written. -/
def settle (session : Session width height) : Report width height :=
  { session, text := "", failure := none }

/-- Something is refused, and nothing is written. -/
def refuse (session : Session width height) (failure : Failure) : Report width height :=
  { session, text := "", failure := some failure }

/-- Tell the journal something. -/
def tell (session : Session width height) (notice : Notice) : Report width height :=
  let (journal, text) := session.journal.enter notice
  { session := { session with journal }, text, failure := none }

/-- A session begins with a console whose settings are told. -/
def start (console : Console width height) (settings : List (String × Value)) (journal : Journal) :
    Report width height :=
  Session.tell { console, journal } (.configured settings)

/-- A session begins with a new console. -/
def create (config : Config) (width height : Nat) (journal : Journal) : Report width height :=
  start (.initial config width height) config.items journal

/-- Fetch the next instruction and announce it, if the journal writes such announcements. -/
def announce (session : Session width height) : Report width height :=
  if session.journal.accepts .debug then
    let machine := session.console.machine
    session.tell (.executing machine.counter.toNat machine.word)
  else
    session.settle

/-- Execute one instruction of a machine that neither stopped nor waits, after announcing it. A
fault is told before the registers are. -/
def executeNext (session : Session width height) : Report width height :=
  session.announce.andThen fun announced =>
    let console := announced.console
    let executed := console.machine.stepInPlace console.screen console.keypad.held
    let drawn := { console with screen := executed.screen }
    match executed.result with
    | .ok machine =>
        let moved := { announced with console := { drawn with machine } }
        match machine.waiting with
        | none => moved.settle
        | some register =>
            (moved.tell (.awaitingKey register)).andThen fun told =>
              let listening := { told.console with keypad := told.console.keypad.listen () }
              settle { told with console := listening }
    | .error (.fault fault) =>
        let stopped := { announced with console := { drawn with fault := some fault } }
        (stopped.tell (.stopped (.fault fault))).andThen fun told =>
          (told.tell (.registers told.console.machine)).andThen fun shown =>
            shown.refuse (.fault fault)
    | .error failure => refuse { announced with console := drawn } failure

/-- Execute one instruction. A machine that waits for a key does nothing, and one that a fault has
stopped refuses. -/
def step (session : Session width height) : Report width height :=
  match session.console.fault with
  | some fault => session.refuse (.haltedAfter fault)
  | none => if session.console.paused then session.settle else session.executeNext

/-- Execute a number of instructions, or fewer if one makes the machine wait. -/
def steps (count : Nat) (session : Session width height) : Report width height :=
  match count with
  | 0 => session.settle
  | count + 1 =>
      if session.console.paused then session.settle else session.step.andThen (steps count)

/-- One frame: instructions, then timers, then the tone. -/
def runFrame (session : Session width height) : Report width height :=
  let count := session.console.machine.config.instructionsPerFrame.toNat
  (session.steps count).andThen fun stepped =>
    settle { stepped with console := stepped.console.tick.updateTone }

/-- Load a program and remember it. -/
def load (session : Session width height) (bytes : Array UInt8) (source : String) :
    Report width height :=
  match Program.ofBytes bytes with
  | .ok program =>
      let console := session.console
      let loaded := { console with machine := console.machine.load program, program }
      Session.tell { session with console := loaded } (.loaded bytes.size source)
  | .error failure => session.refuse failure

/-- Load a program from a file, if it can be read. -/
def loadFile (session : Session width height) (path : String)
    (contents : Except Folder.Problem (Array UInt8)) : Report width height :=
  match contents with
  | .ok bytes => session.load bytes path
  | .error problem => session.refuse (.file problem path)

/-- End a wait with a key. -/
def deliver (session : Session width height) (key : Key) : Report width height :=
  let console := session.console
  if console.paused then
    let resumed := { console with machine := console.machine.resume key }
    Session.tell { session with console := resumed } (.resumed key)
  else
    session.settle

/-- Hold a key down, which ends a wait. -/
def press (session : Session width height) (key : Key) : Report width height :=
  let console := session.console
  let (keypad, due) := console.keypad.press key
  let pressed := { session with console := { console with keypad } }
  match due with
  | none => pressed.settle
  | some () => pressed.deliver key

/-- Act with the key that a code stands for. -/
def withKey (session : Session width height) (code : Int) (act : Key → Report width height) :
    Report width height :=
  match Key.ofInt code with
  | .ok key => act key
  | .error failure => session.refuse failure

/-- Do something that the journal does not hear of. -/
def unheard (session : Session width height) (outcome : Outcome width height) :
    Report width height :=
  { session := { session with console := outcome.console }, text := "", failure := outcome.failure }

/-- Do something to the console. -/
def perform (session : Session width height) : Operation → Report width height
  | .step => session.step
  | .frame => session.runFrame
  | .load bytes source => session.load bytes source
  | .loadFile path contents => session.loadFile path contents
  | .press code => session.withKey code session.press
  | .deliver code => session.withKey code session.deliver
  | operation => session.unheard (session.console.perform operation)

/-- Tell the journal what time it is. -/
def setClock (session : Session width height) (clock : Int) : Session width height :=
  { session with journal := { session.journal with clock } }

end Session
end ChipEight
