import ChipEight.CommandLine.Request
import ChipEight.Screen
import ChipEight.Session
import ChipEight.Window

/-!
# The command line

A run as the arguments ask for it: the program is loaded and shown in a window, or run for a number
of frames without one, after which the screen is printed.  Files are given as a function from
names to contents, and the events of the window as a list.
-/

namespace ChipEight
namespace CommandLine

/-- How a run ended. -/
inductive Ending
  /-- With an exit status. -/
  | status (code : Nat)
  /-- Before it began, because of the arguments. -/
  | usage (error : UsageError)
  /-- Because something was refused. -/
  | failure (failure : Failure)
  deriving DecidableEq, Repr

/-- What a run leaves behind. -/
structure Transcript where
  /-- How the run ended. -/
  ending : Ending
  /-- Everything that was printed. -/
  text : String
  /-- How many frames were shown. -/
  frames : Nat
  deriving DecidableEq, Repr

/-- The journal that a request asks for: plain lines, all of them stamped with the same time. -/
def Request.journal (request : Request) : Except Failure Journal := do
  let threshold ← Failure.Need.level.require request.level
  return {
    name := "CHIP-8"
    threshold
    coloured := false
    stamped := true
    opened := 0
    clock := 0
    traced := 0 }

/-- The settings of the machine that a request asks for. -/
def Request.config (request : Request) : Except Failure Config := do
  let seed ← Config.seedOfInt (← Failure.Need.seed.require request.seed)
  return {
    seed
    instructionsPerFrame := request.instructionsPerFrame.getD 0
    normalizeShiftFlag := request.normalizeShiftFlag }

/-- The settings that a new machine tells. An unset number of instructions is an empty list. -/
def Request.items (request : Request) (config : Config) : List (String × Value) :=
  match request.instructionsPerFrame with
  | some _ => config.items
  | none => config.items.map fun (name, value) =>
      (name, if name = "instructions_per_frame" then .list [] else value)

/-- Why no frame can run, if none can. -/
def Request.obstacle? (request : Request) : Option Failure :=
  match request.instructionsPerFrame with
  | some _ => none
  | none => some (.unset .number)

/-- Run a number of frames, or fewer if one is refused. -/
def runFrames {width height : Nat} (count : Nat) (session : Session width height) :
    Report width height :=
  match count with
  | 0 => session.settle
  | count + 1 => session.runFrame.andThen (runFrames count)

/-- What a run leaves behind that ended early. -/
def abort (failure : Failure) (text : String) : Transcript where
  ending := .failure failure
  text := text
  frames := 0

/-- The text of the screen as it is printed. -/
def screenText (session : Session 64 32) : String :=
  session.console.screen.plainText ++ "\n"

/-- Run a number of frames without a window and print the screen. -/
def runHeadless (session : Session 64 32) (frames : Int) : Transcript :=
  let report := runFrames frames.toNat session
  { ending := .status (if report.failure.isSome then 1 else 0)
    text := report.text ++ screenText report.session
    frames := 0 }

/-- How many frames are to run without a window, if they can. -/
def checkFrames (request : Request) (frames : Option Int) : Except Failure Int := do
  let count ← Failure.Need.number.require frames
  if Int64.maxValue.toInt < count then .error .countTooLarge
  else
    match request.obstacle? with
    | some failure => if 0 < count then .error failure else .ok count
    | none => .ok count

/-- Run without a window as a request asks for it. If that cannot be, the screen is printed all the
same. -/
def runScreen (session : Session 64 32) (request : Request) (frames : Option Int) : Transcript :=
  match checkFrames request frames with
  | .ok count => runHeadless session count
  | .error failure => abort failure (screenText session)

/-- Show the console in a window. -/
def runWindow (session : Session 64 32) (request : Request) (batches : List (List WindowEvent)) :
    Transcript :=
  match Failure.Need.number.require request.scale with
  | .error failure => abort failure ""
  | .ok scale =>
      let settings : WindowSettings :=
        { scale, scheme := request.scheme, channels := 1, obstacle := request.obstacle? }
      let showing := Window.run settings session.console batches
      let notices := (showing.frames.map WindowFrame.notices).flatten ++ showing.notices
      { ending := match showing.failure with
          | some failure => .failure failure
          | none => .status 0
        text := (session.journal.observeAll notices).2
        frames := showing.frames.length }

/-- A console is made, and its settings are told. -/
def start (request : Request) (config : Config) (journal : Journal) : Report 64 32 :=
  Session.start (.initial config 64 32) (request.items config) journal

/-- The end of a run whose program cannot be loaded. A name that no file can have is not the
program's fault. -/
def refuseProgram (request : Request) (journal : Journal) (failure : Failure) : Transcript :=
  match failure with
  | .file .zeroInName _ => abort failure ""
  | _ =>
      let complaint := "Cannot load " ++ request.program ++ ": " ++ failure.message
      { ending := .status 1
        text := journal.write [⟨.error, complaint⟩]
        frames := 0 }

/-- Run a loaded program. -/
def runLoaded (session : Session 64 32) (batches : List (List WindowEvent)) (request : Request) :
    Transcript :=
  match request.headless with
  | some frames => runScreen session request frames
  | none => runWindow session request batches

/-- The settings of the machine and the journal that a request asks for. -/
def Request.prepare (request : Request) : Except Failure (Config × Journal) := do
  let journal ← request.journal
  return (← request.config, journal)

/-- Make a console, load the program and run it. -/
def runRequest (files : String → Except Folder.Problem (Array UInt8))
    (batches : List (List WindowEvent)) (request : Request) : Transcript :=
  match request.prepare with
  | .error failure => abort failure ""
  | .ok (config, journal) =>
      let made := start request config journal
      let loaded := made.session.perform (.loadFile request.program (files request.program))
      let transcript := match loaded.failure with
        | some failure => refuseProgram request journal failure
        | none => runLoaded loaded.session batches request
      { transcript with text := made.text ++ loaded.text ++ transcript.text }

/-- The whole run that arguments ask for. -/
def run (files : String → Except Folder.Problem (Array UInt8)) (batches : List (List WindowEvent))
    (arguments : List String) : Transcript :=
  match Request.ofArguments arguments with
  | .error error => { ending := .usage error, text := "", frames := 0 }
  | .ok request => runRequest files batches request

end CommandLine
end ChipEight
