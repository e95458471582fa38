import ChipEight.CommandLine

/-!
# The program

Reads the file that the arguments name, runs the request and prints what it leaves behind.
-/

namespace ChipEight
namespace CommandLine

/-- Why the system does not give a file. -/
def problemOf : IO.Error → Folder.Problem
  | .inappropriateType _ _ details =>
      if details = Folder.Problem.isFolder.reason then .isFolder else .notFolder
  | .invalidArgument _ _ _ => .nameTooLong
  | _ => .missing

/-- The contents of a file, if it can be read. -/
def readFile (path : String) : IO (Except Folder.Problem (Array UInt8)) := do
  if path.toList.contains (Char.ofNat 0) then return .error .zeroInName
  try
    return .ok (← IO.FS.readBinFile path).data
  catch error =>
    return .error (problemOf error)

/-- The file that the arguments name, under its path. -/
def namedFile (arguments : List String) :
    IO (String → Except Folder.Problem (Array UInt8)) := do
  match Request.ofArguments arguments with
  | .error _ => return fun _ => .error .missing
  | .ok request =>
      let contents ← readFile request.program
      return fun path => if path = request.program then contents else .error .missing

/-- Print how a run ended and give its exit status. -/
def conclude : Ending → IO UInt32
  | .status code => return UInt32.ofNat code
  | .usage .helpRequested => do
      IO.println "usage: chip8 [options] rom"
      return 0
  | .usage error => do
      IO.eprintln error.line
      return 2
  | .failure failure => do
      IO.eprintln failure.message
      return 1

end CommandLine
end ChipEight

/-- Run the program on its command-line arguments. -/
def main (arguments : List String) : IO UInt32 := do
  let files ← ChipEight.CommandLine.namedFile arguments
  let transcript := ChipEight.CommandLine.run files [] arguments
  IO.print transcript.text
  ChipEight.CommandLine.conclude transcript.ending
