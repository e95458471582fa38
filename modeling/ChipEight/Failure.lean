import ChipEight.Text
import ChipEight.Value

/-!
# Faults and other failures

A fault stops the machine: the word is no instruction, or the call stack is full or empty.  Other
failures refuse an operation and leave the machine able to go on; one of them is that the file that
a path names cannot be read.  Each one is a cause with its particulars; the wording is a function of
it.
-/

namespace ChipEight

/-- Why a file cannot be read. -/
inductive Folder.Problem
  /-- Nothing bears the name. -/
  | missing
  /-- Something that should hold files is one itself. -/
  | notFolder
  /-- What bears the name is no file but holds files. -/
  | isFolder
  /-- A name is too long. -/
  | nameTooLong
  /-- A name holds the character with code zero, which no name may hold. -/
  | zeroInName
  deriving DecidableEq, Repr

namespace Folder.Problem

/-- The number of a problem that the system knows. -/
def code? : Problem → Option Nat
  | missing => some 2
  | notFolder => some 20
  | isFolder => some 21
  | nameTooLong => some 36
  | zeroInName => none

/-- The wording of a problem. -/
def reason : Problem → String
  | missing => "No such file or directory"
  | notFolder => "Not a directory"
  | isFolder => "Is a directory"
  | nameTooLong => "File name too long"
  | zeroInName => "embedded null byte"

/-- The wording of a problem with a path. -/
def message (problem : Problem) (path : String) : String :=
  match problem.code? with
  | some code => s!"[Errno {code}] " ++ problem.reason ++ ": " ++ Quoted.quote path
  | none => problem.reason

end Folder.Problem

/-- Why the machine cannot go on. -/
inductive Fault.Cause
  /-- The word encodes no instruction. -/
  | unknownOpcode (opcode : Int)
  /-- A call found the stack full. -/
  | stackOverflow (depth : Int)
  /-- A return found the stack empty. -/
  | stackUnderflow
  /-- Any other reason, in words. -/
  | other (reason : String)
  deriving DecidableEq, Repr

/-- A fatal error of the machine. -/
structure Fault where
  /-- Why the machine cannot go on. -/
  cause : Fault.Cause
  /-- Where the word that failed was fetched, once that is known. -/
  address : Option Int
  deriving DecidableEq, Repr

namespace Fault

/-- The wording of a cause. -/
def Cause.message : Cause → String
  | unknownOpcode opcode => "Unknown opcode 0x" ++ Hex.ofInt 4 opcode
  | stackOverflow depth => s!"Stack overflow (depth {depth})"
  | stackUnderflow => "Stack underflow (return with empty stack)"
  | other reason => reason

/-- The wording of the cause, followed by the address if there is one. -/
def message (fault : Fault) : String :=
  match fault.address with
  | none => fault.cause.message
  | some address => fault.cause.message ++ " at PC=0x" ++ Hex.ofInt 3 address

end Fault

/-- What a setting was to say and did not. -/
inductive Failure.Need
  /-- How grave an entry must be. -/
  | level
  /-- Where the random bytes start. -/
  | seed
  /-- How many. -/
  | number
  /-- Which palette. -/
  | scheme
  deriving DecidableEq, Repr

/-- Why an operation was refused. -/
inductive Failure
  /-- The machine stopped. -/
  | fault (fault : Fault)
  /-- A program does not fit into memory. -/
  | programTooLarge (size capacity : Int)
  /-- The machine had stopped before. -/
  | halted (reason : String)
  /-- Any other error of the machine, in words. -/
  | other (reason : String)
  /-- A call stack cannot have fewer than no slots. -/
  | negativeCapacity (capacity : Int)
  /-- A number is no key code. -/
  | invalidKey (key : Int)
  /-- A screen without columns or rows has no place for a pixel. -/
  | emptyScreen
  /-- A screen cannot have fewer than no columns or rows. -/
  | negativeDimension
  /-- A number of columns or rows has more than sixty-four bits. -/
  | dimensionTooLarge
  /-- A grid has more places than can be numbered. -/
  | gridTooLarge
  /-- A sound has more samples than can be numbered. -/
  | soundTooLong
  /-- A picture cannot be smaller than the screen. -/
  | scaleTooSmall (scale : Int)
  /-- There is no palette of this name among those available. -/
  | unknownScheme (name : String) (available : List String)
  /-- The file that a path names cannot be read. -/
  | file (problem : Folder.Problem) (path : String)
  /-- A number has more than sixty-four bits. -/
  | numberTooLarge
  /-- A number of repetitions has more than sixty-four bits. -/
  | countTooLarge
  /-- A setting says nothing. -/
  | unset (need : Failure.Need)
  /-- A tone has nothing to play it. -/
  | toneWithoutOutput
  deriving DecidableEq, Repr

namespace Failure

/-- What is missing when a setting says nothing. -/
def Need.name : Need → String
  | level => "level"
  | seed => "seed"
  | number => "number"
  | scheme => "color scheme"

/-- What a setting says, if it says anything. -/
def Need.require {Setting : Type} (need : Need) : Option Setting → Except Failure Setting
  | some setting => .ok setting
  | none => .error (.unset need)

/-- The refusal of a machine that a fault has stopped. -/
def haltedAfter (fault : Fault) : Failure :=
  .halted ("Interpreter halted after fault: " ++ fault.message)

/-- The wording of a failure. -/
def message : Failure → String
  | fault stop => stop.message
  | programTooLarge size capacity =>
      s!"Program is {size} bytes, only {capacity} bytes available"
  | halted reason => reason
  | other reason => reason
  | negativeCapacity capacity => s!"capacity must not be negative, got {capacity}"
  | invalidKey key => s!"Key code must be in 0..15, got {key}"
  | emptyScreen => "integer modulo by zero"
  | negativeDimension => "negative dimensions are not allowed"
  | dimensionTooLarge => "Maximum allowed dimension exceeded"
  | gridTooLarge => "grid is too large"
  | soundTooLong => "Maximum allowed size exceeded"
  | scaleTooSmall scale => s!"scale must be >= 1, got {scale}"
  | unknownScheme name available =>
      "Unknown color scheme '" ++ name ++ "'. Available: [" ++ Quoted.quoteAll available ++ "]"
  | file problem path => problem.message path
  | numberTooLarge => "number out of range"
  | countTooLarge => "count out of range"
  | unset need => "no " ++ need.name ++ " given"
  | toneWithoutOutput => ""

end Failure

variable {Problem First Second : Type}

/-- Two operations in a row succeed if the second one does after the first one has. -/
theorem bind_eq_ok_iff {first : Except Problem First} {next : First → Except Problem Second}
    {result : Second} :
    first >>= next = .ok result ↔ ∃ value, first = .ok value ∧ next value = .ok result := by
  cases first <;> simp [bind, Except.bind]

theorem pure_eq_ok_iff {value result : First} :
    (pure value : Except Problem First) = .ok result ↔ value = result := by
  simp [pure, Except.pure]

end ChipEight
