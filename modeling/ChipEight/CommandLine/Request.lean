import ChipEight.Image
import ChipEight.Journal.Level
import ChipEight.Text
import ChipEight.Value

/-!
# Requests

What the arguments ask for.  The first word names the program; an option that takes a value takes
the word behind it, and the last value given counts.  The separator given as a value leaves the
option unset.  What has no use is reported at the end.
-/

namespace ChipEight

/-! ## Arguments

Every argument has its kind before any of them is used: it is a word, the separator that ends the
options, an option, or something that looks like one.  An option may be cut short as long as only
one begins that way, and may carry its value behind an equals sign.
-/

namespace CommandLine

/-- The options of the program. -/
inductive Switch
  | help
  | scale
  | instructionsPerFrame
  | scheme
  | seed
  | level
  | normalizeShiftFlag
  | headless
  deriving DecidableEq, Repr

namespace Switch

/-- The spellings of the options, in the order in which they are listed. -/
def spellings : List (String × Switch) :=
  [("-h", help), ("--help", help), ("--scale", scale), ("--ipf", instructionsPerFrame),
    ("--color-scheme", scheme), ("--seed", seed), ("--log-level", level),
    ("--normalize-shift-flag", normalizeShiftFlag), ("--headless", headless)]

/-- All spellings of an option. -/
def label (switch : Switch) : String :=
  "/".intercalate ((spellings.filter fun spelling => spelling.2 = switch).map Prod.fst)

/-- Whether an option needs a value. -/
def takesValue : Switch → Bool
  | help | normalizeShiftFlag => false
  | _ => true

end Switch

/-- Why the arguments are refused. -/
inductive UsageError
  /-- An option is cut so short that several begin that way. -/
  | ambiguous (argument : String) (candidates : List String)
  /-- An option lacks its value. -/
  | valueExpected (switch : Switch)
  /-- An option has a value but takes none. -/
  | valueIgnored (switch : Switch) (value : String)
  /-- A value is not an integer. -/
  | invalidInteger (switch : Switch) (value : String)
  /-- A value is not one of those allowed. -/
  | invalidChoice (switch : Switch) (value : String) (choices : List String)
  /-- No program is named. -/
  | programMissing
  /-- Some arguments have no use. -/
  | unrecognized (arguments : List String)
  /-- The user asked for help and not for a run. -/
  | helpRequested
  deriving DecidableEq, Repr

namespace UsageError

/-- The wording of an error that concerns one option. -/
def concerning (switch : Switch) (complaint : String) : String :=
  "argument " ++ switch.label ++ ": " ++ complaint

/-- The wording of an error. -/
def message : UsageError → String
  | ambiguous argument candidates =>
      "ambiguous option: " ++ argument ++ " could match " ++ ", ".intercalate candidates
  | valueExpected switch => concerning switch "expected one argument"
  | valueIgnored switch value =>
      concerning switch ("ignored explicit argument " ++ Quoted.quote value)
  | invalidInteger switch value => concerning switch ("invalid int value: " ++ Quoted.quote value)
  | invalidChoice switch value choices =>
      concerning switch ("invalid choice: " ++ Quoted.quote value ++ " (choose from " ++
        Quoted.quoteAll choices ++ ")")
  | programMissing => "the following arguments are required: rom"
  | unrecognized arguments => "unrecognized arguments: " ++ " ".intercalate arguments
  | helpRequested => "help requested"

/-- The line that the program prints about an error. -/
def line (error : UsageError) : String :=
  "chip8: error: " ++ error.message

end UsageError

/-- An argument by its kind. -/
inductive Argument
  /-- The name of a program, or a value. -/
  | word (text : String)
  /-- The mark behind which everything is a word. -/
  | separator
  /-- An option, possibly with its value. -/
  | option (switch : Switch) (value : Option String)
  /-- Something that looks like an option. -/
  | unknown (text : String)
  deriving DecidableEq, Repr

namespace Argument

/-- The text before and behind the first equals sign. -/
def splitValue (text : List Char) : String × Option String :=
  let name := text.takeWhile (· ≠ '=')
  match text.dropWhile (· ≠ '=') with
  | [] => (String.ofList name, none)
  | _ :: value => (String.ofList name, some (String.ofList value))

/-- Whether there is at least one decimal digit and nothing else. -/
def isDigits (text : List Char) : Bool :=
  !text.isEmpty && text.all fun character => (Numeral.digitValue? character).isSome

/-- Whether a text has the form of a negative number, with or without a decimal point. A line break
at the end does not count. -/
def isNegativeNumber (text : List Char) : Bool :=
  let line := if text.getLast? = some '\n' then text.dropLast else text
  match line with
  | '-' :: rest =>
      isDigits rest ||
        match rest.dropWhile (· ≠ '.') with
        | '.' :: fraction =>
            let whole := rest.takeWhile (· ≠ '.')
            (whole.isEmpty || isDigits whole) && isDigits fraction
        | _ => false
  | _ => false

/-- The value that a bundle of short options leaves unused; help is the only short option. -/
def unusedInBundle? (bundle : List Char) : Option String :=
  match bundle.dropWhile (· = 'h') with
  | [] => none
  | value => some (String.ofList value)

/-- The unused value of the short option for help. One that is not empty is a bundle of more short
options first. -/
def unusedByHelp? : Option String → Option String
  | none => none
  | some "" => some ""
  | some value => unusedInBundle? value.toList

/-- The argument that a text is if it is no spelling of an option, not even cut short. -/
def other (text : String) : Argument :=
  if isNegativeNumber text.toList || text.toList.contains ' ' then .word text else .unknown text

/-- The argument that a text is if it begins with two minus signs but is no full spelling. -/
def ofLong (text : String) : Except UsageError Argument :=
  let (name, value) := splitValue text.toList
  match Switch.spellings.filter fun spelling => name.toList.isPrefixOf spelling.1.toList with
  | [] => .ok (other text)
  | [(_, switch)] => .ok (.option switch value)
  | several => .error (.ambiguous text (several.map Prod.fst))

/-- The argument that a text with a minus sign in front is. -/
def ofDashed (text : String) : Except UsageError Argument :=
  let (name, value) := splitValue text.toList
  match Switch.spellings.lookup text, Switch.spellings.lookup name with
  | some switch, _ => .ok (.option switch none)
  | none, some switch => .ok (.option switch (if name = "-h" then unusedByHelp? value else value))
  | none, none =>
      match text.toList with
      | [_] => .ok (.word text)
      | '-' :: '-' :: _ => ofLong text
      | '-' :: 'h' :: bundle => .ok (.option .help (unusedInBundle? bundle))
      | _ => .ok (other text)

/-- The arguments that texts are. The first ambiguous one refuses them all. -/
def ofTexts : List String → Except UsageError (List Argument)
  | [] => .ok []
  | text :: rest =>
      if text = "--" then .ok (.separator :: rest.map .word)
      else if text.toList.head? = some '-' then do
        let first ← ofDashed text
        return first :: (← ofTexts rest)
      else do
        return .word text :: (← ofTexts rest)

end Argument
end CommandLine

/-! ## What is asked for -/

namespace CommandLine

/-- A run of a program with its settings, each of which may be unset. -/
structure Request where
  /-- The file of the program. -/
  program : String
  /-- Side of the square that shows one pixel. -/
  scale : Option Int := some 10
  /-- Instructions in each frame. -/
  instructionsPerFrame : Option Int := some 10
  /-- Name of the palette. -/
  scheme : Option String := some "classic"
  /-- Where the random bytes start. -/
  seed : Option Int := some 0
  /-- The least grave entries that are written. -/
  level : Option Level := some .info
  /-- Whether a left shift stores its flag as zero or one. -/
  normalizeShiftFlag : Bool := false
  /-- Frames to run without a window, if no window is wanted; their number may be unset. -/
  headless : Option (Option Int) := none
  deriving DecidableEq, Repr

/-- What has been understood of the arguments so far. -/
structure Progress where
  /-- The request, whose program counts only once it is named. -/
  request : Request := { program := "" }
  /-- Whether the program is named. -/
  named : Bool := false
  /-- Whether the argument just before named it. -/
  justNamed : Bool := false
  /-- Arguments without a use, in order. -/
  extras : List String := []

/-- The levels that may be asked for. -/
def levels : List Level :=
  [.debug, .info, .warning, .error, .critical]

namespace Request

/-- The integer that a value is. -/
def integer (switch : Switch) (value : String) : Except UsageError Int :=
  match Numeral.read? value with
  | some number => .ok number
  | none => .error (.invalidInteger switch value)

/-- The level that a value names in full and in capitals. -/
def levelNamed (switch : Switch) (value : String) : Except UsageError Level :=
  match levels.find? fun level => level.name = value with
  | some level => .ok level
  | none => .error (.invalidChoice switch value (levels.map Level.name))

/-- The palette name that a value is. -/
def schemeNamed (switch : Switch) (value : String) : Except UsageError String :=
  if Palette.names.contains value then .ok value
  else .error (.invalidChoice switch value Palette.names)

/-- The setting that a value makes by a reading of it. The separator makes none. -/
def setting {Setting : Type} (reading : Switch → String → Except UsageError Setting)
    (switch : Switch) (value : String) : Except UsageError (Option Setting) :=
  if value = "--" then .ok none else some <$> reading switch value

/-- The request with the value of an option. -/
def set (request : Request) (switch : Switch) (value : String) : Except UsageError Request :=
  match switch with
  | .help | .normalizeShiftFlag => .error (.valueIgnored switch value)
  | .scale => do return { request with scale := ← setting integer switch value }
  | .instructionsPerFrame => do
      return { request with instructionsPerFrame := ← setting integer switch value }
  | .scheme => do return { request with scheme := ← setting schemeNamed switch value }
  | .seed => do return { request with seed := ← setting integer switch value }
  | .level => do return { request with level := ← setting levelNamed switch value }
  | .headless => do return { request with headless := some (← setting integer switch value) }

/-- The request with an option that has no value. -/
def enable (request : Request) : Switch → Except UsageError Request
  | .help => .error .helpRequested
  | .normalizeShiftFlag => .ok { request with normalizeShiftFlag := true }
  | switch => .error (.valueExpected switch)

end Request

namespace Progress

/-- Go on with a changed request. -/
def continueWith (progress : Progress) (request : Request) : Progress :=
  { progress with request, justNamed := false }

/-- Note an argument that has no use. -/
def addExtra (progress : Progress) (text : String) : Progress :=
  { progress with extras := progress.extras ++ [text], justNamed := false }

/-- Take a word: the first one names the program. -/
def addWord (progress : Progress) (text : String) : Progress :=
  if progress.named then progress.addExtra text
  else
    { progress with
      request := { progress.request with program := text }, named := true, justNamed := true }

/-- Take the separator: it belongs to the program named before or behind it. -/
def addSeparator (progress : Progress) : Progress :=
  if progress.named && !progress.justNamed then progress.addExtra "--"
  else { progress with justNamed := false }

/-- Take all arguments in order. -/
def addAll (progress : Progress) : List Argument → Except UsageError Progress
  | [] => .ok progress
  | .word text :: rest => (progress.addWord text).addAll rest
  | .separator :: rest => progress.addSeparator.addAll rest
  | .unknown text :: rest => (progress.addExtra text).addAll rest
  | .option switch (some value) :: rest => do
      (progress.continueWith (← progress.request.set switch value)).addAll rest
  | .option switch none :: .word value :: rest =>
      if switch.takesValue then do
        (progress.continueWith (← progress.request.set switch value)).addAll rest
      else do
        ((progress.continueWith (← progress.request.enable switch)).addWord value).addAll rest
  | .option switch none :: rest => do
      (progress.continueWith (← progress.request.enable switch)).addAll rest

/-- The request, if a program is named and every argument has a use. -/
def finish (progress : Progress) : Except UsageError Request :=
  if !progress.named then .error .programMissing
  else if progress.extras.isEmpty then .ok progress.request
  else .error (.unrecognized progress.extras)

end Progress

/-- The request that arguments make. -/
def Request.ofArguments (arguments : List String) : Except UsageError Request := do
  let progress ← ({} : Progress).addAll (← Argument.ofTexts arguments)
  progress.finish

end CommandLine
end ChipEight
