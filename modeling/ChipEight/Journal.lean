import ChipEight.Assembly
import ChipEight.Journal.Level
import ChipEight.Machine
import ChipEight.Precision

/-!
# The journal

Entries are written as lines, each behind its level, the name of the journal and possibly the time.
Only entries at or above a threshold are written.  Announced instructions are counted.
-/

namespace ChipEight

/-! ## Notices

What the machine has to tell about its run.  A notice holds the facts; the entries of the journal
are a function of it.
-/

/-- A line of the journal before it is written. -/
structure Entry where
  /-- How grave the entry is. -/
  level : Level
  /-- The message. -/
  text : String
  deriving DecidableEq, Repr

/-- Something that happened. -/
inductive Notice
  /-- A machine was made with some settings. -/
  | configured (settings : List (String × Value))
  /-- A program was loaded. -/
  | loaded (size : Int) (source : String)
  /-- The word at an address is about to be executed. -/
  | executing (address : Int) (word : Word)
  /-- The machine stopped. -/
  | stopped (failure : Failure)
  /-- The registers are shown. -/
  | registers (machine : Machine)
  /-- The machine waits for a key. -/
  | awaitingKey (register : Int)
  /-- A key ended the wait. -/
  | resumed (key : Int)
  /-- Anything else, in words. -/
  | remark (level : Level) (text : String)

namespace Notice

/-- The text of one register. -/
def registerText (machine : Machine) (number : Register) : String :=
  "V" ++ Hex.ofNat 1 number ++ ":" ++ Hex.ofNat 2 (machine.register number).toNat

/-- The texts of the four registers from a multiple of four on. -/
def registerLine (machine : Machine) (group : Fin 4) : String :=
  " ".intercalate ((List.range 4).map fun place =>
    registerText machine (Fin.ofNat 16 (4 * group + place)))

/-- The text of counter, index, timers and the depth of the stack. -/
def statusLine (machine : Machine) : String :=
  "PC:0x" ++ Hex.ofNat 3 machine.counter.toNat ++ " I:0x" ++ Hex.ofNat 3 machine.index.toNat ++
    s!" DT:{machine.delay.toNat} ST:{machine.sound.toNat} SP:{machine.stack.depth}"

/-- Every line that shows the registers. -/
def registerLines (machine : Machine) : List String :=
  (List.finRange 4).map (registerLine machine) ++ [statusLine machine]

/-- The text of a word about to be executed. -/
def traceText (address : Int) (word : Word) : String :=
  "0x" ++ Hex.ofInt 3 address ++ ": " ++ Hex.ofInt 4 word.raw ++ "  " ++ word.disassemble

/-- The entries that a notice makes. -/
def entries : Notice → List Entry
  | configured settings =>
      ⟨.debug, "Machine configuration:"⟩ ::
        settings.map fun (name, value) => ⟨.debug, s!"  {name}: {value.shown}"⟩
  | loaded size source => [⟨.info, s!"Loaded {size} bytes from {source} at 0x200"⟩]
  | executing address word => [⟨.debug, traceText address word⟩]
  | stopped failure => [⟨.error, "Machine halted: " ++ failure.message⟩]
  | registers machine => (registerLines machine).map fun line => ⟨.debug, line⟩
  | awaitingKey register => [⟨.debug, "Waiting for key press into V" ++ Hex.ofInt 1 register⟩]
  | resumed key => [⟨.debug, "Key " ++ Hex.ofInt 1 key ++ " pressed, resuming"⟩]
  | remark level text => [⟨level, text⟩]

/-- Whether the notice announces an instruction. -/
def isTrace : Notice → Bool
  | executing _ _ => true
  | _ => false

/-- Whether the notice is a detail of the machine, which is put into words only to be written. -/
def isDetail : Notice → Bool
  | executing _ _ | registers _ => true
  | _ => false

end Notice

/-! ## Columns of text

Text is moved to the right edge of a column by blanks in front.  Text that is too long for its
column is left as it is.

Time is counted in eighths of a second.  In its column it has two decimal places, rounded to the
nearest hundredth with a tie going to the even one.
-/

namespace Column

/-- A text with as many blanks in front as the width still leaves room for. -/
def alignRight (width : Nat) (text : String) : String :=
  String.ofList (List.leftpad width ' ' text.toList)

end Column

namespace Hundredths

/-- Hundredths of a second in a number of eighths: twelve and a half for each. -/
def ofEighths (eighths : Nat) : Nat :=
  Rounding.nearest (25 * eighths) 2

/-- A number of hundredths as whole units, a point and two digits. -/
def text (hundredths : Nat) : String :=
  let rest := hundredths % 100
  s!"{hundredths / 100}.{rest / 10}{rest % 10}"

/-- Seconds in eight columns, from a signed number of eighths. -/
def seconds (eighths : Int) : String :=
  let size := text (ofEighths eighths.natAbs)
  Column.alignRight 8 (if eighths < 0 then "-" ++ size else size)

end Hundredths

/-! ## Lines and entries -/

/-- A journal and how it is written. -/
structure Journal where
  /-- The name that every line bears. -/
  name : String
  /-- The least grave level that is written. -/
  threshold : Level
  /-- Whether levels are coloured. -/
  coloured : Bool
  /-- Whether lines bear the time. -/
  stamped : Bool
  /-- When the journal was opened, in eighths of a second. -/
  opened : Int
  /-- What time it is, in eighths of a second. -/
  clock : Int
  /-- How many instructions were announced. -/
  traced : Nat
  deriving DecidableEq, Repr

namespace Journal

/-- Whether entries of a level are written. -/
def accepts (journal : Journal) (level : Level) : Bool :=
  journal.threshold.rank ≤ level.rank

/-- The level of an entry in brackets, right-aligned. -/
def tag (journal : Journal) (level : Level) : String :=
  let plain := "[" ++ Column.alignRight 8 level.name ++ "]"
  if journal.coloured then level.colour ++ plain ++ Level.colourEnd else plain

/-- The time since the journal was opened, in eighths of a second. Every time has fifty-three
significant bits. -/
def age (journal : Journal) : Int :=
  Rounding.significant
    (Rounding.significant journal.clock - Rounding.significant journal.opened)

/-- The time since the journal was opened, in brackets. -/
def stamp (journal : Journal) : String :=
  if journal.stamped then "[" ++ Hundredths.seconds journal.age ++ "s]" else ""

/-- What stands before an entry of a level. -/
def heading (journal : Journal) (level : Level) : String :=
  journal.stamp ++ journal.tag level ++ "[" ++ journal.name ++ "]"

/-- The line of an entry. -/
def line (journal : Journal) (entry : Entry) : String :=
  journal.heading entry.level ++ " " ++ entry.text ++ "\n"

/-- The entries among some that are written. -/
def accepted (journal : Journal) (entries : List Entry) : List Entry :=
  entries.filter fun entry => journal.accepts entry.level

/-- The text of those entries that are written. -/
def write (journal : Journal) (entries : List Entry) : String :=
  String.join ((journal.accepted entries).map journal.line)

/-- Enter a notice, counting it if it announces an instruction. The second part is the text. What
only the least threshold lets through is not even put into words for another one. -/
def enter (journal : Journal) (notice : Notice) : Journal × String :=
  ({ journal with traced := journal.traced + if notice.isTrace then 1 else 0 },
    if notice.isDetail && !journal.accepts .debug then "" else journal.write notice.entries)

/-- Enter a notice from a running machine, which announces instructions only to a journal that
writes them. -/
def observe (journal : Journal) (notice : Notice) : Journal × String :=
  if notice.isTrace && !journal.accepts .debug then (journal, "") else journal.enter notice

/-- Enter the notices from a running machine in order. -/
def observeAll (journal : Journal) : List Notice → Journal × String
  | [] => (journal, "")
  | notice :: rest =>
      let (observed, first) := journal.observe notice
      let (final, others) := observed.observeAll rest
      (final, first ++ others)

end Journal
end ChipEight
