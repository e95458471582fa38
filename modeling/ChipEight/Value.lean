import ChipEight.Text

/-!
# Quoted text and values

A text is shown between single quotes, or between double quotes when it holds a single quote and no
double one.  The enclosing quote, the backslash and everything unprintable are escaped.

Values of several kinds stand in messages.  A value is either shown as it is, or quoted so that its
kind can be told; inside a list it is always quoted.
-/

namespace ChipEight

namespace Quoted

/-- The quotation mark that encloses a text. -/
inductive Mark
  | single
  | double
  deriving DecidableEq, Repr

/-- The character of a quotation mark. -/
def Mark.character : Mark → Char
  | single => Char.ofNat 39
  | double => Char.ofNat 34

/-- Double quotes are used only to avoid an escaped single one. -/
def markFor (text : List Char) : Mark :=
  if text.contains Mark.single.character && !text.contains Mark.double.character then
    .double
  else
    .single

/-- Lower-case digits of a code point, in the shortest of the three escapes that holds it. -/
def codeEscape (code : Nat) : List Char :=
  let digits (width : Nat) := (Hex.padded width code).map Char.toLower
  if code < 0x100 then '\\' :: 'x' :: digits 2
  else if code < 0x10000 then '\\' :: 'u' :: digits 4
  else '\\' :: 'U' :: digits 8

/-- One character as it stands between the quotes. -/
def escape (mark : Mark) (character : Char) : List Char :=
  if character = mark.character || character = '\\' then ['\\', character]
  else if character = '\n' then ['\\', 'n']
  else if character = '\r' then ['\\', 'r']
  else if character = '\t' then ['\\', 't']
  else if Printable.isPrintable character then [character]
  else codeEscape character.toNat

/-- A text with its quotes. -/
def quote (text : String) : String :=
  let mark := markFor text.toList
  String.ofList (mark.character :: text.toList.flatMap (escape mark) ++ [mark.character])

/-- Texts in quotes with a comma and a blank between them. -/
def quoteAll (texts : List String) : String :=
  ", ".intercalate (texts.map quote)

end Quoted

/-- A value that a message may show. -/
inductive Value
  /-- A number. -/
  | integer (value : Int)
  /-- Something that holds or does not. -/
  | flag (value : Bool)
  /-- A text. -/
  | text (value : String)
  /-- No value. -/
  | absent
  /-- Several values in order. -/
  | list (items : List Value)
  deriving Repr

namespace Value

/-- A value as it stands in a list. -/
def quoted : Value → String
  | integer value => toString value
  | flag value => if value then "True" else "False"
  | text value => Quoted.quote value
  | absent => "None"
  | list items => "[" ++ ", ".intercalate (items.map quoted) ++ "]"

/-- A value as it stands by itself. -/
def shown : Value → String
  | text value => value
  | other => other.quoted

/-- Values that together make one message: one alone is shown as it is. -/
def message : List Value → String
  | [] => ""
  | [value] => value.shown
  | values => "(" ++ ", ".intercalate (values.map quoted) ++ ")"

end Value

end ChipEight
