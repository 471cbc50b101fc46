import MapTypes.Text.Numeral
import MapTypes.Unicode.GraphemeExtend
import MapTypes.Unicode.Unprintable

/-!
Quoted text, as messages show labels: between double quotes, so that every character can be told
apart on a screen. A quote, a backslash and the common control characters are written with a
backslash; a character that prints nothing of its own, or attaches to the one before it, is written
by its number.
-/

namespace MapTypes.Text

/-- A character by its number, `\u` and the hexadecimal digits in braces. -/
def numberEscape (c : Char) : List Char :=
  ['\\', 'u', '\x7b'] ++ hexDigits c.toNat ++ ['\x7d']

/-- The halfwidth voiced and semi-voiced sound marks. They have the property Grapheme_Extend, but
are shown in a cell of their own, after the kana that they belong to. -/
def halfwidthSoundMarks : List Char := ['\uFF9E', '\uFF9F']

/-- A character that a screen would show as part of the one before it. -/
def isAttached (c : Char) : Bool :=
  Unicode.isGraphemeExtend c && !halfwidthSoundMarks.contains c

/-- One character of a quoted text. -/
def quoteChar (c : Char) : List Char :=
  match c with
  | '\x00' => ['\\', '0']
  | '\t' => ['\\', 't']
  | '\r' => ['\\', 'r']
  | '\n' => ['\\', 'n']
  | '\\' => ['\\', '\\']
  | '"' => ['\\', '"']
  | c => if isAttached c || Unicode.isUnprintable c then numberEscape c else [c]

/-- A text between double quotes. -/
def quote (text : String) : String :=
  String.ofList (['"'] ++ text.toList.flatMap quoteChar ++ ['"'])

/-- A list of quoted texts between brackets. -/
def quoteList (texts : List String) : String :=
  "[" ++ ", ".intercalate (texts.map quote) ++ "]"

end MapTypes.Text
