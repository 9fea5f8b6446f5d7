import VolumeController.Text.Hexadecimal
import VolumeController.Text.Printable
/-!
A text between quotes, with everything that could be misread in a log spelled out: quotes and
backslashes behind a backslash, the common control characters by letter, and what has no printed form
of its own by its code point.
-/

namespace VolumeController.Text

/-- How one character is written between quotes. -/
def quotedChar (c : Char) : List Char :=
  if c = '\x00' then ['\\', '0']
  else if c = '\t' then ['\\', 't']
  else if c = '\r' then ['\\', 'r']
  else if c = '\n' then ['\\', 'n']
  else if c = '"' ∨ c = '\\' then ['\\', c]
  else if isPlainlyPrintable c then [c]
  else "\\u\x7b".toList ++ hexadecimal c.toNat ++ "\x7d".toList

/-- A text between quotes. -/
def quoted (text : String) : String :=
  String.ofList ('"' :: (text.toList.flatMap quotedChar ++ ['"']))

end VolumeController.Text
