import Agenda.Text.Extending
import Agenda.Text.Unprintable

/-!
Strings as quoted literals, the form in which debug texts show a name.

A quote and a backslash are escaped by a backslash, and so are the tab, the two line ends and
the null character, by a letter or digit of their own.  Any other character that would not
show, or would melt into its neighbour, is written by its code point in hexadecimal.
-/

namespace Agenda.Text

def escapePoint (c : Char) : List Char :=
  ['\\', 'u', '\x7b'] ++ Nat.toDigits 16 c.toNat ++ ['\x7d']

def escape (c : Char) : List Char :=
  if c = '\x00' then ['\\', '0']
  else if c = '\t' then ['\\', 't']
  else if c = '\r' then ['\\', 'r']
  else if c = '\n' then ['\\', 'n']
  else if c = '\\' || c = '"' then ['\\', c]
  else if isExtending c || isUnprintable c then escapePoint c
  else [c]

def quoted (text : String) : String :=
  String.ofList ('"' :: text.toList.flatMap escape ++ ['"'])

example : quoted "a\"b\\c" = "\"a\\\"b\\\\c\"" := by decide +kernel
example : quoted "it's 日本\t" = "\"it's 日本\\t\"" := by decide +kernel
example : quoted "\x7f\u0301" = "\"\\u\x7b7f\x7d\\u\x7b301\x7d\"" := by decide +kernel

end Agenda.Text
