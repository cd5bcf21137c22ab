import HostServices.Text.Numeral
import HostServices.Text.Unprintable

/-!
# Quoted texts

A text between double quotes in which every character can be told apart: the quote and the
backslash are escaped, four controls have a letter, and what does not print is spelled by its
code point.
-/

namespace HostServices.Text

def quoteChar (c : Char) : List Char :=
  if c = '"' then ['\\', '"']
  else if c = '\\' then ['\\', '\\']
  else if c = '\n' then ['\\', 'n']
  else if c = '\r' then ['\\', 'r']
  else if c = '\t' then ['\\', 't']
  else if c.toNat = 0 then ['\\', '0']
  else if isUnprintable c then
    "\\u\x7b".toList ++ writeNumeral 16 c.toNat ++ "\x7d".toList
  else [c]

def quote (s : String) : String :=
  String.ofList ('"' :: s.toList.flatMap quoteChar ++ ['"'])

end HostServices.Text
