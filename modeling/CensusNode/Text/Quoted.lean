import CensusNode.Text.Printable

/-!
Texts and characters in quotes, as they stand in messages. A backslash, the enclosing quote, and
the controls with a letter of their own are written with a backslash; a character that does not
show as itself is written by its code in braces.
-/

namespace CensusNode.Text

def hexDigits (number : Nat) : List Char := Nat.toDigits 16 number

def escaped (quote char : Char) : List Char :=
  if char = '\x00' then ['\\', '0']
  else if char = '\t' then ['\\', 't']
  else if char = '\r' then ['\\', 'r']
  else if char = '\n' then ['\\', 'n']
  else if char = '\\' then ['\\', '\\']
  else if char = quote then ['\\', quote]
  else if isPrintable char then [char]
  else ['\\', 'u', '\x7b'] ++ hexDigits char.toNat ++ ['\x7d']

def quoted (text : String) : String :=
  String.ofList ('"' :: text.toList.flatMap (escaped '"') ++ ['"'])

def quotedChar (char : Char) : String :=
  String.ofList ('\'' :: escaped '\'' char ++ ['\''])

end CensusNode.Text
