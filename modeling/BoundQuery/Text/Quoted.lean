import BoundQuery.Text.Hex
import BoundQuery.Text.Printable

/-!
# Quoted text in messages

Text is put in double quotes. The quote, the backslash and characters that are not printable are
escaped, the latter by their code in braces where there is no shorter form.
-/

namespace BoundQuery.Text

def quotedChar (c : Char) : List Char :=
  if c = '\x00' then ['\\', '0']
  else if c = '\t' then ['\\', 't']
  else if c = '\r' then ['\\', 'r']
  else if c = '\n' then ['\\', 'n']
  else if c = '\\' then ['\\', '\\']
  else if c = '"' then ['\\', '"']
  else if isPrintable c then [c]
  else '\\' :: 'u' :: '\x7b' :: (hexText c.toNat ++ ['\x7d'])

def quoted (s : String) : String :=
  String.ofList ('"' :: (s.toList.flatMap quotedChar ++ ['"']))

end BoundQuery.Text
