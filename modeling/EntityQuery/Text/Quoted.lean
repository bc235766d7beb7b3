import EntityQuery.Text.CharClass
import EntityQuery.Text.PrintTable

/-!
Texts in quotes, for messages: quotes, backslashes and characters that cannot be seen are escaped.
-/

namespace EntityQuery.Text

def codeEscape (c : Char) : List Char :=
  ['\\', 'u', '{'] ++ Nat.toDigits 16 c.toNat ++ ['}']

def quoteChar (quote c : Char) : List Char :=
  if c = quote || c = '\\' then ['\\', c]
  else if c = '\n' then ['\\', 'n']
  else if c = '\r' then ['\\', 'r']
  else if c = '\t' then ['\\', 't']
  else if c.toNat = 0 then ['\\', '0']
  else if inRanges shownRanges c then [c]
  else codeEscape c

def quoted (text : String) : String :=
  String.ofList (['"'] ++ text.toList.flatMap (quoteChar '"') ++ ['"'])

def quotedChar (c : Char) : String :=
  String.ofList (['\''] ++ quoteChar '\'' c ++ ['\''])

end EntityQuery.Text
