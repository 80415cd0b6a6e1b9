import DoubleAuction.Text.Printable

/-! # Quoted text

Messages quote foreign text so that it stands on one line and can be told from the words around it.
Quote marks of the kind around the text and backslashes are written behind a backslash; tabs, line
ends and the null character have short escapes; every other character that is not shown as itself
is written by its code point.
-/

namespace DoubleAuction.Text

/-- How one character is written between quote marks of the given kind. -/
def escape (quote c : Char) : List Char :=
  if c = '\x00' then ['\\', '0']
  else if c = '\t' then ['\\', 't']
  else if c = '\r' then ['\\', 'r']
  else if c = '\n' then ['\\', 'n']
  else if c = '\\' ∨ c = quote then ['\\', c]
  else if isShown c then [c]
  else "\\u\x7b".toList ++ Nat.toDigits 16 c.toNat ++ "\x7d".toList

/-- A text between double quote marks. -/
def quoted (text : String) : String :=
  String.ofList ('"' :: text.toList.flatMap (escape '"') ++ ['"'])

/-- A character between single quote marks. -/
def quotedChar (c : Char) : String :=
  String.ofList ('\'' :: escape '\'' c ++ ['\''])

end DoubleAuction.Text
