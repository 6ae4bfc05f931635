import NavState.Text.Invisible

namespace NavState.Text

/-!
# Quoted text

A quoted text stands between two double quotes.  Inside, a quote and a
backslash are preceded by a backslash, the common controls have a letter, and
every other invisible character is written as its code point in hexadecimal
digits between braces.
-/

/-- Hexadecimal digits of a code point, in lower case and without leading zeros. -/
def hexDigits (code : Nat) : List Char :=
  Nat.toDigits 16 code

/-- The written form of one character. -/
def quoteChar (character : Char) : List Char :=
  match character with
  | '"' => ['\\', '"']
  | '\\' => ['\\', '\\']
  | '\n' => ['\\', 'n']
  | '\t' => ['\\', 't']
  | '\r' => ['\\', 'r']
  | '\x00' => ['\\', '0']
  | other =>
      if isInvisible other then
        ['\\', 'u', '\x7b'] ++ hexDigits other.toNat ++ ['\x7d']
      else
        [other]

/-- The written form of a text, quotes included. -/
def quote (text : String) : String :=
  String.ofList ('"' :: text.toList.flatMap quoteChar ++ ['"'])

end NavState.Text
