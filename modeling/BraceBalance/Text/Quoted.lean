import BraceBalance.Text.Printable

/-!
# Quoted text

Messages quote a text between double quotes. Quotes, backslashes, line ends, tabs and the
character zero are escaped by a letter, and characters that are not shown as themselves
by their code point in braces.
-/

namespace BraceBalance

namespace Text

def quotedChar (char : Char) : Text :=
  match char with
  | '\x00' => "\\0"
  | '\t' => "\\t"
  | '\r' => "\\r"
  | '\n' => "\\n"
  | '"' => "\\\""
  | '\\' => "\\\\"
  | _ =>
      if isHidden char then "\\u\x7b" ++ Nat.toDigits 16 char.toNat ++ "\x7d" else [char]

def quoted (text : Text) : Text :=
  '"' :: text.flatMap quotedChar ++ "\""

end Text

end BraceBalance
