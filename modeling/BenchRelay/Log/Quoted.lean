import BenchRelay.Text.Basic
import BenchRelay.Text.Hidden

/-!
# Names in quotes

How a log line writes the name of a benchmark: between quotes, with escapes for quotes, backslashes
and hidden characters.
-/

namespace BenchRelay

/-- Write one character between quotes. -/
def quotedChar (c : Char) : Text :=
  match c with
  | '\x00' => ['\\', '0']
  | '\t' => ['\\', 't']
  | '\n' => ['\\', 'n']
  | '\r' => ['\\', 'r']
  | '"' => ['\\', '"']
  | '\\' => ['\\', '\\']
  | c =>
    if isHidden c then
      '\\' :: 'u' :: '\x7b' :: Nat.toDigits 16 c.toNat ++ ['\x7d']
    else [c]

/-- Write a name between quotes. -/
def Text.inQuotes (text : Text) : Text := '"' :: text.flatMap quotedChar ++ ['"']

end BenchRelay
