import BenchRelay.Message.Basic

/-!
# The written form of messages

A message is written as one compact JSON object on a line of its own. Inside a string the quote,
the backslash and the characters below U+0020 are escaped, so the newline that ends the line is the
only byte below 0x20 in it.
-/

namespace BenchRelay.Message

/-- The lowercase hexadecimal digit of a number below 16. -/
def hexDigit (n : Nat) : Char := Nat.digitChar n

/-- Write one character of a JSON string. -/
def escapeChar (c : Char) : Text :=
  match c with
  | '"' => ['\\', '"']
  | '\\' => ['\\', '\\']
  | '\x08' => ['\\', 'b']
  | '\x0c' => ['\\', 'f']
  | '\n' => ['\\', 'n']
  | '\r' => ['\\', 'r']
  | '\t' => ['\\', 't']
  | c =>
    if c.toNat < 0x20 then ['\\', 'u', '0', '0', hexDigit (c.toNat / 16), hexDigit (c.toNat % 16)]
    else [c]

/-- Write a text as a JSON string. -/
def quote (text : Text) : Text := '"' :: text.flatMap escapeChar ++ ['"']

/-- Write a message as a JSON object. -/
def toJson : Message → Text
  | .stdout data => "\x7b\"type\":\"stdout\",\"data\":" ++ quote data ++ "\x7d"
  | .done => "\x7b\"type\":\"done\"\x7d"

/-- The byte that ends a line. -/
def newline : UInt8 := 0x0A

/-- Write a message as a line of bytes, the newline included. -/
def line (message : Message) : Bytes := message.toJson.utf8 ++ [newline]

end BenchRelay.Message
