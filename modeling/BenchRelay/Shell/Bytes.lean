import BenchRelay.Text.Utf8

/-!
# Shell text

Shell text is a sequence of bytes. Each byte is kept as the character with its number, so that what
is said about texts holds of scripts too.
-/

namespace BenchRelay.Shell

/-- A text as shell text: the bytes of its UTF-8 form. -/
def ofText (text : Text) : Text := text.utf8.map fun b => Char.ofNat b.toNat

/-- The bytes of a shell text. -/
def toBytes (text : Text) : Bytes := text.map fun c => UInt8.ofNat c.toNat

/-- The text that a shell text stands for in names of files. -/
def toText (text : Text) : Text := Utf8.lossy (toBytes text)

/-- The shell text with given bytes. -/
def ofBytes (b : Bytes) : Text := b.map fun b => Char.ofNat b.toNat

/-- Whether a character may begin a name. -/
def isNameStart (c : Char) : Bool := c.isAlpha || c == '_'

/-- Whether a character may be part of a name. -/
def isNameChar (c : Char) : Bool := c.isAlphanum || c == '_'

/-- Whether a text is a name: letters, digits and underscores, and no digit first. -/
def isName : Text → Bool
  | [] => false
  | c :: rest => isNameStart c && rest.all isNameChar

/-- Whether a character is blank to those who read numbers. -/
def isSpace (c : Char) : Bool := c == ' ' || ('\t' ≤ c && c ≤ '\r')

/-- The text of an integer. -/
def integerText : Int → Text
  | .ofNat n => Text.decimal n
  | .negSucc n => '-' :: Text.decimal (n + 1)

/-- A text in single quotes, and the single quotes in it in double quotes. -/
def singleQuotedFrom : (fuel : Nat) → Text → Text
  | 0, _ => []
  | fuel + 1, text =>
    let isQuote (c : Char) : Bool := c == '\''
    let plain := text.takeWhile (!isQuote ·)
    let rest := text.dropWhile (!isQuote ·)
    let quotes := rest.takeWhile isQuote
    let behind := rest.dropWhile isQuote
    let start := '\'' :: plain ++ ['\'']
    if quotes.isEmpty then start
    else
      let shown := start ++ '"' :: quotes ++ ['"']
      if behind.isEmpty then shown else shown ++ singleQuotedFrom fuel behind

/-- A text as a script would have to say it. -/
def singleQuoted (text : Text) : Text := singleQuotedFrom (text.length + 1) text

end BenchRelay.Shell
