import BenchRelay.Text.Basic

/-!
# Tokens of shell scripts

A script is read as a row of tokens: signs, words, redirections and the words that hold commands
together.
-/

namespace BenchRelay.Shell

/-- A token; the text of a word and the parts of a redirection are kept elsewhere. -/
inductive Token where
  | endOfText
  | newline
  | semicolon
  | ampersand
  | andAnd
  | orOr
  | pipe
  | openParen
  | closeParen
  | endBranch
  | redirection
  | word
  /-- A word that holds commands together. -/
  | reserved (word : String)
  deriving Repr, DecidableEq

/-- The words that hold commands together, and whether each ends a list of commands. -/
def reservedWords : List (String × Bool) :=
  [("!", false), ("case", false), ("do", true), ("done", true), ("elif", true), ("else", true),
    ("esac", true), ("fi", true), ("for", false), ("if", false), ("in", false), ("then", true),
    ("until", false), ("while", false), ("\x7b", false), ("\x7d", true)]

/-- The reserved word that a text is, if it is one. -/
def reserved? (text : Text) : Option Token :=
  (reservedWords.find? fun (word : String × Bool) => word.1.toList = text).map fun word =>
    .reserved word.1

namespace Token

/-- How messages call a token. -/
def name : Token → Text
  | .endOfText => "end of file"
  | .newline => "newline"
  | .semicolon => "\";\""
  | .ampersand => "\"&\""
  | .andAnd => "\"&&\""
  | .orOr => "\"||\""
  | .pipe => "\"|\""
  | .openParen => "\"(\""
  | .closeParen => "\")\""
  | .endBranch => "\";;\""
  | .redirection => "redirection"
  | .word => "word"
  | .reserved text => '"' :: text.toList ++ ['"']

/-- Whether a token ends a list of commands. -/
def endsList : Token → Bool
  | .endOfText | .closeParen | .endBranch => true
  | .reserved text => (reservedWords.lookup text).getD false
  | _ => false

end Token

end BenchRelay.Shell
