import BenchRelay.Config.Basic

/-!
# Command line options

Options come first, in any order; behind two dashes stand the command to run and its arguments, word
by word. An option's value is its next word, or stands behind an equals sign in the same word;
behind a single letter it may also follow at once. A value in a word of its own is only looked at
when the next option is, or at the end, so a word that is no option at all is found first.
-/

namespace BenchRelay

/-- What the command line says. -/
structure Options where
  /-- The configuration file. -/
  config : Option Text := none
  /-- Whether to run once instead of waiting for signals. -/
  once : Bool := false
  /-- How many bytes a read of the output takes at most. -/
  chunkBytes : Option Nat := none
  /-- The command to run and its arguments. -/
  command : List Text := []
  deriving Repr, DecidableEq

namespace Options

/-- What is wrong with a command line. -/
inductive Misuse where
  /-- A word is no option and stands where no word may. -/
  | unknownArgument
  /-- An option has no value, or an empty one. -/
  | invalidValue
  /-- A value is not of its kind. -/
  | valueValidation
  /-- An option that takes no value has one. -/
  | tooManyValues
  /-- An option is given twice. -/
  | argumentConflict
  deriving Repr, DecidableEq

/-- The wording of what is wrong with a command line. -/
def Misuse.message : Misuse → Text
  | .unknownArgument => "error: unexpected argument found"
  | .invalidValue => "error: a value is required for an option but none was supplied"
  | .valueValidation => "error: invalid value for an option"
  | .tooManyValues => "error: unexpected value for an option"
  | .argumentConflict => "error: an option cannot be used multiple times"

/-- Why a command line gives no options. -/
inductive Halt where
  /-- It asks for help. -/
  | help
  /-- It asks for the version. -/
  | version
  | misuse (misuse : Misuse)
  deriving Repr, DecidableEq

/-- The options that take a value. -/
inductive Setting where
  | config
  | chunkBytes
  deriving Repr, DecidableEq

/-- The options that take none. -/
inductive Flag where
  | once
  | help
  | version
  deriving Repr, DecidableEq

/-- An option of either kind. -/
inductive Known where
  | setting (setting : Setting)
  | flag (flag : Flag)
  deriving Repr, DecidableEq

/-- The option with a long name. -/
def ofLong? (name : Text) : Option Known :=
  if name = "config".toList then some (.setting .config)
  else if name = "chunk-bytes".toList then some (.setting .chunkBytes)
  else if name = "once".toList then some (.flag .once)
  else if name = "help".toList then some (.flag .help)
  else if name = "version".toList then some (.flag .version)
  else none

/-- The option with a letter. -/
def ofShort? : Char → Option Known
  | 'c' => some (.setting .config)
  | 'h' => some (.flag .help)
  | 'V' => some (.flag .version)
  | _ => none

/-- The greatest number that an option takes. -/
def numberLimit : Nat := Nat.pow 2 64 - 1

/-- A number in decimal digits, with a plus in front or without. -/
def number? (text : Text) : Option Nat :=
  let digits := match text with
    | '+' :: rest => rest
    | _ => text
  if digits.isEmpty || !digits.all Char.isDigit then none
  else
    let n := digits.foldl (fun n c => n * 10 + (c.toNat - '0'.toNat)) 0
    if n ≤ numberLimit then some n else none

/-- Options read so far, and an option whose value is still to be looked at. -/
structure Progress where
  options : Options := {}
  pending : Option (Setting × Option Text) := none
  deriving Repr, DecidableEq

namespace Progress

/-- Give an option its value. -/
def assign (progress : Progress) (value : Text) : Setting → Except Halt Progress
  | .config =>
    if progress.options.config.isSome then .error (.misuse .argumentConflict)
    else if value.isEmpty then .error (.misuse .invalidValue)
    else .ok { progress with options := { progress.options with config := some value } }
  | .chunkBytes =>
    if progress.options.chunkBytes.isSome then .error (.misuse .argumentConflict)
    else match number? value with
      | none => .error (.misuse .valueValidation)
      | some n => .ok { progress with options := { progress.options with chunkBytes := some n } }

/-- Look at the value that was left for later. -/
def settle (progress : Progress) : Except Halt Progress :=
  match progress.pending with
  | none => .ok progress
  | some (_, none) => .error (.misuse .invalidValue)
  | some (setting, some value) => { progress with pending := none }.assign value setting

/-- Take an option without a value. -/
def raise (progress : Progress) (flag : Flag) : Except Halt Progress := do
  let progress ← progress.settle
  match flag with
  | .help => .error .help
  | .version => .error .version
  | .once =>
    if progress.options.once then .error (.misuse .argumentConflict)
    else .ok { progress with options := { progress.options with once := true } }

/-- Take an option with the value that stands in the same word, if one does. -/
def take (progress : Progress) (setting : Setting) : Option Text → Except Halt Progress
  | some value => do (← progress.settle).assign value setting
  | none => do .ok { (← progress.settle) with pending := some (setting, none) }

/-- The name and the value in a word behind two dashes. -/
def splitLong (word : Text) : Text × Option Text :=
  let name := word.takeWhile (· ≠ '=')
  match word.dropWhile (· ≠ '=') with
  | _ :: value => (name, some value)
  | [] => (name, none)

/-- Read a word behind two dashes. -/
def readLong (progress : Progress) (word : Text) : Except Halt Progress :=
  let (name, value) := splitLong word
  match ofLong? name, value with
  | none, _ => .error (.misuse .unknownArgument)
  | some (.flag _), some _ => .error (.misuse .tooManyValues)
  | some (.flag flag), none => progress.raise flag
  | some (.setting setting), value => progress.take setting value

/-- The value in the same word behind a letter, if there is one. -/
def shortValue : Text → Option Text
  | [] => none
  | '=' :: value => some value
  | value => some value

/-- Read the letters of a word behind one dash. -/
def readShort (progress : Progress) : Text → Except Halt Progress
  | [] => .ok progress
  | c :: rest =>
    match ofShort? c with
    | none => .error (.misuse .unknownArgument)
    | some (.flag flag) => do readShort (← progress.raise flag) rest
    | some (.setting setting) => progress.take setting (shortValue rest)

/-- Read a word that is no option. -/
def readPlain (progress : Progress) (word : Text) : Except Halt Progress :=
  match progress.pending with
  | some (setting, none) => .ok { progress with pending := some (setting, some word) }
  | _ => .error (.misuse .unknownArgument)

/-- Read all words. -/
def readAll (progress : Progress) : List Text → Except Halt Options
  | [] => do .ok (← progress.settle).options
  | ['-', '-'] :: command => do .ok { (← progress.settle).options with command }
  | ('-' :: '-' :: word) :: words => do readAll (← progress.readLong word) words
  | ('-' :: c :: word) :: words => do readAll (← progress.readShort (c :: word)) words
  | word :: words => do readAll (← progress.readPlain word) words

end Progress

/-- Read a command line, which begins with the program's own name. -/
def parse (arguments : List Text) : Except Halt Options := ({} : Progress).readAll arguments.tail

/-- The configuration with what the command line says in its place. -/
def override (options : Options) (config : Config) : Config :=
  let config := match options.command with
    | [] => config
    | command :: args => { config with command := some command, args }
  match options.chunkBytes with
  | none => config
  | some readChunkBytes => { config with readChunkBytes }

/-- The configuration with what the command line says in its place, provided that it is valid. -/
def apply (options : Options) (config : Config) : Except ConfigError Config :=
  (options.override config).validated

end Options

end BenchRelay
