import BenchRelay.Text.Blank

/-!
# Configuration

A configuration says which child program to run and how to read its output. Its environment is kept
in the order of its keys with each key once, so two configurations that say the same are equal. A
configuration is valid if reads take at least one byte and a command, where there is one, is not
blank.
-/

namespace BenchRelay

/-- The value given to environment variables, in the order of their names. -/
abbrev Environment := List (Text × Text)

namespace Environment

/-- Give a variable a value. -/
def set (name value : Text) : Environment → Environment
  | [] => [(name, value)]
  | (n, v) :: rest =>
    if name = n then (name, value) :: rest
    else if name < n then (name, value) :: (n, v) :: rest
    else (n, v) :: set name value rest

/-- Give values to variables one after another. -/
def ofList (pairs : List (Text × Text)) : Environment :=
  pairs.foldl (fun environment pair => environment.set pair.1 pair.2) []

/-- The value of a variable. -/
def get? (environment : Environment) (name : Text) : Option Text := environment.lookup name

end Environment

/-- Which child program to run, and how to read its output. -/
structure Config where
  /-- The program to run, if one is given. -/
  command : Option Text := none
  args : List Text := []
  /-- Where the program runs; `none` for the worker's own working directory. -/
  directory : Option Text := none
  /-- Variables that the program has beside the worker's own. -/
  environment : Environment := []
  /-- How many bytes a read of the output takes at most. -/
  readChunkBytes : Nat := 8192
  deriving Repr, DecidableEq

/-- Why a configuration is not valid. -/
inductive ConfigFlaw where
  /-- Reads would take no bytes. -/
  | emptyReads
  /-- The command is blank. -/
  | blankCommand
  deriving Repr, DecidableEq

/-- The wording of what makes a configuration invalid. -/
def ConfigFlaw.message : ConfigFlaw → Text
  | .emptyReads => "output.read_chunk_bytes must be > 0"
  | .blankCommand => "payload.command must not be empty"

/-- The first thing that makes a configuration invalid. -/
def Config.flaw? (config : Config) : Option ConfigFlaw :=
  if config.readChunkBytes = 0 then some .emptyReads
  else match config.command with
    | some command => if command.isBlank then some .blankCommand else none
    | none => none

/-- Why there is no configuration to be had. -/
inductive ConfigError where
  /-- A file could not be read. -/
  | read (path reason : Text)
  /-- A file does not say a configuration. -/
  | parse (path : Text)
  /-- A configuration is not valid. -/
  | invalid (flaw : ConfigFlaw)
  deriving Repr, DecidableEq

/-- The wording of a configuration error. What is wrong with a file's text is not told in detail. -/
def ConfigError.message : ConfigError → Text
  | .read path reason => "Failed to read config file '" ++ path ++ "': " ++ reason
  | .parse path => "Failed to parse config file '" ++ path ++ "': "
  | .invalid flaw => "Config validation failed: " ++ flaw.message

/-- A configuration, provided that it is valid. -/
def Config.validated (config : Config) : Except ConfigError Config :=
  match config.flaw? with
  | some flaw => .error (.invalid flaw)
  | none => .ok config

end BenchRelay
