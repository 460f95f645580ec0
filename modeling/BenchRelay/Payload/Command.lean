import BenchRelay.Config.Basic
import BenchRelay.Payload.Child

/-!
# Commands

A command is all that is needed to start a child program and read its output. It comes from a
configuration, which may be without one, or is put together step by step.
-/

namespace BenchRelay

/-- How to start a child program and read its output. -/
structure Command where
  program : Text
  args : List Text
  /-- Where it runs; `none` for the worker's own working directory. -/
  directory : Option Text := none
  /-- Variables that it has beside the worker's own. -/
  environment : Environment := []
  /-- How many bytes a read of the output takes at most. -/
  readChunkBytes : Nat := ({} : Config).readChunkBytes
  deriving Repr, DecidableEq

namespace Command

/-- The command that a configuration says. -/
def ofConfig (config : Config) : Except ChildError Command :=
  match config.command with
  | none => .error .missingCommand
  | some program =>
    .ok
      { program
        args := config.args
        directory := config.directory
        environment := config.environment
        readChunkBytes := config.readChunkBytes }

/-- Run it in a directory. -/
def inDirectory (command : Command) (directory : Text) : Command :=
  { command with directory := some directory }

/-- Give it a variable. -/
def withVariable (command : Command) (name value : Text) : Command :=
  { command with environment := command.environment.set name value }

/-- Let reads take so many bytes at most, and one at least. -/
def reading (command : Command) (bytes : Nat) : Command :=
  { command with readChunkBytes := max bytes 1 }

end Command

end BenchRelay
