import BenchRelay.Files
import BenchRelay.Shell.Bytes

/-!
# Open files

A descriptor leads to an open file, and an open file to a channel: a file of the tree, a device or a
pipe. Descriptors that were copied share their open file, and with it the place up to which it was
read or written. What is written to a pipe carries the time, as commands that go on side by side run
one after the other here; who reads from a pipe finds all of it in the order of time.
-/

namespace BenchRelay.Shell

/-- What an open file leads to. -/
inductive Channel where
  | file (place : Place)
  | directory (place : Place)
  | device (device : Device)
  | pipe (number : Nat)
  deriving Repr, DecidableEq

/-- An open file. -/
structure OpenFile where
  channel : Channel
  readable : Bool := true
  writable : Bool := true
  /-- Whether what is written goes to the end of a file. -/
  appends : Bool := false
  /-- How many bytes in front were read or written. -/
  offset : Nat := 0
  deriving Repr

/-- A pipe. -/
structure Pipe where
  /-- What was written, with the times, the last piece first. -/
  written : List (Nat × Text) := []
  /-- What was put in order and is not read yet. -/
  unread : Text := []
  /-- How many bytes were written. -/
  size : Nat := 0

namespace Pipe

/-- Write a text at a time. -/
def write (pipe : Pipe) (time : Nat) (text : Text) : Pipe :=
  { pipe with written := (time, text) :: pipe.written, size := pipe.size + text.length }

/-- Put what was written in the order of time. -/
def settle (pipe : Pipe) : Pipe :=
  if pipe.written.isEmpty then pipe
  else
    let pieces := pipe.written.reverse
    let ordered := pieces.mergeSort fun a b => a.1 ≤ b.1
    { pipe with written := [], unread := pipe.unread ++ (ordered.flatMap Prod.snd) }

end Pipe

/-- Where open descriptors lead to: the numbers of open files. -/
abbrev Descriptors := List (Nat × Nat)

namespace Descriptors

/-- Close a descriptor. -/
def close (descriptors : Descriptors) (descriptor : Nat) : Descriptors :=
  descriptors.filter (·.1 ≠ descriptor)

/-- Let a descriptor lead to an open file. -/
def lead (descriptors : Descriptors) (descriptor file : Nat) : Descriptors :=
  (descriptor, file) :: descriptors.close descriptor

end Descriptors

/-- Give the file at a place its content. -/
def putFile (files : Files) (place : Place) (content : Bytes) : Files :=
  let node := FileNode.file content
  if files.nodes.any (·.1 = place) then
    { files with nodes := files.nodes.map fun (other, old) =>
        if other = place then (place, node) else (other, old) }
  else { files with nodes := (place, node) :: files.nodes }

/-- The content of the file at a place. -/
def contentAt (files : Files) (place : Place) : Bytes :=
  match files.at? place with
  | some (.file content) => content
  | _ => []

/-- Write bytes into others behind so many of them. -/
def writeAt (content : Bytes) (offset : Nat) (b : Bytes) : Bytes :=
  if offset = content.length then content ++ b
  else
    content.take offset ++ List.replicate (offset - content.length) 0 ++ b ++
      content.drop (offset + b.length)

/-- Why an open file is not read from or written to. -/
inductive ChannelError where
  | badDescriptor
  | noSpace
  | isDirectory
  | brokenPipe
  deriving Repr, DecidableEq

/-- The wording of such an error. -/
def ChannelError.message : ChannelError → Text
  | .badDescriptor => "Bad file descriptor"
  | .noSpace => "No space left on device"
  | .isDirectory => "Is a directory"
  | .brokenPipe => "Broken pipe"

end BenchRelay.Shell
