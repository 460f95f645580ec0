import BenchRelay.Shell.State

/-!
# Reading and writing

What is written goes where a descriptor leads to. Opening a path gives a new open file. What a
command of the shell prints is kept until the command ends, and errors are told at once, behind the
name of the shell, the number of the line and the command at hand.
-/

namespace BenchRelay.Shell

/-- Why a path is not opened. -/
inductive OpenError where
  | missing
  | notDirectory
  | isDirectory
  | denied
  | exists
  | tooLong
  | noDevice
  deriving Repr, DecidableEq

namespace OpenError

/-- The wording of why a path is not opened. -/
def message : OpenError → Text
  | .missing => "No such file or directory"
  | .notDirectory => "Not a directory"
  | .isDirectory => "Is a directory"
  | .denied => "Permission denied"
  | .exists => "File exists"
  | .tooLong => "File name too long"
  | .noDevice => "No such device or address"

/-- The wording in a shell, where it makes a difference whether a file was to be made. -/
def shellMessage (creating : Bool) : OpenError → Text
  | .missing | .notDirectory => if creating then "Directory nonexistent" else "No such file"
  | error => error.message

/-- The error that a path leading nowhere brings. -/
def ofPathError : PathError → OpenError
  | .missing => .missing
  | .notDirectory => .notDirectory
  | .tooLong => .tooLong

end OpenError

/-- Whether a file may be made by an access. -/
def Access.creates : Access → Bool
  | .read => false
  | .write | .overwrite | .append | .readWrite => true

/-- Whether an access takes away what a file holds. -/
def Access.truncates : Access → Bool
  | .write | .overwrite => true
  | .read | .append | .readWrite => false

/-- The file that an access to a channel opens. -/
def Access.opened (access : Access) (channel : Channel) : OpenFile :=
  { channel
    readable := access = .read || access = .readWrite
    writable := access ≠ .read
    appends := access = .append }

/-- How many bytes go into a pipe whose other end nobody seems to read. -/
def pipeLimit : Nat := 8000000

namespace Action

/-- The open file that a descriptor leads to, with its number. -/
def opened? (descriptor : Nat) : Action (Option (Nat × OpenFile)) := do
  match (← fromMemory Memory.descriptors).lookup descriptor with
  | none => return none
  | some number =>
    return ((← observe World.openFiles)[number]?).map (number, ·)

/-- Open a channel: the number of the open file. -/
def openChannel (file : OpenFile) : Action Nat := do
  let number ← observe (·.openFiles.size)
  changeWorld fun world => { world with openFiles := world.openFiles.push file }
  return number

/-- Let a descriptor lead to an open file. -/
def lead (descriptor file : Nat) : Action Unit :=
  change fun memory => { memory with descriptors := memory.descriptors.lead descriptor file }

/-- Note how far an open file was read or written. -/
def setOffset (number offset : Nat) : Action Unit :=
  changeWorld fun world =>
    { world with openFiles := world.openFiles.modify number fun file => { file with offset } }

/-- Change a pipe. -/
def changePipe (number : Nat) (alter : Pipe → Pipe) : Action Unit :=
  changeWorld fun world => { world with pipes := world.pipes.modify number alter }

/-- Whether a signal does nothing to the process at hand. -/
def ignores (signal : Nat) : Action Bool :=
  fromMemory fun memory => memory.ignored.contains signal || memory.traps.lookup signal = some []

/-- Write to the end of a pipe. -/
def writePipe (number : Nat) (text : Text) : Action (Option ChannelError) := do
  let size ← observe fun world => (world.pipes[number]?.map Pipe.size).getD 0
  if size > pipeLimit then
    if ← ignores 13 then return some .brokenPipe
    throw (.gone (.signal 13))
  let time ← observe World.time
  changePipe number (Pipe.write · time text)
  return none

/-- Write to where a descriptor leads to: the error, if there is one. -/
def writeTo (descriptor : Nat) (text : Text) : Action (Option ChannelError) := do
  if text.isEmpty then return none
  spend
  match ← opened? descriptor with
  | none => return some .badDescriptor
  | some (number, file) =>
    if !file.writable then return some .badDescriptor
    match file.channel with
    | .file place =>
      let content := contentAt (← observe World.files) place
      let offset := if file.appends then content.length else file.offset
      changeWorld fun world =>
        { world with files := putFile world.files place (writeAt content offset (toBytes text)) }
      setOffset number (offset + text.length)
      return none
    | .directory _ => return some .badDescriptor
    | .device .full => return some .noSpace
    | .device _ => return none
    | .pipe pipe => writePipe pipe text

/-- What can be read from where a descriptor leads to, so many bytes at most. -/
def peek (descriptor limit : Nat) : Action (Except ChannelError Text) := do
  match ← opened? descriptor with
  | none => return .error .badDescriptor
  | some (_, file) =>
    if !file.readable then return .error .badDescriptor
    match file.channel with
    | .file place =>
      let content := contentAt (← observe World.files) place
      return .ok (ofBytes ((content.drop file.offset).take limit))
    | .directory _ => return .error .isDirectory
    | .device .zero | .device .full => return .ok (List.replicate limit '\x00')
    | .device .random => return .ok (List.replicate limit '*')
    | .device _ => return .ok []
    | .pipe pipe =>
      changePipe pipe Pipe.settle
      let unread ← observe fun world => (world.pipes[pipe]?.map Pipe.unread).getD []
      return .ok (unread.take limit)

/-- Take for read so many bytes of where a descriptor leads to. -/
def skipRead (descriptor count : Nat) : Action Unit := do
  match ← opened? descriptor with
  | none => return
  | some (number, file) =>
    match file.channel with
    | .file _ => setOffset number (file.offset + count)
    | .pipe pipe => changePipe pipe fun pipe => { pipe with unread := pipe.unread.drop count }
    | _ => return

/-- How many bytes are read of a device without an end. -/
def deviceLimit : Nat := 1000000

/-- Read all that is left where a descriptor leads to. -/
def readAll (descriptor : Nat) : Action (Except ChannelError Text) := do
  let text ← peek descriptor deviceLimit
  match text with
  | .ok text => skipRead descriptor text.length
  | .error _ => pure ()
  return text

/-- Open what stands at a place. -/
def openAt (place : Place) (access : Access) : Action (Except OpenError Nat) := do
  let channel (channel : Channel) : Action (Except OpenError Nat) := do
    return .ok (← openChannel (access.opened channel))
  match (← observe World.files).at? place with
  | none => return .error .missing
  | some .directory =>
    if access = .read then channel (.directory place) else return .error .isDirectory
  | some (.file _) =>
    if access.truncates then
      changeWorld fun world => { world with files := putFile world.files place [] }
    channel (.file place)
  | some (.program _) => if access = .read then channel (.device .null) else return .error .denied
  | some (.device .terminal) => return .error .noDevice
  | some (.device (.descriptor descriptor)) =>
    match (← fromMemory Memory.descriptors).lookup descriptor with
    | some number => return .ok number
    | none => return .error .missing
  | some (.device device) => channel (.device device)
  | some (.link _) => return .error .missing

/-- Open a path: the number of the open file. -/
def openPath (path : Text) (access : Access) : Action (Except OpenError Nat) := do
  let files ← files
  match files.resolve (toText path) with
  | .ok place => openAt place access
  | .error .missing =>
    match if access.creates && !path.isEmpty then files.newPlace? (toText path) else none with
    | some place =>
      changeWorld fun world => { world with files := putFile world.files place [] }
      return .ok (← openChannel (access.opened (.file place)))
    | none => return .error .missing
  | .error error => return .error (.ofPathError error)

/-- The content of a path. -/
def contentOf (path : Text) : Action (Except OpenError Text) := do
  match ← openPath path .read with
  | .error error => return .error error
  | .ok number =>
    let saved ← fromMemory Memory.descriptors
    lead 0 number
    let text ← peek 0 deviceLimit
    change fun memory => { memory with descriptors := saved }
    match text with
    | .ok text => return .ok text
    | .error _ => return .error .isDirectory

/-- Pass on what the command at hand printed. -/
def flush : Action Unit := do
  let buffer ← fromMemory Memory.buffer
  unless buffer.isEmpty do
    change fun memory => { memory with buffer := [] }
    match ← writeTo 1 buffer.reverse.flatten with
    | some error => change fun memory => { memory with outputError? := some error }
    | none => return

/-- How much is kept of what the command at hand printed. -/
def bufferLimit : Nat := 64

/-- Print a text. -/
def print (text : Text) : Action Unit := do
  change fun memory => { memory with buffer := text :: memory.buffer }
  if bufferLimit ≤ (← fromMemory Memory.buffer).length then flush

/-- Tell of an error. -/
def tell (text : Text) : Action Unit := do
  let _ ← writeTo 2 text

/-- Tell of an error as a shell does. -/
def complain (wording : Text) : Action Unit := do
  let memory ← fromMemory id
  let speaker := match memory.speaker? with
    | some speaker => speaker ++ ": ".toList
    | none => []
  tell (memory.name ++ ": ".toList ++ Text.decimal memory.line ++ ": ".toList ++ speaker ++
    wording ++ ['\n'])

/-- Set the exit code of the last command. -/
def setStatus (status : Nat) : Action Unit := change fun memory => { memory with status }

/-- The exit code of an error. -/
def errorStatus : Nat := 2

/-- Stop with an error. -/
def raise {α : Type} (wording : Text) : Action α := do
  setStatus errorStatus
  complain wording
  flush
  throw .error

/-- Stop where a text should be a number. -/
def raiseIllegalNumber {α : Type} (text : Text) : Action α :=
  raise ("Illegal number: ".toList ++ text)

/-- The count that a text stands for. -/
def count (text : Text) : Action Nat := do
  match count? text with
  | some n => return n
  | none => raiseIllegalNumber text

end Action

end BenchRelay.Shell
