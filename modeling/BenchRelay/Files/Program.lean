import BenchRelay.Files

/-!
# Finding programs

A program is named by a path or by a name alone. A name alone, one without a slash, is looked for in
the directories of a search path, a text with colons between the directories. What is found but
may not be run is passed over there, and decides only if nothing that may be run comes later. Where
nothing is found at all, the last directory decides.
-/

namespace BenchRelay

/-- Why a program is not started. -/
inductive Refusal where
  /-- A text that the program would be given holds U+0000. -/
  | holdsNul
  /-- There is no such program. -/
  | missing
  /-- Something on the way to it is no directory. -/
  | notDirectory
  /-- The way to it or a name there is longer than any may be. -/
  | tooLong
  /-- What is there may not be run. -/
  | denied
  /-- A text that the program would be given is longer than any may be. -/
  | argumentTooLong
  deriving Repr, DecidableEq

/-- The wording of a refusal. -/
def Refusal.message : Refusal → Text
  | .holdsNul => "nul byte found in provided data"
  | .missing => "No such file or directory (os error 2)"
  | .notDirectory => "Not a directory (os error 20)"
  | .tooLong => "File name too long (os error 36)"
  | .denied => "Permission denied (os error 13)"
  | .argumentTooLong => "Argument list too long (os error 7)"

/-- The refusal that a path leading nowhere brings. -/
def Refusal.ofPathError : PathError → Refusal
  | .missing => .missing
  | .notDirectory => .notDirectory
  | .tooLong => .tooLong

namespace Files

/-- The program that a path leads to. -/
def programAt (files : Files) (path : Text) : Except Refusal Text :=
  match files.resolve path with
  | .error error => .error (.ofPathError error)
  | .ok place =>
    match files.at? place with
    | some (.program name) => .ok name
    | _ => .error .denied

/-- The first program of a name in some directories, behind others: `denied` says that something of
that name was found there which may not be run, and `last` why the last one of them has none. -/
def searchProgram (files : Files) (name : Text) (denied : Bool) (last : Refusal) :
    List Text → Except Refusal Text
  | [] => .error (if denied then .denied else last)
  | directory :: directories =>
    match files.programAt (join directory name) with
    | .ok program => .ok program
    | .error .tooLong => .error .tooLong
    | .error refusal =>
      searchProgram files name (denied || refusal == .denied) refusal directories

/-- Where programs are looked for if nothing else is said. -/
def defaultSearchPath : Text := "/bin:/usr/bin"

/-- The program of a name, which is a path if it has a slash. -/
def findProgram (files : Files) (searchPath : Option Text) (name : Text) :
    Except Refusal Text :=
  if name.isEmpty then .error .missing
  else if name.contains '/' then files.programAt name
  else if name.utf8.length > nameLimit then .error .tooLong
  else
    files.searchProgram name false .missing ((searchPath.getD defaultSearchPath).splitOn ':')

end Files

end BenchRelay
