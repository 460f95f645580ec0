import BenchRelay.Text.Basic

/-!
# Files

A tree of files as a list of places, each given by the names on the way to it from the root. Every
place on the way to a listed one is a directory. Paths are texts with slashes; a path without a
slash in front starts at the working directory, and a link is followed as soon as it is met. A path
fails where a name is missing, where a name or the whole path is too long, and where something that
is no directory is gone through.
-/

namespace BenchRelay

/-- The names on the way from the root to a place. -/
abbrev Place := List Text

/-- A file that is no store of bytes. -/
inductive Device where
  /-- Holds nothing and takes everything. -/
  | null
  /-- Yields the byte 0 for ever. -/
  | zero
  /-- Yields the byte 0 for ever and takes nothing. -/
  | full
  /-- Yields bytes that nobody knows before. -/
  | random
  | terminal
  /-- What a descriptor leads to for whoever opens it. -/
  | descriptor (number : Nat)
  deriving Repr, DecidableEq

/-- What stands at a place. -/
inductive FileNode where
  | file (content : Bytes)
  | directory
  /-- A program that can be run. -/
  | program (name : Text)
  | device (device : Device)
  /-- The way to another place. -/
  | link (target : Place)
  deriving Repr, DecidableEq

/-- Why a path leads nowhere. -/
inductive PathError where
  /-- A name on the way does not exist. -/
  | missing
  /-- Something on the way is no directory. -/
  | notDirectory
  /-- The path or a name on the way is longer than any may be. -/
  | tooLong
  deriving Repr, DecidableEq

/-- A tree of files and the directory that relative paths start at. -/
structure Files where
  nodes : List (Place × FileNode)
  workingDirectory : Place
  deriving Repr

namespace Files

/-- What stands at a place, if anything does. -/
def at? (files : Files) (place : Place) : Option FileNode :=
  match files.nodes.find? (·.1 == place) with
  | some (_, node) => some node
  | none =>
    if place.isEmpty || files.nodes.any (place.isPrefixOf ·.1) then some .directory else none

/-- Whether a place is a directory. -/
def isDirectoryAt (files : Files) (place : Place) : Bool := files.at? place == some .directory

/-- How many bytes a name has at most. -/
def nameLimit : Nat := 255

/-- How many bytes a path has at most. -/
def pathLimit : Nat := 4095

/-- Follow names from a place, and so many links at most. -/
def follow (files : Files) (links : Nat) (place : Place) :
    List Text → Except PathError Place
  | [] => .ok place
  | name :: names =>
    if files.isDirectoryAt place then
      if name.isEmpty || name == ['.'] then follow files links place names
      else if name == ['.', '.'] then follow files links place.dropLast names
      else if name.utf8.length > nameLimit then .error .tooLong
      else match files.at? (place ++ [name]), links with
        | none, _ => .error .missing
        | some (.link _), 0 => .error .missing
        | some (.link target), links + 1 => follow files links [] (target ++ names)
        | some _, links => follow files links (place ++ [name]) names
    else .error .notDirectory
termination_by names => (links, names.length)

/-- How many links are followed on the way. -/
def linkLimit : Nat := 40

/-- The names in a path, and an empty one for each slash that has none before or behind it. -/
def names (path : Text) : List Text := path.splitOn '/'

/-- Whether a path starts at the root. -/
def isAbsolute (path : Text) : Bool := path.head? == some '/'

/-- The place that a path names, whether anything stands there or not. -/
def placeOf (workingDirectory : Place) (path : Text) : Place :=
  (names path).foldl (fun place name =>
    if name.isEmpty || name == ['.'] then place
    else if name == ['.', '.'] then place.dropLast
    else place ++ [name]) (if isAbsolute path then [] else workingDirectory)

/-- The place that a path leads to. -/
def resolve (files : Files) (path : Text) : Except PathError Place :=
  if path.isEmpty || path.contains '\x00' then .error .missing
  else if path.utf8.length > pathLimit then .error .tooLong
  else files.follow linkLimit (if isAbsolute path then [] else files.workingDirectory) (names path)

/-- What stands where a path leads to. -/
def find? (files : Files) (path : Text) : Option FileNode :=
  match files.resolve path with
  | .ok place => files.at? place
  | .error _ => none

/-- Whether a path leads to a directory. -/
def isDirectory (files : Files) (path : Text) : Bool := files.find? path == some .directory

/-- A path cut behind its last slash, into the path of a directory and a name. -/
def splitLast (path : Text) : Text × Text :=
  let name := (path.reverse.takeWhile (· ≠ '/')).reverse
  (path.take (path.length - name.length), name)

/-- The place that a new file gets by its path, if there is a directory to hold it. -/
def newPlace? (files : Files) (path : Text) : Option Place :=
  let (parent, name) := splitLast path
  if name.isEmpty || name.utf8.length > nameLimit || path.utf8.length > pathLimit then none
  else
    match files.resolve (if parent.isEmpty then ['.'] else parent) with
    | .ok directory => if files.isDirectoryAt directory then some (directory ++ [name]) else none
    | .error _ => none

/-- What stands at the end of a path, where a link is not followed. -/
def findLink? (files : Files) (path : Text) : Option FileNode :=
  let (parent, name) := splitLast path
  if name.isEmpty || name == ['.'] || name == ['.', '.'] then files.find? path
  else
    match files.resolve (if parent.isEmpty then ['.'] else parent) with
    | .ok directory =>
      if files.isDirectoryAt directory then files.at? (directory ++ [name]) else none
    | .error _ => none

/-- The names in a directory. -/
def namesAt (files : Files) (place : Place) : List Text :=
  (files.nodes.filterMap fun (other, _) =>
    if place.isPrefixOf other then (other.drop place.length).head? else none).eraseDups

/-- A path put behind another. -/
def join (path name : Text) : Text :=
  if path.isEmpty then name
  else if path.getLast? = some '/' then path ++ name
  else path ++ '/' :: name

/-- The path from the root to a place. -/
def pathOf (place : Place) : Text :=
  match place with
  | [] => ['/']
  | place => place.flatMap ('/' :: ·)

/-- A place, given by the names on the way to it. -/
def place (names : List String) : Place := names.map String.toList

/-- The directories that every system has. -/
def systemDirectories : List Place :=
  let top := ["boot", "dev", "etc", "home", "media", "mnt", "opt", "proc", "root", "run", "srv",
    "sys", "tmp", "usr", "var"].map ([·])
  let shared := ["bin", "games", "include", "lib", "lib64", "libexec", "local", "sbin", "share",
    "src"].map (["usr", ·])
  let own := ["bin", "etc", "games", "include", "lib", "sbin", "share", "src"].map
    (["usr", "local", ·])
  let changing := ["backups", "cache", "lib", "local", "log", "mail", "opt", "spool", "tmp"].map
    (["var", ·])
  (top ++ shared ++ own ++ changing ++ [["dev", "pts"], ["dev", "shm"]]).map place

/-- The links that every system has. -/
def systemLinks : List (Place × Place) :=
  let links := ["bin", "lib", "lib64", "sbin"].map fun name => ([name], ["usr", name])
  let others := [(["var", "run"], ["run"]), (["var", "lock"], ["run", "lock"]),
    (["usr", "local", "man"], ["usr", "local", "share", "man"])]
  (links ++ others).map fun (name, target) => (place name, place target)

/-- The devices that every system has. -/
def systemDevices : List (Place × Device) :=
  let named : List (String × Device) :=
    [("null", .null), ("zero", .zero), ("full", .full), ("random", .random),
      ("urandom", .random), ("tty", .terminal), ("stdin", .descriptor 0),
      ("stdout", .descriptor 1), ("stderr", .descriptor 2)]
  let numbered := (List.range 10).map fun number =>
    (place ["dev", "fd"] ++ [Text.decimal number], Device.descriptor number)
  named.map (fun (name, device) => (place ["dev", name], device)) ++ numbered

/-- The directory that holds programs. -/
def programDirectory : Place := place ["usr", "bin"]

/-- The files that every system has. -/
def systemFiles : List (Place × Bytes) :=
  [(place ["etc", "passwd"], Text.utf8 "root:x:0:0:root:/root:/bin/bash\n"),
    (place ["etc", "group"], Text.utf8 "root:x:0:\n"),
    (place ["etc", "hosts"], Text.utf8 "127.0.0.1\tlocalhost\n")]

/-- What every system has, with the given programs. -/
def system (programs : List Text) : List (Place × FileNode) :=
  systemFiles.map (fun (place, content) => (place, .file content)) ++
    systemDevices.map (fun (place, device) => (place, .device device)) ++
    systemLinks.map (fun (place, target) => (place, .link target)) ++
    systemDirectories.map (·, FileNode.directory) ++
    programs.map fun name => (programDirectory ++ [name], .program name)

end Files

end BenchRelay
