import BenchRelay.Shell.Builtin.Options
import BenchRelay.Shell.Variable

/-!
# Commands about directories

Going to another directory and saying where the shell is. The shell remembers the path by which it
came to a directory, in which names of links stand and no points.
-/

namespace BenchRelay.Shell.Builtin

open Shell.Action

/-- Put the names of a path behind a path that ends in a slash, the last character of which stands
first; no more than its root is taken away from it. -/
def walk (root : Nat) (path : Text) : List Text → Text
  | [] => if root < path.length then path.drop 1 else path
  | name :: names =>
    if name.isEmpty || name = ['.'] then walk root path names
    else if name = ['.', '.'] then
      let parent := if root < path.length then (path.drop 1).dropWhile (· ≠ '/') else path
      walk root parent names
    else walk root ('/' :: (name.reverse ++ path)) names

/-- A path from a directory, given by the path by which the shell came there, without points. -/
def tidyPath (current path : Text) : Text :=
  let start := if Files.isAbsolute path then path else current ++ '/' :: path
  let hasTwo : Bool := match start with
    | '/' :: '/' :: '/' :: _ => false
    | '/' :: '/' :: _ => true
    | _ => false
  let root := if hasTwo then 2 else 1
  (walk root (List.replicate root '/') (start.splitOn '/')).reverse

/-- The path that the shell starts with: that of a variable if it leads to the working directory. -/
def startPath (files : Files) (given? : Option Text) : Text :=
  let own := ofText (Files.pathOf files.workingDirectory)
  match given? with
  | some path =>
    if Files.isAbsolute path &&
        (files.resolve (toText path)).toOption = some files.workingDirectory then path
    else own
  | none => own

/-- Be in another directory, by a path unless that is to be found out. -/
def enter (place : Place) (path? : Option Text) : Action Unit := do
  let path := path?.getD (ofText (Files.pathOf place))
  let former ← fromMemory Memory.path
  assign "OLDPWD".toList (some former) { exported := true }
  change fun memory =>
    { memory with
      directory := place
      path
      tracked := memory.tracked.map fun known => { known with isStale := true } }
  assign "PWD".toList (some path) { exported := true }

/-- Try to go to a directory. -/
def goTo (physical : Bool) (path : Text) : Action Bool := do
  let current ← fromMemory Memory.path
  let tidy := tidyPath current path
  let files ← files
  match files.resolve (toText (if physical then path else tidy)) with
  | .error _ => return false
  | .ok place =>
    if files.isDirectoryAt place then
      enter place (if physical then none else some tidy)
      return true
    else return false

/-- Whether the directories of the search path for directories do not matter to a path. -/
def isDirect : Text → Bool
  | ['.'] => true
  | '.' :: '/' :: _ => true
  | ['.', '.'] => true
  | '.' :: '.' :: '/' :: _ => true
  | path => Files.isAbsolute path

/-- Whether a letter of the options that choose between both kinds of paths came last. -/
def isPhysical (chosen : Chosen) : Bool := (chosen.letters.getLast?.map (·.1)) = some 'P'

/-- Go to another directory. -/
def cd (arguments : List Text) : Action Nat := do
  let chosen ← options "LP" arguments
  let physical := isPhysical chosen
  let isBack := chosen.arguments.head? = some ['-']
  let wanted? ← match chosen.arguments.head? with
    | none => valueOf "HOME".toList
    | some ['-'] => valueOf "OLDPWD".toList
    | some path => pure (some path)
  let wanted := wanted?.getD []
  let searched ←
    if isDirect wanted then pure []
    else do
      let path := if wanted.isEmpty then ['.'] else wanted
      let directories := ((← valueOf "CDPATH".toList).getD []).splitOn ':'
      let files ← files
      pure ((directories.map fun directory => (directory, Files.join directory path)).filter
        fun (_, path) => files.isDirectory (toText path))
  let (shows, path) := match searched with
    | (directory, path) :: _ => (!directory.isEmpty, path)
    | [] => (false, wanted)
  unless ← goTo physical path do raise ("can't cd to ".toList ++ wanted)
  if isBack || shows then print ((← fromMemory Memory.path) ++ ['\n'])
  return 0

/-- Say where the shell is. -/
def pwd (arguments : List Text) : Action Nat := do
  let chosen ← options "LP" arguments
  let memory ← fromMemory id
  print ((if isPhysical chosen then ofText (Files.pathOf memory.directory) else memory.path) ++
    ['\n'])
  return 0

end BenchRelay.Shell.Builtin
