import BenchRelay.Config.Document
import BenchRelay.Files
import BenchRelay.Log.Event
import BenchRelay.Text.Utf8

/-!
# Loading a configuration

A configuration is read from a given file, or from the one in the user's configuration directory.
Where there is no such file all defaults hold. A file that is there has to be readable, say a
configuration, and a valid one.
-/

namespace BenchRelay.Config

/-- The user's configuration directory: what is set for it if that is an absolute path, or else a
directory in the user's home; the working directory where there is no home. -/
def userDirectory (set home : Option Text) : Text :=
  match set.filter Files.isAbsolute, home with
  | some path, _ => path
  | none, some home => Files.join home ".config"
  | none, none => "."

/-- The path of the user's configuration file. -/
def defaultPath (set home : Option Text) : Text :=
  Files.join (Files.join (userDirectory set home) "benchworker") "config.toml"

/-- Read a file that is there as text. -/
def readText (path : Text) : FileNode → Except ConfigError Text
  | .directory => .error (.read path "Is a directory (os error 21)")
  | .device .null => .ok []
  | .device _ | .program _ | .link _ =>
    .error (.read path "stream did not contain valid UTF-8")
  | .file content =>
    match Utf8.decode? content with
    | some text => .ok text
    | none => .error (.read path "stream did not contain valid UTF-8")

/-- The configuration that a file says. -/
def ofFile (path : Text) (node : FileNode) : Except ConfigError Config := do
  let text ← readText path node
  match parse? text with
  | none => .error (.parse path)
  | some config => config.validated

/-- Load a configuration from a path, and log where there is no file. -/
def load (files : Files) (path : Text) : Except ConfigError Config × List Event :=
  match files.find? path with
  | none => (.ok {}, [.configAbsent path])
  | some node => (ofFile path node, [])

end BenchRelay.Config
