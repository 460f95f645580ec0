import BenchRelay.Shell.Number

/-!
# Signals

A signal has a number, and most have a name by which scripts call them. Unless a process says
otherwise, a signal ends it; a few do nothing.
-/

namespace BenchRelay.Shell.Signal

/-- How many signals there are, the one with the number 0 included, which stands for the end of a
shell. -/
def count : Nat := 65

/-- The names of the first signals; those without one go by their numbers. -/
def names : List String :=
  ["EXIT", "HUP", "INT", "QUIT", "ILL", "TRAP", "ABRT", "BUS", "FPE", "KILL", "USR1", "SEGV",
    "USR2", "PIPE", "ALRM", "TERM", "16", "CHLD", "CONT", "STOP", "TSTP", "TTIN", "TTOU", "URG",
    "XCPU", "XFSZ", "VTALRM", "PROF", "WINCH", "IO", "PWR", "SYS", "32", "33", "RTMIN"]

/-- The name of a signal. -/
def name (signal : Nat) : Text :=
  match names[signal]? with
  | some name => name.toList
  | none =>
    if signal < 50 then "RTMIN+".toList ++ Text.decimal (signal - 34)
    else if signal < 64 then "RTMAX-".toList ++ Text.decimal (64 - signal)
    else "RTMAX".toList

/-- The signal that a text names or numbers, one of those from `least` on if it is a name. -/
def ofText? (least : Nat) (text : Text) : Option Nat :=
  if !text.isEmpty && text.all Char.isDigit then
    let signal := ofDigits 10 text
    if signal < count then some signal else none
  else
    let lower (text : Text) : Text := text.map Char.toLower
    (List.range count).find? fun signal => least ≤ signal && lower (name signal) = lower text

/-- The signals that do nothing to a process unless it says otherwise. -/
def isHarmless (signal : Nat) : Bool := [0, 17, 18, 23, 28].contains signal

/-- The signals that nothing can be done about. -/
def isCertain (signal : Nat) : Bool := signal = 9 || signal = 19

/-- How a shell calls the end of a process by a signal. -/
def wording (signal : Nat) : Text :=
  let wordings : List String :=
    ["", "Hangup", "Interrupt", "Quit", "Illegal instruction", "Trace/breakpoint trap", "Aborted",
      "Bus error", "Floating point exception", "Killed", "User defined signal 1",
      "Segmentation fault", "User defined signal 2", "Broken pipe", "Alarm clock", "Terminated",
      "Stack fault", "Child exited", "Continued", "Stopped (signal)", "Stopped",
      "Stopped (tty input)", "Stopped (tty output)", "Urgent I/O condition",
      "CPU time limit exceeded", "File size limit exceeded", "Virtual timer expired",
      "Profiling timer expired", "Window changed", "I/O possible", "Power failure",
      "Bad system call"]
  match wordings[signal]? with
  | some wording => wording.toList
  | none =>
    if 34 ≤ signal then "Real-time signal ".toList ++ Text.decimal (signal - 34)
    else "Unknown signal ".toList ++ Text.decimal signal

/-- The exit code of a command that a signal ended. -/
def exitCode (signal : Nat) : Nat := 128 + signal

end BenchRelay.Shell.Signal
