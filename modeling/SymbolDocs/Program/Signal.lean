namespace SymbolDocs

structure Signal where
  number : Nat
  name : String
  notice : String
  deriving DecidableEq, Repr

namespace Signal

def known : List Signal :=
  [⟨1, "HUP", "Hangup"⟩,
    ⟨2, "INT", "Interrupt"⟩,
    ⟨3, "QUIT", "Quit"⟩,
    ⟨4, "ILL", "Illegal instruction"⟩,
    ⟨5, "TRAP", "Trace/breakpoint trap"⟩,
    ⟨6, "ABRT", "Aborted"⟩,
    ⟨7, "BUS", "Bus error"⟩,
    ⟨8, "FPE", "Floating point exception"⟩,
    ⟨9, "KILL", "Killed"⟩,
    ⟨10, "USR1", "User defined signal 1"⟩,
    ⟨11, "SEGV", "Segmentation fault"⟩,
    ⟨12, "USR2", "User defined signal 2"⟩,
    ⟨13, "PIPE", "Broken pipe"⟩,
    ⟨14, "ALRM", "Alarm clock"⟩,
    ⟨15, "TERM", "Terminated"⟩,
    ⟨16, "STKFLT", "Stack fault"⟩,
    ⟨17, "CHLD", "Child exited"⟩,
    ⟨18, "CONT", "Continued"⟩,
    ⟨19, "STOP", "Stopped (signal)"⟩,
    ⟨20, "TSTP", "Stopped"⟩,
    ⟨21, "TTIN", "Stopped (tty input)"⟩,
    ⟨22, "TTOU", "Stopped (tty output)"⟩,
    ⟨23, "URG", "Urgent I/O condition"⟩,
    ⟨24, "XCPU", "CPU time limit exceeded"⟩,
    ⟨25, "XFSZ", "File size limit exceeded"⟩,
    ⟨26, "VTALRM", "Virtual timer expired"⟩,
    ⟨27, "PROF", "Profiling timer expired"⟩,
    ⟨28, "WINCH", "Window changed"⟩,
    ⟨29, "IO", "I/O possible"⟩,
    ⟨30, "PWR", "Power failure"⟩,
    ⟨31, "SYS", "Bad system call"⟩]

def ofNumber? (number : Nat) : Option Signal :=
  known.find? fun s => s.number == number

def ofWord? (word : String) : Option Signal :=
  known.find? fun s => s.name == word || "SIG" ++ s.name == word || toString s.number == word

def isHarmless (s : Signal) : Bool :=
  [17, 18, 23, 28].contains s.number

def isQuiet (s : Signal) : Bool :=
  s.number == 2 || s.number == 13

end Signal

inductive Ending where
  | exited (status : Nat)
  | killed (signal : Signal)
  deriving DecidableEq, Repr

namespace Ending

def isSuccess : Ending → Bool
  | exited status => status == 0
  | killed _ => false

def message : Ending → String
  | exited status => s!"exit status: {status}"
  | killed signal =>
    let number := signal.number
    s!"signal: {number} (SIG" ++ signal.name ++ ")"

end Ending

end SymbolDocs
