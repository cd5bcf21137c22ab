/-!
# Signals of the platform

The thirty-one standard signals of Linux on x86-64: numbers, names, descriptions, and which of
them may be watched.  `ofNumber?_eq_some_iff` says that the numbers name the signals one to one.
-/

namespace HostServices

inductive Signal
  | hup | int | quit | ill | trap | abrt | bus | fpe | kill | usr1 | segv | usr2 | pipe | alrm
  | term | stkflt | chld | cont | stop | tstp | ttin | ttou | urg | xcpu | xfsz | vtalrm | prof
  | winch | io | pwr | sys
  deriving DecidableEq, Repr

namespace Signal

def all : List Signal :=
  [
   .hup, .int, .quit, .ill, .trap, .abrt, .bus, .fpe, .kill, .usr1, .segv, .usr2, .pipe, .alrm,
   .term, .stkflt, .chld, .cont, .stop, .tstp, .ttin, .ttou, .urg, .xcpu, .xfsz, .vtalrm,
   .prof, .winch, .io, .pwr, .sys]

def number : Signal → Nat
  | hup => 1
  | int => 2
  | quit => 3
  | ill => 4
  | trap => 5
  | abrt => 6
  | bus => 7
  | fpe => 8
  | kill => 9
  | usr1 => 10
  | segv => 11
  | usr2 => 12
  | pipe => 13
  | alrm => 14
  | term => 15
  | stkflt => 16
  | chld => 17
  | cont => 18
  | stop => 19
  | tstp => 20
  | ttin => 21
  | ttou => 22
  | urg => 23
  | xcpu => 24
  | xfsz => 25
  | vtalrm => 26
  | prof => 27
  | winch => 28
  | io => 29
  | pwr => 30
  | sys => 31

/-- The name without its leading letters SIG. -/
def shortName : Signal → String
  | hup => "HUP"
  | int => "INT"
  | quit => "QUIT"
  | ill => "ILL"
  | trap => "TRAP"
  | abrt => "ABRT"
  | bus => "BUS"
  | fpe => "FPE"
  | kill => "KILL"
  | usr1 => "USR1"
  | segv => "SEGV"
  | usr2 => "USR2"
  | pipe => "PIPE"
  | alrm => "ALRM"
  | term => "TERM"
  | stkflt => "STKFLT"
  | chld => "CHLD"
  | cont => "CONT"
  | stop => "STOP"
  | tstp => "TSTP"
  | ttin => "TTIN"
  | ttou => "TTOU"
  | urg => "URG"
  | xcpu => "XCPU"
  | xfsz => "XFSZ"
  | vtalrm => "VTALRM"
  | prof => "PROF"
  | winch => "WINCH"
  | io => "IO"
  | pwr => "PWR"
  | sys => "SYS"

def name (s : Signal) : String := "SIG" ++ s.shortName

def display (s : Signal) : String := s.name ++ "(" ++ toString s.number ++ ")"

/-- What the signal tells its receiver. -/
def description : Signal → String
  | hup => "Hangup"
  | int => "Interrupt"
  | quit => "Quit"
  | ill => "Illegal instruction"
  | trap => "Trace/breakpoint trap"
  | abrt => "Aborted"
  | bus => "Bus error"
  | fpe => "Floating point exception"
  | kill => "Killed"
  | usr1 => "User defined signal 1"
  | segv => "Segmentation fault"
  | usr2 => "User defined signal 2"
  | pipe => "Broken pipe"
  | alrm => "Alarm clock"
  | term => "Terminated"
  | chld => "Child status changed"
  | cont => "Continued"
  | stop => "Stopped (signal)"
  | tstp => "Stopped"
  | ttin => "Stopped (tty input)"
  | ttou => "Stopped (tty output)"
  | urg => "Urgent I/O condition"
  | xcpu => "CPU time limit exceeded"
  | xfsz => "File size limit exceeded"
  | vtalrm => "Virtual timer expired"
  | prof => "Profiling timer expired"
  | winch => "Window size changed"
  | io => "I/O possible"
  | sys => "Bad system call"
  | stkflt | pwr => "Unknown signal"

/-- The two signals that no process can catch. -/
def isUncatchable (s : Signal) : Bool := s = .kill || s = .stop

/-- The signals that the runtime keeps for itself. -/
def isReserved (s : Signal) : Bool :=
  s = .segv || s = .bus || s = .ill || s = .fpe || s = .vtalrm

def ofNumber? (n : Int) : Option Signal := all.find? fun s => (s.number : Int) = n

theorem mem_all (s : Signal) : s ∈ all := by cases s <;> decide

theorem number_pos (s : Signal) : 0 < s.number := by cases s <;> decide

theorem number_le (s : Signal) : s.number ≤ 31 := by cases s <;> decide

@[simp] theorem ofNumber?_number (s : Signal) : ofNumber? s.number = some s := by
  cases s <;> decide

theorem ofNumber?_eq_some_iff {n : Int} {s : Signal} : ofNumber? n = some s ↔ n = s.number := by
  constructor
  · intro h
    simpa [eq_comm] using List.find?_some h
  · rintro rfl
    exact ofNumber?_number s

theorem number_injective {s t : Signal} (h : s.number = t.number) : s = t :=
  Option.some.inj ((ofNumber?_number s).symm.trans (h ▸ ofNumber?_number t))

def index (s : Signal) : Fin 31 :=
  ⟨s.number - 1, by have := s.number_pos; have := s.number_le; omega⟩

theorem index_injective {s t : Signal} (h : s.index = t.index) : s = t := by
  have := congrArg Fin.val h
  simp only [index] at this
  exact number_injective (by have := s.number_pos; have := t.number_pos; omega)

end Signal

end HostServices
