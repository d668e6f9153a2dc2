/-! Signals by number, their names, and what each does to a process that has not asked for anything
else. -/

namespace ClockWarden.Host

/-- A signal is known by its number. -/
structure Signal where
  number : Nat
deriving DecidableEq, Repr

namespace Signal

def hangup : Signal := ⟨1⟩
def interrupt : Signal := ⟨2⟩
def kill : Signal := ⟨9⟩
def terminate : Signal := ⟨15⟩
def resume : Signal := ⟨18⟩
def stop : Signal := ⟨19⟩

/-- The names of the signals 1 to 31, without the three letters that they share. -/
def names : List String := ["HUP", "INT", "QUIT", "ILL", "TRAP", "ABRT", "BUS", "FPE", "KILL", "USR1",
  "SEGV", "USR2", "PIPE", "ALRM", "TERM", "STKFLT", "CHLD", "CONT", "STOP", "TSTP", "TTIN", "TTOU",
  "URG", "XCPU", "XFSZ", "VTALRM", "PROF", "WINCH", "IO", "PWR", "SYS"]

/-- The name of a signal after the letters that all names share, if it has one. -/
def shortName? (s : Signal) : Option String :=
  match s.number with
  | 0 => none
  | n + 1 => names[n]?

/-- The full name of a signal. -/
def name (s : Signal) : String :=
  "SIG" ++ s.shortName?.getD (toString s.number)

/-- The signal that a name stands for, with or without the letters that all names share. -/
def ofName? (text : String) : Option Signal :=
  let short := if text.startsWith "SIG" then (text.drop 3).toString else text
  (names.findIdx? (· == short)).map fun i => ⟨i + 1⟩

/-- What a signal does to a process. -/
inductive Effect where
  | ends
  | stops
  | resumes
  | nothing
deriving DecidableEq

/-- What a signal does where nothing else was asked for. -/
def defaultEffect (s : Signal) : Effect :=
  if s.number = 18 then .resumes
  else if s.number ∈ [19, 20, 21, 22] then .stops
  else if s.number ∈ [17, 23, 28] then .nothing
  else .ends

/-- Two signals always do what they do by default. -/
def isUncatchable (s : Signal) : Bool := s = kill || s = stop

end Signal

end ClockWarden.Host
