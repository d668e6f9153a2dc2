import ClockWarden.Host.Call

/-! Calls together with their answers, and hosts as far as their callers can tell: what a host may do
by itself, and how it may answer a call. Laws about programs are stated over all runs on such a host. -/

namespace ClockWarden.Host

/-- A call and the answer to it. -/
structure Exchange where
  call : Call
  answer : call.Answer

namespace Exchange

/-- The process that an exchange starts. -/
def spawned? : Exchange → Option Pid
  | ⟨.spawn _, answer⟩ =>
    match (answer : Except Error Pid) with
    | .ok pid => some pid
    | .error _ => none
  | _ => none

/-- How the child ended that an exchange reaps. -/
def reaped? : Exchange → Option ExitStatus
  | ⟨.pollExit _, answer⟩ =>
    match (answer : Except Error (Option ExitStatus)) with
    | .ok status => status
    | .error _ => none
  | ⟨.awaitExit _, answer⟩ =>
    match (answer : Except Error ExitStatus) with
    | .ok status => some status
    | .error _ => none
  | ⟨.awaitExitUntil _ _, answer⟩ =>
    match (answer : Option (Except Error ExitStatus)) with
    | some (.ok status) => some status
    | _ => none
  | _ => none

/-- A look at a child that the host refuses. -/
def PollFails (exchange : Exchange) : Prop :=
  ∃ pid cause, exchange = ⟨.pollExit pid, (.error cause : Except Error (Option ExitStatus))⟩

/-- A probe of a group that finds it empty, or is refused. -/
def FindsEmpty (group : Pid) (exchange : Exchange) : Prop :=
  ∃ errno, exchange = ⟨.probeGroup group, (.error errno : Except Errno Unit)⟩

/-- A killing signal to a group. -/
def Kills (group : Pid) (exchange : Exchange) : Prop :=
  ∃ answer : Except Errno Unit, exchange = ⟨.signalGroup group .kill, answer⟩

/-- A killing signal to a group that arrives, or finds nobody. -/
def KillArrives (group : Pid) (exchange : Exchange) : Prop :=
  ∃ answer : Except Errno Unit, exchange = ⟨.signalGroup group .kill, answer⟩ ∧
    (answer = .ok () ∨ answer = .error Errno.noSuchProcess)

theorem KillArrives.kills {group : Pid} {exchange : Exchange} (h : exchange.KillArrives group) :
    exchange.Kills group := by
  obtain ⟨answer, hexchange, -⟩ := h
  exact ⟨answer, hexchange⟩

end Exchange

/-- A call on the host that asks for a process. -/
def Call.IsSpawn (call : Call) : Prop := ∃ command, call = .spawn command

theorem Exchange.spawned?_eq_none {exchange : Exchange} (h : ¬exchange.call.IsSpawn) :
    exchange.spawned? = none := by
  obtain ⟨call, answer⟩ := exchange
  cases call with
  | spawn command => exact absurd ⟨command, rfl⟩ h
  | _ => rfl

/-- A host, as far as its callers can tell. -/
structure Behaviour (World : Type) where
  /-- How the host stands at the beginning. -/
  begins : World
  /-- What it does by itself. -/
  acts : World → World → Prop
  /-- The answers that it may give to a call, and how it stands after them. -/
  answers : World → (call : Call) → call.Answer → World → Prop

end ClockWarden.Host
