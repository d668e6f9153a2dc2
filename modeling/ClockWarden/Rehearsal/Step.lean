import ClockWarden.Rehearsal.Programs

/-! The steps of a rehearsed host. Every process that is ready makes one in each round; time passes where
nobody is, and a little for those who are never done. -/

namespace ClockWarden.Rehearsal.World

open Host Shell

/-- Whether a process has a step to make now. -/
def isReady (w : World) (p : Process) : Bool :=
  !p.isStopped &&
    match p.activity with
    | .ended _ => false
    | .program _ none => true
    | .program name (some seen) => w.isProgramReady p name seen
    | .sleeping wake => decide (wake ≤ w.now)
    | .watching watch => w.isWatchReady watch
    | .shell s => w.isShellReady p s

/-- A step of a process. -/
def step (w : World) (p : Process) : World :=
  match p.activity with
  | .ended _ => w
  | .program name seen => w.stepProgram p name seen
  | .sleeping _ => w.finish p (.exited 0)
  | .watching watch => w.stepWatching p watch
  | .shell s => w.stepShell p s

/-- One step of each process that is ready. -/
def round (w : World) : World :=
  (w.processes.map (·.pid)).foldl (fun w pid =>
    match w.find? pid with
    | some p => if w.isReady p then w.step p else w
    | none => w) w

/-- Whether some process has a step to make. -/
def isBusy (w : World) : Bool := w.processes.any w.isReady

/-- Lets all processes go on for as long as they can without waiting, up to so many rounds. -/
def settle : Nat → World → World
  | 0, w => w
  | n + 1, w => if w.isBusy then settle n w.round else w

/-- How many rounds are made while no time passes, and how much passes for those who are not done
then. -/
def rounds : Nat := 4000
def busyTime : Nat := 20000000

/-- When the next process wakes up. -/
def nextWake? (w : World) : Option Instant :=
  let wake? (p : Process) : Option Instant :=
    if p.isStopped then none
    else
      match p.activity with
      | .sleeping wake => some wake
      | .watching watch => watchWake? watch
      | _ => none
  w.processes.foldl (fun next p =>
    match wake? p, next with
    | none, next => next
    | some wake, none => some wake
    | some wake, some earliest => if wake ≤ earliest then some wake else next) none

/-- Lets time pass until something holds, up to a moment, for so many wake-ups. -/
def waitUntil (holds : World → Bool) (limit : Instant) : Nat → World → World
  | 0, w => w
  | n + 1, w =>
    let w := settle rounds w
    if holds w then w
    else
      let wake := if w.isBusy then some ⟨w.now.nanos + busyTime⟩ else w.nextWake?
      match wake with
      | some wake =>
        if limit ≤ wake then { w with now := if limit ≤ w.now then w.now else limit }
        else waitUntil holds limit n { w with now := wake }
      | none => { w with now := if limit ≤ w.now then w.now else limit }

/-- How many wake-ups are waited for. -/
def wakes : Nat := 100000

/-- Lets time pass until something holds, up to a moment; what happens at that moment still counts. -/
def await (w : World) (limit : Instant) (holds : World → Bool) : World :=
  let w := waitUntil holds limit wakes w
  if holds w then w else settle rounds w

end ClockWarden.Rehearsal.World
