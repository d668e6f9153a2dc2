import ClockWarden.Control.Endpoint
import ClockWarden.Service.Opening
import ClockWarden.Supervisor.Operation

/-! The run of the control program after it has begun. It launches the managed process, listens, serves
requests until it is asked to stop, and stops the managed process, in this order. A launch that fails
does not keep it from serving, for a later request may succeed; an address that it cannot listen at
ends the run, but the managed process is stopped all the same. -/

namespace ClockWarden.Service

open Host Supervisor

/-- How a run ends. -/
inductive Outcome where
  | stopped
  | failed (failure : Control.Failure)
  /-- The clock could not count as far as the deadline of the last stop. -/
  | overflowed

/-- What a run has still to do. -/
inductive Stage where
  /-- The managed process is launched for the first time. -/
  | launching (underway : Operation.Underway)
  | binding (warden : Warden)
  | serving (warden : Warden)
  /-- A request is being carried out. -/
  | attending (demand : Control.Demand) (underway : Operation.Underway)
  | responding (warden : Warden) (response : Option Http.Response)
  /-- The managed process is stopped for good. -/
  | stopping (underway : Operation.Underway) (served : Except Control.Failure Unit)
  /-- What is left of it is let go of. -/
  | closing (discard : Discard) (outcome : Outcome)

/-- A run of the program. -/
structure Run where
  setup : Setup
  stage : Stage

namespace Run

def target : String := "time_controller"
def serverTarget : String := "time_controller::server"

/-- The log entries at the beginning. -/
def opening (deployment : Deployment) : List Log.Entry :=
  [.starting ("time controller for " ++ deployment.resolvedProgram.text),
    ⟨.debug, target, "Managed process config: " ++ deployment.report, none⟩]

/-- The log entry of a server that listens. -/
def listening (address : Net.SocketAddress) : Log.Entry :=
  ⟨.info, serverTarget, "🌐 Time controller listening on http://" ++ address.text, none⟩

/-- The log entry of a request to stop. -/
def asked (signal : Signal) : Log.Entry :=
  .shuttingDown (if signal = .interrupt then "Received Ctrl+C signal" else "Received SIGTERM")

/-- The log entry of the first launch. -/
def launchEntry : Operation.Reply → Log.Entry
  | .launched (.ok confirmation) => .succeeded confirmation.message
  | .launched (.error failure) => .failed "Initial launch" failure.message
  | _ => .failed "Initial launch" Operation.overflowText

/-- The response to a request that has been carried out; one that broke off gets none. -/
def response (demand : Control.Demand) (reply : Operation.Reply) : Option Http.Response :=
  match demand, reply with
  | .answered response, _ => some response
  | .status isHead, .told status => some (Control.statusResponse isHead status)
  | .restart _, .launched result => some (Control.restartResponse result)
  | _, _ => none

/-- Goes on to a stage. -/
def goOn (r : Run) (stage : Stage) : Turn Run Outcome := .goOn [] { r with stage }

/-- Lets go of a warden, and ends. -/
def close (r : Run) (warden : Warden) (outcome : Outcome) : Turn Run Outcome :=
  warden.drop.within (fun d => { r with stage := .closing d outcome }) fun _ => .finish [] outcome

/-- The last stop has come to its end. -/
def ended (r : Run) (served : Except Control.Failure Unit) : Operation.Result → Turn Run Outcome
  | (warden, .overflowed) => r.close warden .overflowed
  | (warden, reply) =>
    let failed : List Log.Entry := match reply with
      | .stopped (.error failure) => [.failed "Stopping managed process" failure.message]
      | _ => []
    match served with
    | .error failure => (r.close warden (.failed failure)).after failed
    | .ok () =>
      (r.close warden .stopped).after
        (failed ++ [.succeeded "Time controller stopped gracefully"])

/-- Begins the last stop. -/
def stop (r : Run) (warden : Warden) (served : Except Control.Failure Unit) :
    Turn Run Outcome :=
  (Operation.start warden .shutdown).within (fun u => { r with stage := .stopping u served })
    (r.ended served)

/-- The first launch has come to its end. -/
def launched (r : Run) : Operation.Result → Turn Run Outcome
  | (warden, reply) => (r.goOn (.binding warden)).after [launchEntry reply]

/-- The address has been tried. -/
def bound (r : Run) (warden : Warden) : Except Error Net.SocketAddress → Turn Run Outcome
  | .ok address => (r.goOn (.serving warden)).after [listening address]
  | .error cause => r.stop warden (.error (.startup r.setup.settings.bind cause))

/-- A request has been carried out. -/
def attended (r : Run) (demand : Control.Demand) : Operation.Result → Turn Run Outcome
  | (warden, reply) => r.goOn (.responding warden (response demand reply))

/-- Carries out an operation for a request. -/
def attend (r : Run) (warden : Warden) (demand : Control.Demand) (operation : Operation) :
    Turn Run Outcome :=
  (Operation.start warden operation).within (fun u => { r with stage := .attending demand u })
    (r.attended demand)

/-- Something has come to the server. -/
def came (r : Run) (warden : Warden) : Event → Turn Run Outcome
  | .signal signal => (r.stop warden (.ok ())).after [asked signal]
  | .broken cause => r.stop warden (.error (.host cause))
  | .request request =>
    match Control.Demand.ofRequest request with
    | .answered response => r.goOn (.responding warden (some response))
    | .status isHead => r.attend warden (.status isHead) .tellStatus
    | .restart time =>
      (r.attend warden (.restart time) (.restartWith (some time.text))).after
        [Control.requested time]

/-- The call that a stage makes. -/
def call (r : Run) : Call :=
  match r.stage with
  | .launching underway => underway.call
  | .binding _ => .listen r.setup.settings.bind
  | .serving _ => .nextEvent
  | .attending _ underway => underway.call
  | .responding _ response => .respond response
  | .stopping underway _ => underway.call
  | .closing discard _ => discard.call

/-- What comes after an answer of the host. -/
def receive (r : Run) (answer : r.call.Answer) : Turn Run Outcome :=
  match r, answer with
  | ⟨setup, .launching underway⟩, answer =>
    let r : Run := ⟨setup, .launching underway⟩
    (underway.receive answer).within (fun u => { r with stage := .launching u }) r.launched
  | ⟨setup, .binding warden⟩, answer => bound ⟨setup, .binding warden⟩ warden answer
  | ⟨setup, .serving warden⟩, event => came ⟨setup, .serving warden⟩ warden event
  | ⟨setup, .attending demand underway⟩, answer =>
    let r : Run := ⟨setup, .attending demand underway⟩
    (underway.receive answer).within (fun u => { r with stage := .attending demand u })
      (r.attended demand)
  | ⟨setup, .responding warden response⟩, _ =>
    goOn ⟨setup, .responding warden response⟩ (.serving warden)
  | ⟨setup, .stopping underway served⟩, answer =>
    let r : Run := ⟨setup, .stopping underway served⟩
    (underway.receive answer).within (fun u => { r with stage := .stopping u served })
      (r.ended served)
  | ⟨setup, .closing discard outcome⟩, answer =>
    let r : Run := ⟨setup, .closing discard outcome⟩
    (discard.receive answer).within (fun d => { r with stage := .closing d outcome })
      fun _ => .finish [] outcome

/-- How runs go on. -/
def machine : Machine Run Outcome := ⟨call, receive⟩

/-- The warden of a run, as it begins. -/
def warden (setup : Setup) : Warden := { deployment := setup.settings.deployment }

/-- The first turn of a run. -/
def start (setup : Setup) : Turn Run Outcome :=
  let s := warden setup
  let r : Run := ⟨setup, .binding s⟩
  ((Operation.start s .launchInitial).within (fun u => { r with stage := .launching u })
    r.launched).after (opening s.deployment)

end Run

/-- The end of a run, for whoever started the program. -/
def Ending.ofOutcome : Outcome → Ending
  | .stopped => { exitCode := 0 }
  | .failed failure => .ofFailure failure
  | .overflowed => { exitCode := 101, complaint := Operation.overflowText ++ "\n" }

/-- The lines that the log of a run shows. -/
def logLines (setup : Setup) (time : Calendar.Timestamp) (entries : List Log.Entry) : List String :=
  (entries.filter setup.filter.allows).map fun e => e.line .controller time

end ClockWarden.Service
