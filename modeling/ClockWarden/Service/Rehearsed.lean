import ClockWarden.Rehearsal.Kernel
import ClockWarden.Service.Run

/-! A run of the control program on a rehearsed host, with requests that are known beforehand. After the
last of them the program is asked to stop. -/

namespace ClockWarden.Service

open Host

/-- The request that a line stands for: a method, a target, and a JSON body if more follows. -/
def requestOfLine (line : String) : Http.Request :=
  let parts := Text.splitAt ' ' line.toList
  let body := [' '].intercalate (parts.drop 2)
  { method := String.ofList ((parts.head?).getD [])
    target := Utf8.encode (String.ofList ((parts[1]?).getD []))
    headers := if body = [] then []
      else [(Utf8.encode "content-type", Utf8.encode "application/json")]
    body := Utf8.encode (String.ofList body) }

/-- The line of a response. -/
def responseLine : Option Http.Response → String
  | some response => toString response.status ++ " " ++ response.body
  | none => "closed"

/-- What a rehearsed run shows: its log, its responses and its end. -/
structure Show where
  log : List String
  responses : List String
  ending : Ending

/-- Where a rehearsed host begins: at midnight of the first day of a year. -/
def firstMoment : Calendar.Timestamp := ⟨⟨2000, 1, 1, by decide⟩, ⟨0, 0, by decide⟩⟩

/-- Runs the program on a rehearsed host. -/
def rehearse (setup : Setup) (environment : Environment) (requests : List Http.Request) : Show :=
  let world : Rehearsal.World :=
    { date := firstMoment, environment,
      events := requests.map Event.request ++ [.signal .terminate] }
  let (outcome, r) := (Rehearsal.run Run.machine (Run.start setup)).run ⟨world, []⟩
  { log := logLines setup firstMoment r.log.reverse
    responses := r.world.responses.reverse.map responseLine
    ending := (outcome.map Ending.ofOutcome).getD { exitCode := 1, complaint := "No answer\n" } }

end ClockWarden.Service
