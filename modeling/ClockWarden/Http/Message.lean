import ClockWarden.Http.MediaType

/-! Requests and responses, with what the control endpoint looks at. -/

namespace ClockWarden.Http

/-- A request. -/
structure Request where
  method : String
  target : Bytes
  headers : List (Bytes × Bytes)
  body : Bytes
deriving DecidableEq

namespace Request

def colonSlashes : Bytes := Utf8.encode "://"

/-- The target without the scheme and the authority in front of its path, if it has them. -/
def afterAuthority (target : Bytes) : Bytes :=
  if target.head? = some MediaType.slash then target
  else go target
where
  /-- Looks for the end of the scheme. -/
  go : Bytes → Bytes
    | [] => target
    | b :: rest =>
      if colonSlashes.isPrefixOf (b :: rest) then
        let path := (rest.drop 2).dropWhile fun c => c ≠ 0x2F ∧ c ≠ 0x3F ∧ c ≠ 0x23
        if path.head? = some MediaType.slash then path else MediaType.slash :: path
      else go rest

/-- The path of a request, as it was sent. -/
def path (r : Request) : Bytes :=
  (afterAuthority r.target).takeWhile fun b => b ≠ 0x3F ∧ b ≠ 0x23

/-- The value of the first header of a name, whatever its case. -/
def header? (r : Request) (name : String) : Option Bytes :=
  (r.headers.find? fun (n, _) => n.map MediaType.lower = Utf8.encode name).map (·.2)

/-- Whether the body is said to be JSON. A header with bytes that cannot be seen says nothing. -/
def hasJson (r : Request) : Bool :=
  match r.header? "content-type" with
  | none => false
  | some value =>
    value.all (fun b => b = 0x09 || (0x20 ≤ b && b < 0x7F)) &&
      ((MediaType.ofBytes? value).map MediaType.isJson).getD false

end Request

/-- A response. The length of the content is that of the body, or of the body that was left out. -/
structure Response where
  status : Nat
  allow : Option String := none
  contentType : Option String := none
  contentLength : Nat
  body : String
deriving DecidableEq

namespace Response

/-- A response with a JSON body. -/
def json (status : Nat) (body : String) : Response :=
  ⟨status, none, some "application/json", body.utf8ByteSize, body⟩

/-- A response without a body. -/
def empty (status : Nat) (allow : Option String) : Response := ⟨status, allow, none, 0, ""⟩

/-- The response with its body left out. -/
def headersOnly (r : Response) : Response := { r with body := "" }

end Response

end ClockWarden.Http
