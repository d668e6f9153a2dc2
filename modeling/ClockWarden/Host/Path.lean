import ClockWarden.Text.Utf8

/-! Paths as bytes, and their components. Two paths are alike when their components are: doubled and
trailing slashes do not count, and a dot counts only at the front of a relative path. -/

namespace ClockWarden.Host

/-- A path is any string of bytes; a slash parts its components. -/
abbrev Path := Bytes

namespace Path

/-- What a path is made of. -/
inductive Component where
  | root
  | here
  | parent
  | name (bytes : Bytes)
deriving DecidableEq, Repr

def slash : UInt8 := 0x2F
def dot : UInt8 := 0x2E

def isAbsolute (p : Path) : Bool := p.head? = some slash

/-- The strings between the slashes of a path. -/
def segments : Path → List Bytes
  | [] => [[]]
  | b :: rest =>
    if b = slash then [] :: segments rest
    else
      match segments rest with
      | [] => [[b]]
      | first :: others => (b :: first) :: others

/-- A segment within a path; empty ones and dots say nothing there. -/
def component? (segment : Bytes) : Option Component :=
  if segment = [] then none
  else if segment = [dot] then none
  else if segment = [dot, dot] then some .parent
  else some (.name segment)

/-- The components of a path. -/
def components (p : Path) : List Component :=
  let inner := (segments p).filterMap component?
  if p.isAbsolute then .root :: inner
  else if (segments p).head? = some [dot] then .here :: inner
  else inner

/-- Paths are alike when their components are. -/
def Alike (p q : Path) : Prop := p.components = q.components

instance (p q : Path) : Decidable (Alike p q) := inferInstanceAs (Decidable (_ = _))

/-- The path that `p` names when it is read from the directory `base`. -/
def join (base p : Path) : Path :=
  if p.isAbsolute then p
  else if base = [] ∨ base.getLast? = some slash then base ++ p
  else base ++ slash :: p

/-- The text of a path, for people. -/
def text (p : Path) : String := Utf8.decodeLossy p

end Path

end ClockWarden.Host
