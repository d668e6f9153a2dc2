import ClockWarden.Log.Entry
import ClockWarden.Log.Pattern
import ClockWarden.Text.Cut
import ClockWarden.Text.Number
import ClockWarden.Text.Split

/-! Which entries of a log are written. A filter is a list of directives, each with a level for the
components whose names begin as it says. The most specific directive that fits an entry decides, and an
entry that none fits is not written. -/

namespace ClockWarden.Log

/-- What a directive lets through: everything up to a level, or nothing. -/
structure Threshold where
  rank : Nat
deriving DecidableEq, Repr

namespace Threshold

def off : Threshold := ⟨0⟩
def everything : Threshold := ⟨5⟩

def allows (t : Threshold) (level : Level) : Bool := level.rank ≤ t.rank

/-- The threshold that a word stands for: a number up to five, or a name in any case. -/
def ofWord? (word : String) : Option Threshold :=
  match Text.natural 64 word.toList with
  | .ok n => if n ≤ 5 then some ⟨n⟩ else none
  | .error _ =>
    match String.ofList (word.toList.map Char.toLower) with
    | "off" => some ⟨0⟩
    | "error" => some ⟨1⟩
    | "warn" => some ⟨2⟩
    | "info" => some ⟨3⟩
    | "debug" => some ⟨4⟩
    | "trace" => some ⟨5⟩
    | _ => none

end Threshold

/-- Why a text is no filter. -/
inductive FilterFault where
  | badDirective
  | badLevel
  | badField (fault : PatternFault)
deriving DecidableEq, Repr

def FilterFault.message : FilterFault → String
  | .badDirective => "invalid filter directive"
  | .badLevel => "error parsing level filter: expected one of \"off\", \"error\", \"warn\", \"info\", " ++
      "\"debug\", \"trace\", or a number 0-5"
  | .badField fault => "invalid field filter: " ++ fault.message

/-- A field that an entry must have, and whether its value is compared. -/
structure FieldFilter where
  name : String
  hasValue : Bool
deriving DecidableEq, Repr

/-- Reads a field: its name, and the value behind an equals sign. -/
def FieldFilter.ofText (text : String) : Except FilterFault FieldFilter :=
  if text = "" then .error .badDirective
  else
    match text.splitOn "=" with
    | name :: value :: _ =>
      match valueFault? value with
      | none => .ok ⟨name, true⟩
      | some fault => .error (.badField fault)
    | _ => .ok ⟨text, false⟩

/-- A directive: the components and the span that it speaks of, the fields that an entry must have,
and the level. -/
structure Directive where
  target : Option String := none
  span : Option String := none
  fields : List FieldFilter := []
  threshold : Threshold := .everything
deriving DecidableEq, Repr

namespace Directive

/-- Where the reading of a directive stands; the numbers are positions in bytes. -/
inductive Stage where
  | start
  | word (first : Nat)
  | span (first : Nat)
  | field (first : Nat)
  | afterField
  | afterSpan
  | level (first : Nat)

/-- A part of a text by positions in bytes. -/
def slice (text : String) (first last : Nat) : Except (Misreading FilterFault) String :=
  match Text.cut? first text.toList with
  | none => .error (.torn ⟨text, first⟩)
  | some (_, behind) =>
    match Text.cut? (last - first) behind with
    | none => .error (.torn ⟨text, last⟩)
    | some (part, _) => .ok (String.ofList part)

/-- Takes one character at a position. -/
def step (text : String) (d : Directive) (stage : Stage) (i : Nat) (c : Char) :
    Except (Misreading FilterFault) (Directive × Stage) :=
  match stage with
  | .start =>
    if c = '[' then .ok (d, .span (i + 1))
    else if c = '-' || c = ':' || c = '_' || Text.isAlphanumeric c then .ok (d, .word i)
    else .error (.refused .badDirective)
  | .word first =>
    if c = '=' then do
      let target ← slice text first i
      .ok ({ d with target := some target }, .level (i + 1))
    else if c = '[' then do
      let target ← slice text first i
      .ok ({ d with target := some target }, .span (i + 1))
    else .ok (d, stage)
  | .span first =>
    if c = ']' then do
      let span ← slice text first i
      .ok ({ d with span := some span }, .afterSpan)
    else if c = '\x7b' then do
      let span ← slice text first i
      .ok ({ d with span := if span = "" then none else some span }, .field (i + 1))
    else .ok (d, stage)
  | .field first =>
    if c = '\x7d' then do
      let part ← slice text first i
      let field ← (FieldFilter.ofText part).mapError .refused
      .ok ({ d with fields := d.fields ++ [field] }, .afterField)
    else .ok (d, stage)
  | .afterField => if c = ']' then .ok (d, .afterSpan) else .error (.refused .badDirective)
  | .afterSpan => if c = '=' then .ok (d, .level (i + 1)) else .error (.refused .badDirective)
  | .level _ => .ok (d, stage)

/-- Takes the characters of a directive, the first of them at position `i`. -/
def steps (text : String) :
    Directive → Stage → Nat → List Char → Except (Misreading FilterFault) (Directive × Stage)
  | d, stage, _, [] => .ok (d, stage)
  | d, stage, i, c :: rest =>
    match step text d stage i c with
    | .error failure => .error failure
    | .ok (d, stage) => steps text d stage (i + c.utf8Size) rest

/-- Reads a directive. White space around it does not count when its parts are told apart, but its
positions are taken up in the text with the white space. -/
def ofText (text : String) : Except (Misreading FilterFault) Directive := do
  let (d, stage) ← steps text {} .start 0 (Text.trim text.toList)
  let last := Text.width text.toList
  match stage with
  | .word first =>
    let word ← slice text first last
    match Threshold.ofWord? word with
    | some threshold => pure { d with threshold }
    | none => pure { d with target := if word = "" then none else some word }
  | .level first =>
    let word ← slice text first last
    if word = "" then pure d
    else
      match Threshold.ofWord? word with
      | some threshold => pure { d with threshold }
      | none => throw (.refused .badLevel)
  | .afterSpan => pure d
  | _ => throw (.refused .badDirective)

/-- Whether a directive speaks of entries outside all spans, whatever the values of their fields. -/
def isPlain (d : Directive) : Bool := d.span.isNone && !(d.fields.any FieldFilter.hasValue)

def fieldNames (d : Directive) : List String := d.fields.map FieldFilter.name

/-- Whether a directive fits an entry that has fields of the given names. -/
def fits (d : Directive) (e : Entry) (names : List String) : Bool :=
  (match d.target with
    | some target => target.toList.isPrefixOf e.target.toList
    | none => true) && d.fieldNames.all names.contains

/-- The order of lists of names, by the first name that differs. -/
def namesBefore : List String → List String → Bool
  | _, [] => false
  | [], _ :: _ => true
  | a :: as, b :: bs => if a < b then true else if b < a then false else namesBefore as bs

/-- Whether a directive is less specific than another: by the length of its target first, then by the
number of its fields, last by their names. -/
def isWeaker (d other : Directive) : Bool :=
  let length (d : Directive) : Nat := (d.target.map fun t => t.utf8ByteSize + 1).getD 0
  if length d ≠ length other then length d < length other
  else if d.fields.length ≠ other.fields.length then d.fields.length < other.fields.length
  else namesBefore d.fieldNames other.fieldNames

end Directive

/-- A filter: its directives in the order in which they were given. -/
structure Filter where
  directives : List Directive
deriving DecidableEq, Repr

namespace Filter

/-- Reads a filter: directives between commas, of which empty ones are left out. -/
def ofText (text : String) : Except (Misreading FilterFault) Filter := do
  let parts := (Text.splitAt ',' text.toList).filter (· ≠ [])
  let directives ← parts.mapM fun part => Directive.ofText (String.ofList part)
  pure ⟨directives⟩

/-- Of two directives that fit, the one that decides: the more specific one, of two alike the later. -/
def stronger (chosen : Option Directive) (d : Directive) : Option Directive :=
  match chosen with
  | none => some d
  | some best => if d.isWeaker best then some best else some d

/-- Whether an entry is written that has fields of the given names. -/
def allowsWith (f : Filter) (e : Entry) (fieldNames : List String) : Bool :=
  match ((f.directives.filter Directive.isPlain).filter (·.fits e fieldNames)).foldl stronger none with
  | some d => d.threshold.allows e.level
  | none => false

/-- Whether an entry is written. -/
def allows (f : Filter) (e : Entry) : Bool := f.allowsWith e e.fieldNames

end Filter

/-- The text of the filter that a writer's log is given for one base level. -/
def Identity.directives (writer : Identity) (level : String) : String :=
  match writer with
  | .controller =>
    "time_controller=" ++ level ++ ",supervisor=" ++ level ++ ",shared=" ++ level ++
      ",tower_http=" ++ level ++ ",hyper=warn"
  | .embedded => "supervisor=" ++ level ++ ",shared=" ++ level

/-- A log filter that was refused, with the directives that it was made of. -/
structure BadFilter where
  message : String
deriving DecidableEq, Repr

/-- The words of a refused filter. -/
def BadFilter.text (b : BadFilter) : String := "Invalid log filter: " ++ b.message

/-- The filter of a writer's log for a base level. -/
def Identity.filter (writer : Identity) (level : String) : Except (Misreading BadFilter) Filter :=
  let directives := writer.directives level
  match Filter.ofText directives with
  | .ok filter => .ok filter
  | .error (.refused fault) => .error (.refused ⟨directives ++ ": " ++ fault.message⟩)
  | .error (.torn tear) => .error (.torn tear)

end ClockWarden.Log
