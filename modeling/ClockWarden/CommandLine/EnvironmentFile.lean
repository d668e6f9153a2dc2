import ClockWarden.Host.Environment
import ClockWarden.Text.Alphanumeric
import ClockWarden.Text.Blank

/-! Environment files: lines that bind names to values, for names that are not bound yet. A value may be
quoted and may use the values of other names. The first line that makes no sense ends the reading,
and what was read before it stays. -/

namespace ClockWarden.CommandLine.EnvironmentFile

open Host

/-- A line that makes no sense. -/
inductive Senseless where
  | senseless
deriving DecidableEq, Repr

/-- How a character of a value is read. -/
inductive Mode where
  | bare
  | singleQuoted
  | doubleQuoted
  | escaped (inQuotes : Bool)
  /-- After a dollar sign: the name of a value, last character first. -/
  | name (text : List Char) (inQuotes : Bool)
  | braced (text : List Char) (inQuotes : Bool)
  /-- After the value: only blanks and a comment may follow. -/
  | ended
  | comment
deriving DecidableEq

/-- A value that is being read, last character first, and how the next character is read. -/
structure Draft where
  text : List Char := []
  mode : Mode := .bare

/-- The values that a line may use. -/
abbrev Values := List Char → List Char

namespace Draft

def put (d : Draft) (c : Char) (mode : Mode) : Draft := ⟨c :: d.text, mode⟩

/-- Puts the value of a name. -/
def use (values : Values) (d : Draft) (name : List Char) (mode : Mode) : Draft :=
  ⟨(values name.reverse).reverse ++ d.text, mode⟩

def outer (inQuotes : Bool) : Mode := if inQuotes then .doubleQuoted else .bare

/-- Reads a character of a value. A name ends at the first character that no name can hold; that
character stands for itself, unless it is a dollar sign. -/
def feed (values : Values) (d : Draft) (c : Char) : Except Senseless Draft :=
  match d.mode with
  | .comment => .ok d
  | .ended =>
    if c = ' ' ∨ c = '\t' then .ok d
    else if c = '#' then .ok { d with mode := .comment }
    else .error .senseless
  | .escaped inQuotes =>
    if c ∈ ['\\', '\'', '"', '$', ' '] then .ok (d.put c (outer inQuotes))
    else if c = 'n' then .ok (d.put '\n' (outer inQuotes))
    else .error .senseless
  | .singleQuoted => .ok (if c = '\'' then { d with mode := .bare } else d.put c .singleQuoted)
  | .name text inQuotes =>
    if Text.isAlphanumeric c then .ok { d with mode := .name (c :: text) inQuotes }
    else if c = '\x7b' ∧ text = [] then .ok { d with mode := .braced [] inQuotes }
    else if c = '$' then .ok (d.use values text (.name [] inQuotes))
    else .ok ((d.use values text (outer inQuotes)).put c (outer inQuotes))
  | .braced text inQuotes =>
    if c = '\x7d' then .ok (d.use values text (outer inQuotes))
    else .ok { d with mode := .braced (c :: text) inQuotes }
  | .doubleQuoted =>
    .ok (match c with
      | '$' => { d with mode := .name [] true }
      | '"' => { d with mode := .bare }
      | '\\' => { d with mode := .escaped true }
      | c => d.put c .doubleQuoted)
  | .bare =>
    .ok (match c with
      | '$' => { d with mode := .name [] false }
      | '\'' => { d with mode := .singleQuoted }
      | '"' => { d with mode := .doubleQuoted }
      | '\\' => { d with mode := .escaped false }
      | ' ' | '\t' => { d with mode := .ended }
      | c => d.put c .bare)

/-- The value that ends here. -/
def finish (values : Values) (d : Draft) : Except Senseless (List Char) :=
  match d.mode with
  | .singleQuoted | .doubleQuoted | .braced .. => .error .senseless
  | .escaped true | .name _ true => .error .senseless
  | .name text false => .ok (d.use values text .bare).text.reverse
  | _ => .ok d.text.reverse

end Draft

/-- Reads a value. -/
def value (values : Values) (text : List Char) : Except Senseless (List Char) := do
  let draft ← text.foldlM (Draft.feed values) {}
  draft.finish values

/-- Reads a name. -/
def name (text : List Char) : Except Senseless (List Char × List Char) :=
  let isLetter (c : Char) : Bool := c.isAlpha || c = '_'
  let isNamed (c : Char) : Bool := c.isAlphanum || c = '_' || c = '.'
  match text with
  | [] => .error .senseless
  | first :: _ =>
    if isLetter first then .ok (text.takeWhile isNamed, Text.trimStart (text.dropWhile isNamed))
    else .error .senseless

/-- Takes the equals sign after a name. -/
def equals : List Char → Except Senseless (List Char)
  | '=' :: rest => .ok (Text.trimStart rest)
  | _ => .error .senseless

/-- Reads a line: a name and its value, unless it is empty or a comment. The word before a name that
says that the name is exported means nothing. -/
def line (values : Values) (text : List Char) : Except Senseless (Option (List Char × List Char)) := do
  let text := Text.trim text
  if text = [] ∨ text.head? = some '#' then return none
  let (first, rest) ← name text
  let (key, rest) ← match equals rest with
    | .ok rest => pure (first, rest)
    | .error fault =>
      if first = "export".toList then do
        let (key, rest) ← name rest
        pure (key, ← equals rest)
      else throw fault
  if rest = [] ∨ rest.head? = some '#' then return some (key, [])
  return some (key, ← value values rest)

/-- What has been read of a file: the environment so far, and the values of its own lines. -/
structure Progress where
  environment : Environment
  values : List (List Char × List Char) := []

namespace Progress

/-- The text that the environment has for a name. -/
def known? (p : Progress) (name : List Char) : Option (List Char) :=
  (p.environment.find? (Utf8.encode (String.ofList name))).bind fun bytes =>
    (Utf8.decode? bytes).map String.toList

/-- The value that a line finds under a name: the environment's, else that of an earlier line. -/
def value (p : Progress) (name : List Char) : List Char :=
  match p.known? name with
  | some text => text
  | none => (p.values.lookup name).getD []

/-- Binds a name, unless the environment has a text for it. -/
def bind (p : Progress) (name value : List Char) : Progress where
  environment := match p.known? name with
    | some _ => p.environment
    | none => p.environment.set (Utf8.encode (String.ofList name)) (Utf8.encode (String.ofList value))
  values := (name, value) :: p.values

end Progress

/-- Reads lines for as long as they make sense. -/
def lines (p : Progress) : List Bytes → Progress
  | [] => p
  | bytes :: rest =>
    match Utf8.decode? bytes with
    | none => p
    | some text =>
      match line p.value text.toList with
      | .error _ => p
      | .ok none => lines p rest
      | .ok (some (name, value)) => lines (p.bind name value) rest

/-- The lines of a file. -/
def linesOf (content : Bytes) : List Bytes :=
  let parts : List Bytes := content.foldr (fun b parts =>
    if b = 0x0A then [] :: parts
    else
      match parts with
      | first :: others => (b :: first) :: others
      | [] => [[b]]) [[]]
  let kept := if parts.getLast? = some [] then parts.dropLast else parts
  kept.map fun part => if part.getLast? = some 0x0D then part.dropLast else part

/-- The environment with what a file adds to it. -/
def extend (environment : Environment) (content : Bytes) : Environment :=
  (lines { environment } (linesOf content)).environment

end ClockWarden.CommandLine.EnvironmentFile
