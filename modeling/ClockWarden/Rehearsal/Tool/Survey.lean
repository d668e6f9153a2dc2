import ClockWarden.Rehearsal.Tool.FileWork
import ClockWarden.Shell.Pattern

/-! The programs that seek files and tell about them. -/

namespace ClockWarden.Rehearsal

open Host Shell

/-- What is asked of a file that is found. -/
inductive Query where
  | always
  | named (shapes : List Shape) (ignoresCase : Bool)
  | placed (shapes : List Shape)
  | ofKind (letters : Bytes)
  | empty
  | executable
  | shown (ending : UInt8)
  | deleted
  | denied (inner : Query)
  | both (first second : Query)
  | either (first second : Query)

namespace Query

/-- The letter of a kind of file. -/
def kind : Node → UInt8
  | .directory => 0x64
  | .link _ | .stream .. => 0x6C
  | .device => 0x63
  | .file .. | .program _ => 0x66

/-- Whether something is done with what is found; it is shown otherwise. -/
def acts : Query → Bool
  | shown _ | deleted => true
  | denied inner => inner.acts
  | both first second | either first second => first.acts || second.acts
  | _ => false

/-- What is found, and what was done so far. -/
structure Finding where
  path : Path
  location : Location
  node : Node
  files : Files
  output : Bytes := []

/-- Asks a query about a file. -/
def ask : Query → Finding → Bool × Finding
  | always, f => (true, f)
  | named shapes ignoresCase, f =>
    let name := ((ToolCall.trimmedPath f.path).segments.getLast?).getD []
    (Shape.fits shapes (if ignoresCase then name.map fun b =>
      if 0x41 ≤ b ∧ b ≤ 0x5A then b + 32 else b else name), f)
  | placed shapes, f => (Shape.fits shapes f.path, f)
  | ofKind letters, f => (letters.contains (kind f.node), f)
  | empty, f =>
    (match f.node with
      | .file content _ => content.isEmpty
      | .directory => (f.files.names f.location).isEmpty
      | _ => false, f)
  | executable, f =>
    (match f.node with
      | .file _ mode => Node.isExecutable mode
      | .device => false
      | _ => true, f)
  | shown ending, f => (true, { f with output := f.output ++ f.path ++ [ending] })
  | deleted, f => (true, { f with files := f.files.eraseAll f.location })
  | denied inner, f =>
    let (holds, f) := inner.ask f
    (!holds, f)
  | both first second, f =>
    let (holds, f) := first.ask f
    if holds then second.ask f else (false, f)
  | either first second, f =>
    let (holds, f) := first.ask f
    if holds then (true, f) else second.ask f

/-- The shapes of a pattern. -/
def shapesOf (text : Bytes) : List Shape :=
  let rec marked : Bytes → List Marked
    | 0x5C :: b :: rest => (b, true) :: marked rest
    | b :: rest => (b, false) :: marked rest
    | [] => []
  Shape.pattern (marked text)

mutual

/-- Reads queries of which one has to hold. -/
def alternatives : Nat → List Bytes → Except Bytes (Query × List Bytes)
  | 0, _ => .error (ascii "too long")
  | n + 1, words => do
    let (first, rest) ← conditions n words
    match rest with
    | word :: rest =>
      if word = ascii "-o" ∨ word = ascii "-or" then
        let (second, rest) ← alternatives n rest
        return (.either first second, rest)
      else return (first, word :: rest)
    | [] => return (first, [])

/-- Reads queries of which all have to hold. -/
def conditions : Nat → List Bytes → Except Bytes (Query × List Bytes)
  | 0, _ => .error (ascii "too long")
  | n + 1, words => do
    let (first, rest) ← single n words
    match rest with
    | [] => return (first, [])
    | word :: others =>
      if word ∈ [ascii "-o", ascii "-or", [0x29]] then return (first, rest)
      else
        let (second, rest) ← conditions n (if word = ascii "-a" ∨ word = ascii "-and" then others else rest)
        return (.both first second, rest)

/-- Reads one query. -/
def single : Nat → List Bytes → Except Bytes (Query × List Bytes)
  | 0, _ => .error (ascii "too long")
  | n + 1, words =>
    match words with
    | [] => .ok (.always, [])
    | word :: rest =>
      let valued (make : Bytes → Except Bytes Query) : Except Bytes (Query × List Bytes) :=
        match rest with
        | value :: rest => (make value).map fun query => (query, rest)
        | [] => .error (ascii "missing argument to \x60" ++ word ++ [0x27])
      match wordText word with
      | "!" | "-not" => do
        let (inner, rest) ← single n rest
        return (.denied inner, rest)
      | "(" => do
        let (inner, rest) ← alternatives n rest
        match rest with
        | [0x29] :: rest => return (inner, rest)
        | _ => throw (ascii "invalid expression; I was expecting to find a ')' somewhere but did not see one.")
      | "-name" => valued fun value => .ok (.named (shapesOf value) false)
      | "-iname" => valued fun value => .ok (.named (shapesOf (value.map fun b =>
          if 0x41 ≤ b ∧ b ≤ 0x5A then b + 32 else b)) true)
      | "-path" | "-wholename" => valued fun value => .ok (.placed (shapesOf value))
      | "-type" => valued fun value =>
        let letters := value.filter (· ≠ 0x2C)
        match letters.find? fun b => !(ascii "fdlcbps").contains b with
        | some b => .error (ascii "Unknown argument to -type: " ++ [b])
        | none => .ok (.ofKind letters)
      | "-maxdepth" | "-mindepth" => valued fun value =>
        if (numeral? value).isSome then .ok .always
        else
          .error (ascii "Expected a positive decimal integer argument to " ++ word ++ ascii ", but got " ++
            quoted value)
      | "-empty" => .ok (.empty, rest)
      | "-executable" => .ok (.executable, rest)
      | "-true" => .ok (.always, rest)
      | "-false" => .ok (.denied .always, rest)
      | "-print" => .ok (.shown lineBreak, rest)
      | "-print0" => .ok (.shown 0, rest)
      | "-delete" => .ok (.deleted, rest)
      | _ =>
        if word.head? = some 0x2D then .error (ascii "unknown predicate \x60" ++ word ++ [0x27])
        else .error (ascii "paths must precede expression: \x60" ++ word ++ [0x27])

end

end Query

namespace ToolCall

/-- The number behind a word among others. -/
def depthOf? (word : String) : List Bytes → Option Nat
  | first :: second :: rest =>
    if first = ascii word then numeral? second else depthOf? word (second :: rest)
  | _ => none

def find (c : ToolCall) : Progress :=
  let isPath (word : Bytes) : Bool := word.head? ≠ some 0x2D && word ≠ [0x28] && word ≠ [0x21]
  let paths := c.arguments.takeWhile isPath
  let words := c.arguments.drop paths.length
  let paths := if paths.isEmpty then [[Path.dot]] else paths
  match Query.alternatives (4 * words.length + 8) words with
  | .error text => c.fail text
  | .ok (query, _) =>
    let query := if query.acts then query else .both query (.shown lineBreak)
    let most := depthOf? "-maxdepth" words
    let least := (depthOf? "-mindepth" words).getD 0
    let (w, said) := paths.foldl (fun (w, said) path =>
      let c := { c with world := w }
      match c.look path false with
      | .error cause => (w, said ++ [c.complained (quoted path ++ because cause)])
      | .ok (here, node) =>
        let all := path :: (if node = .directory then
          below (w.filesFor c.process path) path here false else [])
        let isDeep (found : Path) : Bool :=
          let depth := (found.drop path.length).count Path.slash
          let depth := if path.getLast? = some Path.slash ∧ found ≠ path then depth + 1 else depth
          least ≤ depth && (most.map fun most => decide (depth ≤ most)).getD true
        -- What is in a directory goes away before the directory does.
        let chosen := all.filter isDeep
        let ordered := if words.contains (ascii "-delete") then chosen.reverse else chosen
        let (files, output) := ordered.foldl (fun (files, output) found =>
          match ({ c with world := { w with files } }).look found false with
          | .ok (location, node) =>
            let (_, f) := query.ask ⟨found, location, node, files, output⟩
            (f.files, f.output)
          | .error _ => (files, output)) (w.files, ([] : Bytes))
        ({ w with files }, said ++ [Utterance.shown output])) (c.world, ([] : List Utterance))
    { c with world := w }.conclude said 1

/-- The name of a kind of file. -/
def kindName : Node → String
  | .directory => "directory"
  | .file content _ => if content.isEmpty then "regular empty file" else "regular file"
  | .program _ => "regular file"
  | .device => "character special file"
  | .link _ | .stream .. => "symbolic link"

/-- The mode of a file. -/
def modeOfNode : Node → Nat
  | .directory | .program _ => 0o755
  | .file _ mode => mode
  | .device => 0o666
  | .link _ | .stream .. => 0o777

/-- What is told about a file in the place of a letter. -/
def fact (path : Path) (node : Node) (letter : UInt8) : Bytes :=
  let mode := modeOfNode node
  match Char.ofNat letter.toNat with
  | 'n' => path
  | 'N' =>
    match node with
    | .link target => quoted path ++ ascii " -> " ++ quoted target
    | _ => quoted path
  | 's' =>
    match node with
    | .file content _ => Session.decimal content.length
    | .link target => Session.decimal target.length
    | .directory => ascii "4096"
    | _ => ascii "0"
  | 'F' => ascii (kindName node)
  | 'a' => digitsIn 8 false mode
  | 'A' =>
    let letter := Query.kind node
    (if letter = 0x66 then [0x2D] else [letter]) ++ rightLine mode
  | 'h' => ascii "1"
  | 'U' | 'G' => ascii "user"
  | 'u' | 'g' => ascii "1000"
  | '%' => [0x25]
  | _ => [0x3F]
where
  /-- All nine rights, those that are not given as dashes. -/
  rightLine (mode : Nat) : Bytes :=
    (List.range 9).map fun i =>
      if Nat.testBit mode (8 - i) then ((ascii "rwxrwxrwx")[i]?).getD 0x2D else 0x2D

/-- A text about a file after a format. -/
def facts (path : Path) (node : Node) : Bytes → Bytes
  | 0x25 :: letter :: rest => fact path node letter ++ facts path node rest
  | b :: rest => b :: facts path node rest
  | [] => []

def stat (c : ToolCall) : Progress :=
  let long := [("format", 'c'), ("printf", 'P'), ("dereference", 'L')]
  c.withOptions { plain := "Lft", valued := "cP", long } fun o =>
    if o.rest.isEmpty then c.needsOperand
    else
      let format : Bytes := match o.value? 'P' with
        | some format => (unescaped false (format.length + 1) format).1
        | none => (o.value? 'c').getD (ascii "%n %s %F") ++ [lineBreak]
      c.conclude (o.rest.map fun path =>
        match c.look path (o.has 'L') with
        | .ok (_, node) => .shown (facts path node format)
        | .error cause => c.complained (ascii "cannot statx " ++ quoted path ++ because cause)) 1

end ToolCall

end ClockWarden.Rehearsal
