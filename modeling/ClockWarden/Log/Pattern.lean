import ClockWarden.Text.Alphanumeric
import ClockWarden.Text.Blank

/-! Patterns for the values of fields: regular expressions, of which a filter has to know whether they
can be matched at all. Only their form is looked at here. Classes of characters that would need tables
of all scripts are not at hand, so digits, blanks and letters can be named by a class only where bytes
are matched, and the same holds for the case of letters. -/

namespace ClockWarden.Log

/-- Why a pattern cannot be matched. -/
inductive PatternFault where
  /-- The pattern is ill-formed, goes too deep, or speaks of more than is at hand. -/
  | malformed
  /-- The pattern asks for the borders of words, which no automaton finds. -/
  | wordBorder
deriving DecidableEq, Repr

def PatternFault.message : PatternFault → String
  | .malformed => "error building NFA"
  | .wordBorder =>
    "unsupported regex feature for DFAs: cannot build DFAs for regexes with Unicode word " ++
      "boundaries; switch to ASCII word boundaries, or heuristically enable Unicode word boundaries " ++
      "or use a different regex engine"

namespace Pattern

/-- What a part of a pattern may be changed by. -/
structure Flags where
  /-- Characters are matched, not bytes. -/
  isUnicode : Bool := true
  ignoresCase : Bool := false
  /-- Blanks and comments in the pattern mean nothing. -/
  ignoresBlanks : Bool := false
deriving DecidableEq, Repr

/-- Parts of a pattern beside each other: how many there are, and how deep the deepest of them goes. -/
structure Row where
  count : Nat := 0
  deepest : Nat := 0

namespace Row

def add (r : Row) (depth : Nat) : Row := ⟨r.count + 1, max r.deepest depth⟩

/-- How deep the parts go together: where there are several, one level deeper than each of them. -/
def depth (r : Row) : Nat := if 1 < r.count then r.deepest + 1 else r.deepest

end Row

/-- A part of a pattern around a group: its flags, its branches that are complete, and the items of the
branch under way. -/
structure Group where
  flags : Flags
  branches : Row
  items : Row

/-- What has been read of a pattern: the flags, branches and items of the innermost group and of those
around it; how deep the item in front goes if it can be repeated; the names of groups; and whether
borders of words were asked for. -/
structure Progress where
  flags : Flags := {}
  branches : Row := {}
  items : Row := {}
  groups : List Group := []
  last : Option Nat := none
  names : List (List Char) := []
  hasBorder : Bool := false

namespace Progress

/-- Takes an item that can be repeated. -/
def item (p : Progress) (depth : Nat) : Progress :=
  { p with items := p.items.add depth, last := some depth }

/-- How deep the innermost group goes inside. -/
def depth (p : Progress) : Nat := (p.branches.add p.items.depth).depth

end Progress

/-- What is still to be read of a pattern, or nothing if it is ill-formed. -/
abbrev Step := Option (Progress × List Char)

/-- The flag letters that mean something. -/
def flagLetters : List Char := ['i', 'm', 's', 'U', 'u', 'R', 'x']

/-- Characters that stand for themselves behind a backslash. -/
def isMark (c : Char) : Bool := c.toNat < 0x80 && !c.isAlphanum && c ≠ '<' && c ≠ '>'

/-- Letters behind a backslash that stand for a character. -/
def controlLetter? (c : Char) : Option Char :=
  match c with
  | 'a' => some '\x07'
  | 'f' => some '\x0c'
  | 't' => some '\t'
  | 'n' => some '\n'
  | 'r' => some '\r'
  | 'v' => some '\x0b'
  | _ => none

/-- What stands behind a backslash. -/
inductive Escape where
  | char (c : Char)
  /-- A byte by its number, which is not a character where bytes are matched. -/
  | byte (n : Nat)
  /-- A class of digits, blanks or letters, or of all others. -/
  | kind (isNegated : Bool)
  /-- The beginning or the end of the text. -/
  | edge
  | border
deriving DecidableEq, Repr

def hexValue? (c : Char) : Option Nat :=
  if c.isDigit then some (c.toNat - 48)
  else if 'a' ≤ c ∧ c ≤ 'f' then some (c.toNat - 87)
  else if 'A' ≤ c ∧ c ≤ 'F' then some (c.toNat - 55)
  else none

/-- Skips blanks and comments where they mean nothing. -/
def skipBlanks (flags : Flags) (text : List Char) : List Char :=
  if flags.ignoresBlanks then go text else text
where
  go : List Char → List Char
    | [] => []
    | c :: rest => if c = '#' then comment rest else if Text.isBlank c then go rest else c :: rest
  comment : List Char → List Char
    | [] => []
    | c :: rest => if c = '\n' then go rest else comment rest

/-- Reads so many hexadecimal digits. -/
def hexDigits (flags : Flags) : Nat → Nat → List Char → Option (Nat × List Char)
  | 0, value, text => some (value, text)
  | n + 1, value, text =>
    match skipBlanks flags text with
    | [] => none
    | c :: rest => (hexValue? c).bind fun d => hexDigits flags n (16 * value + d) rest

/-- The character with a number, if there is one. -/
def charOf? (n : Nat) : Option Char :=
  if n < 0xD800 ∨ (0xDFFF < n ∧ n < 0x110000) then some (Char.ofNat n) else none

/-- Reads what stands behind a backslash. -/
def escape (flags : Flags) (text : List Char) : Option (Escape × List Char) :=
  match text with
  | [] => none
  | c :: rest =>
    if c = 'x' then
      (hexDigits flags 2 0 rest).map fun (n, rest) => (.byte n, rest)
    else if c = 'u' then
      (hexDigits flags 4 0 rest).bind fun (n, rest) => (charOf? n).map fun c => (.char c, rest)
    else if c = 'U' then
      (hexDigits flags 8 0 rest).bind fun (n, rest) => (charOf? n).map fun c => (.char c, rest)
    else if c ∈ ['d', 's', 'w'] then some (.kind false, rest)
    else if c ∈ ['D', 'S', 'W'] then some (.kind true, rest)
    else if c ∈ ['A', 'z'] then some (.edge, rest)
    else if c ∈ ['b', 'B', '<', '>'] then some (.border, rest)
    else if isMark c then some (.char c, rest)
    else (controlLetter? c).map fun c => (.char c, rest)

/-- Whether a character can be matched where it stands. -/
def matchesChar (flags : Flags) : Bool := !(flags.ignoresCase && flags.isUnicode)

/-- Whether an escape can be matched outside a class. -/
def matchesEscape (flags : Flags) : Escape → Bool
  | .char _ => matchesChar flags
  | .byte n => matchesChar flags && (flags.isUnicode || n < 0x80)
  | .kind isNegated => !flags.isUnicode && !isNegated
  | .edge | .border => true

/-- An item of a class: a character, or a class in the class. -/
def classItem (flags : Flags) (text : List Char) : Option (Option Char × List Char) :=
  match text with
  | [] => none
  | '\\' :: rest =>
    match escape flags rest with
    | some (.char c, rest) => if flags.isUnicode || c.toNat < 0x80 then some (some c, rest) else none
    | some (.byte n, rest) =>
      if flags.isUnicode || n < 0x80 then some (some (Char.ofNat n), rest) else none
    | some (.kind isNegated, rest) => if flags.isUnicode || isNegated then none else some (none, rest)
    | _ => none
  | c :: rest => if flags.isUnicode || c.toNat < 0x80 then some (some c, rest) else none

/-- Reads an item of a class, or a range from one character to another. -/
def classRange (flags : Flags) (text : List Char) : Option (List Char) := do
  let (first, rest) ← classItem flags text
  let rest := skipBlanks flags rest
  match rest with
  | [] => none
  | '-' :: behind =>
    match skipBlanks flags behind with
    | [] => none
    | ']' :: _ | '-' :: _ => some rest
    | behind => do
      let (last, rest) ← classItem flags behind
      if (← first).toNat ≤ (← last).toNat then some rest else none
  | _ => some rest

/-- The names of the classes of characters that are at hand. -/
def classNames : List String := ["alnum", "alpha", "ascii", "blank", "cntrl", "digit", "graph", "lower",
  "print", "punct", "space", "upper", "word", "xdigit"]

/-- Reads a class by its name, behind its opening bracket. -/
def namedClass? (text : List Char) : Option (List Char) :=
  match text with
  | ':' :: rest =>
    let rest := if rest.head? = some '^' then rest.drop 1 else rest
    let name := rest.takeWhile (· ≠ ':')
    match rest.drop name.length with
    | ':' :: ']' :: rest => if String.ofList name ∈ classNames then some rest else none
    | _ => none
  | _ => none

/-- Takes the dashes at the beginning of a class, which stand for themselves. -/
def takeDashes (flags : Flags) : Nat → Row → List Char → Option (Row × List Char)
  | 0, _, _ => none
  | _, _, [] => none
  | n + 1, items, c :: rest =>
    if c = '-' then takeDashes flags n (items.add 0) (skipBlanks flags rest)
    else some (items, c :: rest)

/-- Reads the beginning of a class behind its opening bracket. A closing bracket that comes first
stands for itself. Without tables nothing can be left out of a class of bytes. -/
def openClass (flags : Flags) (text : List Char) : Option (Row × List Char) := do
  let text := skipBlanks flags text
  let (isNegated, text) := match text with
    | '^' :: rest => (true, skipBlanks flags rest)
    | text => (false, text)
  if isNegated && !flags.isUnicode then none
  else
    let (items, text) ← takeDashes flags (text.length + 1) {} text
    match text with
    | ']' :: rest => if items.count = 0 then some (items.add 0, skipBlanks flags rest) else some (items, text)
    | text => some (items, text)

/-- A class under way: its items behind the last operator, and how deep what stands in front of that
operator goes. -/
structure OpenClass where
  left : Option Nat := none
  items : Row := {}

/-- How deep a class goes, its brackets included. -/
def OpenClass.depth (k : OpenClass) : Nat :=
  match k.left with
  | none => k.items.depth + 1
  | some left => max left k.items.depth + 2

/-- Takes an operator, which joins all that stands in front of it. -/
def OpenClass.operator (k : OpenClass) : OpenClass := { left := some (k.depth - 1) }

/-- Takes an item. -/
def OpenClass.item (k : OpenClass) (depth : Nat) : OpenClass := { k with items := k.items.add depth }

/-- Reads the rest of a class and of the classes around it, and tells how deep they go. -/
def classRest (flags : Flags) : Nat → OpenClass → List OpenClass → List Char → Option (Nat × List Char)
  | 0, _, _, _ => none
  | n + 1, k, around, text =>
    match skipBlanks flags text with
    | [] => none
    | '[' :: rest =>
      match namedClass? rest with
      | some rest => classRest flags n (k.item 0) around rest
      | none => (openClass flags rest).bind fun (items, rest) =>
          classRest flags n { items } (k :: around) rest
    | ']' :: rest =>
      match around with
      | [] => some (k.depth, rest)
      | outer :: around => classRest flags n (outer.item k.depth) around rest
    | '&' :: '&' :: rest => classRest flags n k.operator around rest
    | '-' :: '-' :: rest => classRest flags n k.operator around rest
    | '~' :: '~' :: rest => classRest flags n k.operator around rest
    | text => (classRange flags text).bind (classRest flags n (k.item 0) around)

/-- Reads flags up to a colon or a closing parenthesis, and tells whether there are any. -/
def flagsFrom (flags : Flags) (seen : List Char) (isOff justOff : Bool) :
    List Char → Option (Flags × Bool × Char × List Char)
  | [] => none
  | c :: rest =>
    if c = ':' ∨ c = ')' then if justOff then none else some (flags, !seen.isEmpty, c, rest)
    else if c = '-' then if isOff then none else flagsFrom flags ('-' :: seen) true true rest
    else if !flagLetters.contains c || seen.contains c then none
    else
      let flags := match c with
        | 'i' => { flags with ignoresCase := !isOff }
        | 'u' => { flags with isUnicode := !isOff }
        | 'x' => { flags with ignoresBlanks := !isOff }
        | _ => flags
      flagsFrom flags (c :: seen) isOff false rest

/-- Reads the name of a group up to its closing angle. -/
def groupName (names : List (List Char)) (text : List Char) : Option (List Char × List Char) :=
  let name := text.takeWhile (· ≠ '>')
  let isLetter (c : Char) : Bool := c = '_' || (Text.isAlphanumeric c && !c.isDigit)
  let isRest (c : Char) : Bool := c ∈ ['_', '.', '[', ']'] || Text.isAlphanumeric c
  match name, text.drop name.length with
  | first :: others, _ :: rest =>
    if isLetter first && others.all isRest && !names.contains name then some (name, rest) else none
  | _, _ => none

/-- Reads the beginning of a group behind its parenthesis. -/
def openGroup (p : Progress) (text : List Char) : Step :=
  let opened : Progress := { p with
    groups := ⟨p.flags, p.branches, p.items⟩ :: p.groups, branches := {}, items := {}, last := none }
  let named (rest : List Char) : Step :=
    (groupName p.names rest).map fun (name, rest) =>
      ({ opened with names := name :: p.names }, rest)
  match skipBlanks p.flags text with
  | '?' :: rest =>
    match rest with
    | '=' :: _ | '!' :: _ | '<' :: '=' :: _ | '<' :: '!' :: _ => none
    | 'P' :: '<' :: rest => named rest
    | '<' :: rest => named rest
    | rest =>
      match flagsFrom p.flags [] false false rest with
      | none => none
      | some (flags, hasFlags, c, rest) =>
        if c = ')' then
          if hasFlags then some ({ p with flags, items := p.items.add 0, last := none }, rest) else none
        else some ({ opened with flags }, rest)
  | text => some (opened, text)

/-- Closes the innermost group. -/
def closeGroup (p : Progress) : Option Progress :=
  match p.groups with
  | [] => none
  | ⟨flags, branches, items⟩ :: groups =>
    let outer : Progress := { p with flags, branches, items, groups }
    some (outer.item (p.depth + 1))

/-- Reads the next part of a pattern. A repetition by numbers would need a brace, and none comes in the
value of a field. -/
def step (p : Progress) (text : List Char) : Step :=
  match text with
  | [] => none
  | '(' :: rest => openGroup p rest
  | ')' :: rest => (closeGroup p).map (·, rest)
  | '|' :: rest =>
    some ({ p with branches := p.branches.add p.items.depth, items := {}, last := none }, rest)
  | '[' :: rest =>
    if matchesChar p.flags then do
      let (items, behind) ← openClass p.flags rest
      let (depth, behind) ← classRest p.flags (rest.length + 1) { items } [] behind
      some (p.item depth, behind)
    else none
  | '\x7b' :: _ => none
  | '\\' :: rest =>
    match escape p.flags rest with
    | none => none
    | some (e, rest) =>
      if matchesEscape p.flags e then
        some ({ p.item 0 with hasBorder := p.hasBorder || (e = .border && p.flags.isUnicode) }, rest)
      else none
  | '.' :: rest => if p.flags.isUnicode then some (p.item 0, rest) else none
  | c :: rest =>
    if c = '*' ∨ c = '+' ∨ c = '?' then
      p.last.map fun depth =>
        -- The item in front goes deeper by its repetition, and is still one item.
        ({ p with items := { p.items with deepest := max p.items.deepest (depth + 1) },
                  last := some (depth + 1) },
          if rest.head? = some '?' then rest.drop 1 else rest)
    else if c = '^' ∨ c = '$' ∨ matchesChar p.flags then some (p.item 0, rest)
    else none

/-- Reads a pattern to its end. -/
def steps : Nat → Progress → List Char → Option Progress
  | 0, _, _ => none
  | n + 1, p, text =>
    match skipBlanks p.flags text with
    | [] => if p.groups.isEmpty then some p else none
    | text => (step p text).bind fun (p, rest) => steps n p rest

/-- How deep a pattern may go. -/
def limit : Nat := 250

/-- What is wrong with a pattern. -/
def fault? (text : String) : Option PatternFault :=
  match steps (text.length + 1) {} text.toList with
  | none => some .malformed
  | some p =>
    if limit < p.depth then some .malformed else if p.hasBorder then some .wordBorder else none

end Pattern

/-- Whether a text is a number, with or without a fraction and a power of ten, or stands for one that is
beyond all numbers. -/
def isNumeral (text : List Char) : Bool :=
  let unsigned := match text with
    | c :: rest => if c = '+' ∨ c = '-' then rest else text
    | [] => []
  let whole := unsigned.takeWhile Char.isDigit
  let (part, rest) := match unsigned.drop whole.length with
    | '.' :: rest => (rest.takeWhile Char.isDigit, rest.dropWhile Char.isDigit)
    | rest => ([], rest)
  let power : Bool := match rest with
    | [] => true
    | c :: rest =>
      let digits := match rest with
        | d :: others => if d = '+' ∨ d = '-' then others else rest
        | [] => []
      (c = 'e' || c = 'E') && !digits.isEmpty && digits.all Char.isDigit
  (!(whole ++ part).isEmpty && power) ||
    ["inf", "infinity", "nan"].contains (String.ofList (unsigned.map Char.toLower))

/-- What is wrong with the value that a field is compared with: a word for yes or no or a number is
taken as it is, anything else for a pattern. -/
def valueFault? (text : String) : Option PatternFault :=
  if text = "true" ∨ text = "false" ∨ isNumeral text.toList then none else Pattern.fault? text

end ClockWarden.Log
