import ClockWarden.Rehearsal.Tool.Rights

/-! The programs that show, make, move and take away files. -/

namespace ClockWarden.Rehearsal

open Host Shell

namespace ToolCall

/-- Looks up a path; `followsLast` says whether a link at its end is followed. -/
def look (c : ToolCall) (path : Path) (followsLast : Bool) : Except Error (Location × Node) :=
  (c.world.filesFor c.process path).lookWith followsLast c.process.directory path

def walk (c : ToolCall) (path : Path) : Except Error (Location × Option Node) :=
  (c.world.filesFor c.process path).walk c.process.directory path

/-- A path without the slashes at its end. -/
def trimmedPath (path : Path) : Path :=
  let kept := (path.reverse.dropWhile (· = Path.slash)).reverse
  if kept = [] ∧ path ≠ [] then [Path.slash] else kept

/-- Does something for each argument, each on the host that the one before left, and tells of it where
that is asked for. What goes wrong is complained about, and the others are still done. -/
def forEach (c : ToolCall) (tells : Bool) (arguments : List Bytes)
    (one : ToolCall → Bytes → Except Bytes (World × Bytes)) : Progress :=
  let (w, said) := arguments.foldl (fun (w, said) argument =>
    match one { c with world := w } argument with
    | .ok (w, text) =>
      (w, if tells && !text.isEmpty then said ++ [Utterance.shown (text ++ [lineBreak])] else said)
    | .error text => (w, said ++ [c.complained text])) (c.world, ([] : List Utterance))
  { c with world := w }.conclude said 1

def withFiles (c : ToolCall) (files : Files) : World := { c.world with files }

/-- A program that asks for an operand. -/
def needsOperand (c : ToolCall) : Progress := c.misused 1 (ascii "missing operand")

/-- A program that asks for a second operand. -/
def needsTarget (c : ToolCall) (what : String) (operand : Bytes) : Progress :=
  c.misused 1 (ascii (what ++ " after ") ++ quoted operand)

/-- Where a file is put: the target, or a place in it if that is a directory. -/
def placeFor (c : ToolCall) (target source : Path) : Path :=
  match c.look target true with
  | .ok (_, .directory) => within (trimmedPath target) ((trimmedPath source).segments.getLast?.getD [])
  | _ => target
where
  within (directory name : Path) : Path :=
    if directory.getLast? = some Path.slash then directory ++ name else directory ++ Path.slash :: name

/-- Makes a directory. -/
def makeDirectory (makesParents : Bool) (c : ToolCall) (path : Bytes) : Except Bytes World :=
  let fail (cause : Error) : Except Bytes World :=
    .error (ascii "cannot create directory " ++ quoted path ++ because cause)
  match c.walk (trimmedPath path) with
  | .ok (location, none) =>
    if Files.isOpen location then .ok (c.withFiles (c.world.files.put location .directory))
    else fail .accessDenied
  | .ok (_, some .directory) => if makesParents then .ok c.world else fail .alreadyThere
  | .ok _ => fail .alreadyThere
  | .error cause => fail cause

/-- The paths that lead to a path, and the path itself. -/
def leading (path : Path) : List Path :=
  let names := path.segments
  ((List.range names.length).map fun n =>
    Session.joinedBy [Path.slash] (names.take (n + 1))).filter (· ≠ [])

def mkdir (c : ToolCall) : Progress :=
  c.withOptions { plain := "pv", valued := "m", long := [("parents", 'p'), ("mode", 'm')] } fun o =>
    if o.rest.isEmpty then c.needsOperand
    else
      let told (path : Path) : Bytes := c.title ++ ascii ": created directory " ++ quoted path
      let isMade (path : Path) : Bool := (c.look path true).isOk
      let paths := if o.has 'p' then (o.rest.flatMap leading).eraseDups.filter (!isMade ·) else o.rest
      c.forEach (o.has 'v') paths fun c path => do
        return (← makeDirectory (o.has 'p') c path, told path)

def rmdir (c : ToolCall) : Progress :=
  c.withOptions { plain := "pv" } fun o =>
    if o.rest.isEmpty then c.needsOperand
    else
      let paths := if o.has 'p' then o.rest.flatMap fun path => (leading path).reverse else o.rest
      c.forEach (o.has 'v') paths fun c path =>
        let fail (cause : Error) : Except Bytes (World × Bytes) :=
          .error (ascii "failed to remove " ++ quoted path ++ because cause)
        match c.look path false with
        | .ok (location, .directory) =>
          if !(c.world.files.names location).isEmpty then fail .notEmpty
          else if Files.isOpen location then
            .ok (c.withFiles (c.world.files.erase location),
              c.title ++ ascii ": removing directory, " ++ quoted path)
          else fail .accessDenied
        | .ok _ => fail .notDirectory
        | .error cause => fail cause

def rm (c : ToolCall) : Progress :=
  c.withOptions { plain := "rRfvid", long := [("recursive", 'r'), ("force", 'f'), ("verbose", 'v')] } fun o =>
    if o.rest.isEmpty then if o.has 'f' then c.done [] else c.needsOperand
    else
      let isRecursive := o.has 'r' || o.has 'R'
      let isForced (cause : Error) : Bool := o.has 'f' && (cause = .notFound || cause = .notDirectory)
      let paths := o.rest.filter fun path =>
        match c.look path false with
        | .error cause => !isForced cause
        | .ok _ => true
      c.forEach (o.has 'v') paths fun c path =>
        let fail (cause : Error) : Except Bytes (World × Bytes) :=
          .error (ascii "cannot remove " ++ quoted path ++ because cause)
        match c.look path false with
        | .ok (location, node) =>
          if node = .directory ∧ !isRecursive ∧
              !(o.has 'd' && (c.world.files.names location).isEmpty) then fail .isDirectory
          else if Files.isOpen location then
            .ok (c.withFiles (c.world.files.eraseAll location),
              ascii (if node = .directory then "removed directory " else "removed ") ++ quoted path)
          else fail .accessDenied
        | .error cause => if isForced cause then .ok (c.world, []) else fail cause

def touch (c : ToolCall) : Progress :=
  c.withOptions { plain := "acmfh", valued := "rdt" } fun o =>
    if o.rest.isEmpty then c.misused 1 (ascii "missing file operand")
    else
      c.forEach false o.rest fun c path =>
        match c.walk path with
        | .ok (_, some _) => .ok (c.world, [])
        | .ok (location, none) =>
          if o.has 'c' then .ok (c.world, [])
          else if Files.isOpen location then
            .ok (c.withFiles (c.world.files.put location (.file [] (c.process.withMask 0o666))), [])
          else .error (ascii "cannot touch " ++ quoted path ++ because .accessDenied)
        | .error cause => .error (ascii "cannot touch " ++ quoted path ++ because cause)

/-- Open files follow the file that they lead to. -/
def openMoved (w : World) (source target : Location) : World :=
  { w with opened := w.opened.map fun file =>
      match file.channel with
      | .file location =>
        match Files.behind? location source with
        | some names => { file with channel := .file (target ++ names) }
        | none => file
      | _ => file }

/-- Moves a file to a path. -/
def moveTo (c : ToolCall) (source target : Path) : Except Bytes World :=
  match c.look source false with
  | .error cause => .error (ascii "cannot stat " ++ quoted source ++ because cause)
  | .ok (location, node) =>
    let fail (cause : Error) : Except Bytes World :=
      .error (ascii "cannot move " ++ quoted source ++ ascii " to " ++ quoted target ++ because cause)
    match (c.world.filesFor c.process target).walkWith false c.process.directory (trimmedPath target) with
    | .error cause => fail cause
    | .ok (place, found) =>
      if place = location then
        .error (quoted source ++ ascii " and " ++ quoted target ++ ascii " are the same file")
      else if location.isPrefixOf place then
        .error (ascii "cannot move " ++ quoted source ++ ascii " to a subdirectory of itself, " ++
          quoted target)
      else if found = some .directory ∧ node ≠ .directory then
        .error (ascii "cannot overwrite directory " ++ quoted target ++ ascii " with non-directory")
      else if found.isSome ∧ found ≠ some .directory ∧ node = .directory then
        .error (ascii "cannot overwrite non-directory " ++ quoted target ++ ascii " with directory " ++
          quoted source)
      else if found = some .directory ∧ !(c.world.files.names place).isEmpty then fail .notEmpty
      else if !(Files.isOpen location && Files.isOpen place) then fail .accessDenied
      else .ok (openMoved (c.withFiles (c.world.files.move location place)) location place)

/-- The sources and the target of a call, and whether the target has to be a directory. -/
def sourcesAndTarget (o : Options) : Option (List Path × Path × Bool) :=
  match o.value? 't' with
  | some target => some (o.rest, target, true)
  | none =>
    match o.rest.reverse with
    | target :: source :: others => some ((source :: others).reverse, target, !others.isEmpty)
    | _ => none

/-- Whether a path names a directory. -/
def isDirectory (c : ToolCall) (path : Path) : Bool :=
  match c.look path true with
  | .ok (_, .directory) => true
  | _ => false

/-- Does something for each source, once it is clear where it goes. -/
def ontoTarget (c : ToolCall) (o : Options) (isWhole : Bool) (told : Path → Path → Bytes)
    (one : ToolCall → Path → Path → Except Bytes World) : Progress :=
  match sourcesAndTarget o with
  | none =>
    match o.rest with
    | [] => c.misused 1 (ascii "missing file operand")
    | first :: _ => c.needsTarget "missing destination file operand" first
  | some (sources, target, isPlace) =>
    if isPlace ∧ !c.isDirectory target then
      c.fail (ascii "target " ++ quoted target ++ ascii (match c.look target true with
        | .ok _ => ": Not a directory"
        | .error cause => ": " ++ cause.cause))
    else
      c.forEach (o.has 'v') sources fun c source => do
        let target := if isWhole then target else c.placeFor target source
        return (← one c source target, told source target)

def mv (c : ToolCall) : Progress :=
  c.withOptions { plain := "fivnTu", valued := "t", long := [("force", 'f'), ("no-target-directory", 'T')] }
    fun o =>
      let told (source target : Path) : Bytes :=
        ascii "renamed " ++ quoted source ++ ascii " -> " ++ quoted target
      c.ontoTarget o (o.has 'T') told fun c source target =>
        if o.has 'n' && (c.look target true).isOk then .ok c.world else c.moveTo source target

/-- Copies a file to a path. -/
def copyTo (isRecursive : Bool) (c : ToolCall) (source target : Path) : Except Bytes World :=
  match c.look source true with
  | .error cause => .error (ascii "cannot stat " ++ quoted source ++ because cause)
  | .ok (location, node) =>
    let fail (cause : Error) : Except Bytes World :=
      .error (ascii "cannot create regular file " ++ quoted target ++ because cause)
    match c.walk target with
    | .error cause => fail cause
    | .ok (place, found) =>
      let put (content : Bytes) (mode : Nat) : Except Bytes World :=
        match found with
        | some (.file _ kept) => .ok (c.withFiles (c.world.files.put place (.file content kept)))
        | some .device => .ok c.world
        | some _ => .error (ascii "cannot overwrite directory " ++ quoted target ++
            ascii " with non-directory")
        | none =>
          if Files.isOpen place then
            .ok (c.withFiles (c.world.files.put place (.file content (c.process.withMask mode))))
          else fail .accessDenied
      match node with
      | .directory =>
        if !isRecursive then .error (ascii "-r not specified; omitting directory " ++ quoted source)
        else if !Files.isOpen place then fail .accessDenied
        else
          let copied := c.world.files.nodes.filterMap fun (here, node) =>
            (Files.behind? here location).map fun names => (place ++ names, node)
          let kept := c.world.files.nodes.filter fun entry => !copied.any fun made => made.1 = entry.1
          .ok (c.withFiles ⟨copied ++ kept⟩)
      | .file content mode =>
        if place = location then
          .error (quoted source ++ ascii " and " ++ quoted target ++ ascii " are the same file")
        else if !Node.isReadable mode then
          .error (ascii "cannot open " ++ quoted source ++ ascii " for reading" ++ because .accessDenied)
        else put content mode
      | _ => put [] Node.plainMode

def cp (c : ToolCall) : Progress :=
  let long := [("recursive", 'r'), ("archive", 'a'), ("force", 'f'), ("preserve", 'p')]
  c.withOptions { plain := "rRafpvidnTuLP", valued := "t", long } fun o =>
    c.ontoTarget o (o.has 'T') (fun source target => quoted source ++ ascii " -> " ++ quoted target)
      (copyTo (o.has 'r' || o.has 'R' || o.has 'a'))

/-- Makes a link at a path. -/
def linkAt (isSymbolic isForced : Bool) (c : ToolCall) (source target : Path) : Except Bytes World :=
  let kind := if isSymbolic then "symbolic" else "hard"
  let fail (cause : Error) : Except Bytes World :=
    .error (ascii ("failed to create " ++ kind ++ " link ") ++ quoted target ++
      (if isSymbolic then [] else ascii " => " ++ quoted source) ++ because cause)
  match (c.world.filesFor c.process target).walkWith false c.process.directory target with
  | .error cause => fail cause
  | .ok (place, found) =>
    if found.isSome ∧ !isForced then
      .error (ascii ("failed to create " ++ kind ++ " link ") ++ quoted target ++ because .alreadyThere)
    else if !Files.isOpen place then fail .accessDenied
    else if isSymbolic then .ok (c.withFiles (c.world.files.put place (.link source)))
    else
      match c.look source false with
      | .error cause => .error (ascii "failed to access " ++ quoted source ++ because cause)
      | .ok (_, .directory) => .error (quoted source ++ ascii ": hard link not allowed for directory")
      | .ok (_, node) => .ok (c.withFiles (c.world.files.put place node))

def ln (c : ToolCall) : Progress :=
  c.withOptions { plain := "sfnrvTL", valued := "t", long := [("symbolic", 's'), ("force", 'f')] } fun o =>
    let told (source target : Path) : Bytes :=
      quoted target ++ ascii (if o.has 's' then " -> " else " => ") ++ quoted source
    match o.rest with
    | [only] =>
      c.forEach (o.has 'v') [only] fun c source => do
        let target := ((trimmedPath source).segments.getLast?).getD []
        return (← linkAt (o.has 's') (o.has 'f') c source target, told source target)
    | _ => c.ontoTarget o (o.has 'T') told (linkAt (o.has 's') (o.has 'f'))

/-- The path that one leads to, links followed as far as there are any, and whether all of it is there. -/
def resolved (c : ToolCall) (path : Path) : Path × Bool :=
  match c.walk path with
  | .ok (location, node) => (Files.pathOf location, node.isSome)
  | .error _ =>
    let names := (trimmedPath path).segments
    let here : Path := if path.isAbsolute then [Path.slash] else Files.pathOf c.process.directory
    let way := names.foldl (fun way name =>
      if name = [] ∨ name = [Path.dot] then way
      else if name = [Path.dot, Path.dot] then Files.pathOf (way.segments.filter (· ≠ [])).dropLast
      else
        let next := placeFor.within way name
        match c.walk next with
        | .ok (location, _) => Files.pathOf location
        | .error _ => next) here
    (way, false)

def readlink (c : ToolCall) : Progress :=
  c.withOptions { plain := "femnzsvq", long := [("canonicalize", 'f')] } fun o =>
    if o.rest.isEmpty then c.needsOperand
    else
      let shown := o.rest.map fun path =>
        if o.has 'm' then some (c.resolved path).1
        else if o.has 'f' ∨ o.has 'e' then
          match c.walk path with
          | .ok (location, node) =>
            if o.has 'e' ∧ node.isNone then none else some (Files.pathOf location)
          | .error _ => none
        else
          match c.look path false with
          | .ok (_, .link target) => some target
          | .ok (_, .stream _ name) => some name
          | _ => none
      let line (target : Option Path) : Bytes :=
        match target with
        | some target => target ++ if o.has 'n' ∧ o.rest.length = 1 then [] else [lineBreak]
        | none => []
      .done { c.reply (shown.flatMap line) with code := if shown.any Option.isNone then 1 else 0 }

def realpath (c : ToolCall) : Progress :=
  c.withOptions { plain := "emszqLP" } fun o =>
    if o.rest.isEmpty then c.needsOperand
    else
      c.conclude (o.rest.map fun path =>
        if o.has 'm' then .shown ((c.resolved path).1 ++ [lineBreak])
        else
          match c.walk path with
          | .ok (location, node) =>
            if o.has 'e' ∧ node.isNone then c.complained (path ++ because .notFound)
            else .shown (Files.pathOf location ++ [lineBreak])
          | .error cause => c.complained (path ++ because cause)) 1

def chmod (c : ToolCall) : Progress :=
  let isMode (word : Bytes) : Bool := (modeOf? 0 word 0).isSome
  let modeFirst : Bool := (c.arguments.head?.map isMode).getD false
  let read (next : Options → Progress) : Progress :=
    if modeFirst then
      { c with arguments := c.arguments.drop 1 }.withOptions { plain := "Rvfc" } fun o =>
        next { o with rest := c.arguments.take 1 ++ o.rest }
    else c.withOptions { plain := "Rvfc" } next
  read fun o =>
    match o.rest with
    | [] => c.needsOperand
    | [mode] => c.needsTarget "missing operand" mode
    | mode :: paths =>
      if !isMode mode then c.misused 1 (ascii "invalid mode: " ++ quoted mode)
      else
        c.forEach (o.has 'v' || o.has 'c') paths fun c path =>
          match c.look path true with
          | .ok (location, .file content old) =>
            if !Files.isOpen location then
              .error (ascii "changing permissions of " ++ quoted path ++ ascii ": Operation not permitted")
            else
              let mode := (modeOf? c.process.mask mode old).getD old
              let about := ascii "mode of " ++ quoted path
              let said :=
                if mode ≠ old ∧ (o.has 'v' ∨ o.has 'c') then
                  about ++ ascii " changed from " ++ modeText old ++ ascii " to " ++ modeText mode
                else if o.has 'v' then about ++ ascii " retained as " ++ modeText mode
                else []
              .ok (c.withFiles (c.world.files.put location (.file content mode)), said)
          | .ok _ => .ok (c.world, [])
          | .error cause => .error (ascii "cannot access " ++ quoted path ++ because cause)

/-- How a text is shown where what cannot be seen is made visible. -/
structure Visibility where
  numbers : Bool := false
  /-- Whether empty lines get no number. -/
  skipsEmpty : Bool := false
  squeezes : Bool := false
  marksEnds : Bool := false
  marksTabs : Bool := false
  marksOthers : Bool := false

namespace Visibility

/-- One byte of a line. -/
def byte (v : Visibility) (b : UInt8) : Bytes :=
  let low (b : UInt8) : Bytes :=
    if b < 0x20 then [0x5E, b + 0x40] else if b = 0x7F then ascii "^?" else [b]
  if b = 0x09 then if v.marksTabs then ascii "^I" else [b]
  else if !v.marksOthers then [b]
  else if b < 0x80 then low b
  else ascii "M-" ++ low (b - 0x80)

/-- Whether nothing is changed. -/
def isPlain (v : Visibility) : Bool :=
  !(v.numbers || v.squeezes || v.marksEnds || v.marksTabs || v.marksOthers)

/-- The lines of a text, from a number on; `wasEmpty` says whether the line before was empty. Each step
takes a line. -/
def lines (v : Visibility) : Nat → Nat → Bool → Bytes → Bytes
  | 0, _, _, text => text
  | steps + 1, n, wasEmpty, text =>
    if text.isEmpty then []
    else
      let line := text.takeWhile (· ≠ lineBreak)
      let rest := text.drop (line.length + 1)
      let isWhole : Bool := line.length < text.length
      let isEmpty : Bool := line.isEmpty && isWhole
      if v.squeezes && isEmpty && wasEmpty then v.lines steps n true rest
      else
        let isNumbered : Bool := v.numbers && !(isEmpty && v.skipsEmpty)
        let number := if isNumbered then ({ width := 6 } : Layout).fill (Session.decimal n) ++ [0x09] else []
        let ending := if isWhole then (if v.marksEnds then [0x24, lineBreak] else [lineBreak]) else []
        number ++ line.flatMap v.byte ++ ending ++
          v.lines steps (if isNumbered then n + 1 else n) isEmpty rest

end Visibility

def cat (c : ToolCall) : Progress :=
  let long := [("number", 'n'), ("number-nonblank", 'b'), ("show-all", 'A'), ("show-ends", 'E'),
    ("show-tabs", 'T'), ("show-nonprinting", 'v'), ("squeeze-blank", 's')]
  c.withOptions { plain := "nbsAevtETu", long } fun o =>
    let v : Visibility :=
      { numbers := o.has 'n' || o.has 'b', skipsEmpty := o.has 'b', squeezes := o.has 's',
        marksEnds := o.has 'E' || o.has 'A' || o.has 'e', marksTabs := o.has 'T' || o.has 'A' || o.has 't',
        marksOthers := o.has 'v' || o.has 'A' || o.has 'e' || o.has 't' }
    if (o.rest.isEmpty || o.rest = [[0x2D]]) && v.isPlain && !c.input.isComplete then
      if c.input.text.isEmpty then .waits else .partly (c.reply c.input.text)
    else if v.isPlain then c.onEach o.rest id
    else c.onText o.rest unread fun text => v.lines (text.length + 1) 1 false text

/-- What is below a directory, in its order: the path of each, or of the plain files only. -/
def below (files : Files) (path : Path) (here : Location) (onlyFiles : Bool) : List Path :=
  let found := files.nodes.filterMap fun (location, node) =>
    match Files.behind? location here, node with
    | some [], _ => none
    | some names, .file .. => some (names.foldl (fun path name => placeFor.within path name) path)
    | some names, _ =>
      if onlyFiles then none
      else some (names.foldl (fun path name => placeFor.within path name) path)
    | none, _ => none
  found.mergeSort fun a b => !bytesBefore b a

/-- How names are shown. -/
structure Listing where
  options : Options
  call : ToolCall

namespace Listing

/-- Whether a name is shown where it was not asked for. -/
def shows (l : Listing) (name : Bytes) : Bool :=
  l.options.has 'a' || l.options.has 'A' || name.head? ≠ some Path.dot

/-- A name with the mark of its kind. -/
def marked (l : Listing) (name : Bytes) (node : Option Node) : Bytes :=
  let isFull := l.options.has 'F'
  match node with
  | some .directory => if isFull || l.options.has 'p' then name ++ [Path.slash] else name
  | some (.file _ mode) => if isFull && Node.isExecutable mode then name ++ [0x2A] else name
  | some (.program _) => if isFull then name ++ [0x2A] else name
  | some (.link _) => if isFull then name ++ [0x40] else name
  | _ => name

def ordered (l : Listing) (names : List Bytes) : List Bytes :=
  let names := names.mergeSort fun a b => !bytesBefore b a
  if l.options.has 'r' then names.reverse else names

/-- What a directory holds, and with `R` what the directories in it hold, to a depth. -/
def directory (l : Listing) (files : Files) : Nat → Bool → Path → Location → List Bytes
  | 0, _, _, _ => []
  | depth + 1, isNamed, path, here =>
    let names := (files.names here).filter l.shows
    let own := if l.options.has 'a' then [[Path.dot], [Path.dot, Path.dot]] ++ names else names
    let heading := if isNamed then path ++ ascii ":\n" else []
    let kind (name : Bytes) : Option Node :=
      if name = [Path.dot] ∨ name = [Path.dot, Path.dot] then some .directory
      else files.find? (here ++ [name])
    let block := heading ++ unlines ((l.ordered own).map fun name => l.marked name (kind name))
    let inner := if l.options.has 'R' then
        ((l.ordered names).filter fun name => kind name = some .directory).flatMap fun name =>
          l.directory files depth true (placeFor.within path name) (here ++ [name])
      else []
    block :: inner

end Listing

def ls (c : ToolCall) : Progress :=
  let long := [("all", 'a'), ("almost-all", 'A'), ("classify", 'F'), ("directory", 'd'), ("recursive", 'R'),
    ("reverse", 'r')]
  c.withOptionsOr 2 { plain := "1aAldrtRFLhnsSigopUfvcuqx", long } fun o =>
    let l : Listing := ⟨o, c⟩
    let paths := if o.rest.isEmpty then [[Path.dot]] else o.rest
    let looked := paths.map fun path =>
      (path, if o.has 'L' then c.look path true
        else (c.look path true).toOption.elim (c.look path false) .ok)
    let complaints := looked.filterMap fun (path, result) =>
      match result with
      | .ok _ => none
      | .error cause => some (c.complained (ascii "cannot access " ++ quoted path ++ because cause))
    let isListed (node : Node) : Bool := node = .directory && !o.has 'd'
    let single := looked.filterMap fun (path, result) =>
      match result with
      | .ok (_, node) => if isListed node then none else some (path, node)
      | .error _ => none
    let listed := looked.filterMap fun (path, result) =>
      match result with
      | .ok (location, node) => if isListed node then some (path, location) else none
      | .error _ => none
    let isNamed : Bool := 1 < paths.length || o.has 'R'
    let shownFor (path : Path) : List Bytes :=
      match listed.find? (·.1 = path) with
      | some (path, location) => l.directory (c.world.filesFor c.process path) 40 isNamed path location
      | none => []
    let own := (l.ordered (single.map (·.1))).map fun path => l.marked path ((single.lookup path))
    let parts := (if single.isEmpty then [] else [unlines own]) ++
      (l.ordered (listed.map (·.1))).flatMap shownFor
    c.conclude (complaints ++ [.shown (Session.joinedBy [lineBreak] parts)]) 2

def tee (c : ToolCall) : Progress :=
  c.withOptions { plain := "aip", long := [("append", 'a')] } fun o =>
    if !c.input.isComplete then .waits
    else
      let (w, said) := o.rest.foldl (fun (w, said) path =>
        match w.openPath c.process path
            { writes := true, appends := o.has 'a', empties := !o.has 'a' } with
        | .ok (handle, w) => ((w.emit (c.process.lead 1 (some handle)) 1 c.input.text).1, said)
        | .error cause => (w, said ++ [c.complained (path ++ because cause)]))
        (c.world, ([] : List Utterance))
      .done { world := w, said := said ++ [.shown c.input.text], taken := c.input.text.length,
              code := if said.isEmpty then 0 else 1 }

/-- A name that is not taken yet. -/
def freshName (files : Files) (here : Location) (shape : Bytes) : Bytes :=
  let marks := (shape.reverse.takeWhile (· = 0x58)).length
  let name (n : Nat) : Bytes :=
    shape.take (shape.length - marks) ++
      (List.replicate marks 0x61 ++ Session.decimal n).drop (Session.decimal n).length
  let free := (List.range 1000).find? fun n => (files.find? (here ++ [name n])).isNone
  name (free.getD 0)

def mktemp (c : ToolCall) : Progress :=
  c.withOptions { plain := "duqt", valued := "p" } fun o =>
    let shape := (o.rest.head?).getD (ascii "tmp.XXXXXXXXXX")
    let directory : Path := match o.value? 'p' with
      | some directory => directory
      | none => if o.rest.isEmpty ∨ o.has 't' then (c.process.valueOf? "TMPDIR").getD (ascii "/tmp") else []
    let path : Path := if directory = [] then shape else directory ++ Path.slash :: shape
    let name := (path.segments.getLast?).getD []
    let before := path.take (path.length - name.length)
    match (c.world.filesFor c.process path).directory c.process.directory
        (if before = [] then [Path.dot] else before) with
    | .error cause => c.fail (ascii "failed to create file via template " ++ quoted path ++ because cause)
    | .ok here =>
      let name := freshName c.world.files here name
      let node : Node := if o.has 'd' then .directory else .file [] 0o600
      .done { world := c.withFiles (c.world.files.put (here ++ [name]) node),
              said := [.shown (before ++ name ++ [lineBreak])] }

end ToolCall

end ClockWarden.Rehearsal
