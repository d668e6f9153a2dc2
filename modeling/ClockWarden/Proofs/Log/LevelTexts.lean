import ClockWarden.Proofs.Log.Strength

/-! Reading the text of a log level. Up to its first comma it stands for a threshold, and behind that comma
further directives may follow (`Choice.ofText`). The text is written behind the name of each component, but
the commas in it count as those around it do, so each component gets the threshold and is followed by the
further directives (`filter_controller`). -/

namespace ClockWarden

namespace Text

theorem splitAt_eq_splitOn (c : Char) (text : List Char) : splitAt c text = text.splitOn c := by
  induction text with
  | nil => rfl
  | cons d rest ih =>
      obtain ⟨first, others, hsplit⟩ := List.exists_cons_of_ne_nil (List.splitOn_ne_nil c rest)
      rw [splitAt, List.splitOn_cons_eq_if_modifyHead, ih, hsplit]
      by_cases hd : d = c <;> simp [hd]

/-- White space behind an equals sign is all that trimming takes from a text that begins with none. -/
theorem exists_trim {first : Char} (h : isBlank first = false) (name word : List Char) :
    ∃ kept, trim (first :: name ++ '=' :: word) = first :: name ++ '=' :: kept := by
  have hfront : trimStart (first :: name ++ '=' :: word) = first :: name ++ '=' :: word :=
    List.dropWhile_cons_of_neg (by simp [h])
  have hmark : List.dropWhile isBlank ('=' :: (first :: name).reverse) = '=' :: (first :: name).reverse :=
    List.dropWhile_cons_of_neg (by decide)
  refine ⟨(word.reverse.dropWhile isBlank).reverse, ?_⟩
  rw [trim, hfront, List.reverse_append, List.reverse_cons, List.append_assoc, List.singleton_append, trimStart,
    List.dropWhile_append, hmark]
  split
  · rename_i hempty
    simp [List.isEmpty_iff.mp hempty]
  · simp

theorem width_append (front behind : List Char) : width (front ++ behind) = width front + width behind := by
  induction front with
  | nil => exact (Nat.zero_add _).symm
  | cons c front ih => rw [List.cons_append, width, width, ih, Nat.add_assoc]

/-- A text can be cut between any two of its characters. -/
theorem cut?_append (front behind : List Char) : cut? (width front) (front ++ behind) = some (front, behind) := by
  induction front with
  | nil => cases behind <;> rfl
  | cons c front ih =>
      have hwidth : width (c :: front) = c.utf8Size + width front := rfl
      obtain ⟨n, hn⟩ : ∃ n, width (c :: front) = n + 1 :=
        Nat.exists_eq_succ_of_ne_zero (by have := c.utf8Size_pos; omega)
      have hle : c.utf8Size ≤ n + 1 := by omega
      have hrest : n + 1 - c.utf8Size = width front := by omega
      rw [hn, List.cons_append, cut?, if_pos hle, hrest, ih]
      rfl

end Text

namespace Log

/-- The threshold that a word behind an equals sign stands for; no word stands for everything. -/
def Threshold.named? (word : String) : Option Threshold :=
  if word = "" then some .everything else ofWord? word

namespace Directive

/-- Whether a text can stand in front of an equals sign as the name of a component. -/
def isName (target : String) : Bool :=
  match target.toList with
  | [] => false
  | first :: rest =>
    (first = '_' || Text.isAlphanumeric first) && !Text.isBlank first && rest.all fun c => c ≠ '=' && c ≠ '['

theorem steps_level (text : String) (d : Directive) (first i : Nat) (rest : List Char) :
    steps text d (.level first) i rest = .ok (d, .level first) := by
  induction rest generalizing i with
  | nil => rfl
  | cons c rest ih => exact ih _

theorem steps_word (text : String) (d : Directive) (first i : Nat) {word : List Char}
    (hword : ∀ c ∈ word, c ≠ '=' ∧ c ≠ '[') (rest : List Char) :
    steps text d (.word first) i (word ++ rest) = steps text d (.word first) (i + Text.width word) rest := by
  induction word generalizing i with
  | nil => rfl
  | cons c word ih =>
      rw [List.forall_mem_cons] at hword
      have hwidth : Text.width (c :: word) = c.utf8Size + Text.width word := rfl
      have hstep : step text d (.word first) i c = .ok (d, .word first) := by
        simp only [step, hword.1.1, hword.1.2, if_false]
      rw [List.cons_append, steps, hstep]
      simp only
      rw [ih _ hword.2, hwidth, Nat.add_assoc]

theorem slice_append (before text after : String) :
    slice (before ++ text ++ after) (Text.width before.toList) (Text.width (before ++ text).toList) = .ok text := by
  unfold slice
  simp only [String.toList_append, List.append_assoc, Text.width_append, Text.cut?_append, Nat.add_sub_cancel_left,
    String.ofList_toList]

/-- The characters of a name and an equals sign lead to a level; what follows it is not told apart. -/
theorem steps_name {target : String} (hname : isName target = true) (after : String) (word : List Char) :
    steps (target ++ after) {} .start 0 (target.toList ++ '=' :: word) =
      .ok ({ target := some target }, .level (Text.width target.toList + 1)) := by
  have hslice : slice (target ++ after) 0 (Text.width target.toList) = .ok target := by
    have hslice := slice_append "" target after
    rwa [String.empty_append] at hslice
  unfold isName at hname
  cases htarget : target.toList with
  | nil => simp [htarget] at hname
  | cons first rest =>
      simp only [htarget, Bool.and_eq_true, Bool.or_eq_true, decide_eq_true_eq, List.all_eq_true] at hname
      obtain ⟨⟨hfirst, -⟩, hrest⟩ := hname
      have hopen : first ≠ '[' := by
        rintro rfl
        exact absurd hfirst (by decide)
      have hstart : step (target ++ after) {} .start 0 first = .ok ({}, .word 0) := by
        rcases hfirst with rfl | hfirst
        · rfl
        · simp [step, hopen, hfirst]
      have hwidth : 0 + first.utf8Size + Text.width rest = Text.width (first :: rest) := by
        rw [Nat.zero_add]
        rfl
      have hmark : step (target ++ after) {} (.word 0) (Text.width (first :: rest)) '=' =
          .ok ({ target := some target }, .level (Text.width (first :: rest) + 1)) := by
        rw [htarget] at hslice
        simp only [step, if_true, hslice, bind, Except.bind]
      rw [List.cons_append, steps, hstart]
      simp only
      rw [steps_word _ {} 0 _ hrest, hwidth, steps, hmark]
      exact steps_level _ _ _ _ _

/-- A name and a word behind an equals sign are the directive of a component. -/
theorem ofText_level {target : String} (hname : isName target = true) (word : String) :
    Directive.ofText (target ++ "=" ++ word) =
      match Threshold.named? word with
      | some threshold => .ok (ofLevel target threshold)
      | none => .error (.refused .badLevel) := by
  have hchars : (target ++ "=" ++ word).toList = target.toList ++ '=' :: word.toList := by simp
  obtain ⟨kept, htrim⟩ : ∃ kept, Text.trim (target ++ "=" ++ word).toList = target.toList ++ '=' :: kept := by
    unfold isName at hname
    cases htarget : target.toList with
    | nil => simp [htarget] at hname
    | cons first rest =>
        simp only [htarget, Bool.and_eq_true, Bool.not_eq_true'] at hname
        rw [hchars, htarget]
        exact Text.exists_trim hname.1.2 rest word.toList
  have hsteps := steps_name hname ("=" ++ word) kept
  rw [← String.append_assoc] at hsteps
  have hfirst : Text.width (target ++ "=").toList = Text.width target.toList + 1 := by
    rw [String.toList_append, Text.width_append]
    rfl
  have hword : slice (target ++ "=" ++ word) (Text.width target.toList + 1)
      (Text.width (target ++ "=" ++ word).toList) = .ok word := by
    have hslice := slice_append (target ++ "=") word ""
    rwa [String.append_empty, hfirst] at hslice
  unfold Directive.ofText
  simp only [htrim, hsteps, hword, bind, Except.bind]
  unfold Threshold.named?
  split
  · rfl
  · cases Threshold.ofWord? word <;> rfl

end Directive

/-! ### Directives between commas -/

/-- The parts of a text between commas, empty ones left out. -/
def parts (text : List Char) : List (List Char) := (Text.splitAt ',' text).filter (· ≠ [])

def readAll (parts : List (List Char)) : Except (Misreading FilterFault) (List Directive) :=
  parts.mapM fun part => Directive.ofText (String.ofList part)

theorem Filter.ofText_eq (text : String) :
    Filter.ofText text = (readAll (parts text.toList)).map Filter.mk := by
  unfold Filter.ofText
  change (readAll (parts text.toList) >>= _) = _
  cases readAll (parts text.toList) <;> rfl

theorem parts_append (first second : List Char) : parts (first ++ ',' :: second) = parts first ++ parts second := by
  simp only [parts, Text.splitAt_eq_splitOn, List.splitOn_append_cons_self, List.filter_append]

theorem parts_of_notMem {text : List Char} (h : ',' ∉ text) (hsome : text ≠ []) : parts text = [text] := by
  simp [parts, Text.splitAt_eq_splitOn, List.splitOn_eq_singleton h, hsome]

theorem takeWhile_append {word : List Char} (h : ',' ∉ word) (rest : List Char) :
    (word ++ rest).takeWhile (· ≠ ',') = word ++ rest.takeWhile (· ≠ ',') := by
  refine List.takeWhile_append_of_pos fun c hc => decide_eq_true ?_
  rintro rfl
  exact h hc

/-- The text of a level behind some other text: up to its first comma it belongs to that text. -/
theorem parts_append_level {front : List Char} (hfront : ',' ∉ front) (hsome : front ≠ []) (level : List Char) :
    parts (front ++ level) =
      (front ++ level.takeWhile (· ≠ ',')) ::
        parts (level.drop ((level.takeWhile (· ≠ ',')).length + 1)) := by
  have hsole {word : List Char} (hword : ',' ∉ word) : parts (front ++ word) = [front ++ word] := by
    refine parts_of_notMem ?_ (by simp [hsome])
    simp [hfront, hword]
  by_cases hcomma : ',' ∈ level
  · obtain ⟨word, rest, rfl, hword⟩ := List.eq_append_cons_of_mem hcomma
    have htake : (word ++ ',' :: rest).takeWhile (· ≠ ',') = word := by
      rw [takeWhile_append hword]
      simp
    have hdrop : (word ++ ',' :: rest).drop (word.length + 1) = rest := by
      rw [List.append_cons]
      exact List.drop_left' (by simp)
    rw [htake, hdrop, ← List.append_assoc, parts_append, hsole hword]
    rfl
  · have htake : level.takeWhile (· ≠ ',') = level := by
      simpa using takeWhile_append hcomma []
    rw [htake, hsole hcomma, List.drop_eq_nil_of_le (Nat.le_succ _)]
    rfl

theorem readAll_append (first second : List (List Char)) :
    readAll (first ++ second) =
      (readAll first).bind fun directives => (readAll second).map fun others => directives ++ others := by
  rw [readAll, List.mapM_append]
  change (readAll first >>= fun directives => readAll second >>= fun others => pure (directives ++ others)) = _
  cases readAll first with
  | error fault => rfl
  | ok directives => cases readAll second <;> rfl

theorem readAll_cons (part : List Char) (rest : List (List Char)) :
    readAll (part :: rest) =
      (Directive.ofText (String.ofList part)).bind fun d => (readAll rest).map fun others => d :: others := by
  rw [readAll, List.mapM_cons]
  change (Directive.ofText (String.ofList part) >>= fun d => readAll rest >>= fun others => pure (d :: others)) = _
  cases Directive.ofText (String.ofList part) with
  | error fault => rfl
  | ok d => cases readAll rest <;> rfl

/-! ### Level texts -/

/-- What a level text chooses: a threshold for all components, and further directives. -/
structure Choice where
  base : Threshold
  further : List Directive
deriving DecidableEq

/-- Reads a level text: a word for the threshold, and further directives behind a comma. -/
def Choice.ofText (level : String) : Except (Misreading FilterFault) Choice :=
  let word := level.toList.takeWhile (· ≠ ',')
  match Threshold.named? (String.ofList word) with
  | none => .error (.refused .badLevel)
  | some base =>
    (readAll (parts (level.toList.drop (word.length + 1)))).map fun further => ⟨base, further⟩

/-- A text without commas chooses a threshold and nothing else. -/
theorem Choice.ofText_of_notMem {level : String} (h : ',' ∉ level.toList) :
    Choice.ofText level =
      match Threshold.named? level with
      | none => .error (.refused .badLevel)
      | some base => .ok ⟨base, []⟩ := by
  have htake : level.toList.takeWhile (· ≠ ',') = level.toList := by
    simpa using takeWhile_append h []
  simp only [Choice.ofText, htake, String.ofList_toList, List.drop_eq_nil_of_le (Nat.le_succ _)]
  rfl

/-- A component's directive, with the text of a level behind its equals sign, brings the further directives of
that text with it. -/
theorem readAll_level {component : String} (hname : Directive.isName component = true)
    (hcomma : ',' ∉ component.toList) (level : String) :
    readAll (parts (component.toList ++ '=' :: level.toList)) =
      (Choice.ofText level).map fun choice => .ofLevel component choice.base :: choice.further := by
  have hfront : ',' ∉ component.toList ++ ['='] := by simp [hcomma]
  have hword (word : List Char) : String.ofList (component.toList ++ ['='] ++ word) =
      component ++ "=" ++ String.ofList word := by
    simp [String.ofList_append, String.append_assoc]
  rw [List.append_cons, parts_append_level hfront (by simp), readAll_cons, hword,
    Directive.ofText_level hname]
  unfold Choice.ofText
  simp only
  cases Threshold.named? (String.ofList (level.toList.takeWhile (· ≠ ','))) with
  | none => rfl
  | some base => cases readAll (parts (level.toList.drop _)) <;> rfl

/-! ### The filter of the controller -/

/-- The components that the level is for. -/
def components : List String := ["time_controller", "supervisor", "shared", "tower_http"]

/-- The directive of the component that always warns. -/
def warning : Directive := .ofLevel "hyper" ⟨Level.warn.rank⟩

/-- The filter that a choice comes to: each component has the threshold of the choice and brings its further
directives with it. -/
def Choice.filter (choice : Choice) : Filter :=
  ⟨Filter.layered choice.base choice.further components ++ [warning]⟩

/-- A level text behind the names of components, and some other text behind them. -/
def joined (level : String) (last : List Char) : List String → List Char
  | [] => last
  | component :: rest => component.toList ++ '=' :: level.toList ++ ',' :: joined level last rest

theorem toList_directives (level : String) :
    (Identity.controller.directives level).toList = joined level "hyper=warn".toList components := by
  have hdirectives : Identity.controller.directives level =
      "time_controller=" ++ level ++ ",supervisor=" ++ level ++ ",shared=" ++ level ++
        ",tower_http=" ++ level ++ ",hyper=warn" := rfl
  simp only [hdirectives, joined, components, String.toList_append, String.reduceToList, List.append_assoc,
    List.cons_append, List.nil_append]

theorem readAll_joined {level : String} {choice : Choice} (h : Choice.ofText level = .ok choice)
    {last : List Char} {lastly : List Directive} (hlast : readAll (parts last) = .ok lastly)
    {names : List String} (hnames : ∀ name ∈ names, Directive.isName name = true ∧ ',' ∉ name.toList) :
    readAll (parts (joined level last names)) =
      .ok (Filter.layered choice.base choice.further names ++ lastly) := by
  induction names with
  | nil => exact hlast
  | cons name rest ih =>
      rw [List.forall_mem_cons] at hnames
      rw [joined, parts_append, readAll_append, readAll_level hnames.1.1 hnames.1.2, h, ih hnames.2]
      simp [Filter.layered, Except.map, Except.bind]

/-- The directive of the component that always warns, read from its text. -/
theorem readAll_warning : readAll (parts "hyper=warn".toList) = .ok [warning] := by
  have hname : Directive.isName "hyper" = true := by decide +kernel
  have hread : Directive.ofText "hyper=warn" = .ok warning :=
    (Directive.ofText_level hname "warn").trans (by decide +kernel)
  rw [parts_of_notMem (by decide +kernel) (by decide +kernel), readAll_cons, String.ofList_toList, hread]
  rfl

/-- The filter of the controller follows the choice that the level text makes, is refused with it, and its
reading breaks off with that of the text. -/
theorem filter_controller (level : String) :
    Identity.controller.filter level =
      match Choice.ofText level with
      | .ok choice => .ok choice.filter
      | .error (.refused fault) =>
        .error (.refused ⟨Identity.controller.directives level ++ ": " ++ fault.message⟩)
      | .error (.torn tear) => .error (.torn tear) := by
  have hnames : ∀ name ∈ components, Directive.isName name = true ∧ ',' ∉ name.toList := by
    decide +kernel
  rw [Identity.filter, Filter.ofText_eq, toList_directives]
  cases hchoice : Choice.ofText level with
  | ok choice =>
      rw [readAll_joined hchoice readAll_warning hnames]
      rfl
  | error failure =>
      -- The first component is enough: what is behind it is not read any more.
      have hname := hnames _ List.mem_cons_self
      have hfirst : readAll (parts (joined level "hyper=warn".toList components)) = .error failure := by
        rw [components, joined, parts_append, readAll_append, readAll_level hname.1 hname.2, hchoice]
        rfl
      rw [hfirst]
      cases failure <;> rfl

end Log

end ClockWarden
