import ClockWarden.Proofs.CommandLine.Values
import Mathlib.Logic.Function.Basic

/-! Where settings come from. Options may be given in any order and in either way of writing them, each
once, with the arguments of the managed program behind two dashes. What is given counts, whatever the
environment says; what is not given is taken from the environment, and what neither has is as usual
(`settings_by_precedence`). A scan of the arguments keeps, for the options read so far, that its settings
say what was given (`Progress.Holds`, `takeArguments_of_spells`). -/

namespace ClockWarden.CommandLine

open Host

/-- The value of the environment that stands in for an option. -/
def Flag.standInValue? (flag : Flag) (env : Environment) : Option Bytes :=
  flag.standIn.bind fun name => env.get? (Utf8.encode name)

/-- The ways to write an option. A value that begins with a dash would be taken for an option if it stood
by itself, unless it is a single dash. -/
inductive Flag.Spells (flag : Flag) (value : Bytes) : List Bytes → Prop
  | joined : Spells flag value
      [0x2D :: 0x2D :: (Utf8.encode flag.name ++ Environment.equals :: value)]
  | apart (h : value = [0x2D] ∨ value.head? ≠ some 0x2D) :
      Spells flag value [0x2D :: 0x2D :: Utf8.encode flag.name, value]

/-- Options with their values, one behind another. -/
inductive Spells : List (Flag × Bytes) → List Bytes → Prop
  | nil : Spells [] []
  | cons {flag : Flag} {value : Bytes} {first rest : List Bytes} {given : List (Flag × Bytes)}
      (option : flag.Spells value first) (options : Spells given rest) :
      Spells ((flag, value) :: given) (first ++ rest)

/-- The arguments of the managed program stand behind two dashes, which may be left out if there are
none. -/
inductive Trails : List String → List Bytes → Prop
  | absent : Trails [] []
  | present (managed : List String) : Trails managed ([0x2D, 0x2D] :: managed.map Utf8.encode)

/-- A command line that gives each of some options once, with a value that means something. -/
structure Writes (given : List (Flag × Bytes)) (managed : List String) (arguments : List Bytes) :
    Prop where
  once : (given.map Prod.fst).Nodup
  valid : ∀ flag value, (flag, value) ∈ given → flag.Valid value
  spelled : ∃ options trailing, arguments = options ++ trailing ∧ Spells given options ∧
    Trails managed trailing

/-- The value that counts for an option. -/
def chosen (given : List (Flag × Bytes)) (env : Environment) (flag : Flag) : Bytes :=
  ((given.lookup flag).or (flag.standInValue? env)).getD flag.standard

/-! ### The arguments -/

namespace Flag

variable (flag : Flag)

theorem find?_name : Shown.all.find? (·.name = flag.name) = some (.flag flag) := by
  cases flag <;> rfl

theorem encode_name_ne_nil : Utf8.encode flag.name ≠ [] := by
  cases flag <;> decide

theorem ne_equals_of_mem_name : ∀ b ∈ Utf8.encode flag.name, b ≠ Environment.equals := by
  cases flag <;> decide +kernel

/-- The name of an option ends at the first equals sign. -/
theorem span_name (rest : Bytes) (hrest : ∀ b ∈ rest.head?, b = Environment.equals) :
    (Utf8.encode flag.name ++ rest).takeWhile (· ≠ Environment.equals) = Utf8.encode flag.name ∧
      (Utf8.encode flag.name ++ rest).dropWhile (· ≠ Environment.equals) = rest := by
  have hplain : ∀ b ∈ Utf8.encode flag.name, decide (b ≠ Environment.equals) = true := by
    simpa using flag.ne_equals_of_mem_name
  rw [List.takeWhile_append_of_pos hplain, List.dropWhile_append_of_pos hplain]
  cases rest with
  | nil => exact ⟨List.append_nil _, rfl⟩
  | cons b rest =>
      have hb : b = Environment.equals := hrest b rfl
      subst b
      rw [List.takeWhile_cons_of_neg (by simp), List.dropWhile_cons_of_neg (by simp), List.append_nil]
      exact ⟨rfl, rfl⟩

end Flag

namespace Progress

/-- No option waits for its value, and the settings say what the values of all options mean. -/
structure Holds (p : Progress) (used : List Flag) (values : Flag → Bytes) : Prop where
  settled : p.waiting = none
  used_eq : p.used = used
  reads : ∀ flag, p.settings.Reads (values flag) flag

/-- The same, once the value of the option that waits has been looked at. -/
def Stands (p : Progress) (used : List Flag) (values : Flag → Bytes) : Prop :=
  ∃ q, p.settled = .ok q ∧ q.Holds used values

variable {p q : Progress} {used : List Flag} {values : Flag → Bytes} {flag : Flag} {value : Bytes}

theorem Holds.take (h : p.Holds used values) (hfresh : flag ∉ used) (hvalid : flag.Valid value) :
    ∃ q, p.take flag value = (q, none) ∧
      q.Holds (used ++ [flag]) (Function.update values flag value) := by
  obtain ⟨settings, hset⟩ := p.settings.set_of_valid hvalid
  refine ⟨{ p with used := p.used ++ [flag], settings }, ?_, h.settled, by rw [h.used_eq], ?_⟩
  · rw [Progress.take, if_neg (by rwa [h.used_eq])]
    simp only [hset]
  · intro other
    by_cases hother : other = flag
    · subst other
      rw [Function.update_self]
      exact Settings.reads_of_set hset
    · rw [Function.update_of_ne hother]
      exact Settings.reads_of_set_ne hset hother (h.reads other)

theorem Holds.settled_eq (h : p.Holds used values) : p.settled = .ok p := by
  simp only [Progress.settled, settle, h.settled]

theorem Holds.stands (h : p.Holds used values) : p.Stands used values := ⟨p, h.settled_eq, h⟩

/-- An option that has got its value waits for nothing but the next argument. -/
theorem Holds.stands_waiting (h : p.Holds used values) (hfresh : flag ∉ used)
    (hvalid : flag.Valid value) :
    { p with waiting := some (flag, some value) }.Stands (used ++ [flag])
      (Function.update values flag value) := by
  obtain ⟨q, htake, hq⟩ := h.take hfresh hvalid
  have hwaiting : { p with waiting := none } = p := by
    rw [← h.settled]
  refine ⟨q, ?_, hq⟩
  simp only [Progress.settled, settle, hwaiting, htake]

end Progress

section Arguments

variable {p q : Progress} {flag : Flag} {value : Bytes}

theorem longOption_name (h : p.settled = .ok q) :
    longOption p (Utf8.encode flag.name) = .ok { q with waiting := some (flag, none) } := by
  obtain ⟨htake, hdrop⟩ := flag.span_name [] (by simp)
  rw [List.append_nil] at htake hdrop
  simp only [longOption, htake, hdrop, Utf8.decode?_encode, flag.find?_name, h]
  rfl

theorem longOption_joined (h : p.settled = .ok q) {q' : Progress}
    (htaken : q.take flag value = (q', none)) :
    longOption p (Utf8.encode flag.name ++ Environment.equals :: value) = .ok q' := by
  obtain ⟨htake, hdrop⟩ := flag.span_name (Environment.equals :: value) (by simp)
  simp only [longOption, htake, hdrop, Utf8.decode?_encode, flag.find?_name, h, htaken, Bind.bind,
    Except.bind, pure, Except.pure]

theorem takeArguments_long {long : Bytes} (hne : long ≠ []) (h : longOption p long = .ok q)
    (rest : List Bytes) : takeArguments p ((0x2D :: 0x2D :: long) :: rest) = takeArguments q rest := by
  cases long with
  | nil => exact absurd rfl hne
  | cons b long => simp only [takeArguments, h]

/-- A value is what follows an option that waits for it. -/
theorem takeArguments_value (hvalue : value = [0x2D] ∨ value.head? ≠ some 0x2D)
    (hwaiting : p.waiting = some (flag, none)) (rest : List Bytes) :
    takeArguments p (value :: rest) =
      takeArguments { p with waiting := some (flag, some value) } rest := by
  rcases hvalue with rfl | hhead
  · simp only [takeArguments, hwaiting]
  · rw [takeArguments]
    · rw [hwaiting]
    all_goals
      intros
      rename_i heq
      rw [heq] at hhead
      exact hhead rfl

/-- The arguments that give an option are read, and the settings say what was given. -/
theorem takeArguments_of_option {used : List Flag} {values : Flag → Bytes} {option : List Bytes}
    (h : p.Stands used values) (hfresh : flag ∉ used) (hvalid : flag.Valid value)
    (hoption : flag.Spells value option) (rest : List Bytes) :
    ∃ p', takeArguments p (option ++ rest) = takeArguments p' rest ∧
      p'.Stands (used ++ [flag]) (Function.update values flag value) := by
  obtain ⟨q, hsettled, hq⟩ := h
  cases hoption with
  | joined =>
      obtain ⟨q', htake, hq'⟩ := hq.take hfresh hvalid
      refine ⟨q', ?_, hq'.stands⟩
      rw [List.singleton_append]
      exact takeArguments_long (by simp) (longOption_joined hsettled htake) rest
  | apart hvalue =>
      refine ⟨_, ?_, hq.stands_waiting hfresh hvalid⟩
      rw [List.cons_append, takeArguments_long flag.encode_name_ne_nil (longOption_name hsettled),
        List.singleton_append]
      exact takeArguments_value hvalue rfl rest

theorem lookup_eq_none {given : List (Flag × Bytes)} (flag : Flag) :
    given.lookup flag = none ↔ flag ∉ given.map Prod.fst := by
  rw [List.lookup_eq_none_iff]
  simp only [bne_iff_ne, List.mem_map, not_exists, not_and]
  exact ⟨fun h entry hmem heq => h entry hmem heq.symm, fun h entry hmem heq => h entry hmem heq.symm⟩

/-- An option that is given first and not again has the value that is given first. -/
theorem lookup_update {given : List (Flag × Bytes)} (hfresh : flag ∉ given.map Prod.fst)
    (values : Flag → Bytes) (other : Flag) :
    (given.lookup other).getD (Function.update values flag value other) =
      (((flag, value) :: given).lookup other).getD (values other) := by
  by_cases hother : other = flag
  · subst other
    rw [(lookup_eq_none flag).mpr hfresh, Option.getD_none, Function.update_self, List.lookup_cons_self,
      Option.getD_some]
  · rw [Function.update_of_ne hother, List.lookup_cons, beq_false_of_ne hother]

/-- All that is given is read, in whatever order it comes. -/
theorem takeArguments_of_spells {used : List Flag} {values : Flag → Bytes}
    {given : List (Flag × Bytes)} {options : List Bytes} (h : p.Stands used values)
    (hfresh : ∀ flag ∈ given.map Prod.fst, flag ∉ used) (honce : (given.map Prod.fst).Nodup)
    (hvalid : ∀ flag value, (flag, value) ∈ given → flag.Valid value) (hspells : Spells given options)
    (rest : List Bytes) :
    ∃ p', takeArguments p (options ++ rest) = takeArguments p' rest ∧
      p'.Stands (used ++ given.map Prod.fst) fun flag => (given.lookup flag).getD (values flag) := by
  induction hspells generalizing p used values with
  | nil => exact ⟨p, rfl, by simpa using h⟩
  | @cons flag value first others given hoption hothers ih =>
      rw [List.map_cons, List.forall_mem_cons] at hfresh
      rw [List.map_cons, List.nodup_cons] at honce
      obtain ⟨p₁, hfirst, hp₁⟩ := takeArguments_of_option h hfresh.1
        (hvalid flag value List.mem_cons_self) hoption (others ++ rest)
      have hfresh₁ : ∀ other ∈ given.map Prod.fst, other ∉ used ++ [flag] := by
        intro other hmem
        rw [List.mem_append, List.mem_singleton, not_or]
        refine ⟨hfresh.2 other hmem, ?_⟩
        rintro rfl
        exact honce.1 hmem
      obtain ⟨p₂, hrest, hp₂⟩ := ih hp₁ hfresh₁ honce.2
        fun flag value hmem => hvalid flag value (List.mem_cons_of_mem _ hmem)
      refine ⟨p₂, ?_, ?_⟩
      · rw [List.append_assoc, hfirst, hrest]
      · simp only [lookup_update honce.1, List.append_assoc, List.singleton_append] at hp₂
        exact hp₂

end Arguments

/-! ### The environment -/

section FromEnvironment

variable {p q : Progress} {used : List Flag} {values : Flag → Bytes} {env env' : Environment}
  {flag : Flag} {flags : List Flag}

/-- The values of all options once some of them have been looked up, those that have been used apart. -/
def overlaid (used flags : List Flag) (env : Environment) (values : Flag → Bytes) (flag : Flag) : Bytes :=
  if flag ∈ flags ∧ flag ∉ used then (flag.standInValue? env).getD (values flag) else values flag

theorem overlaid_of_used (hused : flag ∈ used) : overlaid used [flag] env values = values := by
  funext other
  refine if_neg ?_
  rintro ⟨hmem, hunused⟩
  exact hunused (List.mem_singleton.mp hmem ▸ hused)

theorem overlaid_of_unused (hunused : flag ∉ used) :
    overlaid used [flag] env values =
      Function.update values flag ((flag.standInValue? env).getD (values flag)) := by
  funext other
  by_cases hother : other = flag
  · subst other
    rw [Function.update_self]
    exact if_pos ⟨List.mem_cons_self, hunused⟩
  · rw [Function.update_of_ne hother]
    exact if_neg fun hmem => hother (List.mem_singleton.mp hmem.1)

theorem fromEnvironment_of_variable {value : Bytes} (hunused : flag ∉ p.used)
    (h : flag.standInValue? env = some value) :
    fromEnvironment env p flag =
      match p.take flag value with
      | (p, none) => .ok p
      | (_, some stop) => .error stop := by
  rw [Flag.standInValue?] at h
  cases htake : p.take flag value with
  | mk next stop => cases stop <;> simp only [fromEnvironment, if_neg hunused, h, htake]

theorem Progress.valid_of_take {value : Bytes} (h : p.take flag value = (q, none)) :
    flag.Valid value := by
  unfold Progress.take at h
  split at h
  · cases h
  · simp only at h
    split at h
    · rename_i settings hset
      exact ⟨settings, Settings.reads_of_set hset⟩
    all_goals cases h

theorem exists_fromEnvironment (h : p.Holds used values)
    (hvalid : flag ∉ used → ∀ value, flag.standInValue? env = some value → flag.Valid value) :
    ∃ q, fromEnvironment env p flag = .ok q := by
  by_cases hused : flag ∈ used
  · exact ⟨p, if_pos (by rwa [h.used_eq])⟩
  · cases hvariable : flag.standInValue? env with
    | none =>
        refine ⟨p, ?_⟩
        rw [Flag.standInValue?] at hvariable
        simp only [fromEnvironment, hvariable, ite_self]
    | some value =>
        obtain ⟨q, htake, -⟩ := h.take hused (hvalid hused value hvariable)
        refine ⟨q, ?_⟩
        rw [fromEnvironment_of_variable (by rwa [h.used_eq]) hvariable, htake]

/-- What one look-up does: it finds nothing wrong with the variable of an option that has not been used,
and the value that counts is read. -/
theorem Progress.Holds.looked (h : p.Holds used values) (hok : fromEnvironment env p flag = .ok q) :
    (flag ∉ used → ∀ value, flag.standInValue? env = some value → flag.Valid value) ∧
      ∃ used', used ⊆ used' ∧ (∀ other ∈ used', other ∈ used ∨ other = flag) ∧
        q.Holds used' (overlaid used [flag] env values) := by
  by_cases hused : flag ∈ used
  · rw [fromEnvironment, if_pos (by rwa [h.used_eq])] at hok
    cases hok
    refine ⟨fun hunused => absurd hused hunused, used, List.Subset.refl used, fun _ => Or.inl, ?_⟩
    rwa [overlaid_of_used hused]
  · rw [overlaid_of_unused hused]
    cases hvariable : flag.standInValue? env with
    | none =>
        rw [Flag.standInValue?] at hvariable
        simp only [fromEnvironment, hvariable, ite_self] at hok
        cases hok
        rw [Option.getD_none, Function.update_eq_self]
        exact ⟨fun _ _ => nofun, used, List.Subset.refl used, fun _ => Or.inl, h⟩
    | some value =>
        rw [fromEnvironment_of_variable (by rwa [h.used_eq]) hvariable] at hok
        split at hok
        · rename_i htake
          have hvalid := valid_of_take htake
          obtain ⟨q', htake', hq'⟩ := h.take hused hvalid
          rw [htake'] at htake
          cases htake
          cases hok
          refine ⟨fun _ v hv => ?_, used ++ [flag], List.subset_append_left used [flag], ?_, hq'⟩
          · cases hv
            exact hvalid
          · intro other hmem
            rwa [List.mem_append, List.mem_singleton] at hmem
        · cases hok

theorem overlaid_cons {used' : List Flag} (hfresh : flag ∉ flags) (hsubset : used ⊆ used')
    (hmem : ∀ other ∈ used', other ∈ used ∨ other = flag) :
    overlaid used' flags env (overlaid used [flag] env values) =
      overlaid used (flag :: flags) env values := by
  funext other
  by_cases hother : other = flag
  · subst other
    simp [overlaid, hfresh]
  · have hused : other ∉ used' ↔ other ∉ used :=
      not_congr ⟨fun h => (hmem other h).resolve_right hother, fun h => hsubset h⟩
    simp [overlaid, hother, hused]

/-- The look-ups end well if and only if nothing is wrong with the variables of the options that have not
been used, and then the values that count are read. -/
theorem foldlM_fromEnvironment (env : Environment) (h : p.Holds used values) (honce : flags.Nodup) :
    ((∃ q, flags.foldlM (fromEnvironment env) p = .ok q) ↔
      ∀ flag ∈ flags, flag ∉ used → ∀ value, flag.standInValue? env = some value →
        flag.Valid value) ∧
    ∀ q, flags.foldlM (fromEnvironment env) p = .ok q →
      ∀ flag, q.settings.Reads (overlaid used flags env values flag) flag := by
  induction flags generalizing p used values with
  | nil =>
      refine ⟨⟨fun _ _ => nofun, fun _ => ⟨p, rfl⟩⟩, fun q hq flag => ?_⟩
      cases hq
      have hvalue : overlaid used [] env values flag = values flag := if_neg (by simp)
      rw [hvalue]
      exact h.reads flag
  | cons flag flags ih =>
      rw [List.nodup_cons] at honce
      refine ⟨⟨?_, fun hvalid => ?_⟩, fun q hq => ?_⟩
      · rintro ⟨q, hq⟩ other hother hunused
        rw [List.foldlM_cons] at hq
        obtain ⟨p', hlook, hq⟩ := Settings.bind_eq_ok hq
        obtain ⟨hfirst, used', -, hmem, hholds⟩ := h.looked hlook
        by_cases heq : other = flag
        · subst other
          exact hfirst hunused
        · refine (ih hholds honce.2).1.mp ⟨q, hq⟩ other
            ((List.mem_cons.mp hother).resolve_left heq) fun hused => ?_
          exact ((hmem other hused).elim hunused heq).elim
      · obtain ⟨p', hlook⟩ := exists_fromEnvironment h (hvalid flag List.mem_cons_self)
        obtain ⟨-, used', hsubset, -, hholds⟩ := h.looked hlook
        rw [List.foldlM_cons, hlook]
        exact (ih hholds honce.2).1.mpr fun other hother hunused =>
          hvalid other (List.mem_cons_of_mem _ hother) fun hused => hunused (hsubset hused)
      · rw [List.foldlM_cons] at hq
        obtain ⟨p', hlook, hq⟩ := Settings.bind_eq_ok hq
        obtain ⟨-, used', hsubset, hmem, hholds⟩ := h.looked hlook
        rw [← overlaid_cons honce.1 hsubset hmem]
        exact (ih hholds honce.2).2 q hq

/-- The variables of options that have been used are not looked at. -/
theorem foldlM_congr (h : p.Holds used values)
    (hsame : ∀ flag, flag ∉ used → flag.standInValue? env' = flag.standInValue? env) :
    flags.foldlM (fromEnvironment env') p = flags.foldlM (fromEnvironment env) p := by
  induction flags generalizing p used values with
  | nil => rfl
  | cons flag flags ih =>
      have hlook : fromEnvironment env' p flag = fromEnvironment env p flag := by
        by_cases hused : flag ∈ p.used
        · rw [fromEnvironment, fromEnvironment, if_pos hused, if_pos hused]
        · have hvariable := hsame flag (by rwa [← h.used_eq])
          rw [Flag.standInValue?, Flag.standInValue?] at hvariable
          simp only [fromEnvironment, hvariable]
      rw [List.foldlM_cons, List.foldlM_cons, hlook]
      cases hp : fromEnvironment env p flag with
      | error stop => rfl
      | ok p' =>
          obtain ⟨-, used', hsubset, -, hholds⟩ := h.looked hp
          exact ih hholds fun other hunused => hsame other fun hused => hunused (hsubset hused)

end FromEnvironment

/-! ### The settings -/

section Settings

variable {given : List (Flag × Bytes)} {managed : List String} {arguments : List Bytes}

theorem Flag.mem_all (flag : Flag) : flag ∈ Flag.all := by
  cases flag <;> decide

theorem mapM_encode {decode : Bytes → Except Stop String}
    (h : ∀ text, decode (Utf8.encode text) = .ok text) (managed : List String) :
    (managed.map Utf8.encode).mapM decode = .ok managed := by
  induction managed with
  | nil => rfl
  | cons text rest ih =>
      rw [List.map_cons, List.mapM_cons, ih, h]
      rfl

/-- Once the arguments have been read, only the look-ups remain. -/
theorem Writes.ofArguments_eq (h : Writes given managed arguments) :
    ∃ p : Progress, p.Holds (given.map Prod.fst) (fun flag => (given.lookup flag).getD flag.standard) ∧
      ∀ env, Settings.ofArguments arguments env =
        (Flag.all.foldlM (fromEnvironment env) p).map fun q => { q.settings with arguments := managed } := by
  obtain ⟨options, trailing, rfl, hoptions, htrailing⟩ := h.spelled
  have hblank : ({} : Progress).Holds [] Flag.standard := ⟨rfl, rfl, Settings.reads_standard⟩
  obtain ⟨p', hread, p, hsettled, hp⟩ := takeArguments_of_spells hblank.stands (fun _ _ => nofun) h.once
    h.valid hoptions trailing
  refine ⟨p, hp, fun env => ?_⟩
  have htrail : ∃ rest, takeArguments p' trailing = .ok (p', rest) ∧ rest = managed.map Utf8.encode := by
    cases htrailing with
    | absent => exact ⟨[], rfl, rfl⟩
    | present => exact ⟨_, rfl, rfl⟩
  obtain ⟨rest, htrail, rfl⟩ := htrail
  rw [htrail] at hread
  rw [Settings.ofArguments, hread]
  change (p'.settled >>= fun p => _) = _
  rw [hsettled]
  change (List.mapM (m := Except Stop) _ _ >>= fun managed => _) = _
  rw [mapM_encode fun text => by simp only [Utf8.decode?_encode]]
  change (Flag.all.foldlM (fromEnvironment env) p >>= fun q => _) = _
  cases Flag.all.foldlM (fromEnvironment env) p with
  | error stop => rfl
  | ok q => rfl

theorem overlaid_all (env : Environment) (flag : Flag) :
    overlaid (given.map Prod.fst) Flag.all env (fun flag => (given.lookup flag).getD flag.standard) flag =
      chosen given env flag := by
  unfold overlaid chosen
  cases hlookup : given.lookup flag with
  | none =>
      rw [if_pos ⟨flag.mem_all, (lookup_eq_none flag).mp hlookup⟩, Option.none_or]
      simp only [hlookup, Option.getD_none]
  | some value =>
      have hgiven : ¬(flag ∈ Flag.all ∧ flag ∉ given.map Prod.fst) := by
        rw [← lookup_eq_none, hlookup]
        simp
      rw [if_neg hgiven, Option.some_or, Option.getD_some]
      simp only [hlookup, Option.getD_some]

/-- A command line is accepted if and only if nothing is wrong with the variables of the options that it
does not give. Then each option has the value that is given, or else that of its variable, or else the
usual one, and the managed program has the arguments behind the two dashes. The variables of options that
are given make no difference. -/
theorem settings_by_precedence (h : Writes given managed arguments) (env : Environment) :
    ((∃ s, Settings.ofArguments arguments env = .ok s) ↔
      ∀ flag, flag ∉ given.map Prod.fst → ∀ value, flag.standInValue? env = some value →
        flag.Valid value) ∧
    (∀ s, Settings.ofArguments arguments env = .ok s →
      (∀ flag, s.Reads (chosen given env flag) flag) ∧ s.arguments = managed ∧
      s.deployment =
        { program := s.program
          arguments := if managed = [] then Supervisor.Deployment.defaultArguments else managed
          directory := s.directory
          stopTimeout := .ofSeconds s.stopTimeout.toNat
          overlay := ⟨s.library⟩ }) ∧
    ∀ env', (∀ flag, flag ∉ given.map Prod.fst → flag.standInValue? env' = flag.standInValue? env) →
      Settings.ofArguments arguments env' = Settings.ofArguments arguments env := by
  obtain ⟨p, hp, hof⟩ := h.ofArguments_eq
  have honce : Flag.all.Nodup := by decide
  obtain ⟨hends, hreads⟩ := foldlM_fromEnvironment env hp honce
  refine ⟨⟨?_, fun hvalid => ?_⟩, fun s hs => ?_, fun env' hsame => ?_⟩
  · rintro ⟨s, hs⟩ flag hflag
    rw [hof] at hs
    obtain ⟨q, hq, -⟩ := Settings.map_eq_ok hs
    exact hends.mp ⟨q, hq⟩ flag flag.mem_all hflag
  · obtain ⟨q, hq⟩ := hends.mpr fun flag _ => hvalid flag
    rw [hof, hq]
    exact ⟨_, rfl⟩
  · rw [hof] at hs
    obtain ⟨q, hq, rfl⟩ := Settings.map_eq_ok hs
    refine ⟨fun flag => ?_, rfl, ?_⟩
    · rw [← overlaid_all]
      exact (Settings.reads_arguments managed).mpr (hreads q hq flag)
    · simp only [Settings.deployment, List.isEmpty_iff]
  · rw [hof, hof, foldlM_congr hp hsame]

end Settings

/-! ### A command line

Two options are given, one in each way, and the arguments of the managed program look like a third. The
environment has a variable that is no good for the first of them and one for the third. -/

namespace Sample

def given : List (Flag × Bytes) := [(.program, [0x2D]), (.stopTimeout, Utf8.encode "5")]

def managed : List String := ["--bind", "[::1]:1"]

def line : List Bytes :=
  ["--program", "-", "--stop-timeout-secs=5", "--", "--bind", "[::1]:1"].map Utf8.encode

def env : Environment :=
  .ofList [(Utf8.encode "MANAGED_PROGRAM", []), (Utf8.encode "TIME_CONTROLLER_BIND",
    Utf8.encode "127.0.0.1:1")]

theorem reads_five : ({ stopTimeout := 5 } : Settings).Reads (Utf8.encode "5") .stopTimeout :=
  ⟨"5", 5, Utf8.decode?_encode _, rfl, rfl⟩

theorem reads_local :
    ({ bind := ⟨.v4 127 0 0 1, 1⟩ } : Settings).Reads (Utf8.encode "127.0.0.1:1") .bind :=
  ⟨"127.0.0.1:1", Utf8.decode?_encode _, by decide⟩

theorem writes_line : Writes given managed line where
  once := by decide
  valid := by
    intro flag value hmem
    simp only [given, List.mem_cons, Prod.mk.injEq, List.not_mem_nil, or_false] at hmem
    obtain ⟨rfl, rfl⟩ | ⟨rfl, rfl⟩ := hmem
    · exact ⟨{ program := [0x2D] }, by decide, rfl⟩
    · exact ⟨_, reads_five⟩
  spelled := ⟨_, _, rfl, .cons (.apart (Or.inl rfl)) (.cons .joined .nil), .present managed⟩

/-- Nothing is wrong with the variables that count: there is one, which is an address. -/
theorem valid_variables : ∀ flag, flag ∉ given.map Prod.fst → ∀ value,
    flag.standInValue? env = some value → flag.Valid value := by
  intro flag hflag value hvariable
  cases flag with
  | bind =>
      have hvalue : Flag.bind.standInValue? env = some (Utf8.encode "127.0.0.1:1") := by decide
      rw [hvalue] at hvariable
      cases hvariable
      exact ⟨_, reads_local⟩
  | program => exact absurd (by decide) hflag
  | stopTimeout => exact absurd (by decide) hflag
  | directory => cases hvariable
  | library => cases hvariable
  | logLevel => cases hvariable

end Sample

theorem settings_by_precedence_line :
    Writes Sample.given Sample.managed Sample.line ∧
      ¬Flag.program.Valid ((Flag.program.standInValue? Sample.env).getD []) ∧
      ∃ s, Settings.ofArguments Sample.line Sample.env = .ok s ∧ s.program = [0x2D] ∧
        s.bind = ⟨.v4 127 0 0 1, 1⟩ ∧ s.directory = Supervisor.Deployment.defaultDirectory ∧
        s.deployment.arguments = ["--bind", "[::1]:1"] := by
  obtain ⟨haccepted, hsettings, -⟩ := settings_by_precedence Sample.writes_line Sample.env
  obtain ⟨s, hs⟩ := haccepted.mpr Sample.valid_variables
  obtain ⟨hreads, harguments, hdeployment⟩ := hsettings s hs
  refine ⟨Sample.writes_line, ?_, s, hs, (hreads .program).2, ?_, (hreads .directory).2, ?_⟩
  · rintro ⟨t, hne, -⟩
    exact hne (by decide)
  · obtain ⟨text, htext, hbind⟩ := hreads .bind
    have hchosen : chosen Sample.given Sample.env .bind = Utf8.encode "127.0.0.1:1" := by decide
    rw [hchosen, Utf8.decode?_encode] at htext
    cases htext
    have haddress : Net.SocketAddress.ofText? "127.0.0.1:1" = some ⟨.v4 127 0 0 1, 1⟩ := by decide
    rw [haddress] at hbind
    exact (Option.some.inj hbind).symm
  · rw [hdeployment]
    rfl

end ClockWarden.CommandLine
