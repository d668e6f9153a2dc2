import ClockWarden.Proofs.Log.LevelTexts
import ClockWarden.Proofs.Service.ProgramOrder

/-! What the log level comes to. Up to its first comma the text is one threshold for all components, and
only what stands behind the comma can set components apart: a component that is named there goes by the last
level it is given, all others go by the threshold (`Filter.Follows`). A text of another form is refused, and
the control program ends before it has called on its host (`log_level_decides`). Entries outside all spans are
meant. -/

namespace ClockWarden

namespace Log

namespace Directive

/-- Whether a directive is for a component or a part of it. -/
def Names (d : Directive) (component : String) : Prop :=
  ∃ target, d.target = some target ∧ component.toList <+: target.toList

theorem utf8ByteSize_lt {first second : String} (h : first.toList <+: second.toList)
    (hne : first ≠ second) : first.utf8ByteSize < second.utf8ByteSize := by
  obtain ⟨rest, hrest⟩ := h
  have hsecond : second = first ++ String.ofList rest := by
    rw [← String.toList_inj, String.toList_append, String.toList_ofList, hrest]
  have hsome : String.ofList rest ≠ "" := by
    intro hempty
    rw [hempty, String.append_empty] at hsecond
    exact hne hsecond.symm
  have hpos : (String.ofList rest).utf8ByteSize ≠ 0 := mt String.utf8ByteSize_eq_zero_iff.mp hsome
  rw [hsecond, String.utf8ByteSize_append]
  omega

/-- A directive that fits an entry of a component, but does not name the component, reaches less far. -/
theorem reach_lt_of_not_names {d : Directive} {component : String} {e : Entry} {names : List String}
    (hfits : d.fits e names = true) (hbegins : component.toList <+: e.target.toList)
    (hnames : ¬d.Names component) (threshold : Threshold) : d.reach < (ofLevel component threshold).reach := by
  have hreach : (ofLevel component threshold).reach = component.utf8ByteSize + 1 := rfl
  rw [hreach]
  cases htarget : d.target with
  | none =>
      rw [reach, htarget]
      exact Nat.succ_pos _
  | some target =>
      have htargets : target.toList <+: e.target.toList := by
        simp only [fits, htarget, Bool.and_eq_true, List.isPrefixOf_iff_prefix] at hfits
        exact hfits.1
      have hshorter : target.toList <+: component.toList := by
        refine Or.resolve_right ?_ fun h => hnames ⟨target, htarget, h⟩
        exact List.prefix_or_prefix_of_prefix htargets hbegins
      have hne : target ≠ component := by
        rintro rfl
        exact hnames ⟨target, htarget, List.prefix_rfl⟩
      rw [reach, htarget]
      exact Nat.succ_lt_succ (utf8ByteSize_lt hshorter hne)

end Directive

open Directive

/-- The level that a component is given last, by a word of its own. -/
def lastLevel (component : String) (further : List Directive) (base : Threshold) : Threshold :=
  further.foldl (fun level d => if d.isPlain && d.target = some component then d.threshold else level) base

theorem lastLevel_of_not_names {component : String} {further : List Directive} (base : Threshold)
    (h : ∀ d ∈ further, d.isPlain = true → ¬d.Names component) : lastLevel component further base = base := by
  induction further with
  | nil => rfl
  | cons d rest ih =>
      rw [List.forall_mem_cons] at h
      have hother : (d.isPlain && decide (d.target = some component)) = false := by
        rw [Bool.and_eq_false_iff, decide_eq_false_iff_not, or_iff_not_imp_left, Bool.not_eq_false]
        exact fun hplain htarget => h.1 hplain ⟨component, htarget, List.prefix_rfl⟩
      rw [lastLevel, List.foldl_cons, hother]
      exact ih h.2

section Components

variable {component : String} {e : Entry} {names : List String}

/-- A directive that does not name a component leaves it with its level. -/
theorem strongest_of_not_names {d : Directive} (hbegins : component.toList <+: e.target.toList)
    (hnames : ¬d.Names component) (base : Threshold) :
    Filter.strongest (some (ofLevel component base)) (if d.isPlain && d.fits e names then some d else none) =
      some (ofLevel component base) := by
  split
  · rename_i hfits
    rw [Bool.and_eq_true] at hfits
    exact Filter.strongest_of_isWeaker (isWeaker_of_reach (reach_lt_of_not_names hfits.2 hbegins hnames base))
  · rfl

/-- Where further directives name a component by a level only, the last of these decides. -/
theorem decisive_lastLevel {further : List Directive} (hbegins : component.toList <+: e.target.toList)
    (h : ∀ d ∈ further, d.isPlain = true → d.Names component → d = .ofLevel component d.threshold)
    (base : Threshold) :
    Filter.strongest (some (ofLevel component base)) (Filter.decisive further e names) =
      some (ofLevel component (lastLevel component further base)) := by
  -- Each level that the component is given takes the place of the base, so the base is not fixed.
  induction further generalizing base with
  | nil => rfl
  | cons d rest ih =>
      rw [List.forall_mem_cons] at h
      rw [Filter.decisive_cons, ← Filter.strongest_assoc, lastLevel, List.foldl_cons]
      by_cases hplain : d.isPlain = true
      swap
      · simp only [hplain, Bool.false_and, Bool.false_eq_true, if_false]
        exact ih h.2 base
      by_cases hnames : d.Names component
      · obtain ⟨level, rfl⟩ : ∃ level, d = ofLevel component level := ⟨_, h.1 hplain hnames⟩
        have hfits := (fits_ofLevel component level e names).mpr hbegins
        have htarget : (ofLevel component level).target = some component := rfl
        have halike : Filter.strongest (some (ofLevel component base)) (some (ofLevel component level)) =
            some (ofLevel component level) :=
          Filter.strongest_of_not_isWeaker fun hweaker => lt_irrefl _ ((isWeaker_iff _ _).mp hweaker)
        simp only [hplain, hfits, htarget, decide_true, Bool.and_self, if_true, halike]
        exact ih h.2 level
      · have htarget : d.target ≠ some component := fun htarget =>
          hnames ⟨component, htarget, List.prefix_rfl⟩
        rw [strongest_of_not_names hbegins hnames]
        simp only [htarget, decide_false, Bool.and_false, Bool.false_eq_true, if_false]
        exact ih h.2 base

/-- No component is a part of another one, nor of the one that always warns. -/
theorem component_unique {component other : String} (h : component ∈ "hyper" :: components)
    (hother : other ∈ "hyper" :: components) {text : List Char} (hbegins : component.toList <+: text)
    (hbeginsOther : other.toList <+: text) : other = component := by
  have hapart : ∀ first ∈ "hyper" :: components, ∀ second ∈ "hyper" :: components,
      first.toList <+: second.toList → first = second := by
    decide +kernel
  rcases List.prefix_or_prefix_of_prefix hbeginsOther hbegins with hshorter | hlonger
  · exact hapart _ hother _ h hshorter
  · exact (hapart _ h _ hother hlonger).symm

/-- What a filter does that follows a choice. -/
structure Filter.Follows (filter : Filter) (choice : Choice) : Prop where
  /-- Whatever the further directives are, an entry of a component is decided by the threshold of the choice
  and by them, in the same way for all components. -/
  own : ∀ component ∈ components, ∀ (e : Entry) (names : List String),
    component.toList <+: e.target.toList →
      filter.allowsWith e names =
        (Filter.mk (.ofLevel component choice.base :: choice.further)).allowsWith e names
  /-- A component that no further directive names goes by the threshold of the choice. -/
  unnamed : ∀ component ∈ components, (∀ d ∈ choice.further, d.isPlain = true → ¬d.Names component) →
    ∀ (e : Entry) (names : List String), component.toList <+: e.target.toList →
      filter.allowsWith e names = choice.base.allows e.level
  /-- A component that further directives name by a level only goes by the last of these levels. -/
  named : ∀ component ∈ components,
    (∀ d ∈ choice.further, d.isPlain = true → d.Names component → d = .ofLevel component d.threshold) →
    ∀ (e : Entry) (names : List String), component.toList <+: e.target.toList →
      filter.allowsWith e names = (lastLevel component choice.further choice.base).allows e.level
  /-- The component that always warns is decided by the further directives and the warning behind them. -/
  hyper : ∀ (e : Entry) (names : List String), "hyper".toList <+: e.target.toList →
    filter.allowsWith e names = (Filter.mk (choice.further ++ [warning])).allowsWith e names
  /-- That component warns, and no more, unless further directives name a part of it or fields of its entries. -/
  warns : (∀ d ∈ choice.further, d.isPlain = true → d.Names "hyper" → d = .ofLevel "hyper" d.threshold) →
    ∀ (e : Entry) (names : List String), "hyper".toList <+: e.target.toList →
      (filter.allowsWith e names = true ↔ e.level = .error ∨ e.level = .warn)

/-- The directives of the other components do not fit an entry of a component. -/
theorem Choice.allowsWith_component (choice : Choice) (hmem : component ∈ components)
    (hbegins : component.toList <+: e.target.toList) :
    choice.filter.allowsWith e names =
      (Filter.mk (.ofLevel component choice.base :: choice.further)).allowsWith e names := by
  have hmem' : component ∈ "hyper" :: components := List.mem_cons_of_mem _ hmem
  have hmisses : warning.fits e names = false := by
    refine Bool.eq_false_iff.mpr fun hfits => ?_
    have heq := component_unique hmem' List.mem_cons_self hbegins ((fits_ofLevel _ _ e names).mp hfits)
    rw [← heq] at hmem
    exact absurd hmem (by decide +kernel)
  have hnone : Filter.decisive [warning] e names = none := by
    rw [Filter.decisive_cons, hmisses, Bool.and_false]
    rfl
  rw [Choice.filter, Filter.allowsWith_eq, Filter.allowsWith_eq, Filter.decisive_append, hnone,
    Filter.strongest_none, Filter.decisive_layered hmem hbegins]
  exact fun other hother h => component_unique hmem' (List.mem_cons_of_mem _ hother) hbegins h

theorem Choice.allowsWith_lastLevel (choice : Choice) (hmem : component ∈ components)
    (h : ∀ d ∈ choice.further, d.isPlain = true → d.Names component → d = .ofLevel component d.threshold)
    (hbegins : component.toList <+: e.target.toList) :
    choice.filter.allowsWith e names = (lastLevel component choice.further choice.base).allows e.level := by
  have hplain : (ofLevel component choice.base).isPlain = true := rfl
  have hfits := (fits_ofLevel component choice.base e names).mpr hbegins
  rw [choice.allowsWith_component hmem hbegins, Filter.allowsWith_eq, Filter.decisive_cons, hplain, hfits,
    Bool.and_self, if_pos rfl, decisive_lastLevel hbegins h]
  rfl

theorem Choice.allowsWith_hyper (choice : Choice) (hbegins : "hyper".toList <+: e.target.toList) :
    choice.filter.allowsWith e names = (Filter.mk (choice.further ++ [warning])).allowsWith e names := by
  have hmisses : ∀ component ∈ components, ¬component.toList <+: e.target.toList := by
    intro component hmem h
    have heq := component_unique List.mem_cons_self (List.mem_cons_of_mem _ hmem) hbegins h
    rw [heq] at hmem
    exact absurd hmem (by decide +kernel)
  rw [Choice.filter, Filter.allowsWith_eq, Filter.allowsWith_eq, Filter.decisive_append, Filter.decisive_append,
    Filter.decisive_layered_outside hmisses (List.cons_ne_nil _ _)]

/-- The warning is given last, so a level that further directives give its component does not count. -/
theorem decisive_warning {further : List Directive} (hbegins : "hyper".toList <+: e.target.toList)
    (h : ∀ d ∈ further, d.isPlain = true → d.Names "hyper" → d = .ofLevel "hyper" d.threshold) :
    Filter.decisive (further ++ [warning]) e names = some warning := by
  have hfits : warning.fits e names = true := (fits_ofLevel _ _ e names).mpr hbegins
  have hsole : Filter.decisive [warning] e names = some warning := by
    rw [Filter.decisive_cons, hfits]
    rfl
  rw [Filter.decisive_append, hsole]
  refine Filter.decisive_strongest fun d hd hplain hfits hweaker => ?_
  rw [isWeaker_iff] at hweaker
  by_cases hnames : d.Names "hyper"
  · rw [h d hd hplain hnames] at hweaker
    exact lt_irrefl _ hweaker
  · have hreach := reach_lt_of_not_names hfits hbegins hnames ⟨Level.warn.rank⟩
    exact lt_asymm ((isWeaker_iff _ _).mp (isWeaker_of_reach hreach)) hweaker

end Components

theorem Choice.follows_filter (choice : Choice) : choice.filter.Follows choice where
  own _ hmem _ _ hbegins := choice.allowsWith_component hmem hbegins
  unnamed component hmem h e names hbegins := by
    rw [choice.allowsWith_lastLevel hmem (fun d hd hplain hnames => absurd hnames (h d hd hplain)) hbegins,
      lastLevel_of_not_names choice.base h]
  named _ hmem h _ _ hbegins := choice.allowsWith_lastLevel hmem h hbegins
  hyper _ _ hbegins := choice.allowsWith_hyper hbegins
  warns h e names hbegins := by
    rw [choice.allowsWith_hyper hbegins, Filter.allowsWith_eq, decisive_warning hbegins h]
    change decide (e.level.rank ≤ Level.warn.rank) = true ↔ _
    cases e.level <;> decide

theorem BadFilter.text_eq (directives reason : String) :
    BadFilter.text ⟨directives ++ ": " ++ reason⟩ =
      "Invalid log filter: " ++ directives ++ ": " ++ reason := by
  have htext (b : BadFilter) : b.text = "Invalid log filter: " ++ b.message := rfl
  rw [htext, String.append_assoc, String.append_assoc, String.append_assoc]

end Log

namespace Service

open Log Host Supervisor

/-- A program whose log filter is refused ends with that, and does nothing. -/
theorem Program.Reachable.refused {World : Type} {behaviour : Behaviour World} {arguments : List Bytes}
    {environment : Environment} {p : Program World} (h : Reachable behaviour arguments environment p)
    {settings : CommandLine.Settings}
    (hsettings : CommandLine.Settings.ofArguments arguments environment = .ok settings) {bad : BadFilter}
    (hfilter : Identity.controller.filter settings.logLevel = .error (.refused bad)) :
    p.main = .finished (.failed (.logFilter bad)) ∧ p.history = [] := by
  have hopening : Opening.of arguments environment = .rejected (.logFilter bad) := by
    simp only [Opening.of, hsettings, hfilter]
  have hidle := h.idle (by rw [hopening]; exact id)
  rwa [hopening] at hidle

/-- A program breaks off with the reading of its log filter, and does nothing. -/
theorem Program.Reachable.brokenOff {World : Type} {behaviour : Behaviour World} {arguments : List Bytes}
    {environment : Environment} {p : Program World} (h : Reachable behaviour arguments environment p)
    {settings : CommandLine.Settings}
    (hsettings : CommandLine.Settings.ofArguments arguments environment = .ok settings) {tear : Tear}
    (hfilter : Identity.controller.filter settings.logLevel = .error (.torn tear)) :
    p.main = .brokenOff tear ∧ p.history = [] := by
  have hopening : Opening.of arguments environment = .brokenOff tear := by
    simp only [Opening.of, hsettings, hfilter]
  have hidle := h.idle (by rw [hopening]; exact id)
  rwa [hopening] at hidle

/-- A log level either chooses a threshold for all components, and maybe further directives behind a comma, and
then the program opens with a filter that follows this choice; or it is refused, and then the program ends with
that failure; or a directive in it is cut inside a character, and then the program breaks off. In the last two
cases it has not called on its host. -/
theorem log_level_decides (level : String) :
    match Choice.ofText level with
    | .ok choice =>
      ∃ filter, Identity.controller.filter level = .ok filter ∧ filter.Follows choice ∧
        (',' ∉ level.toList → choice.further = []) ∧
        ∀ arguments environment settings,
          CommandLine.Settings.ofArguments arguments environment = .ok settings → settings.logLevel = level →
            Opening.of arguments environment = .opened ⟨settings, filter⟩
    | .error (.refused fault) =>
      ∃ bad : BadFilter, Identity.controller.filter level = .error (.refused bad) ∧
        bad.text = "Invalid log filter: " ++ Identity.controller.directives level ++ ": " ++ fault.message ∧
        ∀ (World : Type) (behaviour : Behaviour World) arguments environment settings p,
          CommandLine.Settings.ofArguments arguments environment = .ok settings → settings.logLevel = level →
            Program.Reachable behaviour arguments environment p →
              p.main = .finished (.failed (.logFilter bad)) ∧ p.history = []
    | .error (.torn tear) =>
      Identity.controller.filter level = .error (.torn tear) ∧
        ∀ (World : Type) (behaviour : Behaviour World) arguments environment settings p,
          CommandLine.Settings.ofArguments arguments environment = .ok settings → settings.logLevel = level →
            Program.Reachable behaviour arguments environment p →
              p.main = .brokenOff tear ∧ p.history = [] := by
  have hfilter := filter_controller level
  cases hchoice : Choice.ofText level with
  | ok choice =>
      rw [hchoice] at hfilter
      refine ⟨choice.filter, hfilter, choice.follows_filter, fun hcomma => ?_, ?_⟩
      · rw [Choice.ofText_of_notMem hcomma] at hchoice
        split at hchoice <;> cases hchoice
        rfl
      · rintro arguments environment settings hsettings rfl
        simp only [Opening.of, hsettings, hfilter]
  | error failure =>
      rw [hchoice] at hfilter
      cases failure with
      | refused fault =>
          refine ⟨_, hfilter, BadFilter.text_eq _ _, ?_⟩
          rintro World behaviour arguments environment settings p hsettings rfl hp
          exact hp.refused hsettings hfilter
      | torn tear =>
          refine ⟨hfilter, ?_⟩
          rintro World behaviour arguments environment settings p hsettings rfl hp
          exact hp.brokenOff hsettings hfilter

/-- A level text with a comma is accepted, and sets one component apart from all others. -/
theorem log_level_decides_apart :
    ∃ filter, Identity.controller.filter "off,shared=info" = .ok filter ∧
      (∀ (e : Entry) (names : List String), "shared".toList <+: e.target.toList →
        filter.allowsWith e names = (⟨Level.info.rank⟩ : Threshold).allows e.level) ∧
      ∀ component ∈ ["time_controller", "supervisor", "tower_http"], ∀ (e : Entry) (names : List String),
        component.toList <+: e.target.toList → filter.allowsWith e names = false := by
  have hchoice : Choice.ofText "off,shared=info" = .ok ⟨.off, [.ofLevel "shared" ⟨Level.info.rank⟩]⟩ := by
    decide +kernel
  have hdecides := log_level_decides "off,shared=info"
  rw [hchoice] at hdecides
  obtain ⟨filter, hfilter, hfollows, -⟩ := hdecides
  refine ⟨filter, hfilter, hfollows.named "shared" (by decide +kernel) ?_, ?_⟩
  · rintro d hd - -
    rw [List.mem_singleton.mp hd]
    rfl
  · intro component hmem e names hbegins
    have hcomponents : ∀ component ∈ ["time_controller", "supervisor", "tower_http"],
        component ∈ components ∧ ¬component.toList <+: "shared".toList := by
      decide +kernel
    obtain ⟨hcomponent, hapart⟩ := hcomponents component hmem
    rw [hfollows.unnamed component hcomponent ?_ e names hbegins]
    · change decide (e.level.rank ≤ 0) = false
      cases e.level <;> rfl
    · rintro d hd - ⟨target, htarget, htargets⟩
      rw [List.mem_singleton.mp hd] at htarget
      cases htarget
      exact hapart htargets

end Service

end ClockWarden
