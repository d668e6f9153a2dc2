import ClockWarden.Log.Filter
import Mathlib.Data.Prod.Lex
import Mathlib.Data.String.Basic

/-! Which of several directives decides. Directives are told apart by their strength, and the last of the
strongest ones decides (`Filter.strongest`), so a directive that is given again later need not have been given
before (`strongest_again`). A component whose directive stands among others, which are given again before and
behind it, is decided by its own directive and one copy of the others (`decisive_layered`). -/

namespace ClockWarden.Log

namespace Directive

/-- How far the target of a directive reaches; one without a target reaches less far than all others. -/
def reach (d : Directive) : Nat := (d.target.map fun t => t.utf8ByteSize + 1).getD 0

/-- What makes a directive more specific than others: the reach of its target, the number of its fields, and
the order of their names. -/
def strength (d : Directive) : Nat ×ₗ Nat ×ₗ List String :=
  toLex (d.reach, toLex (d.fields.length, d.fieldNames))

theorem namesBefore_iff (names others : List String) : namesBefore names others = true ↔ names < others := by
  induction names generalizing others with
  | nil => cases others <;> simp [namesBefore]
  | cons name names ih =>
      cases others with
      | nil => simp [namesBefore]
      | cons other others =>
          rw [namesBefore, List.cons_lt_cons_iff, ← ih]
          rcases lt_trichotomy name other with hlt | rfl | hgt
          · simp [hlt]
          · simp
          · simp [hgt, hgt.not_gt, hgt.ne']

theorem isWeaker_iff (d other : Directive) : d.isWeaker other = true ↔ d.strength < other.strength := by
  have hunfolded : d.isWeaker other =
      if d.reach ≠ other.reach then decide (d.reach < other.reach)
      else if d.fields.length ≠ other.fields.length then decide (d.fields.length < other.fields.length)
      else namesBefore d.fieldNames other.fieldNames := rfl
  simp only [hunfolded, strength, Prod.Lex.toLex_lt_toLex, ← namesBefore_iff]
  by_cases hreach : d.reach = other.reach
  · by_cases hfields : d.fields.length = other.fields.length <;> simp [hreach, hfields]
  · simp [hreach]

theorem isWeaker_of_reach {d other : Directive} (h : d.reach < other.reach) : d.isWeaker other = true :=
  (isWeaker_iff d other).mpr (Prod.Lex.toLex_lt_toLex.mpr (Or.inl h))

/-- The directive that lets a component through up to a threshold. -/
def ofLevel (target : String) (threshold : Threshold) : Directive := { target := some target, threshold }

theorem fits_ofLevel (target : String) (threshold : Threshold) (e : Entry) (names : List String) :
    (ofLevel target threshold).fits e names = true ↔ target.toList <+: e.target.toList := by
  simp [fits, ofLevel, fieldNames]

end Directive

namespace Filter

open Directive

/-! ### The strongest of several directives -/

/-- Of two choices the one that decides, the later one if they are alike. -/
def strongest (chosen : Option Directive) : Option Directive → Option Directive
  | none => chosen
  | some d => stronger chosen d

@[simp] theorem strongest_none (chosen : Option Directive) : strongest chosen none = chosen := rfl

@[simp] theorem none_strongest (chosen : Option Directive) : strongest none chosen = chosen := by
  cases chosen <;> rfl

theorem strongest_of_isWeaker {best d : Directive} (h : d.isWeaker best = true) :
    strongest (some best) (some d) = some best := if_pos h

theorem strongest_of_not_isWeaker {best d : Directive} (h : ¬d.isWeaker best = true) :
    strongest (some best) (some d) = some d := if_neg h

theorem strongest_assoc (a b c : Option Directive) :
    strongest (strongest a b) c = strongest a (strongest b c) := by
  rcases a with _ | a
  · simp
  rcases b with _ | b
  · simp
  rcases c with _ | c
  · simp
  by_cases hab : b.isWeaker a = true
  · rw [strongest_of_isWeaker hab]
    by_cases hbc : c.isWeaker b = true
    · have hac : c.isWeaker a = true := by
        rw [isWeaker_iff] at *
        exact hbc.trans hab
      rw [strongest_of_isWeaker hbc, strongest_of_isWeaker hac, strongest_of_isWeaker hab]
    · rw [strongest_of_not_isWeaker hbc]
  · rw [strongest_of_not_isWeaker hab]
    by_cases hbc : c.isWeaker b = true
    · rw [strongest_of_isWeaker hbc, strongest_of_not_isWeaker hab]
    · have hac : ¬c.isWeaker a = true := by
        rw [isWeaker_iff, not_lt] at *
        exact hab.trans hbc
      rw [strongest_of_not_isWeaker hbc, strongest_of_not_isWeaker hac]

theorem strongest_self (a : Option Directive) : strongest a a = a := by
  rcases a with _ | a
  · rfl
  · exact strongest_of_not_isWeaker (by simp [isWeaker_iff])

/-- What is chosen again later need not have been chosen before. -/
theorem strongest_again (a b : Option Directive) :
    strongest a (strongest b a) = strongest b a := by
  rcases a with _ | a
  · simp
  rcases b with _ | b
  · exact strongest_self _
  by_cases hba : a.isWeaker b = true
  · rw [strongest_of_isWeaker hba]
    refine strongest_of_not_isWeaker ?_
    rw [isWeaker_iff] at *
    exact hba.not_gt
  · rw [strongest_of_not_isWeaker hba]
    exact strongest_self _

theorem foldl_stronger (directives : List Directive) (chosen : Option Directive) :
    directives.foldl stronger chosen = strongest chosen (directives.foldl stronger none) := by
  induction directives generalizing chosen with
  | nil => rfl
  | cons d rest ih =>
      have hfirst : stronger chosen d = strongest chosen (some d) := rfl
      have hsole : stronger none d = some d := rfl
      rw [List.foldl_cons, List.foldl_cons, ih, hfirst, hsole, strongest_assoc, ← ih]

/-! ### The directive that decides an entry -/

section Decisive

variable {e : Entry} {names : List String}

/-- The directive that decides an entry. -/
def decisive (directives : List Directive) (e : Entry) (names : List String) : Option Directive :=
  ((directives.filter isPlain).filter (·.fits e names)).foldl stronger none

theorem allowsWith_eq (directives : List Directive) :
    (Filter.mk directives).allowsWith e names =
      ((decisive directives e names).elim false fun d => d.threshold.allows e.level) := by
  unfold allowsWith decisive
  cases List.foldl stronger none _ <;> rfl

theorem decisive_append (first second : List Directive) :
    decisive (first ++ second) e names = strongest (decisive first e names) (decisive second e names) := by
  simp only [decisive, List.filter_append, List.foldl_append]
  exact foldl_stronger _ _

theorem decisive_cons (d : Directive) (rest : List Directive) :
    decisive (d :: rest) e names =
      strongest (if d.isPlain && d.fits e names then some d else none) (decisive rest e names) := by
  rw [← List.singleton_append, decisive_append]
  cases hplain : d.isPlain <;> cases hfits : d.fits e names <;> simp [decisive, hplain, hfits, stronger]

/-- A directive that is given last decides if none that speaks of the entry is stronger. -/
theorem decisive_strongest {d : Directive} {directives : List Directive}
    (h : ∀ other ∈ directives, other.isPlain = true → other.fits e names = true → ¬d.isWeaker other = true) :
    strongest (decisive directives e names) (some d) = some d := by
  induction directives with
  | nil => rfl
  | cons other rest ih =>
      rw [List.forall_mem_cons] at h
      rw [decisive_cons, strongest_assoc, ih h.2]
      split
      · rename_i hother
        rw [Bool.and_eq_true] at hother
        exact strongest_of_not_isWeaker (h.1 hother.1 hother.2)
      · rfl

/-! ### Components among further directives -/

/-- A directive for each component, each with the same further directives behind it. -/
def layered (base : Threshold) (further : List Directive) (components : List String) : List Directive :=
  components.flatMap fun component => ofLevel component base :: further

variable {base : Threshold} {further : List Directive} {components : List String}

/-- The further directives decide where no component is spoken of. -/
theorem decisive_layered_outside (h : ∀ component ∈ components, ¬component.toList <+: e.target.toList)
    (hsome : components ≠ []) : decisive (layered base further components) e names = decisive further e names := by
  induction components with
  | nil => exact absurd rfl hsome
  | cons component rest ih =>
      rw [List.forall_mem_cons] at h
      have hfits : (ofLevel component base).fits e names = false :=
        Bool.eq_false_iff.mpr (mt (fits_ofLevel component base e names).mp h.1)
      rw [layered, List.flatMap_cons, decisive_append, decisive_cons, hfits, Bool.and_false]
      rw [if_neg Bool.false_ne_true, none_strongest]
      by_cases hrest : rest = []
      · rw [hrest]
        rfl
      · rw [show decisive (rest.flatMap _) e names = _ from ih h.2 hrest]
        exact strongest_self _

/-- A component is decided by its own directive and the further ones. -/
theorem decisive_layered {component : String} (hmem : component ∈ components)
    (hbegins : component.toList <+: e.target.toList)
    (hsole : ∀ other ∈ components, other.toList <+: e.target.toList → other = component) :
    decisive (layered base further components) e names =
      decisive (ofLevel component base :: further) e names := by
  have hfits : (ofLevel component base).fits e names = true := (fits_ofLevel component base e names).mpr hbegins
  have hplain (target : String) : (ofLevel target base).isPlain = true := rfl
  have hown : decisive (ofLevel component base :: further) e names =
      strongest (some (ofLevel component base)) (decisive further e names) := by
    rw [decisive_cons, hplain, hfits, Bool.and_self, if_pos rfl]
  induction components with
  | nil => cases hmem
  | cons other rest ih =>
      rw [List.forall_mem_cons] at hsole
      rw [layered, List.flatMap_cons, decisive_append]
      change strongest _ (decisive (layered base further rest) e names) = _
      by_cases hrest : component ∈ rest
      · rw [ih hrest hsole.2]
        by_cases hother : other = component
        · rw [hother]
          exact strongest_self _
        · have hmisses : (ofLevel other base).fits e names = false :=
            Bool.eq_false_iff.mpr fun hfits => hother (hsole.1 ((fits_ofLevel other base e names).mp hfits))
          rw [decisive_cons, hmisses, Bool.and_false, if_neg Bool.false_ne_true, none_strongest, hown]
          exact strongest_again _ _
      · obtain rfl : component = other := (List.mem_cons.mp hmem).resolve_right hrest
        by_cases hempty : rest = []
        · rw [hempty]
          rfl
        · have hnone : ∀ other ∈ rest, ¬other.toList <+: e.target.toList := by
            rintro other hother hbegins
            obtain rfl := hsole.2 other hother hbegins
            exact hrest hother
          rw [decisive_layered_outside hnone hempty, hown, strongest_assoc, strongest_self]

end Decisive

end Filter

end ClockWarden.Log
