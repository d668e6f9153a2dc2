import ClockWarden.Host.Path

/-! Paths read from a directory. What a path takes from the directory that it is read from are its `steps`,
which the dots and the empty segments of a path have no part in; the steps of a joined path are those of its
parts, one after another (`steps_join`), and absolute paths are alike when their steps are. A joined path begins
where its base does, so its components are those of the base and, but for a dot at their front, those of the path
(`components_join`), and paths that are alike are read alike (`Alike.join`). -/

namespace ClockWarden.Host

namespace Path

/-- The way that a path leads: its components without the one at the front that says where it begins. -/
def steps (p : Path) : List Component := (segments p).filterMap component?

theorem segments_ne_nil (p : Path) : segments p ≠ [] := by
  induction p with
  | nil => exact List.cons_ne_nil _ _
  | cons b rest ih =>
      unfold segments
      split
      · exact List.cons_ne_nil _ _
      · split <;> exact List.cons_ne_nil _ _

theorem segments_cons_of_ne {b : UInt8} (hb : b ≠ slash) {rest first : Path} {others : List Bytes}
    (hrest : segments rest = first :: others) : segments (b :: rest) = (b :: first) :: others := by
  rw [segments, if_neg hb, hrest]

/-- A slash parts the segments before it from those after it. -/
theorem segments_append_slash (p q : Path) : segments (p ++ slash :: q) = segments p ++ segments q := by
  induction p with
  | nil => rfl
  | cons b rest ih =>
      rw [List.cons_append]
      by_cases hb : b = slash
      · rw [segments, if_pos hb, ih, segments, if_pos hb, List.cons_append]
      · obtain ⟨first, others, hrest⟩ := List.exists_cons_of_ne_nil (segments_ne_nil rest)
        rw [hrest, List.cons_append] at ih
        rw [segments_cons_of_ne hb ih, segments_cons_of_ne hb hrest, List.cons_append]

theorem steps_append_slash (p q : Path) : steps (p ++ slash :: q) = steps p ++ steps q := by
  unfold steps
  rw [segments_append_slash, List.filterMap_append]

@[simp] theorem steps_nil : steps [] = [] := rfl

/-- A slash at the end does not count. -/
theorem steps_concat_slash (p : Path) : steps (p ++ [slash]) = steps p := by
  rw [steps_append_slash, steps_nil, List.append_nil]

theorem steps_join (base : Path) {p : Path} (hp : p.isAbsolute = false) :
    steps (join base p) = steps base ++ steps p := by
  unfold join
  rw [hp, if_neg (by simp)]
  split
  · rename_i hends
    rcases hends with rfl | hends
    · rw [List.nil_append, steps_nil, List.nil_append]
    · obtain ⟨front, rfl⟩ : ∃ front, base = front ++ [slash] := List.getLast?_eq_some_iff.mp hends
      rw [List.append_assoc, List.singleton_append, steps_append_slash, steps_concat_slash]
  · exact steps_append_slash base p

theorem join_of_isAbsolute (base : Path) {p : Path} (hp : p.isAbsolute = true) : join base p = p := by
  unfold join
  rw [if_pos hp]

theorem isAbsolute_join (base : Path) {p : Path} (hp : p.isAbsolute = false) :
    (join base p).isAbsolute = base.isAbsolute := by
  unfold join
  rw [hp, if_neg (by simp)]
  cases base with
  | nil => exact hp
  | cons b rest => split <;> rfl

theorem components_of_isAbsolute {p : Path} (hp : p.isAbsolute = true) :
    components p = .root :: steps p := by
  unfold components
  rw [if_pos hp]
  rfl

theorem alike_iff_steps {p q : Path} (hp : p.isAbsolute = true) (hq : q.isAbsolute = true) :
    Alike p q ↔ steps p = steps q := by
  unfold Alike
  rw [components_of_isAbsolute hp, components_of_isAbsolute hq, List.cons.injEq]
  exact and_iff_right rfl

/-- A way leads up or to a name. -/
theorem cases_of_mem_steps {p : Path} {component : Component} (h : component ∈ steps p) :
    component = .parent ∨ ∃ bytes, component = .name bytes := by
  obtain ⟨segment, -, hsegment⟩ := List.mem_filterMap.mp h
  unfold component? at hsegment
  split at hsegment
  · cases hsegment
  · split at hsegment
    · cases hsegment
    · split at hsegment <;> cases hsegment
      · exact Or.inl rfl
      · exact Or.inr ⟨segment, rfl⟩

theorem here_notMem_steps (p : Path) : Component.here ∉ steps p := by
  intro hmem
  obtain hparent | ⟨bytes, hname⟩ := cases_of_mem_steps hmem
  · cases hparent
  · cases hname

theorem root_notMem_steps (p : Path) : Component.root ∉ steps p := by
  intro hmem
  obtain hparent | ⟨bytes, hname⟩ := cases_of_mem_steps hmem
  · cases hparent
  · cases hname

/-- A path that leads nowhere else has no components but dots. -/
theorem steps_eq_nil_iff {p : Path} (hp : p.isAbsolute = false) :
    steps p = [] ↔ ∀ component ∈ components p, component = .here := by
  unfold components
  rw [hp, if_neg (by simp)]
  change steps p = [] ↔ ∀ component ∈ (if (segments p).head? = some [dot] then .here :: steps p else steps p), _
  constructor
  · intro hsteps
    rw [hsteps]
    split <;> simp
  · intro hall
    rw [List.eq_nil_iff_forall_not_mem]
    intro component hmem
    have hhere : component = .here := hall component (by split <;> simp [hmem])
    rw [hhere] at hmem
    exact here_notMem_steps p hmem

theorem segments_of_notMem {p : Path} (hp : slash ∉ p) : segments p = [p] := by
  induction p with
  | nil => rfl
  | cons b rest ih =>
      rw [List.mem_cons, not_or] at hp
      exact segments_cons_of_ne (Ne.symm hp.1) (ih hp.2)

theorem isAbsolute_of_notMem {p : Path} (hp : slash ∉ p) : p.isAbsolute = false := by
  refine decide_eq_false fun hhead => hp ?_
  exact List.mem_of_head? hhead

/-- A path without a slash has at most one component. -/
theorem length_components_of_notMem {p : Path} (hp : slash ∉ p) : p.components.length ≤ 1 := by
  unfold components
  rw [isAbsolute_of_notMem hp, segments_of_notMem hp]
  by_cases hdot : p = [dot]
  · subst hdot
    decide
  · have hhead : ¬[p].head? = some [dot] := fun h => hdot (Option.some.inj h)
    rw [if_neg (by simp), if_neg hhead]
    exact (List.length_filterMap_le component? [p])

/-! ### Components -/

/-- Where a path begins: at the root, at a dot, or at neither. -/
def origin (p : Path) : List Component :=
  if p.isAbsolute then [.root] else if (segments p).head? = some [dot] then [.here] else []

/-- The components behind a dot at the front. -/
def afterDot : List Component → List Component
  | .here :: rest => rest
  | components => components

theorem components_eq_origin_append (p : Path) : components p = origin p ++ steps p := by
  unfold components origin
  split
  · rfl
  · split <;> rfl

theorem afterDot_components {p : Path} (hp : p.isAbsolute = false) : afterDot (components p) = steps p := by
  rw [components_eq_origin_append, origin, hp, if_neg (by simp)]
  split
  · rfl
  · rw [List.nil_append]
    unfold afterDot
    split
    · rename_i rest hsteps
      exact absurd (hsteps ▸ List.mem_cons_self) (here_notMem_steps p)
    · rfl

theorem isAbsolute_iff_root_mem (p : Path) : p.isAbsolute = true ↔ Component.root ∈ components p := by
  have hsteps := root_notMem_steps p
  rw [components_eq_origin_append, List.mem_append, origin]
  split
  · rename_i hp
    exact iff_of_true hp (Or.inl List.mem_cons_self)
  · rename_i hp
    refine iff_of_false hp (not_or.mpr ⟨?_, hsteps⟩)
    split <;> simp

theorem Alike.isAbsolute_eq {p q : Path} (h : Alike p q) : p.isAbsolute = q.isAbsolute := by
  rw [Bool.eq_iff_iff, isAbsolute_iff_root_mem, isAbsolute_iff_root_mem, h]

theorem component?_eq_none_iff {segment : Bytes} :
    component? segment = none ↔ segment = [] ∨ segment = [dot] := by
  unfold component?
  split
  · rename_i hempty
    exact iff_of_true rfl (Or.inl hempty)
  · rename_i hempty
    split
    · rename_i hdot
      exact iff_of_true rfl (Or.inr hdot)
    · rename_i hdot
      exact iff_of_false (by split <;> simp) (not_or.mpr ⟨hempty, hdot⟩)

/-- Every path but the empty one has a component. -/
theorem components_eq_nil_iff (p : Path) : components p = [] ↔ p = [] := by
  constructor
  · intro hnil
    cases p with
    | nil => rfl
    | cons b rest =>
        rw [components_eq_origin_append, List.append_eq_nil_iff] at hnil
        obtain ⟨horigin, hsteps⟩ := hnil
        by_cases hb : b = slash
        · rw [origin, if_pos (by rw [hb]; rfl)] at horigin
          cases horigin
        · -- The first segment is not empty, so it is a dot, with which the path would begin.
          obtain ⟨first, others, hrest⟩ := List.exists_cons_of_ne_nil (segments_ne_nil rest)
          have hsegments : segments (b :: rest) = (b :: first) :: others := segments_cons_of_ne hb hrest
          have hfirst : component? (b :: first) = none := by
            refine List.filterMap_eq_nil_iff.mp hsteps _ ?_
            rw [hsegments]
            exact List.mem_cons_self
          have hdot : b :: first = [dot] := (component?_eq_none_iff.mp hfirst).resolve_left (by simp)
          rw [origin, hsegments, hdot] at horigin
          split at horigin <;> cases horigin
  · rintro rfl
    rfl

theorem head?_segments_append_slash (p q : Path) :
    (segments (p ++ slash :: q)).head? = (segments p).head? := by
  obtain ⟨first, others, hsegments⟩ := List.exists_cons_of_ne_nil (segments_ne_nil p)
  rw [segments_append_slash, hsegments]
  rfl

/-- A joined path begins where its base does. -/
theorem origin_join {base p : Path} (hp : p.isAbsolute = false) (hbase : base ≠ []) :
    origin (join base p) = origin base := by
  have hhead : (segments (join base p)).head? = (segments base).head? := by
    unfold join
    rw [hp, if_neg (by simp)]
    split
    · rename_i hends
      obtain ⟨front, rfl⟩ : ∃ front, base = front ++ [slash] :=
        List.getLast?_eq_some_iff.mp (hends.resolve_left hbase)
      rw [List.append_assoc, List.singleton_append, head?_segments_append_slash,
        head?_segments_append_slash]
    · exact head?_segments_append_slash base p
  rw [origin, origin, isAbsolute_join base hp, hhead]

theorem join_nil (p : Path) : join [] p = p := by
  unfold join
  split
  · rfl
  · exact if_pos (Or.inl rfl)

/-- A relative path that is joined to a base loses the dot at its front. -/
theorem components_join {base p : Path} (hp : p.isAbsolute = false) (hbase : base ≠ []) :
    components (join base p) = components base ++ afterDot (components p) := by
  rw [components_eq_origin_append, origin_join hp hbase, steps_join base hp, afterDot_components hp,
    components_eq_origin_append, List.append_assoc]

/-- Paths that are alike are read alike from directories that are alike. -/
theorem Alike.join {base base' p p' : Path} (hbase : Alike base base') (h : Alike p p')
    (hp : p.isAbsolute = false) : Alike (join base p) (join base' p') := by
  have hp' : p'.isAbsolute = false := h.isAbsolute_eq.symm.trans hp
  have hempty : base = [] ↔ base' = [] := by
    rw [← components_eq_nil_iff, ← components_eq_nil_iff, hbase]
  by_cases hnil : base = []
  · rw [hnil, hempty.mp hnil, join_nil, join_nil]
    exact h
  · rw [Alike, components_join hp hnil, components_join hp' (mt hempty.mpr hnil), hbase, h]

end Path

end ClockWarden.Host
