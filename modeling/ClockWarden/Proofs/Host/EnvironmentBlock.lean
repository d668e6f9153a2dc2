import ClockWarden.Host.Environment

/-! Environments and the blocks of strings that carry them. Look-ups tell what `set` has changed, and
what holds of every binding of an environment is kept by `set` and follows for a whole block from its
strings (`Holds`). A block whose names can be told from their values is read back as the environment that
it was written from (`ofBlock_block`). -/

namespace ClockWarden.Host

theorem ne_of_bytesBefore {a b : Bytes} (h : bytesBefore a b = true) : a ≠ b := by
  rintro rfl
  rw [bytesBefore_irrefl] at h
  cases h

theorem not_bytesBefore_of_bytesBefore {a b : Bytes} (h : bytesBefore a b = true) :
    ¬bytesBefore b a = true := fun hcontrary => ne_of_bytesBefore (bytesBefore_trans h hcontrary) rfl

namespace Environment

theorem lookup_binding (name : Bytes) (entry : Binding) (rest : List Binding) :
    (entry :: rest).lookup name = if name = entry.1 then some entry.2 else rest.lookup name := by
  by_cases h : name = entry.1
  · rw [List.lookup_cons, h, beq_self_eq_true, if_pos rfl]
  · rw [List.lookup_cons, beq_false_of_ne h, if_neg h]

theorem lookup_insertBinding (name value other : Bytes) (entries : List Binding) :
    (insertBinding name value entries).lookup other =
      if other = name then some value else entries.lookup other := by
  induction entries with
  | nil => exact lookup_binding other (name, value) []
  | cons entry rest ih =>
      obtain ⟨n, v⟩ := entry
      simp only [insertBinding]
      split
      · rename_i hsame
        simp only [lookup_binding, hsame]
        split <;> rfl
      · rename_i hdiffers
        split
        · exact lookup_binding other (name, value) _
        · simp only [lookup_binding, ih]
          by_cases h : other = name
          · rw [if_neg (fun hname => hdiffers (hname.symm.trans h)), if_pos h, if_pos h]
          · simp only [if_neg h]

theorem get?_set (env : Environment) (name value other : Bytes) :
    (env.set name value).get? other = if other = name then some value else env.get? other :=
  lookup_insertBinding name value other env.entries

theorem mem_insertBinding_self (name value : Bytes) (entries : List Binding) :
    (name, value) ∈ insertBinding name value entries := by
  induction entries with
  | nil => exact List.mem_cons_self
  | cons entry rest ih =>
      simp only [insertBinding]
      split
      · exact List.mem_cons_self
      · split
        · exact List.mem_cons_self
        · exact List.mem_cons_of_mem _ ih

/-- Something holds of every binding. -/
def Holds (property : Binding → Prop) (env : Environment) : Prop := ∀ entry ∈ env.entries, property entry

theorem Holds.set {property : Binding → Prop} {env : Environment} (h : env.Holds property)
    {name value : Bytes} (hnew : property (name, value)) : (env.set name value).Holds property := by
  intro entry hmem
  rcases mem_insertBinding hmem with rfl | hmem
  · exact hnew
  · exact h entry hmem

theorem Holds.ofBlock {property : Binding → Prop} {strings : List Bytes}
    (h : ∀ string ∈ strings, ∀ entry, binding? string = some entry → property entry) :
    (ofBlock strings).Holds property := by
  suffices hfold : ∀ (bindings : List Binding) (env : Environment), env.Holds property →
      (∀ entry ∈ bindings, property entry) →
      (bindings.foldl (fun env binding => env.set binding.1 binding.2) env).Holds property by
    refine hfold _ empty (fun entry hmem => by cases hmem) ?_
    intro entry hmem
    obtain ⟨string, hstring, hentry⟩ := List.mem_filterMap.mp hmem
    exact h string hstring entry hentry
  intro bindings
  induction bindings with
  | nil => exact fun env henv _ => henv
  | cons entry rest ih =>
      intro env henv hbindings
      rw [List.forall_mem_cons] at hbindings
      exact ih _ (henv.set hbindings.1) hbindings.2

/-- A name that the first equals sign after its first byte would end. -/
def IsName (name : Bytes) : Prop := ∃ first rest, name = first :: rest ∧ equals ∉ rest

theorem binding?_of_isName {name : Bytes} (h : IsName name) (value : Bytes) :
    binding? (name ++ equals :: value) = some (name, value) := by
  obtain ⟨first, rest, rfl, hrest⟩ := h
  have hname : ∀ b ∈ rest, (decide (b ≠ equals)) = true := by
    intro b hb
    refine decide_eq_true ?_
    rintro rfl
    exact hrest hb
  simp only [List.cons_append, binding?, List.takeWhile_append_of_pos hname,
    List.dropWhile_append_of_pos hname]
  simp

theorem isName_of_binding? {string : Bytes} {entry : Binding} (h : binding? string = some entry) :
    IsName entry.1 := by
  cases string with
  | nil => cases h
  | cons first rest =>
      simp only [binding?] at h
      split at h
      · cases h
      · cases h
        refine ⟨first, _, rfl, ?_⟩
        intro hmem
        have hdiffers := List.all_eq_true.mp (List.all_takeWhile (l := rest)) _ hmem
        simp at hdiffers

/-- The bytes of a binding are bytes of the string that it was read from. -/
theorem mem_of_binding? {string : Bytes} {entry : Binding} (h : binding? string = some entry) :
    ∀ b, b ∈ entry.1 ∨ b ∈ entry.2 → b ∈ string := by
  cases string with
  | nil => cases h
  | cons first rest =>
      simp only [binding?] at h
      split at h
      · cases h
      · rename_i mark value hrest
        cases h
        rintro b (hb | hb)
        · rcases List.mem_cons.mp hb with rfl | hb
          · exact List.mem_cons_self
          · exact List.mem_cons_of_mem _ ((List.takeWhile_sublist _).subset hb)
        · have hmem : b ∈ rest.dropWhile fun b => decide (b ≠ equals) := by
            rw [hrest]
            exact List.mem_cons_of_mem _ hb
          exact List.mem_cons_of_mem _ ((List.dropWhile_sublist _).subset hmem)

/-- A binding that comes after all others is put at their end. -/
theorem insertBinding_last {name value : Bytes} {entries : List Binding}
    (h : ∀ entry ∈ entries, bytesBefore entry.1 name = true) :
    insertBinding name value entries = entries ++ [(name, value)] := by
  induction entries with
  | nil => rfl
  | cons entry rest ih =>
      obtain ⟨n, v⟩ := entry
      rw [List.forall_mem_cons] at h
      rw [insertBinding, if_neg (ne_of_bytesBefore h.1), if_neg (not_bytesBefore_of_bytesBefore h.1), ih h.2,
        List.cons_append]

/-- The bindings of an environment make it. -/
theorem ofList_entries (env : Environment) : ofList env.entries = env := by
  suffices h : ∀ (after : List Binding) (before : Environment),
      (before.entries ++ after).Pairwise (fun x y => bytesBefore x.1 y.1 = true) →
      (after.foldl (fun env binding => env.set binding.1 binding.2) before).entries =
        before.entries ++ after by
    have hentries := h env.entries empty env.sorted
    obtain ⟨entries, hsorted⟩ := env
    unfold ofList
    generalize List.foldl _ empty entries = made at hentries
    obtain ⟨made, hmade⟩ := made
    obtain rfl : made = entries := hentries
    rfl
  intro after
  induction after with
  | nil => intro before _; simp
  | cons entry rest ih =>
      intro before hsorted
      have hlast : (before.set entry.1 entry.2).entries = before.entries ++ [entry] :=
        insertBinding_last fun other hother =>
          (List.pairwise_append.mp hsorted).2.2 other hother entry List.mem_cons_self
      rw [List.foldl_cons, ih, hlast, List.append_assoc, List.singleton_append]
      rw [hlast, List.append_assoc, List.singleton_append]
      exact hsorted

theorem filterMap_binding? {entries : List Binding} (h : ∀ entry ∈ entries, IsName entry.1) :
    (entries.map fun entry => entry.1 ++ equals :: entry.2).filterMap binding? = entries := by
  induction entries with
  | nil => rfl
  | cons entry rest ih =>
      rw [List.forall_mem_cons] at h
      rw [List.map_cons, List.filterMap_cons_some (binding?_of_isName h.1 entry.2), ih h.2]

/-- A block is read back as the environment that it was written from. -/
theorem ofBlock_block {env : Environment} (h : env.Holds fun entry => IsName entry.1) :
    ofBlock env.block = env := by
  have hread : env.block.filterMap binding? = env.entries := filterMap_binding? h
  rw [ofBlock, hread, ofList_entries]

/-- The strings of a block hold no NUL if the names and the values hold none. -/
theorem zero_notMem_block {env : Environment} (h : env.Holds fun entry => 0 ∉ entry.1 ∧ 0 ∉ entry.2) :
    ∀ string ∈ env.block, 0 ∉ string := by
  intro string hstring hzero
  obtain ⟨entry, hentry, rfl⟩ := List.mem_map.mp hstring
  obtain ⟨hname, hvalue⟩ := h entry hentry
  rcases List.mem_append.mp hzero with hzero | hzero
  · exact hname hzero
  · exact hvalue ((List.mem_cons.mp hzero).resolve_left (by decide))

end Environment

end ClockWarden.Host
