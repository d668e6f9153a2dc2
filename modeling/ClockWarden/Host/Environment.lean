import ClockWarden.Text.Utf8

/-! Environments: finite maps from names to values, both strings of bytes. The entries stand in the
order of their names, each name once, so two environments that answer every look-up alike are the
same. `block` writes an environment as the host hands it to a process, and `ofBlock` reads that. -/

namespace ClockWarden.Host

/-- The order of byte strings: by the first byte that differs, a shorter one before its
continuations. -/
def bytesBefore : Bytes → Bytes → Bool
  | _, [] => false
  | [], _ :: _ => true
  | a :: as, b :: bs => if a < b then true else if b < a then false else bytesBefore as bs

theorem bytesBefore_irrefl (a : Bytes) : bytesBefore a a = false := by
  induction a with
  | nil => rfl
  | cons x xs ih => simp [bytesBefore, ih]

theorem bytesBefore_trans {a b c : Bytes} (hab : bytesBefore a b = true) (hbc : bytesBefore b c = true) :
    bytesBefore a c = true := by
  induction a generalizing b c with
  | nil =>
    cases c with
    | nil => cases b <;> simp [bytesBefore] at hbc
    | cons z zs => rfl
  | cons x xs ih =>
    cases b with
    | nil => simp [bytesBefore] at hab
    | cons y ys =>
      cases c with
      | nil => simp [bytesBefore] at hbc
      | cons z zs =>
        simp only [bytesBefore, UInt8.lt_iff_toNat_lt] at *
        split at hab
        · split at hbc
          · rw [if_pos (by omega)]
          · split at hbc
            · simp at hbc
            · rw [if_pos (by omega)]
        · split at hab
          · simp at hab
          · split at hbc
            · rw [if_pos (by omega)]
            · split at hbc
              · simp at hbc
              · rw [if_neg (by omega), if_neg (by omega)]
                exact ih hab hbc

theorem bytesBefore_of_ne {a b : Bytes} (h : a ≠ b) (hab : bytesBefore a b = false) :
    bytesBefore b a = true := by
  induction a generalizing b with
  | nil =>
    cases b with
    | nil => exact absurd rfl h
    | cons y ys => simp [bytesBefore] at hab
  | cons x xs ih =>
    cases b with
    | nil => rfl
    | cons y ys =>
      simp only [bytesBefore, UInt8.lt_iff_toNat_lt] at *
      split at hab
      · simp at hab
      · split at hab
        · rw [if_pos (by omega)]
        · rw [if_neg (by omega), if_neg (by omega)]
          refine ih (fun hs => h ?_) hab
          rw [hs, UInt8.toNat_inj.mp (show x.toNat = y.toNat by omega)]

/-- An entry of an environment: a name and its value. -/
abbrev Binding := Bytes × Bytes

/-- Puts a binding among sorted ones, over an earlier binding of the name. -/
def insertBinding (name value : Bytes) : List Binding → List Binding
  | [] => [(name, value)]
  | (n, v) :: rest =>
    if n = name then (name, value) :: rest
    else if bytesBefore name n then (name, value) :: (n, v) :: rest
    else (n, v) :: insertBinding name value rest

theorem mem_insertBinding {name value : Bytes} {entries : List Binding} {entry : Binding}
    (h : entry ∈ insertBinding name value entries) : entry = (name, value) ∨ entry ∈ entries := by
  induction entries with
  | nil => simpa [insertBinding] using h
  | cons first rest ih =>
    simp only [insertBinding] at h
    split at h
    · rcases List.mem_cons.mp h with h | h
      · exact .inl h
      · exact .inr (List.mem_cons_of_mem _ h)
    · split at h
      · exact List.mem_cons.mp h
      · rcases List.mem_cons.mp h with h | h
        · exact .inr (h ▸ List.mem_cons_self)
        · exact (ih h).imp_right (List.mem_cons_of_mem _)

theorem pairwise_insertBinding {name value : Bytes} {entries : List Binding}
    (h : entries.Pairwise fun x y => bytesBefore x.1 y.1 = true) :
    (insertBinding name value entries).Pairwise fun x y => bytesBefore x.1 y.1 = true := by
  induction entries with
  | nil => simp [insertBinding]
  | cons first rest ih =>
    obtain ⟨hfirst, hrest⟩ := List.pairwise_cons.mp h
    simp only [insertBinding]
    split
    · rename_i heq
      exact List.pairwise_cons.mpr ⟨fun y hy => heq ▸ hfirst y hy, hrest⟩
    · rename_i hne
      split
      · rename_i hlt
        refine List.pairwise_cons.mpr ⟨fun y hy => ?_, h⟩
        rcases List.mem_cons.mp hy with rfl | hy
        · exact hlt
        · exact bytesBefore_trans hlt (hfirst y hy)
      · rename_i hge
        refine List.pairwise_cons.mpr ⟨fun y hy => ?_, ih hrest⟩
        rcases mem_insertBinding hy with rfl | hy
        · exact bytesBefore_of_ne (fun hs => hne hs.symm) (by simpa using hge)
        · exact hfirst y hy

/-- An environment. -/
structure Environment where
  entries : List Binding
  sorted : entries.Pairwise fun x y => bytesBefore x.1 y.1 = true
deriving DecidableEq

namespace Environment

def empty : Environment := ⟨[], .nil⟩

instance : Inhabited Environment := ⟨empty⟩

/-- The environment with one name bound to a value, whatever it was bound to before. -/
def set (env : Environment) (name value : Bytes) : Environment :=
  ⟨insertBinding name value env.entries, pairwise_insertBinding env.sorted⟩

/-- The environment without one name. -/
def unset (env : Environment) (name : Bytes) : Environment :=
  ⟨env.entries.filter (·.1 ≠ name), env.sorted.filter _⟩

/-- The value of a name. -/
def get? (env : Environment) (name : Bytes) : Option Bytes := env.entries.lookup name

def size (env : Environment) : Nat := env.entries.length

def isEmpty (env : Environment) : Bool := env.entries.isEmpty

/-- The environment that a list of bindings makes; of two bindings of a name the later one stays. -/
def ofList (bindings : List Binding) : Environment :=
  bindings.foldl (fun env binding => env.set binding.1 binding.2) empty

def equals : UInt8 := 0x3D

/-- The strings that the host hands to a process, one for each name. -/
def block (env : Environment) : List Bytes :=
  env.entries.map fun (name, value) => name ++ equals :: value

/-- The value that a search for a name finds in the strings that are handed to a process: the rest of
the first one that begins with the name and an equals sign. A name with an equals sign in it may find
the end of another value. -/
def find? (env : Environment) (name : Bytes) : Option Bytes :=
  if name = [] then none
  else
    env.block.findSome? fun string =>
      if (name ++ [equals]).isPrefixOf string then some (string.drop (name.length + 1)) else none

/-- Reads one string of a block: the first equals sign after the first byte ends the name. A string
without one binds nothing. -/
def binding? : Bytes → Option Binding
  | [] => none
  | first :: rest =>
    let name := rest.takeWhile (· ≠ equals)
    match rest.dropWhile (· ≠ equals) with
    | [] => none
    | _ :: value => some (first :: name, value)

/-- The environment that a process finds in the strings that it was handed. -/
def ofBlock (strings : List Bytes) : Environment :=
  ofList (strings.filterMap binding?)

end Environment

end ClockWarden.Host
