import ClockWarden.CommandLine.Reading
import ClockWarden.Proofs.Text.Utf8

/-! What the values of options say. The settings that an option is set in read its value, and read all
other options as before (`Settings.reads_of_set`, `Settings.reads_of_set_ne`); an option can be set to every
value that some settings read (`Settings.set_of_valid`). -/

namespace ClockWarden.CommandLine

/-- The settings say what the value of an option means. -/
def Settings.Reads (s : Settings) (value : Bytes) : Flag → Prop
  | .bind => ∃ text, Utf8.decode? value = some text ∧ Net.SocketAddress.ofText? text = some s.bind
  | .program => value ≠ [] ∧ s.program = value
  | .directory => value ≠ [] ∧ s.directory = value
  | .library => value ≠ [] ∧ s.library = value
  | .stopTimeout => ∃ text n, Utf8.decode? value = some text ∧ Text.natural 64 text.toList = .ok n ∧
      s.stopTimeout = UInt64.ofNat n
  | .logLevel => Utf8.decode? value = some s.logLevel

/-- A value that means something. -/
def Flag.Valid (flag : Flag) (value : Bytes) : Prop := ∃ s : Settings, s.Reads value flag

namespace Settings

variable {s s' : Settings} {flag : Flag} {value : Bytes}

theorem path_eq_ok {p : Host.Path} : path value = .ok p ↔ value ≠ [] ∧ p = value := by
  unfold path
  cases value with
  | nil => simp
  | cons b rest => simp [eq_comm]

theorem text_eq_ok {text : String} : Settings.text value = .ok text ↔ Utf8.decode? value = some text := by
  unfold Settings.text
  cases Utf8.decode? value with
  | none => simp
  | some decoded => simp

theorem reads_standard (flag : Flag) : ({} : Settings).Reads flag.standard flag := by
  cases flag with
  | bind => exact ⟨"0.0.0.0:5000", Utf8.decode?_encode _, by decide⟩
  | program => exact ⟨by decide, rfl⟩
  | directory => exact ⟨by decide, rfl⟩
  | library => exact ⟨by decide, rfl⟩
  | stopTimeout => exact ⟨"10", 10, Utf8.decode?_encode _, rfl, rfl⟩
  | logLevel => exact Utf8.decode?_encode _

theorem reads_arguments (arguments : List String) :
    { s with arguments }.Reads value flag ↔ s.Reads value flag := by
  cases flag <;> exact Iff.rfl

theorem bind_eq_ok {ε α β : Type} {x : Except ε α} {f : α → Except ε β} {b : β}
    (h : x >>= f = .ok b) : ∃ a, x = .ok a ∧ f a = .ok b := by
  cases x with
  | error e => cases h
  | ok a => exact ⟨a, rfl, h⟩

theorem map_eq_ok {ε α β : Type} {x : Except ε α} {f : α → β} {b : β} (h : x.map f = .ok b) :
    ∃ a, x = .ok a ∧ f a = b := by
  cases x with
  | error e => cases h
  | ok a => exact ⟨a, rfl, Except.ok.inj h⟩

/-- The value that an option is set to is what the settings say of it. -/
theorem reads_of_set (h : s.set flag value = .ok s') : s'.Reads value flag := by
  cases flag with
  | bind =>
      obtain ⟨text, htext, hset⟩ := bind_eq_ok h
      cases haddress : Net.SocketAddress.ofText? text with
      | none =>
          rw [haddress] at hset
          cases hset
      | some address =>
          rw [haddress] at hset
          cases hset
          exact ⟨text, text_eq_ok.mp htext, haddress⟩
  | program =>
      obtain ⟨p, hpath, hset⟩ := bind_eq_ok h
      cases hset
      exact path_eq_ok.mp hpath
  | directory =>
      obtain ⟨p, hpath, hset⟩ := bind_eq_ok h
      cases hset
      exact path_eq_ok.mp hpath
  | library =>
      obtain ⟨p, hpath, hset⟩ := bind_eq_ok h
      cases hset
      exact path_eq_ok.mp hpath
  | stopTimeout =>
      obtain ⟨text, htext, hset⟩ := bind_eq_ok h
      cases hnatural : Text.natural 64 text.toList with
      | error fault =>
          rw [hnatural] at hset
          cases hset
      | ok n =>
          rw [hnatural] at hset
          cases hset
          exact ⟨text, n, text_eq_ok.mp htext, hnatural, rfl⟩
  | logLevel =>
      obtain ⟨text, htext, hset⟩ := bind_eq_ok h
      cases hset
      exact text_eq_ok.mp htext

/-- An option can be set to any value that means something. -/
theorem set_of_valid (s : Settings) (h : flag.Valid value) : ∃ s', s.set flag value = .ok s' := by
  obtain ⟨t, hreads⟩ := h
  cases flag with
  | bind =>
      obtain ⟨text, htext, haddress⟩ := hreads
      refine ⟨{ s with bind := t.bind }, ?_⟩
      simp only [set, text_eq_ok.mpr htext, haddress, Bind.bind, Except.bind, pure, Except.pure]
  | program =>
      refine ⟨{ s with program := value }, ?_⟩
      rw [set, path_eq_ok.mpr ⟨hreads.1, rfl⟩]
      rfl
  | directory =>
      refine ⟨{ s with directory := value }, ?_⟩
      rw [set, path_eq_ok.mpr ⟨hreads.1, rfl⟩]
      rfl
  | library =>
      refine ⟨{ s with library := value }, ?_⟩
      rw [set, path_eq_ok.mpr ⟨hreads.1, rfl⟩]
      rfl
  | stopTimeout =>
      obtain ⟨text, n, htext, hnatural, -⟩ := hreads
      refine ⟨{ s with stopTimeout := UInt64.ofNat n }, ?_⟩
      simp only [set, text_eq_ok.mpr htext, hnatural, Bind.bind, Except.bind, pure, Except.pure]
  | logLevel =>
      refine ⟨{ s with logLevel := t.logLevel }, ?_⟩
      rw [set, text_eq_ok.mpr hreads]
      rfl

/-- Nothing else is changed. -/
theorem reads_of_set_ne (h : s.set flag value = .ok s') {other : Flag} (hne : other ≠ flag) {v : Bytes}
    (hreads : s.Reads v other) : s'.Reads v other := by
  cases flag with
  | bind =>
      obtain ⟨text, -, hset⟩ := bind_eq_ok h
      split at hset
      · cases hset
        cases other <;> first | exact absurd rfl hne | exact hreads
      · cases hset
  | stopTimeout =>
      obtain ⟨text, -, hset⟩ := bind_eq_ok h
      split at hset
      · cases hset
        cases other <;> first | exact absurd rfl hne | exact hreads
      · cases hset
  | _ =>
      obtain ⟨a, -, hset⟩ := bind_eq_ok h
      cases hset
      cases other <;> first | exact absurd rfl hne | exact hreads

end Settings

end ClockWarden.CommandLine
