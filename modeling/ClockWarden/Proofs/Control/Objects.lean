import ClockWarden.Proofs.Control.Requests
import ClockWarden.Proofs.Json.Documents

/-! Objects that ask for a fake time. Of all their members only those named for the fake time count, and of
these only the values, in their order: what they decode to (`TimeRequest.decode`) is what a reader makes of
every text of the object, but for the place at which it finds a fault (`TimeRequest.settles_read`). -/

namespace ClockWarden.Control.TimeRequest

open Json

/-- The values that the members of an object give for the fake time. -/
def times (members : List (String × Value)) : List Value :=
  members.filterMap fun (name, v) => if name = "fake_time" then some v else none

/-- What one more value makes of the fake time given so far. -/
def give : Option (Option String) → Value → Except Fault (Option (Option String))
  | some _, _ => .error (.unplaced (.duplicateField "fake_time"))
  | none, v => (v.asNullable.map some).mapError fun fault => { fault with place := some (.key "fake_time") }

/-- What the values given for the fake time decode to. -/
def decode (values : List Value) : Except Fault TimeRequest :=
  (values.foldlM give none).map fun given => ⟨given.join⟩

theorem times_time (v : Value) (members : List (String × Value)) :
    times (("fake_time", v) :: members) = v :: times members := by
  simp [times]

theorem times_other {name : String} (h : name ≠ "fake_time") (v : Value) (members : List (String × Value)) :
    times ((name, v) :: members) = times members := by
  simp [times, h]

section Reading

variable {before after text rest : Bytes} (hbefore : Blanks before) (hafter : Blanks after) {v : Value}
  (hvalue : Denotes (.value v) text) (hrest : Stops rest) (given : Option (Option String))
include hbefore hafter hvalue hrest

theorem settles_time :
    Settles rest (give given v)
      (shape.readMember given "fake_time" (before ++ 0x3A :: (after ++ (text ++ rest)))) := by
  cases given with
  | some given => exact .error _ _
  | none =>
      rw [readMember_time, colon_append hbefore]
      have hgiven := (settles_optional_string hafter hvalue hrest).map some
      change Settles rest (Except.mapError _ _) (readTime _ _)
      unfold readTime
      generalize v.asNullable.map some = verdict at hgiven
      generalize (optional string (after ++ (text ++ rest))).map _ = reading at hgiven
      cases hgiven with
      | ok given => exact .ok given
      | error fault unread => exact .error _ _

theorem readMember_passed {name : String} (h : name ≠ "fake_time") :
    shape.readMember given name (before ++ 0x3A :: (after ++ (text ++ rest))) = .ok (given, rest) := by
  rw [readMember_other given h, colon_append hbefore]
  change Except.map _ (Except.mapError _ (skipValue _)) = _
  rw [skipValue_append hafter hvalue.form hrest]
  rfl

end Reading

/-- The members are read one after another: each takes a round and at least a byte. -/
theorem settles_members {members : List (String × Value)} {isFirst : Bool} {text : Bytes}
    (h : Denotes (.members isFirst members) text) (rest : Bytes) {rounds : Nat}
    (hrounds : text.length ≤ rounds) (given : Option (Option String)) :
    Settles (0x7D :: rest) ((times members).foldlM give given)
      (shape.readMembers rounds isFirst given (text ++ rest)) := by
  induction members generalizing isFirst text rounds given with
  | nil =>
      cases h with
      | endObject hblanks =>
          cases rounds with
          | zero => simp at hrounds
          | succ rounds =>
              rw [List.append_assoc, List.singleton_append, Shape.readMembers_end hblanks]
              exact .ok given
  | cons member members ih =>
      cases h with
      | @member _ name v _ separator _ _ _ _ more hseparator hname hbefore hafter hvalue hmore =>
          simp only [List.length_append, List.length_cons] at hrounds
          cases rounds with
          | zero => omega
          | succ rounds =>
              have hlength : more.length ≤ rounds := by omega
              have hread := ih hmore hlength
              have hstops : Stops (more ++ rest) := stops_of_next hmore.form rest
              simp only [List.append_assoc, List.cons_append]
              rw [Shape.readMembers_key hseparator (literalText_eq_ok hname _)]
              by_cases htime : name = "fake_time"
              · subst htime
                have hgive := settles_time hbefore hafter hvalue hstops given
                rw [times_time, List.foldlM_cons]
                generalize give given v = verdict at hgive
                generalize shape.readMember given "fake_time" _ = reading at hgive
                cases hgive with
                | ok given => exact hread given
                | error fault unread => exact .error fault unread
              · rw [times_other htime, readMember_passed hbefore hafter hvalue hstops given htime]
                exact hread given

/-- An object is read as what its values decode to, whatever stands behind it. -/
theorem settles_read {members : List (String × Value)} {blanks text : Bytes} (hblanks : Blanks blanks)
    (h : Denotes (.value (.object members)) text) (rest : Bytes) :
    Settles rest (decode (times members)) (shape.read (blanks ++ (text ++ rest))) := by
  cases h with
  | @object _ text h =>
      have hmembers := settles_members h rest
        (show text.length ≤ (text ++ rest).length + 1 by rw [List.length_append]; omega) none
      rw [List.cons_append, read_brace hblanks, Shape.readObject, decode]
      change Settles (0x7D :: rest) _ (shape.readMembers _ true shape.blank _) at hmembers
      generalize (times members).foldlM give none = verdict at hmembers
      generalize shape.readMembers _ true shape.blank _ = reading at hmembers
      cases hmembers with
      | ok given => exact .ok _
      | error fault unread => exact .error fault unread

/-! ### What the values decode to -/

theorem decode_of_mistaken {v : Value} (hnull : v ≠ .null) (hstring : ∀ s, v ≠ .string s) :
    ∃ fault, decode [v] = .error fault := by
  rw [decode, List.foldlM_cons, give, Value.asNullable_of_ne hnull, Value.asString_of_ne hstring]
  exact ⟨_, rfl⟩

/-- Whatever the first value is, a second one is one too many. -/
theorem decode_of_repeated {values : List Value} (h : 1 < values.length) :
    ∃ fault, decode values = .error fault := by
  match values, h with
  | v :: w :: more, _ =>
      rw [decode, List.foldlM_cons, give]
      cases v.asNullable with
      | ok given => exact ⟨_, rfl⟩
      | error fault => exact ⟨_, rfl⟩

end ClockWarden.Control.TimeRequest
