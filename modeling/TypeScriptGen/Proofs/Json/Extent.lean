import TypeScriptGen.Proofs.Json.RoundTrip

/-!
How far the writer gets with a value. It stops at the first part that has no JSON form, and what it
has written by then is a beginning of the text of every value that has something else in such
places.
-/

set_option autoImplicit false
set_option relaxedAutoImplicit false

namespace TypeScriptGen.Json

/-- Values that can be the key of an entry: neither collections nor objects. -/
def isName : Value → Bool
  | .none => true
  | .bool _ => true
  | .int _ => true
  | .float _ => true
  | .text _ => true
  | _ => false

def keyMisfits (k : Value) : List Fault :=
  if isName k then [] else [.mistyped (.entryKey k.className)]

mutual

/-- What is wrong with a value, in the order of its parts: objects have no JSON form, nothing can be
written inside itself, and keys have to be names. -/
def misfits : Value → List Fault
  | .tuple items => itemMisfits items
  | .list items => itemMisfits items
  | .dict entries => entryMisfits entries
  | .again _ => [.misvalued .circular]
  | v => if isName v then [] else [.mistyped (.encoding v.className)]

def itemMisfits : List Value → List Fault
  | [] => []
  | v :: rest => misfits v ++ itemMisfits rest

def entryMisfits : List (Value × Value) → List Fault
  | [] => []
  | (k, v) :: rest => keyMisfits k ++ (misfits v ++ entryMisfits rest)

end

theorem key_cases (k : Value) :
    (∃ name, key k = .ok name ∧ isName k = true ∧ keyMisfits k = []) ∨
      ∃ fault, key k = .error fault ∧ isName k = false ∧ keyMisfits k = [fault] := by
  cases k with
  | none => exact .inl ⟨_, rfl, rfl, rfl⟩
  | bool b => exact .inl ⟨_, rfl, rfl, rfl⟩
  | int n => exact .inl ⟨_, rfl, rfl, rfl⟩
  | float x => exact .inl ⟨_, rfl, rfl, rfl⟩
  | text s => exact .inl ⟨_, rfl, rfl, rfl⟩
  | _ => exact .inr ⟨_, rfl, rfl, rfl⟩

/-! Where the writer stops. -/

mutual

theorem fault_value (level : Nat) : (v : Value) → (value level v).fault = (misfits v).head?
  | .none => rfl
  | .bool _ => rfl
  | .int _ => rfl
  | .float _ => rfl
  | .text _ => rfl
  | .tuple items => fault_sequence level items
  | .list items => fault_sequence level items
  | .dict [] => rfl
  | .dict (entry :: rest) => by
    have inner := fault_mappingTail (level + 1) "" (entry :: rest)
    rw [value_dict, Written.fault_append, Written.fault_append, inner]
    simp [misfits, Written.plain]
  | .again _ => rfl
  | .member .. => rfl
  | .record .. => rfl
  | .entity .. => rfl

theorem fault_sequence (level : Nat) :
    (items : List Value) → (sequence level items).fault = (itemMisfits items).head?
  | [] => rfl
  | v :: rest => by
    rw [sequence, itemMisfits, Written.fault_append, Written.fault_append, Written.fault_append,
      fault_value (level + 1) v, fault_sequenceTail (level + 1) rest, List.head?_append]
    simp [Written.plain]

theorem fault_sequenceTail (level : Nat) :
    (items : List Value) → (sequenceTail level items).fault = (itemMisfits items).head?
  | [] => rfl
  | v :: rest => by
    rw [sequenceTail, itemMisfits, Written.fault_append, Written.fault_append, fault_value level v,
      fault_sequenceTail level rest, List.head?_append]
    simp [Written.plain]

theorem fault_mappingTail (level : Nat) (separator : String) :
    (entries : List (Value × Value)) →
      (mappingTail level separator entries).fault = (entryMisfits entries).head?
  | [] => rfl
  | (k, v) :: rest => by
    rw [mappingTail, entryMisfits]
    obtain ⟨name, same, _, fits⟩ | ⟨fault, same, _, misfit⟩ := key_cases k
    · rw [same, fits]
      dsimp only
      rw [Written.fault_append, Written.fault_append, fault_value level v,
        fault_mappingTail level _ rest, List.nil_append, List.head?_append]
      simp [Written.plain]
    · rw [same, misfit]
      rfl

end

/-- A list is not written inside itself. -/
example : write (.list [.int 1, .again "list"]) =
    ⟨"[\n  1,\n  ", some (.misvalued .circular)⟩ := rfl

/-! What the writer has written when it stops. -/

/-- What was written is all of a complete text, or a beginning of it where the writer stopped. -/
structure Begins (part full : Written) : Prop where
  complete : full.fault = none
  continued : ∃ rest, full.text = part.text ++ rest ∧ (part.fault = none → rest = "")

theorem Begins.refl {w : Written} (complete : w.fault = none) : Begins w w :=
  ⟨complete, "", by simp, fun _ => rfl⟩

theorem begins_of_stopped {full : Written} (complete : full.fault = none) (fault : Fault) :
    Begins ⟨"", some fault⟩ full :=
  ⟨complete, full.text, by simp, fun going => by cases going⟩

theorem Begins.append {part full part' full' : Written} (first : Begins part full)
    (second : Begins part' full') : Begins (part ++ part') (full ++ full') := by
  obtain ⟨rest, same, going⟩ := first.continued
  obtain ⟨rest', same', going'⟩ := second.continued
  rw [Written.append_of_complete first.complete]
  refine ⟨second.complete, ?_⟩
  cases stopped : part.fault with
  | none =>
    rw [Written.append_of_complete stopped]
    refine ⟨rest', ?_, going'⟩
    dsimp only
    rw [same, same', going stopped, String.append_empty, String.append_assoc]
  | some fault =>
    rw [Written.append_of_stopped stopped]
    refine ⟨rest ++ full'.text, ?_, fun going => by rw [stopped] at going; cases going⟩
    dsimp only
    rw [same, String.append_assoc]

/-- What to write in place of what has no JSON form, and of keys that are no names. -/
structure Replacement where
  part : Value → Value
  name : Value → Value
  fits : ∀ v, misfits (part v) = []
  isName : ∀ k, isName (name k) = true

namespace Replacement

/-- Nothing in place of values, and the empty text in place of keys. -/
def blank : Replacement where
  part _ := .none
  name _ := .text ""
  fits _ := rfl
  isName _ := rfl

variable (r : Replacement)

def mendKey (k : Value) : Value := if Json.isName k then k else r.name k

mutual

def mend : Value → Value
  | .tuple items => .tuple (mendItems items)
  | .list items => .list (mendItems items)
  | .dict entries => .dict (mendEntries entries)
  | v => if Json.isName v then v else r.part v

def mendItems : List Value → List Value
  | [] => []
  | v :: rest => mend v :: mendItems rest

def mendEntries : List (Value × Value) → List (Value × Value)
  | [] => []
  | (k, v) :: rest => (r.mendKey k, mend v) :: mendEntries rest

end

theorem key_mendKey (k : Value) : ∃ name, key (r.mendKey k) = .ok name := by
  have named : Json.isName (r.mendKey k) = true := by
    unfold mendKey
    split
    case isTrue isName => exact isName
    case isFalse => exact r.isName k
  obtain ⟨name, same, _⟩ | ⟨_, _, noName, _⟩ := key_cases (r.mendKey k)
  · exact ⟨name, same⟩
  · rw [named] at noName
    cases noName

theorem complete_part (level : Nat) (v : Value) : (value level (r.part v)).fault = none := by
  rw [fault_value, r.fits]
  rfl

mutual

theorem begins_value (level : Nat) :
    (v : Value) → Begins (value level v) (value level (r.mend v))
  | .none => .refl rfl
  | .bool _ => .refl rfl
  | .int _ => .refl rfl
  | .float _ => .refl rfl
  | .text _ => .refl rfl
  | .tuple items => begins_sequence level items
  | .list items => begins_sequence level items
  | .dict [] => .refl rfl
  | .dict (entry :: rest) => by
    have inner := begins_mappingTail (level + 1) "" (entry :: rest)
    rw [mend, mendEntries, value_dict, value_dict]
    exact ((Begins.refl rfl).append inner).append (.refl rfl)
  | .again _ => begins_of_stopped (r.complete_part level _) _
  | .member .. => begins_of_stopped (r.complete_part level _) _
  | .record .. => begins_of_stopped (r.complete_part level _) _
  | .entity .. => begins_of_stopped (r.complete_part level _) _

theorem begins_sequence (level : Nat) :
    (items : List Value) → Begins (sequence level items) (sequence level (r.mendItems items))
  | [] => .refl rfl
  | v :: rest => by
    have first := begins_value (level + 1) v
    have others := begins_sequenceTail (level + 1) rest
    rw [mendItems, sequence, sequence]
    exact (((Begins.refl rfl).append first).append others).append (.refl rfl)

theorem begins_sequenceTail (level : Nat) :
    (items : List Value) →
      Begins (sequenceTail level items) (sequenceTail level (r.mendItems items))
  | [] => .refl rfl
  | v :: rest => by
    have first := begins_value level v
    have others := begins_sequenceTail level rest
    rw [mendItems, sequenceTail, sequenceTail]
    exact ((Begins.refl rfl).append first).append others

theorem begins_mappingTail (level : Nat) (separator : String) :
    (entries : List (Value × Value)) → Begins (mappingTail level separator entries)
      (mappingTail level separator (r.mendEntries entries))
  | [] => .refl rfl
  | (k, v) :: rest => by
    have first := begins_value level v
    have others := begins_mappingTail level ("," ++ newLine level) rest
    rw [mendEntries, mappingTail, mappingTail]
    obtain ⟨name, same, isName, _⟩ | ⟨fault, same, _⟩ := key_cases k
    · have kept : r.mendKey k = k := if_pos isName
      rw [kept, same]
      exact ((Begins.refl rfl).append first).append others
    · -- The key is looked at first, so nothing of its entry has been written.
      obtain ⟨name, sameName⟩ := r.key_mendKey k
      rw [same, sameName]
      refine begins_of_stopped ?_ fault
      rw [Written.fault_append, Written.fault_append, first.complete, others.complete]
      rfl

end

end Replacement

end TypeScriptGen.Json
