import TypeScriptGen.Proofs.Json.Tokens

/-!
JSON documents: what is written for a value is read as that value. Line breaks in the text are line
feeds only, so the text passes unchanged through a file of text.
-/

set_option autoImplicit false
set_option relaxedAutoImplicit false

namespace TypeScriptGen.Json

/-- Values that JSON text can hold without loss. -/
inductive Document : Value → Prop where
  | none : Document .none
  | bool (b : Bool) : Document (.bool b)
  | int (n : Int) : Document (.int n)
  | float {x : Binary64} (isNumber : x.IsNumber) : Document (.float x)
  | text (s : String) : Document (.text s)
  | list {items : List Value} (all : ∀ v ∈ items, Document v) : Document (.list items)
  | dict {fields : List (String × Value)} (distinct : (fields.map Prod.fst).Nodup)
      (all : ∀ f ∈ fields, Document f.2) : Document (.dictOf fields)

/-! What the writer has written. -/

theorem plain_append {a b : String} (first : '\r' ∉ a.toList) (second : '\r' ∉ b.toList) :
    '\r' ∉ (a ++ b).toList := by
  rw [String.toList_append, List.mem_append]
  rintro (member | member)
  · exact first member
  · exact second member

namespace Written

theorem append_of_complete {w : Written} (complete : w.fault = none) (next : Written) :
    w ++ next = ⟨w.text ++ next.text, next.fault⟩ := by
  change w.andThen next = _
  unfold andThen
  rw [complete]

theorem append_of_stopped {w : Written} {fault : Fault} (stopped : w.fault = some fault)
    (next : Written) : w ++ next = w := by
  change w.andThen next = _
  unfold andThen
  rw [stopped]

theorem fault_append (w next : Written) : (w ++ next).fault = w.fault.or next.fault := by
  cases stopped : w.fault with
  | none =>
    rw [append_of_complete stopped]
    rfl
  | some fault =>
    rw [append_of_stopped stopped, stopped]
    rfl

end Written

/-- The writer got to the end, and broke lines with line feeds only. -/
structure Clean (w : Written) : Prop where
  complete : w.fault = none
  plain : '\r' ∉ w.text.toList

theorem Clean.text_append {w : Written} (clean : Clean w) (next : Written) :
    (w ++ next).text = w.text ++ next.text := by
  rw [Written.append_of_complete clean.complete]

theorem Clean.append {w next : Written} (clean : Clean w) (cleanNext : Clean next) :
    Clean (w ++ next) := by
  constructor
  · rw [Written.append_of_complete clean.complete]
    exact cleanNext.complete
  · rw [clean.text_append]
    exact plain_append clean.plain cleanNext.plain

theorem toList_newLine (level : Nat) :
    (newLine level).toList = '\n' :: List.replicate (2 * level) ' ' := by
  unfold newLine
  rw [String.pushn_eq_repeat_push]
  generalize 2 * level = n
  induction n with
  | zero => rfl
  | succ n ih =>
    rw [Nat.repeat, String.toList_push, ih, List.replicate_succ']
    rfl

theorem plain_newLine (level : Nat) : '\r' ∉ (newLine level).toList := by
  rw [toList_newLine]
  simp

theorem AllDigits.plain {cs : List Char} (all : AllDigits cs) : '\r' ∉ cs := by
  intro member
  have digit := all _ member
  revert digit
  decide

theorem plain_hexPadded (width n : Nat) : '\r' ∉ Text.hexPadded width n := by
  induction width generalizing n with
  | zero => simp [Text.hexPadded]
  | succ width ih =>
    have all : ∀ k : Fin 16, '\r' ≠ Text.hexDigit k := by decide
    have last := all ⟨n % 16, Nat.mod_lt n (by decide)⟩
    unfold Text.hexPadded
    rw [List.mem_append, List.mem_singleton]
    rintro (member | same)
    · exact ih _ member
    · exact last same

theorem plain_unitEscape (n : Nat) : '\r' ∉ unitEscape n := by
  unfold unitEscape
  rw [List.mem_cons, List.mem_cons]
  rintro (same | same | member)
  · revert same
    decide
  · revert same
    decide
  · exact plain_hexPadded 4 n member

theorem plain_stringChar (c : Char) : '\r' ∉ stringChar c := by
  unfold stringChar
  split
  case isTrue mark =>
    intro member
    have same : '\r' = c := by simpa [Text.backslash] using member
    subst same
    revert mark
    decide
  iterate 2 (split; decide)
  case isFalse.isFalse.isFalse other =>
  iterate 3 (split; decide)
  split
  case isTrue =>
    rw [List.mem_singleton]
    rintro rfl
    exact other rfl
  split
  case isTrue => exact plain_unitEscape _
  case isFalse =>
    rw [List.mem_append]
    rintro (member | member)
    · exact plain_unitEscape _ member
    · exact plain_unitEscape _ member

theorem plain_string (s : String) : '\r' ∉ (string s).toList := by
  unfold string
  rw [String.toList_ofList]
  intro member
  simp only [List.cons_append, List.mem_cons, List.mem_append, List.mem_flatMap,
    List.mem_nil_iff, or_false] at member
  rcases member with same | ⟨c, _, member⟩ | same
  · revert same
    decide
  · exact plain_stringChar c member
  · revert same
    decide

theorem plain_text (d : Decimal) : '\r' ∉ d.text := (allDigits_toDigits d.digits).plain

theorem plain_exponentText (e : Int) : '\r' ∉ Decimal.exponentText e := by
  have digits : '\r' ∉ Nat.toDigits 10 e.natAbs := (allDigits_toDigits _).plain
  unfold Decimal.exponentText
  dsimp only
  rw [List.mem_cons]
  rintro (same | member)
  · split at same <;> exact absurd same (by decide)
  · split at member <;> simp_all

theorem plain_write (d : Decimal) : '\r' ∉ d.write .plain := by
  have digits := plain_text d
  unfold Decimal.write
  split
  · unfold Decimal.positional
    dsimp only
    split
    · simp [digits]
    split
    · have front : '\r' ∉ d.text.take d.point.toNat :=
        fun member => digits (List.mem_of_mem_take member)
      have back : '\r' ∉ d.text.drop d.point.toNat :=
        fun member => digits (List.mem_of_mem_drop member)
      simp [front, back]
    · simp [NumberStyle.plain, digits]
  · unfold Decimal.exponential
    dsimp only
    rw [List.mem_append, List.mem_cons]
    rintro (member | same | member)
    · split at member <;> simp_all
    · exact absurd same (by decide)
    · exact plain_exponentText _ member

theorem plain_signed {negative : Bool} {cs : List Char} (plain : '\r' ∉ cs) :
    '\r' ∉ (Binary64.signed negative cs).toList := by
  unfold Binary64.signed
  rw [String.toList_ofList]
  split
  · simp [plain]
  · exact plain

theorem plain_number (x : Binary64) : '\r' ∉ (number x).toList := by
  cases x with
  | nan => decide
  | infinite negative => cases negative <;> decide
  | finite negative m e =>
    cases m with
    | zero => exact plain_signed (by decide)
    | succ m => exact plain_signed (plain_write _)

theorem plain_int (n : Int) : '\r' ∉ (toString n).toList := by
  have digits : ∀ k, '\r' ∉ Nat.toDigits 10 k := fun k => (allDigits_toDigits k).plain
  rw [Int.toString_eq_repr, Int.repr_eq_if]
  split
  · simp [digits]
  · simp [digits]

/-! What the reader finds. -/

/-- The reader skips the blanks in front of `rest`. -/
def Skips (cs rest : List Char) : Prop := ∀ position, ∃ next, skipSpace position cs = (next, rest)

theorem skips_none {c : Char} (noSpace : isSpace c = false) (rest : List Char) :
    Skips (c :: rest) (c :: rest) := by
  intro position
  refine ⟨position, ?_⟩
  rw [skipSpace, noSpace, if_neg (by decide)]

theorem Skips.cons {b : Char} {cs rest : List Char} (skips : Skips cs rest)
    (space : isSpace b = true) : Skips (b :: cs) rest := by
  intro position
  obtain ⟨next, skipped⟩ := skips (position + 1)
  refine ⟨next, ?_⟩
  rw [skipSpace, space, if_pos rfl]
  exact skipped

theorem Skips.newLine {cs rest : List Char} (skips : Skips cs rest) (level : Nat) :
    Skips ((newLine level).toList ++ cs) rest := by
  rw [toList_newLine]
  refine Skips.cons ?_ rfl
  induction 2 * level with
  | zero => exact skips
  | succ n ih => exact ih.cons rfl

def Opens (cs : List Char) : Prop :=
  ∃ c rest, cs = c :: rest ∧ isSpace c = false ∧ c ≠ ']' ∧ c ≠ '\x7d' ∧ c ≠ '\uFEFF'

theorem opens_of_finds {fuel position : Nat} {cs rest : List Char} {v : Value}
    (found : Finds (valueFrom fuel position cs) v rest) : Opens cs := by
  obtain ⟨behind, found⟩ := found
  cases fuel with
  | zero => cases found
  | succ fuel =>
    cases cs with
    | nil => cases found
    | cons c cs =>
      have excluded : ∀ other : Char, other ∈ [' ', '\t', '\n', '\r', ']', '\x7d', '\uFEFF'] →
          c ≠ other := by
        rintro other member rfl
        simp only [List.mem_cons, List.mem_nil_iff, or_false] at member
        rcases member with rfl | rfl | rfl | rfl | rfl | rfl | rfl <;> cases found
      refine ⟨c, cs, rfl, ?_, excluded _ (by decide), excluded _ (by decide),
        excluded _ (by decide)⟩
      simp [isSpace, excluded]

/-- The reader finds the value in its text, whatever follows. -/
structure Reads (level : Nat) (v : Value) : Prop where
  clean : Clean (value level v)
  found : ∀ {rest : List Char}, Stops rest → ∀ {fuel : Nat},
    (value level v).text.toList.length < fuel → ∀ position : Nat,
      Finds (valueFrom fuel position ((value level v).text.toList ++ rest)) v rest

theorem Reads.opens {level : Nat} {v : Value} (reads : Reads level v) (rest : List Char) :
    Opens ((value level v).text.toList ++ rest) := by
  have stops : Stops [] := by simp [Stops]
  obtain ⟨c, more, same, opens⟩ := opens_of_finds (reads.found stops (Nat.lt_succ_self _) 0)
  rw [List.append_nil] at same
  rw [same]
  exact ⟨c, more ++ rest, rfl, opens⟩

theorem Opens.skips {cs : List Char} (opens : Opens cs) : Skips cs cs := by
  obtain ⟨c, rest, rfl, noSpace, _⟩ := opens
  exact skips_none noSpace rest

theorem reads_of_atom {level : Nat} {v : Value} {s : String} (written : value level v = .plain s)
    (plain : '\r' ∉ s.toList)
    (found : ∀ {rest : List Char}, Stops rest → ∀ fuel position,
      Finds (valueFrom (fuel + 1) position (s.toList ++ rest)) v rest) : Reads level v := by
  constructor
  · rw [written]
    exact ⟨rfl, plain⟩
  · intro rest stops fuel enough position
    rw [written]
    obtain ⟨less, rfl⟩ := Nat.exists_eq_succ_of_ne_zero (Nat.ne_zero_of_lt enough)
    exact found stops less position

theorem finds_string (s : String) (rest : List Char) (fuel position : Nat) :
    Finds (valueFrom (fuel + 1) position ((string s).toList ++ rest)) (.text s) rest := by
  obtain ⟨behind, found⟩ := finds_stringFrom s.toList rest position (position + 1)
  refine ⟨behind, ?_⟩
  unfold string
  rw [String.toList_ofList, List.cons_append, List.cons_append, List.append_assoc]
  unfold valueFrom
  rw [if_pos (by decide)]
  change (stringFrom position (position + 1)
    (s.toList.flatMap stringChar ++ Text.doubleQuote :: rest)).map _ = _
  rw [found]
  change Except.ok (Value.text (String.ofList s.toList), behind, rest) = _
  rw [String.ofList_toList]

/-! Arrays. -/

theorem stops_newLine (level : Nat) (rest : List Char) :
    Stops ((newLine level).toList ++ rest) := by
  rw [toList_newLine]
  intro c member
  cases member
  decide

theorem stops_comma (rest : List Char) : Stops (',' :: rest) := by
  intro c member
  cases member
  decide

theorem clean_lead {mark : String} (plain : '\r' ∉ mark.toList) (level : Nat) :
    Clean (.plain (mark ++ newLine level)) :=
  ⟨rfl, plain_append plain (plain_newLine level)⟩

theorem clean_sequenceTail {level : Nat} {items : List Value}
    (all : ∀ v ∈ items, Reads level v) : Clean (sequenceTail level items) := by
  induction items with
  | nil =>
    unfold sequenceTail
    exact ⟨rfl, by decide⟩
  | cons v rest ih =>
    obtain ⟨first, others⟩ := List.forall_mem_cons.mp all
    unfold sequenceTail
    exact ((clean_lead (by decide) level).append first.clean).append (ih others)

theorem sequenceTail_cons {level : Nat} {v : Value} (first : Reads level v) (rest : List Value) :
    (sequenceTail level (v :: rest)).text.toList =
      ',' :: ((newLine level).toList ++ ((value level v).text.toList ++
        (sequenceTail level rest).text.toList)) := by
  conv => lhs; unfold sequenceTail
  rw [((clean_lead (by decide) level).append first.clean).text_append,
    (clean_lead (by decide) level).text_append]
  simp [Written.plain]

theorem Finds.lastItem {fuel position : Nat} {cs rest more : List Char} {v : Value}
    (found : Finds (valueFrom fuel position cs) v rest) (closes : Skips rest (']' :: more))
    (done : List Value) :
    Finds (itemsFrom (fuel + 1) done position cs) (.list (v :: done).reverse) more := by
  obtain ⟨behind, found⟩ := found
  obtain ⟨close, skipped⟩ := closes behind
  refine ⟨close + 1, ?_⟩
  simp only [itemsFrom, found, bind, Except.bind, skipped]
  rfl

theorem Finds.item {fuel position : Nat} {cs rest more further : List Char} {v : Value}
    (found : Finds (valueFrom fuel position cs) v rest) (separated : Skips rest (',' :: more))
    (skips : Skips more further) (done : List Value) :
    ∃ next, itemsFrom (fuel + 1) done position cs = itemsFrom fuel (v :: done) next further := by
  obtain ⟨behind, found⟩ := found
  obtain ⟨comma, skipped⟩ := separated behind
  obtain ⟨next, skippedAgain⟩ := skips (comma + 1)
  refine ⟨next, ?_⟩
  simp only [itemsFrom, found, bind, Except.bind, skipped, skippedAgain]

theorem finds_items {level : Nat} (outer : Nat) {v : Value} {items : List Value}
    (first : Reads level v) (all : ∀ v ∈ items, Reads level v) (done : List Value)
    (more : List Char) {fuel : Nat} (enough : (value level v).text.toList.length +
      (sequenceTail level items).text.toList.length + 1 < fuel) (position : Nat) :
    Finds (itemsFrom fuel done position ((value level v).text.toList ++
        ((sequenceTail level items).text.toList ++ ((newLine outer).toList ++ ']' :: more))))
      (.list (done.reverse ++ v :: items)) more := by
  obtain ⟨less, rfl⟩ := Nat.exists_eq_succ_of_ne_zero (Nat.ne_zero_of_lt enough)
  -- An item takes one from the fuel, and the comma behind it alone is as much text.
  induction items generalizing v done less position with
  | nil =>
    have empty : (sequenceTail level []).text.toList = [] := by simp [sequenceTail, Written.plain]
    have short : (value level v).text.toList.length < less := by omega
    have found := first.found (stops_newLine outer (']' :: more)) short position
    have closes : Skips ((newLine outer).toList ++ ']' :: more) (']' :: more) :=
      (skips_none (by decide) more).newLine outer
    have last := found.lastItem closes done
    rw [List.reverse_cons] at last
    rw [empty]
    exact last
  | cons w items ih =>
    obtain ⟨second, others⟩ := List.forall_mem_cons.mp all
    rw [sequenceTail_cons second] at enough ⊢
    simp only [List.length_cons, List.length_append, Nat.succ_eq_add_one] at enough
    simp only [List.cons_append, List.append_assoc]
    have short : (value level v).text.toList.length < less := by omega
    have opens := second.opens ((sequenceTail level items).text.toList ++
      ((newLine outer).toList ++ ']' :: more))
    obtain ⟨next, step⟩ := (first.found (stops_comma _) short position).item
      (skips_none (by decide) _) (opens.skips.newLine level) done
    obtain ⟨fewer, rfl⟩ : ∃ fewer, less = fewer + 1 := ⟨less - 1, by omega⟩
    have rest := ih second others (v :: done) next fewer (by omega)
    rw [List.reverse_cons, List.append_assoc] at rest
    rw [step]
    exact rest

theorem valueFrom_array {cs further : List Char} (skips : Skips cs further) (opens : Opens further)
    (fuel position : Nat) :
    ∃ next, valueFrom (fuel + 1) position ('[' :: cs) = itemsFrom fuel [] next further := by
  obtain ⟨next, skipped⟩ := skips (position + 1)
  obtain ⟨c, more, rfl, _, noClose, _⟩ := opens
  refine ⟨next, ?_⟩
  rw [valueFrom, if_neg (by decide), if_neg (by decide), if_pos (by decide), skipped]
  split
  case h_1 same =>
    cases same
    exact absurd rfl noClose
  case h_2 same =>
    cases same
    rfl

theorem reads_list {level : Nat} {items : List Value} (all : ∀ v ∈ items, Reads (level + 1) v) :
    Reads level (.list items) := by
  cases items with
  | nil =>
    have written : value level (.list []) = .plain "[]" := by simp [value, sequence]
    exact reads_of_atom written (by decide) fun _ _ position => ⟨position + 2, rfl⟩
  | cons v items =>
    obtain ⟨first, others⟩ := List.forall_mem_cons.mp all
    have lead : Clean (.plain ("[" ++ newLine (level + 1))) := clean_lead (by decide) _
    have front := lead.append first.clean
    have inner := front.append (clean_sequenceTail others)
    have written : value level (.list (v :: items)) =
        .plain ("[" ++ newLine (level + 1)) ++ value (level + 1) v ++
          sequenceTail (level + 1) items ++ .plain (newLine level ++ "]") := by
      simp [value, sequence]
    have text : (value level (.list (v :: items))).text.toList =
        '[' :: ((newLine (level + 1)).toList ++ ((value (level + 1) v).text.toList ++
          ((sequenceTail (level + 1) items).text.toList ++
            ((newLine level).toList ++ [']'])))) := by
      rw [written, inner.text_append, front.text_append, lead.text_append]
      simp [Written.plain]
    constructor
    · rw [written]
      exact inner.append ⟨rfl, plain_append (plain_newLine level) (by decide)⟩
    · intro rest stops fuel enough position
      rw [text] at enough ⊢
      simp only [List.length_cons, List.length_append] at enough
      obtain ⟨less, rfl⟩ := Nat.exists_eq_succ_of_ne_zero (Nat.ne_zero_of_lt enough)
      have opens := first.opens ((sequenceTail (level + 1) items).text.toList ++
        ((newLine level).toList ++ ']' :: rest))
      obtain ⟨next, entered⟩ :=
        valueFrom_array (opens.skips.newLine (level + 1)) opens less position
      have enoughLeft : (value (level + 1) v).text.toList.length +
          (sequenceTail (level + 1) items).text.toList.length + 1 < less := by
        omega
      simp only [List.cons_append, List.append_assoc, List.nil_append]
      rw [entered]
      exact finds_items level first others [] rest enoughLeft next

/-! Objects. -/

def entriesOf (fields : List (String × Value)) : List (Value × Value) :=
  fields.map fun (name, v) => (.text name, v)

theorem entriesOf_cons (name : String) (v : Value) (fields : List (String × Value)) :
    entriesOf ((name, v) :: fields) = (.text name, v) :: entriesOf fields := rfl

theorem value_dict (level : Nat) (entry : Value × Value) (rest : List (Value × Value)) :
    value level (.dict (entry :: rest)) =
      .plain ("\x7b" ++ newLine (level + 1)) ++ mappingTail (level + 1) "" (entry :: rest) ++
        .plain (newLine level ++ "\x7d") := by
  rw [value]
  simp

theorem mappingTail_cons (level : Nat) (separator name : String) (v : Value)
    (rest : List (Value × Value)) : mappingTail level separator ((.text name, v) :: rest) =
      .plain (separator ++ string name ++ ": ") ++ value level v ++
        mappingTail level ("," ++ newLine level) rest := by
  rw [mappingTail]
  rfl

theorem plain_separator (level : Nat) : '\r' ∉ ("," ++ newLine level).toList :=
  plain_append (by decide) (plain_newLine level)

theorem clean_name {separator : String} (plain : '\r' ∉ separator.toList) (name : String) :
    Clean (.plain (separator ++ string name ++ ": ")) :=
  ⟨rfl, plain_append (plain_append plain (plain_string name)) (by decide)⟩

theorem clean_mappingTail {level : Nat} {fields : List (String × Value)}
    (all : ∀ f ∈ fields, Reads level f.2) {separator : String}
    (plain : '\r' ∉ separator.toList) :
    Clean (mappingTail level separator (entriesOf fields)) := by
  induction fields generalizing separator with
  | nil =>
    change Clean (mappingTail level separator [])
    rw [mappingTail]
    exact ⟨rfl, by decide⟩
  | cons f rest ih =>
    obtain ⟨name, v⟩ := f
    obtain ⟨first, others⟩ := List.forall_mem_cons.mp all
    rw [entriesOf_cons, mappingTail_cons]
    exact ((clean_name plain name).append first.clean).append (ih others (plain_separator level))

theorem toList_mappingTail {level : Nat} {v : Value} (first : Reads level v) {separator : String}
    (plain : '\r' ∉ separator.toList) (name : String) (rest : List (Value × Value)) :
    (mappingTail level separator ((.text name, v) :: rest)).text.toList =
      separator.toList ++ ((string name).toList ++ ':' :: ' ' :: ((value level v).text.toList ++
        (mappingTail level ("," ++ newLine level) rest).text.toList)) := by
  rw [mappingTail_cons, ((clean_name plain name).append first.clean).text_append,
    (clean_name plain name).text_append]
  simp [Written.plain]

theorem put_new {fields : List (String × Value)} {name : String}
    (new : name ∉ fields.map Prod.fst) (v : Value) :
    put (entriesOf fields) name v = entriesOf (fields ++ [(name, v)]) := by
  have absent : ((entriesOf fields).any
      fun entry => Value.sameKey (.text name) entry.1) = false := by
    unfold entriesOf
    rw [List.any_map, List.any_eq_false]
    rintro ⟨other, w⟩ member same
    have equal : name = other := by simpa [Value.sameKey] using same
    subst equal
    exact new (List.mem_map_of_mem (f := Prod.fst) member)
  unfold put
  rw [absent, if_neg (by decide)]
  unfold entriesOf
  rw [List.map_append]
  rfl

theorem new_of_distinct {before fields : List (String × Value)} {name : String} {v : Value}
    (distinct : ((before ++ (name, v) :: fields).map Prod.fst).Nodup) :
    name ∉ before.map Prod.fst := by
  rw [List.map_append, List.nodup_append] at distinct
  intro member
  exact distinct.2.2 name member name List.mem_cons_self rfl

theorem entriesFrom_entry {fuel : Nat} {cs rest : List Char} {v : Value}
    (found : ∀ position, Finds (valueFrom fuel position cs) v rest) (opens : Opens cs)
    (done : List (Value × Value)) (name : String) (position : Nat) :
    ∃ behind, entriesFrom (fuel + 1) done position
        ((string name).toList ++ ':' :: ' ' :: cs) =
      match skipSpace behind rest with
      | (close, '\x7d' :: tail) => .ok (.dict (put done name v), close + 1, tail)
      | (comma, ',' :: tail) =>
        entriesFrom fuel (put done name v) (skipSpace (comma + 1) tail).1
          (skipSpace (comma + 1) tail).2
      | (other, _) => .error ⟨"Expecting ',' delimiter", other⟩ := by
  have space : Skips (' ' :: cs) cs := opens.skips.cons rfl
  have colon : Skips (':' :: ' ' :: cs) (':' :: ' ' :: cs) := skips_none (by decide) _
  obtain ⟨behindName, named⟩ := finds_stringFrom name.toList (':' :: ' ' :: cs) position
    (position + 1)
  obtain ⟨mark, marked⟩ := colon behindName
  obtain ⟨start, skipped⟩ := space (mark + 1)
  obtain ⟨behind, read⟩ := found start
  refine ⟨behind, ?_⟩
  unfold string
  rw [String.toList_ofList, List.cons_append, List.cons_append, List.append_assoc,
    List.singleton_append]
  simp only [entriesFrom, bne_self_eq_false, Bool.false_eq_true, if_false, named, bind, Except.bind,
    marked, skipped, read, String.ofList_toList]
  rfl

theorem Finds.lastEntry {fuel : Nat} {cs rest more : List Char} {v : Value}
    (found : ∀ position, Finds (valueFrom fuel position cs) v rest) (opens : Opens cs)
    (closes : Skips rest ('\x7d' :: more)) (done : List (Value × Value)) (name : String)
    (position : Nat) :
    Finds (entriesFrom (fuel + 1) done position ((string name).toList ++ ':' :: ' ' :: cs))
      (.dict (put done name v)) more := by
  obtain ⟨behind, read⟩ := entriesFrom_entry found opens done name position
  obtain ⟨close, closed⟩ := closes behind
  refine ⟨close + 1, ?_⟩
  rw [read, closed]
  rfl

theorem Finds.entry {fuel : Nat} {cs rest more further : List Char} {v : Value}
    (found : ∀ position, Finds (valueFrom fuel position cs) v rest) (opens : Opens cs)
    (separated : Skips rest (',' :: more)) (skips : Skips more further)
    (done : List (Value × Value)) (name : String) (position : Nat) :
    ∃ next, entriesFrom (fuel + 1) done position ((string name).toList ++ ':' :: ' ' :: cs) =
      entriesFrom fuel (put done name v) next further := by
  obtain ⟨behind, read⟩ := entriesFrom_entry found opens done name position
  obtain ⟨comma, skipped⟩ := separated behind
  obtain ⟨next, skippedAgain⟩ := skips (comma + 1)
  refine ⟨next, ?_⟩
  rw [read, skipped]
  change entriesFrom fuel (put done name v) (skipSpace (comma + 1) more).1
    (skipSpace (comma + 1) more).2 = _
  rw [skippedAgain]

theorem opens_string (name : String) (rest : List Char) : Opens ((string name).toList ++ rest) :=
  opens_of_finds (finds_string name rest 0 0)

theorem finds_entries {level : Nat} (outer : Nat) {v : Value} {fields : List (String × Value)}
    (first : Reads level v) (all : ∀ f ∈ fields, Reads level f.2) {name : String}
    {before : List (String × Value)}
    (distinct : ((before ++ (name, v) :: fields).map Prod.fst).Nodup) (more : List Char)
    {fuel : Nat} (enough : (value level v).text.toList.length +
      (mappingTail level ("," ++ newLine level) (entriesOf fields)).text.toList.length + 1 < fuel)
    (position : Nat) :
    Finds (entriesFrom fuel (entriesOf before) position
        ((string name).toList ++ ':' :: ' ' :: ((value level v).text.toList ++
          ((mappingTail level ("," ++ newLine level) (entriesOf fields)).text.toList ++
            ((newLine outer).toList ++ '\x7d' :: more)))))
      (.dictOf (before ++ (name, v) :: fields)) more := by
  obtain ⟨less, rfl⟩ := Nat.exists_eq_succ_of_ne_zero (Nat.ne_zero_of_lt enough)
  induction fields generalizing v name before less position with
  | nil =>
    have new := new_of_distinct distinct
    have empty : (mappingTail level ("," ++ newLine level) (entriesOf [])).text.toList = [] := by
      simp [mappingTail, Written.plain, entriesOf]
    have short : (value level v).text.toList.length < less := by omega
    have closes : Skips ((newLine outer).toList ++ '\x7d' :: more) ('\x7d' :: more) :=
      (skips_none (by decide) more).newLine outer
    have last := Finds.lastEntry (first.found (stops_newLine outer _) short) (first.opens _) closes
      (entriesOf before) name position
    rw [put_new new] at last
    rw [empty]
    exact last
  | cons f fields ih =>
    obtain ⟨nextName, w⟩ := f
    obtain ⟨second, others⟩ := List.forall_mem_cons.mp all
    change Reads level w at second
    have new := new_of_distinct distinct
    have comma : ",".toList = [','] := rfl
    rw [entriesOf_cons, toList_mappingTail second (plain_separator level), String.toList_append,
      comma] at enough ⊢
    simp only [List.length_cons, List.length_append, List.length_nil, Nat.succ_eq_add_one] at enough
    simp only [List.cons_append, List.append_assoc, List.nil_append]
    have short : (value level v).text.toList.length < less := by omega
    have opens := opens_string nextName (':' :: ' ' :: ((value level w).text.toList ++
      ((mappingTail level ("," ++ newLine level) (entriesOf fields)).text.toList ++
        ((newLine outer).toList ++ '\x7d' :: more))))
    obtain ⟨next, step⟩ := Finds.entry (first.found (stops_comma _) short) (first.opens _)
      (skips_none (by decide) _) (opens.skips.newLine level) (entriesOf before) name position
    obtain ⟨fewer, rfl⟩ : ∃ fewer, less = fewer + 1 := ⟨less - 1, by omega⟩
    rw [List.append_cons] at distinct
    rw [put_new new] at step
    rw [step, List.append_cons before (name, v) ((nextName, w) :: fields)]
    exact ih second others distinct next fewer (by omega)

theorem valueFrom_object {cs further : List Char} (skips : Skips cs further) (opens : Opens further)
    (fuel position : Nat) :
    ∃ next, valueFrom (fuel + 1) position ('\x7b' :: cs) = entriesFrom fuel [] next further := by
  obtain ⟨next, skipped⟩ := skips (position + 1)
  obtain ⟨c, more, rfl, _, _, noClose, _⟩ := opens
  refine ⟨next, ?_⟩
  rw [valueFrom, if_neg (by decide), if_pos (by decide), skipped]
  split
  case h_1 same =>
    cases same
    exact absurd rfl noClose
  case h_2 same =>
    cases same
    rfl

theorem reads_dict {level : Nat} {fields : List (String × Value)}
    (distinct : (fields.map Prod.fst).Nodup) (all : ∀ f ∈ fields, Reads (level + 1) f.2) :
    Reads level (.dictOf fields) := by
  cases fields with
  | nil =>
    have written : value level (.dictOf []) = .plain "\x7b\x7d" := by simp [value, Value.dictOf]
    exact reads_of_atom written (by decide) fun _ _ position => ⟨position + 2, rfl⟩
  | cons f fields =>
    obtain ⟨name, v⟩ := f
    obtain ⟨first, others⟩ := List.forall_mem_cons.mp all
    change Reads (level + 1) v at first
    have brace : Clean (.plain ("\x7b" ++ newLine (level + 1))) := clean_lead (by decide) _
    have tail : Clean (mappingTail (level + 1) "" (entriesOf ((name, v) :: fields))) :=
      clean_mappingTail all (by decide)
    have inner := brace.append tail
    have written : value level (.dictOf ((name, v) :: fields)) =
        .plain ("\x7b" ++ newLine (level + 1)) ++
          mappingTail (level + 1) "" (entriesOf ((name, v) :: fields)) ++
            .plain (newLine level ++ "\x7d") := value_dict level (.text name, v) (entriesOf fields)
    have text : (value level (.dictOf ((name, v) :: fields))).text.toList =
        '\x7b' :: ((newLine (level + 1)).toList ++ ((string name).toList ++ ':' :: ' ' ::
          ((value (level + 1) v).text.toList ++
            ((mappingTail (level + 1) ("," ++ newLine (level + 1))
              (entriesOf fields)).text.toList ++
              ((newLine level).toList ++ ['\x7d']))))) := by
      rw [written, inner.text_append, brace.text_append, entriesOf_cons, String.toList_append,
        String.toList_append, toList_mappingTail first (by decide)]
      simp [Written.plain]
    constructor
    · rw [written]
      exact inner.append ⟨rfl, plain_append (plain_newLine level) (by decide)⟩
    · intro rest stops fuel enough position
      rw [text] at enough ⊢
      simp only [List.length_cons, List.length_append] at enough
      obtain ⟨less, rfl⟩ := Nat.exists_eq_succ_of_ne_zero (Nat.ne_zero_of_lt enough)
      have opens := opens_string name (':' :: ' ' :: ((value (level + 1) v).text.toList ++
        ((mappingTail (level + 1) ("," ++ newLine (level + 1)) (entriesOf fields)).text.toList ++
          ((newLine level).toList ++ '\x7d' :: rest))))
      obtain ⟨next, entered⟩ :=
        valueFrom_object (opens.skips.newLine (level + 1)) opens less position
      have enoughLeft : (value (level + 1) v).text.toList.length +
          (mappingTail (level + 1) ("," ++ newLine (level + 1))
            (entriesOf fields)).text.toList.length + 1 < less := by
        omega
      rw [← List.nil_append ((name, v) :: fields)] at distinct
      simp only [List.cons_append, List.append_assoc, List.nil_append]
      rw [entered]
      exact finds_entries level first others distinct rest enoughLeft next

theorem Document.reads {v : Value} (document : Document v) (level : Nat) : Reads level v := by
  induction document generalizing level with
  | none => exact reads_of_atom rfl (by decide) fun _ _ position => ⟨position + 4, rfl⟩
  | bool b =>
    cases b with
    | true => exact reads_of_atom rfl (by decide) fun _ _ position => ⟨position + 4, rfl⟩
    | false => exact reads_of_atom rfl (by decide) fun _ _ position => ⟨position + 5, rfl⟩
  | int n => exact reads_of_atom rfl (plain_int n) fun stops => finds_int n stops
  | float isNumber =>
    exact reads_of_atom rfl (plain_number _) fun stops => finds_number isNumber stops
  | text s => exact reads_of_atom rfl (plain_string s) fun _ => finds_string s _
  | list _ ih => exact reads_list fun v member => ih v member (level + 1)
  | dict distinct _ ih => exact reads_dict distinct fun f member => ih f member (level + 1)

theorem Document.clean {v : Value} (document : Document v) : Clean (write v) :=
  (document.reads 0).clean

theorem read_write {v : Value} (document : Document v) : read (write v).text = .ok v := by
  have reads := document.reads 0
  have stops : Stops [] := by simp [Stops]
  have opens := reads.opens []
  rw [List.append_nil] at opens
  obtain ⟨start, skipped⟩ := opens.skips 0
  have enough : (value 0 v).text.toList.length < 2 * (value 0 v).text.toList.length + 2 := by omega
  obtain ⟨behind, found⟩ := reads.found stops enough start
  rw [List.append_nil] at found
  obtain ⟨c, rest, same, _, _, _, noMark⟩ := opens
  have unmarked : ((value 0 v).text.toList.head? == some '\uFEFF') = false := by
    rw [same]
    simpa using noMark
  unfold read write
  dsimp only
  rw [unmarked, if_neg (by decide), skipped]
  simp only [found, bind, Except.bind]
  rfl

end TypeScriptGen.Json
