import TypeScriptGen.Inspection

/-!
Templates: texts with places in braces that arguments fill. A place names an argument by its number,
or takes the next one; steps lead from there to a feature or an item; a conversion and a layout say
how the value is shown. A brace that stands twice is an ordinary character. Places are filled from
left to right, so what is wrong further right shows only after them.
-/

set_option autoImplicit false
set_option relaxedAutoImplicit false

namespace TypeScriptGen.Template

structure Place where
  path : List Char
  conversion : Option Char
  layout : List Char
deriving DecidableEq, Repr

/-- How the places find their arguments: nothing is known yet, each takes the next one, or each
states a number. -/
inductive Numbering where
  | undecided
  | automatic (next : Nat)
  | stated
deriving DecidableEq, Repr

/-- The path of a place, up to the mark that ends it. Inside square brackets no character is
special. -/
def takePath (inItem : Bool) : List Char → Except LayoutFlaw (List Char × List Char)
  | [] => .error .openPlace
  | c :: rest =>
    if inItem then do
      let (path, behind) ← takePath (c != ']') rest
      return (c :: path, behind)
    else if c == '\x7b' then .error .braceInName
    else if c == '\x7d' || c == ':' || c == '!' then .ok ([], c :: rest)
    else do
      let (path, behind) ← takePath (c == '[') rest
      return (c :: path, behind)

/-- The layout of a place, up to the brace that closes the place; `depth` counts the places inside
it that are open. -/
def takeLayout (depth : Nat) : List Char → Except LayoutFlaw (List Char × List Char)
  | [] => .error .openLayout
  | c :: rest =>
    if c == '\x7d' && depth == 0 then .ok ([], rest)
    else do
      let deeper := if c == '\x7b' then depth + 1 else if c == '\x7d' then depth - 1 else depth
      let (layout, behind) ← takeLayout deeper rest
      return (c :: layout, behind)

/-- The conversion of a place and the rest, from the mark behind the path on. -/
def takeConversion : List Char → Except LayoutFlaw (Option Char × List Char)
  | '!' :: [] => .error .conversionMissing
  | '!' :: c :: [] => .ok (some c, [])
  | '!' :: c :: d :: rest =>
    if d == '\x7d' || d == ':' then .ok (some c, d :: rest) else .error .colonMissing
  | rest => .ok (none, rest)

def takePlace (cs : List Char) : Except LayoutFlaw (Place × List Char) := do
  let (path, cs) ← takePath false cs
  let (conversion, cs) ← takeConversion cs
  match cs with
  | '\x7d' :: rest => return (⟨path, conversion, []⟩, rest)
  | ':' :: rest =>
    let (layout, rest) ← takeLayout 0 rest
    return (⟨path, conversion, layout⟩, rest)
  | _ => throw .openLayout

def isBrace (c : Char) : Bool := c == '\x7b' || c == '\x7d'

/-- The literal text in front, the place behind it if there is one, and the rest. -/
def next (cs : List Char) : Except LayoutFlaw (List Char × Option Place × List Char) :=
  let literal := cs.takeWhile fun c => !isBrace c
  match cs.dropWhile fun c => !isBrace c with
  | [] => .ok (literal, none, [])
  | brace :: rest =>
    if rest.head? == some brace then .ok (literal ++ [brace], none, rest.tail)
    else if brace == '\x7d' || rest.isEmpty then .error (.loneBrace brace)
    else do
      let (place, rest) ← takePlace rest
      return (literal, some place, rest)

/-- The number that some characters are, if all of them are digits. Too many digits in front are a
flaw in any case. -/
def number? (cs : List Char) : Except LayoutFlaw (Option Nat) := do
  match ← Layout.takeNumber cs with
  | (some n, []) => return some n
  | _ => return none

/-- The number of the argument of a place that has or has not stated one, and how numbering goes
on. -/
def Numbering.choose (numbering : Numbering) (stated : Option Nat) :
    Except LayoutFlaw (Nat × Numbering) :=
  match numbering, stated with
  | .automatic _, some _ => .error (.mixedPlaces false)
  | .stated, none => .error (.mixedPlaces true)
  | .automatic n, none => .ok (n, .automatic (n + 1))
  | .undecided, none => .ok (0, .automatic 1)
  | _, some n => .ok (n, .stated)

def isStep (c : Char) : Bool := c == '.' || c == '['

def argument (arguments : List Value) (numbering : Numbering) (name : List Char) :
    Except Fault (Value × Numbering) := do
  let stated ← Value.ofLayout (number? name)
  if stated.isNone && !name.isEmpty then
    throw (.keyMissing (Text.quoted (String.ofList name)))
  let (index, numbering) ← Value.ofLayout (numbering.choose stated)
  match arguments[index]? with
  | some v => return (v, numbering)
  | none => throw (.beyondArguments index)

/-- The item of a value that square brackets name: by position if it is a number, else by text. -/
def itemOf (v : Value) (name : List Char) : Except Fault Value := do
  match ← Value.ofLayout (number? name) with
  | some n => v.item (.int n)
  | none => v.item (.text (String.ofList name))

/-- Follow the steps of a path, at most `fuel` of them. -/
def follow : (fuel : Nat) → Value → List Char → Except Fault Value
  | 0, v, _ => .ok v
  | _, v, [] => .ok v
  | fuel + 1, v, '.' :: rest => do
    let name := rest.takeWhile fun c => !isStep c
    if name.isEmpty then throw (.misvalued (.layout .emptyStep))
    follow fuel (← v.inspect (String.ofList name)) (rest.drop name.length)
  | fuel + 1, v, '[' :: rest => do
    let name := rest.takeWhile (· != ']')
    match rest.drop name.length with
    | [] => throw (.misvalued (.layout .openItem))
    | _ :: behind =>
      if name.isEmpty then throw (.misvalued (.layout .emptyStep))
      follow fuel (← itemOf v name) behind
  | _, _, _ => .error (.misvalued (.layout .stepAfterItem))

/-- A value after a conversion: quoted, quoted in ASCII, or its text. -/
def convert (v : Value) : Option Char → Except Fault Value
  | none => .ok v
  | some 'r' => .ok (.text v.quoted)
  | some 'a' => .ok (.text (Text.inAscii v.quoted))
  | some 's' => v.toText.map .text
  | some c => .error (.misvalued (.layout (.conversion c)))

/-- The text of a place. A layout that has places itself is filled first, by `expand`. -/
def display (expand : Numbering → List Char → Except Fault (List Char × Numbering))
    (arguments : List Value) (numbering : Numbering) (p : Place) :
    Except Fault (List Char × Numbering) := do
  let name := p.path.takeWhile fun c => !isStep c
  let (first, numbering) ← argument arguments numbering name
  let v ← follow p.path.length first (p.path.drop name.length)
  let v ← convert v p.conversion
  let (layout, numbering) ← if p.layout.contains '\x7b' then expand numbering p.layout
    else pure (p.layout, numbering)
  return ((← v.format (String.ofList layout)).toList, numbering)

/-- Fill the places one after the other, at most `fuel` of them. -/
def fillWith (expand : Numbering → List Char → Except Fault (List Char × Numbering))
    (arguments : List Value) :
    (fuel : Nat) → Numbering → List Char → Except Fault (List Char × Numbering)
  | 0, numbering, _ => .ok ([], numbering)
  | _, numbering, [] => .ok ([], numbering)
  | fuel + 1, numbering, cs => do
    let (literal, place, rest) ← Value.ofLayout (next cs)
    let (shown, numbering) ← match place with
      | none => pure ([], numbering)
      | some p => display expand arguments numbering p
    let (more, numbering) ← fillWith expand arguments fuel numbering rest
    return (literal ++ shown ++ more, numbering)

/-- Fill a template whose layouts have places down to a depth. -/
def fillAt (arguments : List Value) :
    (depth : Nat) → Numbering → List Char → Except Fault (List Char × Numbering)
  | 0, _, _ => .error (.misvalued (.layout .nesting))
  | depth + 1, numbering, cs =>
    fillWith (fillAt arguments depth) arguments cs.length numbering cs

/-- The template with its places filled. A layout may have places, but not those in it. -/
def fill (template : String) (arguments : List Value) : Except Fault String := do
  return String.ofList (← fillAt arguments 2 .undecided template.toList).1

end TypeScriptGen.Template
