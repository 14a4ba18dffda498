import TypeScriptGen.Yaml.Cursor

/-!
Plain scalars: texts without quotes. They end at a colon that a blank follows, at a comment behind a
space, and inside a flow collection at its signs; they may go on in the next line, further in.
-/

set_option autoImplicit false
set_option relaxedAutoImplicit false

namespace TypeScriptGen.Yaml

def isFlowSign (c : Char) : Bool :=
  c == ',' || c == '[' || c == ']' || c == '\x7b' || c == '\x7d'

/-- The signs with which no plain scalar starts. -/
def isIndicator (c : Char) : Bool :=
  isFlowSign c || c.toNat == 0x22 || c.toNat == 0x27 ||
    ['-', '?', ':', '#', '&', '*', '!', '|', '>', '%', '@', '\x60'].contains c

/-- A plain scalar starts here: with a character that is no sign, or with a dash, and outside flow
collections a question mark or colon, that no gap follows. -/
def startsPlain (inFlow : Bool) (c : Char) (rest : List Char) : Bool :=
  !(isMargin c || isBreak c || isIndicator c) ||
    (!atGap rest && (c == '-' || (!inFlow && (c == '?' || c == ':'))))

/-- The part of a plain scalar up to the next gap or sign, and what follows it. -/
def plainPart (inFlow : Bool) : List Char → List Char × List Char
  | [] => ([], [])
  | c :: rest =>
    if isMargin c || isBreak c then ([], c :: rest)
    else if c == ':' && (atGap rest || (inFlow && rest.head?.any isFlowSign)) then ([], c :: rest)
    else if inFlow && (isFlowSign c || c == '?') then ([], c :: rest)
    else match plainPart inFlow rest with
      | (part, tail) => (c :: part, tail)

/-- From the start of a line or a column in it on: the line ends in front of the next text with its
column, or nothing if a marker comes first; and the text from there on. -/
def plainBreaks : (column : Nat) → List Char → Option (List Char × Nat) × List Char
  | column, [] => (some ([], column), [])
  | column, c :: rest =>
    if column == 0 && atMarker (c :: rest) then (none, c :: rest)
    else if c == ' ' then plainBreaks (column + 1) rest
    else if isBreak c then
      match plainBreaks 0 rest with
      | (found, tail) =>
        (found.map fun (breaks, column) => (breakChar c :: breaks, column), tail)
    else (some ([], column), c :: rest)

/-- What was read of a plain scalar: its text, what follows it, and whether a line ended in
between. -/
structure Plain where
  text : List Char
  rest : List Char
  lineEnded : Bool

/-- Put a part and the gap behind it in front of what was read next; if there was nothing, the part
stands alone. -/
def Plain.behind (part gap : List Char) (lineEnded : Bool) (next : Plain) : Plain :=
  if next.text.isEmpty then ⟨part, next.rest, lineEnded⟩
  else ⟨part ++ gap ++ next.text, next.rest, next.lineEnded⟩

/-- The plain scalar here. Outside flow collections its later lines have to stand at the least
column or further in. The fuel bounds the parts. -/
def plainFrom (inFlow : Bool) (least : Nat) : (fuel : Nat) → List Char → Plain
  | 0, cs => ⟨[], cs, false⟩
  | fuel + 1, cs =>
    match plainPart inFlow cs with
    | ([], _) => ⟨[], cs, false⟩
    | (part, tail) =>
      let spaces := tail.takeWhile (· == ' ')
      match tail.dropWhile (· == ' ') with
      | [] => ⟨part, [], false⟩
      | c :: rest =>
        if isBreak c then
          match plainBreaks 0 rest with
          | (none, next) => ⟨part, next, true⟩
          | (some (breaks, column), next) =>
            if next.head? == some '#' || (!inFlow && column < least) then ⟨part, next, true⟩
            else (plainFrom inFlow least fuel next).behind part (foldBreaks c breaks) true
        else if spaces.isEmpty || c == '#' then ⟨part, c :: rest, false⟩
        else (plainFrom inFlow least fuel (c :: rest)).behind part spaces false

def readPlain (inFlow : Bool) (least : Nat) (cs : List Char) : Plain :=
  plainFrom inFlow least cs.length cs

end TypeScriptGen.Yaml
