/-!
Places in a document. A line ends with a line feed or one of three further characters, only spaces
indent, and a marker of a document is three dashes or points at the start of a line.
-/

set_option autoImplicit false
set_option relaxedAutoImplicit false

namespace TypeScriptGen.Yaml

def isBreak (c : Char) : Bool :=
  c == '\n' || c == '\u0085' || c == '\u2028' || c == '\u2029'

/-- What a line end stands for in a text: the separators of lines and of paragraphs stand for
themselves. -/
def breakChar (c : Char) : Char := if c == '\u2028' || c == '\u2029' then c else '\n'

def isMargin (c : Char) : Bool := c == ' ' || c == '\t'

/-- Nothing comes next, or a blank or a line end. -/
def atGap (cs : List Char) : Bool := cs.head?.all fun c => isMargin c || isBreak c

def atLineEnd (cs : List Char) : Bool := cs.head?.all isBreak

/-- The text is at three equal signs of its start or end, if this is the start of a line. -/
def atMarkerOf (sign : Char) : List Char → Bool
  | a :: b :: c :: rest => a == sign && b == sign && c == sign && atGap rest
  | _ => false

/-- The text is at a marker of a document, if this is the start of a line. -/
def atMarker (cs : List Char) : Bool := atMarkerOf '-' cs || atMarkerOf '.' cs

/-- The text of some line ends inside a scalar, of which the first has been passed: a single line
feed is folded into a space, and of several the first is dropped. -/
def foldBreaks (first : Char) (more : List Char) : List Char :=
  if breakChar first != '\n' then breakChar first :: more
  else if more.isEmpty then [' ']
  else more

/-- The sign that may stand in front of a document; it takes no column. -/
def byteOrderMark : Char := '\uFEFF'

/-- A place in a document: the text from there on, and how far it is from the start of the text and
of its line. -/
structure Cursor where
  rest : List Char
  index : Nat
  line : Nat
  column : Nat

namespace Cursor

/-- The start of a document, behind its byte order mark. -/
def start : List Char → Cursor
  | [] => ⟨[], 0, 0, 0⟩
  | c :: rest => ⟨if c == byteOrderMark then rest else c :: rest, 0, 0, 0⟩

def past (p : Cursor) (c : Char) : Cursor :=
  if isBreak c then { p with index := p.index + 1, line := p.line + 1, column := 0 }
  else if c == byteOrderMark then { p with index := p.index + 1 }
  else { p with index := p.index + 1, column := p.column + 1 }

/-- The place further on where the given text is left. -/
def goTo (p : Cursor) (rest : List Char) : Cursor :=
  { (p.rest.take (p.rest.length - rest.length)).foldl past p with rest }

end Cursor

/-- Drop spaces, line ends and comments in front of the next sign, and tell whether a line ended. A
tab is not dropped. -/
def skipGap : (inComment : Bool) → List Char → List Char × Bool
  | _, [] => ([], false)
  | inComment, c :: rest =>
    if isBreak c then ((skipGap false rest).1, true)
    else if inComment || c == '#' then skipGap true rest
    else if c == ' ' then skipGap false rest
    else (c :: rest, false)

end TypeScriptGen.Yaml
