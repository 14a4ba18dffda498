import TypeScriptGen.Yaml.Cursor

/-!
Block scalars: the lines behind a bar, as they are, or behind a greater sign, with single line ends
folded. The lines are those at the indentation of the first one or further in.
-/

set_option autoImplicit false
set_option relaxedAutoImplicit false

namespace TypeScriptGen.Yaml

/-- What becomes of the line ends behind the last line: all go, one stays, or all stay. -/
inductive LineEnds where
  | strip
  | clip
  | keep
deriving DecidableEq, Repr

/-- The signs behind the bar: what becomes of the line ends, and the indentation if it is given. -/
structure BlockHeader where
  ends : LineEnds
  width : Option Nat

def takeEnds : List Char → Option LineEnds × List Char
  | '+' :: rest => (some .keep, rest)
  | '-' :: rest => (some .strip, rest)
  | cs => (none, cs)

def takeWidth : List Char → Option Nat × List Char
  | [] => (none, [])
  | c :: rest => if c.isDigit then (some (c.toNat - 0x30), rest) else (none, c :: rest)

/-- The start of the next line, if nothing but spaces and a comment is left of this one. A comment
has to stand behind a space. -/
def nextLine? (cs : List Char) : Option (List Char) :=
  if !(atLineEnd cs || cs.head? == some ' ') then none
  else
    let body := cs.dropWhile (· == ' ')
    let tail := if body.head? == some '#' then body.dropWhile (!isBreak ·) else body
    if atLineEnd tail then some (tail.drop 1) else none

/-- The signs behind the bar, in any order, and the lines. -/
def blockHeader? (cs : List Char) : Option (BlockHeader × List Char) :=
  let (first, rest) := takeEnds cs
  let (width, rest) := takeWidth rest
  let (ends, rest) := if first.isSome then (first, rest) else takeEnds rest
  if width == some 0 then none
  else (nextLine? rest).map fun lines => (⟨ends.getD .clip, width⟩, lines)

/-- The empty lines in front of the first line, the widest indentation among them all, the column of
the first line and the text from there on. -/
def leadingLines : (widest column : Nat) → List Char → List Char × Nat × Nat × List Char
  | widest, column, [] => ([], widest, column, [])
  | widest, column, c :: rest =>
    if c == ' ' then leadingLines (max widest (column + 1)) (column + 1) rest
    else if isBreak c then
      match leadingLines widest 0 rest with
      | (breaks, found) => (breakChar c :: breaks, found)
    else ([], widest, column, c :: rest)

/-- From a column on: the empty lines in front of the next line, its column up to the indentation,
and the text from there on. -/
def emptyLines (indentation : Nat) : (column : Nat) → List Char → List Char × Nat × List Char
  | column, [] => ([], column, [])
  | column, c :: rest =>
    if c == ' ' && column < indentation then emptyLines indentation (column + 1) rest
    else if isBreak c then
      match emptyLines indentation 0 rest with
      | (breaks, found) => (breakChar c :: breaks, found)
    else ([], column, c :: rest)

/-- What was read of a block scalar: its text, the end of its last line, the empty lines behind it,
and what follows. -/
structure BlockLines where
  text : List Char
  lastEnd : List Char
  breaks : List Char
  rest : List Char

/-- What stands between two lines. Folded, a line feed becomes a space or gives way to the empty
lines, unless one of the lines starts with a blank. -/
def lineGap (folded : Bool) (line lineEnd breaks next : List Char) : List Char :=
  if folded && lineEnd == ['\n'] && !line.head?.any isMargin && !next.head?.any isMargin then
    if breaks.isEmpty then [' '] else []
  else lineEnd

/-- The lines of a block scalar at an indentation, behind some empty lines. The fuel bounds the
lines. -/
def blockLines (folded : Bool) (indentation : Nat) :
    (fuel : Nat) → (breaks : List Char) → (column : Nat) → List Char → BlockLines
  | 0, breaks, _, cs => ⟨[], [], breaks, cs⟩
  | fuel + 1, breaks, column, cs =>
    if column != indentation || cs.isEmpty then ⟨[], [], breaks, cs⟩
    else
      let line := cs.takeWhile (!isBreak ·)
      let tail := cs.dropWhile (!isBreak ·)
      let lineEnd := (tail.take 1).map breakChar
      match emptyLines indentation 0 (tail.drop 1) with
      | (later, column, next) =>
        if column == indentation && !next.isEmpty then
          let found := blockLines folded indentation fuel later column next
          { found with
            text := breaks ++ line ++ lineGap folded line lineEnd later next ++ found.text }
        else ⟨breaks ++ line, lineEnd, later, next⟩

/-- The block scalar behind its bar, and what follows it. Its lines stand further in than the block
around it, which leaves at least the given column. -/
def readBlockText? (folded : Bool) (least : Nat) (cs : List Char) :
    Option (List Char × List Char) := do
  let (header, lines) ← blockHeader? cs
  let (indentation, breaks, column, first) := match header.width with
    | some width =>
      let indentation := least + width - 1
      (indentation, emptyLines indentation 0 lines)
    | none =>
      match leadingLines 0 0 lines with
      | (breaks, widest, column, first) => (max least widest, breaks, column, first)
  let found := blockLines folded indentation (lines.length + 1) breaks column first
  let ending := match header.ends with
    | .strip => []
    | .clip => found.lastEnd
    | .keep => found.lastEnd ++ found.breaks
  return (found.text ++ ending, found.rest)

end TypeScriptGen.Yaml
