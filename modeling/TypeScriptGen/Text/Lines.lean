import TypeScriptGen.Text.Blank

/-!
Lines of a text: cutting at line feeds, putting a lead in front of every line, and the rule that
closes a statement with a semicolon.
-/

set_option autoImplicit false
set_option relaxedAutoImplicit false

namespace TypeScriptGen.Text

/-- Does `part` occur in `s`? The empty text occurs everywhere. -/
def hasPart (part s : List Char) : Bool :=
  part.isPrefixOf s ||
    match s with
    | [] => false
    | _ :: rest => hasPart part rest

/-- Does `part` occur in the text `s`? -/
def occursIn (part s : String) : Bool :=
  hasPart part.toList s.toList

/-- Does the text `s` begin with `lead`? -/
def beginsWith (lead s : String) : Bool :=
  lead.toList.isPrefixOf s.toList

/-- The rest of `s` after `lead`, if `s` begins with it. -/
def after? (lead s : String) : Option String :=
  if beginsWith lead s then some (String.ofList (s.toList.drop lead.toList.length)) else none

/-- The parts of `s` between the characters `sep`; there is always one more part than separators. -/
def splitAtChar (sep : Char) (s : String) : List String :=
  (s.toList.splitOn sep).map String.ofList

/-- The lines of a text: carriage returns are dropped and every line feed ends a line. -/
def lines (s : String) : List String :=
  ((s.toList.filter (· != '\r')).splitOn '\n').map String.ofList

/-- The lines of a text, each behind `lead`; blank lines are no exception. -/
def leadLines (lead s : String) : List String :=
  (lines s).map (lead ++ ·)

/-- The endings after which a statement takes no further semicolon. -/
def closesStatement (c : Char) : Bool :=
  c == ';' || c == '\x7d' || c == '\x7b'

/-- A statement without trailing blanks, closed with a semicolon unless it ends in one or in a
brace. -/
def closeStatement (s : String) : String :=
  let trimmed := trimEnd s
  match trimmed.toList.getLast? with
  | some c => if closesStatement c then trimmed else trimmed ++ ";"
  | none => ";"

/-- The characters with every CR LF pair and every lone CR replaced by a line feed. -/
def unifyLineEnds : List Char → List Char
  | [] => []
  | '\r' :: '\n' :: rest => '\n' :: unifyLineEnds rest
  | '\r' :: rest => '\n' :: unifyLineEnds rest
  | c :: rest => c :: unifyLineEnds rest

/-- Lower-case the letters A to Z. Every comparison of the library is with a lower-case ASCII word
none of whose letters is the lower case of a letter outside ASCII, so this is all it takes. -/
def lowerLatin (s : String) : String :=
  String.ofList (s.toList.map Char.toLower)

/-- The upper case of a letter as far as names of severities can tell: a to z, the two letters
outside ASCII whose upper case is one of A to Z, and the two ligatures whose upper case is ST. -/
def upperLatinChar (c : Char) : List Char :=
  if c == 'ı' then ['I'] else if c == 'ſ' then ['S']
  else if c == 'ﬅ' || c == 'ﬆ' then ['S', 'T'] else [c.toUpper]

/-- Upper-case a text letter by letter, see `upperLatinChar`. -/
def upperLatin (s : String) : String :=
  String.ofList (s.toList.flatMap upperLatinChar)

end TypeScriptGen.Text
