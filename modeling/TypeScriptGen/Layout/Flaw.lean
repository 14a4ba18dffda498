/-!
Flaws of templates and of the layouts that stand in them, with their words.
-/

set_option autoImplicit false
set_option relaxedAutoImplicit false

namespace TypeScriptGen

inductive LayoutFlaw where
  /-- A brace that neither opens a place nor stands twice. -/
  | loneBrace (brace : Char)
  | braceInName
  | openPlace
  | conversionMissing
  | colonMissing
  | openLayout
  /-- Layouts are nested too deeply. -/
  | nesting
  | conversion (code : Char)
  /-- Places with numbers and places without are mixed; `numbered` says which came first. -/
  | mixedPlaces (numbered : Bool)
  | emptyStep
  | stepAfterItem
  | openItem
  | manyDigits
  | malformed (layout type : String)
  | precisionMissing
  | twoSeparators
  | separator (mark code : Char)
  | unknownCode (code : Char) (type : String)
  | sign (space : Bool)
  | plainZero (noun : String)
  | alternate
  | alignment
  | precision
  | characterSign
  | characterAlternate
  | manyPlaces
  /-- The column is too wide for any text. -/
  | room
deriving DecidableEq, Repr

namespace LayoutFlaw

/-- A code inside a message: characters outside the visible ASCII ones, which end before `bound`,
are written by their number to base sixteen. -/
def codeText (bound : Nat) (code : Char) : String :=
  if 32 < code.toNat && code.toNat < bound then String.ofList [code]
  else "\\x" ++ String.ofList (Nat.toDigits 16 code.toNat)

def message : LayoutFlaw → String
  | .loneBrace brace => "Single '" ++ String.ofList [brace] ++ "' encountered in format string"
  | .braceInName => "unexpected '\x7b' in field name"
  | .openPlace => "expected '\x7d' before end of string"
  | .conversionMissing => "end of string while looking for conversion specifier"
  | .colonMissing => "expected ':' after conversion specifier"
  | .openLayout => "unmatched '\x7b' in format spec"
  | .nesting => "Max string recursion exceeded"
  | .conversion code => "Unknown conversion specifier " ++ codeText 127 code
  | .mixedPlaces true =>
    "cannot switch from manual field specification to automatic field numbering"
  | .mixedPlaces false =>
    "cannot switch from automatic field numbering to manual field specification"
  | .emptyStep => "Empty attribute in format string"
  | .stepAfterItem => "Only '.' or '[' may follow ']' in format field specifier"
  | .openItem => "Missing ']' in format string"
  | .manyDigits => "Too many decimal digits in format string"
  | .malformed layout type =>
    "Invalid format specifier '" ++ layout ++ "' for object of type '" ++ type ++ "'"
  | .precisionMissing => "Format specifier missing precision"
  | .twoSeparators => "Cannot specify both ',' and '_'."
  | .separator mark code =>
    "Cannot specify '" ++ String.ofList [mark] ++ "' with '" ++ codeText 128 code ++ "'."
  | .unknownCode code type =>
    "Unknown format code '" ++ codeText 128 code ++ "' for object of type '" ++ type ++ "'"
  | .sign true => "Space not allowed in string format specifier"
  | .sign false => "Sign not allowed in string format specifier"
  | .plainZero noun => "Negative zero coercion (z) not allowed in " ++ noun ++ " specifier"
  | .alternate => "Alternate form (#) not allowed in string format specifier"
  | .alignment => "'=' alignment not allowed in string format specifier"
  | .precision => "Precision not allowed in integer format specifier"
  | .characterSign => "Sign not allowed with integer format specifier 'c'"
  | .characterAlternate => "Alternate form (#) not allowed with integer format specifier 'c'"
  | .manyPlaces => "precision too big"
  | .room => ""

end LayoutFlaw

end TypeScriptGen
