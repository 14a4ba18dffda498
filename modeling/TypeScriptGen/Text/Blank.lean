/-!
Blank characters, and trimming them from the ends of a text.
-/

set_option autoImplicit false
set_option relaxedAutoImplicit false

namespace TypeScriptGen.Text

/-- A blank character: the separators and spaces of Unicode, and the control characters that
break a line or a column. -/
def isBlankChar (c : Char) : Bool :=
  let n := c.toNat
  (0x09 ≤ n && n ≤ 0x0D) || (0x1C ≤ n && n ≤ 0x20) || n == 0x85 || n == 0xA0 || n == 0x1680 ||
    (0x2000 ≤ n && n ≤ 0x200A) || n == 0x2028 || n == 0x2029 || n == 0x202F || n == 0x205F ||
    n == 0x3000

/-- Drop the longest suffix of characters that satisfy `p`. -/
def dropEndWhile (p : Char → Bool) (cs : List Char) : List Char :=
  (cs.reverse.dropWhile p).reverse

def trimEnd (s : String) : String :=
  String.ofList (dropEndWhile isBlankChar s.toList)

/-- The text without the blanks at both ends. -/
def trim (s : String) : String :=
  String.ofList (dropEndWhile isBlankChar (s.toList.dropWhile isBlankChar))

/-- Every character is blank; the empty text is blank too. -/
def isBlank (s : String) : Bool :=
  s.toList.all isBlankChar

/-- The text without the characters `c` at its end. -/
def trimEndOf (c : Char) (s : String) : String :=
  String.ofList (dropEndWhile (· == c) s.toList)

def dropEndZeros (cs : List Char) : List Char := dropEndWhile (· == '0') cs

/-- The maximal runs of characters that are not blank. -/
def words (s : String) : List String :=
  (s.toList.splitOnP isBlankChar).filterMap fun run =>
    if run.isEmpty then none else some (String.ofList run)

end TypeScriptGen.Text
