import TypeScriptGen.Text.Digits
import TypeScriptGen.Text.Quoted
import TypeScriptGen.Yaml.Cursor

/-!
Scalars in quotes. A line end inside is folded together with the blanks around it. In single quotes
a doubled quote stands for one; in double quotes a backslash starts an escape.
-/

set_option autoImplicit false
set_option relaxedAutoImplicit false

namespace TypeScriptGen.Yaml

def plainEscape? (c : Char) : Option Char :=
  if c == Text.doubleQuote || c == Text.backslash || c == '/' || c == ' ' then some c
  else match c with
    | '0' => some '\x00'
    | 'a' => some '\x07'
    | 'b' => some '\x08'
    | 't' => some '\t'
    | '\t' => some '\t'
    | 'n' => some '\n'
    | 'v' => some '\x0b'
    | 'f' => some '\x0c'
    | 'r' => some '\r'
    | 'e' => some '\x1b'
    | 'N' => some '\u0085'
    | '_' => some '\u00a0'
    | 'L' => some '\u2028'
    | 'P' => some '\u2029'
    | _ => none

/-- The number of hexadecimal digits behind a code point escape. -/
def codePointWidth? (c : Char) : Option Nat :=
  if c == 'x' then some 2 else if c == 'u' then some 4 else if c == 'U' then some 8 else none

/-- The character of a code point; half a character is replaced, and there are none beyond the last
plane. -/
def codePoint? (n : Nat) : Option Char :=
  if 0x10FFFF < n then none
  else if 0xD800 ≤ n && n ≤ 0xDFFF then some '\uFFFD'
  else some (Char.ofNat n)

def hexCodePoint? (digits : List Char) : Option Char := do
  let values ← digits.mapM Text.hexValue?
  codePoint? (values.foldl (fun n d => 16 * n + d) 0)

/-- The line ends in front of the next text inside quotes, without the blanks among them, and the
text from there on. A marker must not occur. -/
def quotedBreaks : (lineStart : Bool) → List Char → Option (List Char × List Char)
  | _, [] => some ([], [])
  | lineStart, c :: rest =>
    if lineStart && atMarker (c :: rest) then none
    else if isMargin c then quotedBreaks false rest
    else if isBreak c then
      (quotedBreaks true rest).map fun (breaks, tail) => (breakChar c :: breaks, tail)
    else some ([], c :: rest)

/-- An escape behind its backslash: what it stands for, and what follows it. An escaped line end
stands for the empty lines behind it. -/
def escape? : List Char → Option (List Char × List Char)
  | [] => none
  | e :: rest =>
    if isBreak e then quotedBreaks true rest
    else match codePointWidth? e with
      | some width =>
        if rest.length < width then none
        else (hexCodePoint? (rest.take width)).map fun c => ([c], rest.drop width)
      | none => (plainEscape? e).map fun c => ([c], rest)

/-- The rest of a scalar in quotes, and what follows it. The fuel bounds the characters. -/
def quotedFrom (quote : Char) : (fuel : Nat) → List Char → Option (List Char × List Char)
  | 0, _ => none
  | fuel + 1, cs =>
    let margin := cs.takeWhile isMargin
    match cs.dropWhile isMargin with
    | [] => none
    | c :: rest =>
      if isBreak c then do
        let (breaks, next) ← quotedBreaks true rest
        let (more, tail) ← quotedFrom quote fuel next
        return (foldBreaks c breaks ++ more, tail)
      else if c == quote then
        if quote == Text.singleQuote && rest.head? == some quote then do
          let (more, tail) ← quotedFrom quote fuel (rest.drop 1)
          return (margin ++ quote :: more, tail)
        else some (margin, rest)
      else if c == Text.backslash && quote == Text.doubleQuote then do
        let (meant, next) ← escape? rest
        let (more, tail) ← quotedFrom quote fuel next
        return (margin ++ meant ++ more, tail)
      else do
        let (more, tail) ← quotedFrom quote fuel rest
        return (margin ++ c :: more, tail)

def readQuoted? (quote : Char) (cs : List Char) : Option (List Char × List Char) :=
  quotedFrom quote (cs.length + 1) cs

end TypeScriptGen.Yaml
