import TypeScriptGen.Value

/-!
Writing JSON text, two columns for each level, in ASCII. A value that has no JSON form stops the
writer where it stands: what came before it has been written.
-/

set_option autoImplicit false
set_option relaxedAutoImplicit false

namespace TypeScriptGen.Json

/-- What has been written, and why the writer stopped if it did. -/
structure Written where
  text : String
  fault : Option Fault := Option.none

namespace Written

def andThen (w next : Written) : Written :=
  match w.fault with
  | Option.none => ⟨w.text ++ next.text, next.fault⟩
  | some _ => w

def plain (s : String) : Written := ⟨s, Option.none⟩

instance : Append Written := ⟨andThen⟩

end Written

def unitEscape (n : Nat) : List Char := Text.backslash :: 'u' :: Text.hexPadded 4 n

/-- A character inside a string; a character beyond the basic plane takes two escapes. -/
def stringChar (c : Char) : List Char :=
  if c == Text.doubleQuote || c == Text.backslash then [Text.backslash, c]
  else if c == '\n' then [Text.backslash, 'n']
  else if c == '\r' then [Text.backslash, 'r']
  else if c == '\t' then [Text.backslash, 't']
  else if c == '\x0c' then [Text.backslash, 'f']
  else if c == '\x08' then [Text.backslash, 'b']
  else if 0x20 ≤ c.toNat && c.toNat ≤ 0x7E then [c]
  else if c.toNat < 0x10000 then unitEscape c.toNat
  else
    let n := c.toNat - 0x10000
    unitEscape (0xD800 + n / 0x400) ++ unitEscape (0xDC00 + n % 0x400)

def string (s : String) : String :=
  String.ofList (Text.doubleQuote :: s.toList.flatMap stringChar ++ [Text.doubleQuote])

def number : Binary64 → String
  | .nan => "NaN"
  | .infinite negative => if negative then "-Infinity" else "Infinity"
  | x => x.text

def newLine (level : Nat) : String := "\n".pushn ' ' (2 * level)

def key : Value → Except Fault String
  | .text s => .ok s
  | .float x => .ok (number x)
  | .bool b => .ok (if b then "true" else "false")
  | .none => .ok "null"
  | .int n => .ok (toString n)
  | v => .error (.mistyped (.entryKey v.className))

mutual

def value (level : Nat) : Value → Written
  | .none => .plain "null"
  | .bool b => .plain (if b then "true" else "false")
  | .int n => .plain (toString n)
  | .float x => .plain (number x)
  | .text s => .plain (string s)
  | .tuple items => sequence level items
  | .list items => sequence level items
  | .dict [] => .plain "\x7b\x7d"
  | .dict entries =>
    .plain ("\x7b" ++ newLine (level + 1)) ++ mappingTail (level + 1) "" entries ++
      .plain (newLine level ++ "\x7d")
  | .again _ => ⟨"", some (.misvalued .circular)⟩
  | v => ⟨"", some (.mistyped (.encoding v.className))⟩

def sequence (level : Nat) : List Value → Written
  | [] => .plain "[]"
  | v :: rest =>
    .plain ("[" ++ newLine (level + 1)) ++ value (level + 1) v ++ sequenceTail (level + 1) rest ++
      .plain (newLine level ++ "]")

def sequenceTail (level : Nat) : List Value → Written
  | [] => .plain ""
  | v :: rest => .plain ("," ++ newLine level) ++ value level v ++ sequenceTail level rest

/-- The entries of an object, `separator` in front of the first. A key is looked at before what
separates its entry is written. -/
def mappingTail (level : Nat) (separator : String) : List (Value × Value) → Written
  | [] => .plain ""
  | (k, v) :: rest =>
    match key k with
    | .error e => ⟨"", some e⟩
    | .ok name =>
      .plain (separator ++ string name ++ ": ") ++ value level v ++
        mappingTail level ("," ++ newLine level) rest

end

def write (v : Value) : Written := value 0 v

end TypeScriptGen.Json
