import TypeScriptGen.Text.Lines

/-!
Paths of files, as text and as the components they lead through.
-/

set_option autoImplicit false
set_option relaxedAutoImplicit false

namespace TypeScriptGen.Path

/-- The root that a path starts from: none, one slash, or exactly two. -/
def root (s : String) : String :=
  match s.toList with
  | '/' :: '/' :: '/' :: _ => "/"
  | '/' :: '/' :: _ => "//"
  | '/' :: _ => "/"
  | _ => ""

/-- The components of a path, without empty ones and without dots. -/
def components (s : String) : List String :=
  (Text.splitAtChar '/' s).filter fun part => !part.isEmpty && part != "."

/-- A path in normal form: single slashes, no dots, no slash at the end. -/
def normal (s : String) : String :=
  let text := root s ++ "/".intercalate (components s)
  if text.isEmpty then "." else text

def name (s : String) : String := (components s).getLast?.getD ""

/-- The ending of a file name from its last dot on; a dot at either end of the name starts none. -/
def suffix (s : String) : String :=
  let name := (name s).toList
  let tail := (name.reverse.takeWhile (· != '.')).reverse
  if tail.isEmpty || tail.length + 1 ≥ name.length then ""
  else String.ofList ('.' :: tail)

/-- One step along a path: two dots lead back. -/
def walk (place : List String) (part : String) : List String :=
  if part == ".." then place.dropLast else place ++ [part]

/-- Where a path starts, seen from the working directory. A path with a root starts elsewhere. -/
def start (s : String) : List String := if (root s).isEmpty then [] else ["/"]

def place (s : String) : List String := (components s).foldl walk (start s)

/-- A path without steps back, which leads to the same place. -/
def direct (s : String) : String := root s ++ "/".intercalate ((components s).foldl walk [])

end TypeScriptGen.Path
