import TypeScriptGen.Value

/-!
Accessibility of members and parameters, and kinds of declarations.
-/

set_option autoImplicit false
set_option relaxedAutoImplicit false

namespace TypeScriptGen

/-- The accessibility of a member; an unmarked one has no keyword. -/
inductive Access where
  | unmarked
  | markedPublic
  | markedPrivate
  | markedProtected
deriving DecidableEq, Repr

namespace Access

def keyword : Access → String
  | .unmarked => ""
  | .markedPublic => "public"
  | .markedPrivate => "private"
  | .markedProtected => "protected"

def name : Access → String
  | .unmarked => "NONE"
  | .markedPublic => "PUBLIC"
  | .markedPrivate => "PRIVATE"
  | .markedProtected => "PROTECTED"

def describe (a : Access) : Value := .member "Accessibility" a.name a.keyword

def spaced (keyword : String) : String := if keyword.isEmpty then "" else keyword ++ " "

/-- The keyword of what stands in the place of an accessibility, with a space behind it, or
nothing. -/
def leadOf (v : Value) : Except Fault String := do
  return spaced (← (← v.demand "keyword").toText)

def lead : Supplied Access → Except Fault String
  | .good .unmarked => .ok ""
  | .good a => .ok (a.keyword ++ " ")
  | .stray v => leadOf v

end Access

inductive Kind where
  | classDecl
  | interfaceDecl
  | typeAlias
  | enumDecl
  | constEnum
deriving DecidableEq, Repr

namespace Kind

def keyword : Kind → String
  | .classDecl => "class"
  | .interfaceDecl => "interface"
  | .typeAlias => "type"
  | .enumDecl => "enum"
  | .constEnum => "const enum"

def name : Kind → String
  | .classDecl => "CLASS"
  | .interfaceDecl => "INTERFACE"
  | .typeAlias => "TYPE_ALIAS"
  | .enumDecl => "ENUM"
  | .constEnum => "CONST_ENUM"

def describe (k : Kind) : Value := .member "TypeKind" k.name k.keyword

end Kind

end TypeScriptGen
