import TypeScriptGen.Declaration.Basic
import TypeScriptGen.Expression.Arrow
import TypeScriptGen.Settings

/-!
Rendering: the lines of a declaration under given settings, and the text of a file that holds one.
A member is rendered at a given indent; its body stands one level further in.
-/

set_option autoImplicit false
set_option relaxedAutoImplicit false

namespace TypeScriptGen

def flag (applies : Bool) (word : String) : String := if applies then word else ""

def assigned : Option String → String
  | Option.none => ""
  | some e => " = " ++ e

namespace Rendering

def each {α : Type} (render : α → Except Fault (List String)) :
    List α → Except Fault (List (List String))
  | [] => .ok []
  | a :: rest => do
    let lines ← render a
    let more ← each render rest
    return lines :: more

/-- The lines of decorators; the at sign is added where it is missing. -/
def decoratorLines (indent : String) (decorators : List Value) : Except Fault (List String) := do
  let lines ← each (fun v => do
    let s ← Value.asText v "startswith"
    return [indent ++ flag (!Text.beginsWith "@" s) "@" ++ s]) decorators
  return lines.flatten

def signatureLines (s : Settings) (indent : String) (signatures : List Value) :
    Except Fault (List String) := do
  let texts ← Value.toTexts signatures
  return texts.map fun t => indent ++ t ++ s.semicolon

def bodyLines (indent : String) (body : Supplied Body) : Except Fault (List String) := do
  let b ← body.need ["statements"]
  return b.statements.flatMap (Text.leadLines indent)

def optionalBodyLines (indent : String) : Option (Supplied Body) → Except Fault (List String)
  | Option.none => .ok []
  | some body => bodyLines indent body

def fieldTouched : List String :=
  ["accessibility", "is_abstract", "is_declare", "is_override", "is_static", "is_readonly",
    "is_es_private", "name", "is_optional", "type", "initializer"]

def fieldLine (s : Settings) (indent : String) (f : Field) : Except Fault String := do
  let access ← Access.lead f.access
  return indent ++ access ++ flag f.isAbstract "abstract " ++ flag f.isDeclare "declare " ++
    flag f.isOverride "override " ++ flag f.isStatic "static " ++ flag f.isReadonly "readonly " ++
    flag f.isHashPrivate "#" ++ f.name ++ flag f.isOptional "?" ++ ": " ++ f.type ++
    assigned f.initializer ++ s.semicolon

/-- The fault of a value in the place of a field: its accessibility is used first, then one feature
after the other is touched. -/
def strayField (v : Value) : Except Fault (List String) := do
  let _ ← Access.leadOf (← v.demand "accessibility")
  throw (v.lacking fieldTouched)

def fieldLines (s : Settings) (indent : String) : Supplied Field → Except Fault (List String)
  | .good f => do return [← fieldLine s indent f]
  | .stray v => strayField v

/-- The fault of a value in the place of a constructor: its signatures, its accessibility and its
parameters are used before the call of the base class is looked for. -/
def strayConstructor (v : Value) : Except Fault (List String) := do
  let _ ← Value.toTexts (← (← v.demand "overload_signatures").iterate)
  let _ ← Access.leadOf (← v.demand "accessibility")
  let _ ← Parameter.renderValues true (← (← v.demand "parameters").iterate)
  throw (v.lacking ["body", "super_arguments"])

/-- The lines of a constructor whose body stands at `inner`. A call of the base class comes first in
its body. -/
def constructorBlock (s : Settings) (indent inner : String) (c : Constructor) :
    Except Fault (List String) := do
  let overloads ← signatureLines s indent c.overloads
  let access ← Access.lead c.access
  let parameters ← Parameter.renderAll true c.parameters
  let head := indent ++ access ++ "constructor(" ++ parameters ++ ")"
  if c.body.isNone && c.superArguments.isEmpty then
    return overloads ++ [head ++ " \x7b\x7d"]
  let body ← optionalBodyLines inner c.body
  let call := if c.superArguments.isEmpty then []
    else [inner ++ "super(" ++ ", ".intercalate c.superArguments ++ ")" ++ s.semicolon]
  return overloads ++ [head ++ " \x7b"] ++ call ++ body ++ [indent ++ "\x7d"]

def constructorLines (s : Settings) (indent : String) (supplied : Supplied Constructor) :
    Except Fault (List String) := do
  let inner ← s.deeper indent
  match supplied with
  | .good c => constructorBlock s indent inner c
  | .stray v => strayConstructor v

def propertyLine (s : Settings) (indent : String) (p : Property) : Except Fault String := do
  let access ← Access.lead p.access
  return indent ++ access ++ flag p.isAbstract "abstract " ++ flag p.isOverride "override " ++
    flag p.isStatic "static " ++ flag p.isReadonly "readonly " ++ p.name ++
    flag p.isOptional "?" ++ ": " ++ p.type ++ assigned p.initializer ++ s.semicolon

def getterLines (s : Settings) (indent inner modifiers : String) (p : Property) :
    Except Fault (List String) := do
  if !p.hasGetter then return []
  let body ← match p.getterExpression with
    | some e => pure [inner ++ "return " ++ e ++ s.semicolon]
    | Option.none => optionalBodyLines inner p.getterBody
  return [indent ++ modifiers ++ "get " ++ p.name ++ "(): " ++ p.type ++ " \x7b"] ++ body ++
    [indent ++ "\x7d"]

/-- The lines of a setter, whose parameter is named `value`. -/
def setterLines (indent inner modifiers : String) (p : Property) : Except Fault (List String) := do
  match p.setterBody with
  | Option.none => return []
  | some supplied =>
    let body ← bodyLines inner supplied
    return [indent ++ modifiers ++ "set " ++ p.name ++ "(value: " ++ p.type ++ ") \x7b"] ++ body ++
      [indent ++ "\x7d"]

def propertyLines (s : Settings) (indent : String) (supplied : Supplied Property) :
    Except Fault (List String) := do
  let p ← supplied.need ["has_accessor"]
  if !p.hasAccessor then return [← propertyLine s indent p]
  let inner ← s.deeper indent
  let access ← Access.lead p.access
  let modifiers := access ++ flag p.isStatic "static "
  let getter ← getterLines s indent inner modifiers p
  let setter ← setterLines indent inner modifiers p
  return getter ++ setter

/-- The fault of a value in the place of a method: its decorators are used before its signatures
are looked for. -/
def strayMethod (indent : String) (v : Value) : Except Fault (List String) := do
  let _ ← decoratorLines indent (← (← v.demand "decorators").iterate)
  throw (v.lacking ["overload_signatures"])

def methodHead (indent : String) (d : Method) : Except Fault String := do
  let access ← Access.lead d.access
  let parameters ← Parameter.renderAll true d.parameters
  return indent ++ access ++ flag d.isAbstract "abstract " ++ flag d.isOverride "override " ++
    flag d.isStatic "static " ++ flag d.isAsync "async " ++ flag d.isGenerator "*" ++ d.name ++
    flag d.isOptional "?" ++ angleList d.typeParameters ++ "(" ++ parameters ++ ")" ++
    resultType d.returnType

def isSignature (kind : Kind) (d : Method) : Bool :=
  d.isAbstract || (kind == .interfaceDecl && !d.hasBody)

/-- The lines of a method in a declaration of a kind; its body stands at `inner`. -/
def methodBlock (s : Settings) (kind : Kind) (indent inner : String) (d : Method) :
    Except Fault (List String) := do
  let decorators ← decoratorLines indent d.decorators
  let overloads ← signatureLines s indent d.overloads
  let head ← methodHead indent d
  let lead := decorators ++ overloads
  if isSignature kind d then return lead ++ [head ++ s.semicolon]
  match d.expressionBody, d.body with
  | some e, _ =>
    return lead ++
      [head ++ " \x7b", inner ++ "return " ++ e ++ s.semicolon, indent ++ "\x7d"]
  | Option.none, some body =>
    return lead ++ [head ++ " \x7b"] ++ (← bodyLines inner body) ++ [indent ++ "\x7d"]
  | Option.none, Option.none => return lead ++ [head ++ " \x7b\x7d"]

/-- The lines of what stands in the place of a method, in a declaration of a kind. -/
def methodLines (s : Settings) (kind : Kind) (indent : String) (supplied : Supplied Method) :
    Except Fault (List String) := do
  let inner ← s.deeper indent
  match supplied with
  | .good d => methodBlock s kind indent inner d
  | .stray v => strayMethod indent v

def docLines (indent : String) (doc : Value) : Except Fault (List String) := do
  if doc.isNone then return []
  let s ← doc.asText "replace"
  return [indent ++ "/**"] ++ Text.leadLines (indent ++ " * ") s ++ [indent ++ " */"]

/-- The words in front of the keyword of a declaration. -/
def modifiers (d : Surface) : String :=
  (if d.isDefaultExport then "export default " else flag d.isExported "export ") ++
    flag d.isDeclare "declare "

def aliasLine (s : Settings) (indent : String) (d : Surface) : Except Fault String := do
  let name ← d.name.toText
  return indent ++ modifiers d ++ "type " ++ name ++ angleList d.typeParameters ++ " = " ++
    d.definition.getD "unknown" ++ s.semicolon

def enumMemberLine (inner comma : String) (name : Value) (value : Option String) :
    Except Fault String := do
  return inner ++ (← name.toText) ++ assigned value ++ comma

/-- The lines of the members of an enum, a comma behind each; the last one has `comma`. -/
def enumMemberLines (inner comma : String) :
    List (Value × Option String) → Except Fault (List String)
  | [] => .ok []
  | [(name, value)] => do return [← enumMemberLine inner comma name value]
  | (name, value) :: rest => do
    let line ← enumMemberLine inner "," name value
    let more ← enumMemberLines inner comma rest
    return line :: more

def enumLines (s : Settings) (indent : String) (d : Surface) : Except Fault (List String) := do
  let inner ← s.deeper indent
  let name ← d.name.toText
  let members ← enumMemberLines inner (flag s.trailingCommas.holds ",") d.enumMembers
  return [indent ++ modifiers d ++ flag (d.kind == .constEnum) "const " ++ "enum " ++ name ++
    " \x7b"] ++ members ++ [indent ++ "\x7d"]

def plainName (v : Value) : Except Fault String :=
  match v with
  | .text s => .ok s
  | .tuple _ => .error (.mistyped (.extension "tuple" "str"))
  | .list _ => .error (.mistyped (.extension "list" "str"))
  | v => .error (.mistyped (.sum v.typeName "str"))

def clause (word : String) (names : List String) : String :=
  if names.isEmpty then "" else " " ++ word ++ " " ++ ", ".intercalate names

def classHead (indent : String) (d : Surface) : Except Fault String := do
  let name ← plainName d.name
  let isClass := d.kind == .classDecl
  return indent ++ modifiers d ++ flag (d.isAbstract && isClass) "abstract " ++
    (if isClass then "class " else "interface ") ++ name ++ angleList d.typeParameters ++
    clause "extends" d.bases ++ (if isClass then clause "implements" d.interfaces else "") ++
    " \x7b"

/-- The lines of one category of members, if it has any; `gap` stands between two members. -/
def category {α : Type} (gap : List String) (render : α → Except Fault (List String))
    (items : List α) : Except Fault (List (List String)) := do
  if items.isEmpty then return []
  return [gap.intercalate (← each render items)]

/-- The categories of members of a class or interface that are not empty, in the order in which they
are shown. An interface shows no constructors. -/
def memberCategories (s : Settings) (inner : String) (d : Surface) :
    Except Fault (List (List String)) := do
  let signatures ← category [] (fun t => pure [inner ++ t ++ s.semicolon]) d.indexSignatures
  let fields ← category [] (fieldLines s inner) d.fields
  let constructors ← category [] (constructorLines s inner)
    (if d.kind == .classDecl then d.constructors else [])
  let properties ← category [] (propertyLines s inner) d.properties
  let methods ← category [""] (methodLines s d.kind inner) d.methods
  return signatures ++ fields ++ constructors ++ properties ++ methods

end Rendering

open Rendering

mutual

def Declaration.lines (s : Settings) (indent : String) :
    Declaration → Except Fault (List String)
  | ⟨d, nested⟩ => do
    let doc ← docLines indent d.doc
    let decorators ← decoratorLines indent d.decorators
    match d.kind with
    | .typeAlias => return doc ++ decorators ++ [← aliasLine s indent d]
    | .enumDecl | .constEnum => return doc ++ decorators ++ (← enumLines s indent d)
    | .classDecl | .interfaceDecl =>
      let inner ← s.deeper indent
      let head ← classHead indent d
      let members ← memberCategories s inner d
      let inside ← nestedLines s inner nested
      let categories := members ++ if nested.isEmpty then [] else [[""].intercalate inside]
      return doc ++ decorators ++ [head] ++ [""].intercalate categories ++ [indent ++ "\x7d"]

def nestedLines (s : Settings) (indent : String) :
    List (Supplied Declaration) → Except Fault (List (List String))
  | [] => .ok []
  | .good d :: rest => do
    let lines ← d.lines s indent
    let more ← nestedLines s indent rest
    return lines :: more
  | .stray v :: _ => .error (v.lacking ["js_doc"])

end

namespace Rendering

/-- The lines in front of the declaration: the header and the imports, each followed by an empty
line. -/
def preamble (s : Settings) (d : Surface) : List Value :=
  (if s.header.isNone then [] else [s.header, ""]) ++
    (if d.imports.isEmpty then [] else d.imports ++ [.text ""])

def lineTexts : (index : Nat) → List Value → Except Fault (List String)
  | _, [] => .ok []
  | index, .text t :: rest => do return t :: (← lineTexts (index + 1) rest)
  | index, v :: _ => .error (.mistyped (.lineItem index v.typeName))

def joinLines (endOfLine : Value) (lines : List Value) : Except Fault String := do
  let eol ← endOfLine.asText "join"
  return eol.intercalate (← lineTexts 0 lines) ++ eol

end Rendering

def Declaration.file (s : Settings) (d : Declaration) : Except Fault String := do
  let lines ← d.lines s ""
  joinLines s.endOfLine (preamble s d.toSurface ++ lines.map .text)

end TypeScriptGen
