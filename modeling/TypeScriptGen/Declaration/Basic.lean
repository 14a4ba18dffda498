import TypeScriptGen.Declaration.Member

/-!
Declarations: a class, interface, type alias, enum or const enum with everything that belongs to
it, including the declarations nested in it. Every operation returns a new declaration.
-/

set_option autoImplicit false
set_option relaxedAutoImplicit false

namespace TypeScriptGen

/-- All of a declaration but the declarations nested in it. -/
structure Surface where
  name : Value
  kind : Kind := .classDecl
  isExported : Bool := false
  isDefaultExport : Bool := false
  isAbstract : Bool := false
  isDeclare : Bool := false
  decorators : List Value := []
  doc : Value := .none
  typeParameters : List String := []
  bases : List String := []
  interfaces : List String := []
  indexSignatures : List String := []
  fields : List (Supplied Field) := []
  constructors : List (Supplied Constructor) := []
  properties : List (Supplied Property) := []
  methods : List (Supplied Method) := []
  enumMembers : List (Value × Option String) := []
  imports : List Value := []
  definition : Option String := Option.none

structure Declaration extends Surface where
  nested : List (Supplied Declaration) := []

namespace Declaration

def ofKind (kind : Kind) (name : Value) : Declaration := { name, kind }

def typeAlias (name definition : Value) : Except Fault Declaration := do
  return { name, kind := .typeAlias, definition := ← definition.optionalText }

def withDecorator (d : Declaration) (v : Value) : Declaration :=
  { d with decorators := d.decorators ++ [v] }

def withDoc (d : Declaration) (v : Value) : Declaration := { d with doc := v }

def addTypeParameter (d : Declaration) (name constraint : Value) : Except Fault Declaration := do
  return { d with typeParameters := d.typeParameters ++ [← typeParameter name constraint] }

def addBase (d : Declaration) (v : Value) : Except Fault Declaration := do
  return { d with bases := d.bases ++ [← v.toText] }

def addInterfaces (d : Declaration) (vs : List Value) : Except Fault Declaration := do
  return { d with interfaces := d.interfaces ++ (← Value.toTexts vs) }

def addField (d : Declaration) (f : Supplied Field) : Declaration :=
  { d with fields := d.fields ++ [f] }

def addProperty (d : Declaration) (p : Supplied Property) : Declaration :=
  { d with properties := d.properties ++ [p] }

def addMethod (d : Declaration) (f : Supplied Method) : Declaration :=
  { d with methods := d.methods ++ [f] }

def addConstructor (d : Declaration) (c : Supplied Constructor) : Declaration :=
  { d with constructors := d.constructors ++ [c] }

def addIndexSignature (d : Declaration) (keyName keyType valueType : Value) :
    Except Fault Declaration := do
  let name ← keyName.toText
  let key ← keyType.toText
  let value ← valueType.toText
  return { d with
    indexSignatures := d.indexSignatures ++ ["[" ++ name ++ ": " ++ key ++ "]: " ++ value] }

def addNested (d : Declaration) (n : Supplied Declaration) : Declaration :=
  { d with nested := d.nested ++ [n] }

def addEnumMember (d : Declaration) (name value : Value) : Except Fault Declaration := do
  return { d with enumMembers := d.enumMembers ++ [(name, ← value.optionalText)] }

def addImport (d : Declaration) (v : Value) : Declaration := { d with imports := d.imports ++ [v] }

end Declaration

/-- The fields of a declaration under inspection, given its nested declarations. -/
def Surface.describeWith (d : Surface) (nested : List Value) : Value :=
  .record "TypeBuilder"
    [("name", d.name), ("kind", d.kind.describe), ("is_exported", .bool d.isExported),
      ("is_default_export", .bool d.isDefaultExport), ("is_abstract", .bool d.isAbstract),
      ("is_declare", .bool d.isDeclare), ("decorators", .tuple d.decorators), ("js_doc", d.doc),
      ("type_parameters", .texts d.typeParameters), ("extends_clause", .texts d.bases),
      ("implements_clause", .texts d.interfaces), ("index_signatures", .texts d.indexSignatures),
      ("fields", .tuple (d.fields.map fun f => f.toValue Field.describe)),
      ("constructors", .tuple (d.constructors.map fun c => c.toValue Constructor.describe)),
      ("properties", .tuple (d.properties.map fun p => p.toValue Property.describe)),
      ("methods", .tuple (d.methods.map fun f => f.toValue Method.describe)),
      ("nested_types", .tuple nested),
      ("enum_members",
        .tuple (d.enumMembers.map fun (name, value) => .tuple [name, .ofOption value])),
      ("imports", .tuple d.imports), ("type_alias_definition", .ofOption d.definition)]
    [] Option.none

mutual

def Declaration.describe : Declaration → Value
  | ⟨surface, nested⟩ => surface.describeWith (describeNested nested)

def describeNested : List (Supplied Declaration) → List Value
  | [] => []
  | .good d :: rest => d.describe :: describeNested rest
  | .stray v :: rest => v :: describeNested rest

end

end TypeScriptGen
