import TypeScriptGen.TypeExpr

/-!
Expressions and types that generated code uses often: the console, promises, requests, the static
functions of objects, and the built-in utility types.
-/

set_option autoImplicit false
set_option relaxedAutoImplicit false

namespace TypeScriptGen

namespace Expression

def console (method : String) (arguments : List Value) : Except Fault Expression :=
  call ⟨"console"⟩ method arguments

def promise (method : String) (arguments : List Value) : Except Fault Expression :=
  call ⟨"Promise"⟩ method arguments

def arrayLiteral (items : List Value) : Except Fault String := do
  return "[" ++ (← Value.commaText items) ++ "]"

/-- A call of a promise combinator over an array of promises. -/
def promiseOver (method : String) (promises : List Value) : Except Fault Expression := do
  promise method [.text (← arrayLiteral promises)]

def promiseNew (executor : Value) : Except Fault Expression := TypeExpr.new ⟨"Promise"⟩ [executor]

def requestSettings (method : String) (body : Value) : Except Fault String := do
  return "\x7b method: '" ++ method ++ "', body: JSON.stringify(" ++ (← body.toText) ++
    "), headers: \x7b 'Content-Type': 'application/json' \x7d \x7d"

def fetchGet (url : Value) : Except Fault Expression := invoke ⟨"fetch"⟩ [url]

def fetchSend (method : String) (url body : Value) : Except Fault Expression := do
  invoke ⟨"fetch"⟩ [url, .text (← requestSettings method body)]

def fetchDelete (url : Value) : Except Fault Expression :=
  invoke ⟨"fetch"⟩ [url, "\x7b method: 'DELETE' \x7d"]

def response (method : String) (v : Value) : Except Fault Expression := do
  (← ofValue v).call method []

def object (method : String) (arguments : List Value) : Except Fault Expression :=
  call ⟨"Object"⟩ method arguments

def objectSpread (source : Value) : Except Fault Expression := do
  return ⟨"\x7b ..." ++ (← source.toText) ++ " \x7d"⟩

def nameOfWords : List String → String
  | [] => ""
  | first :: rest => first ++ String.join (rest.map String.capitalize)

/-- The function of the library that some words name, such as `console`, `time`, `end`, applied to
its operands. -/
def ofLibrary (words : List String) (operands : List Value) : Except Fault Expression :=
  let first := operands.headD .none
  match words with
  | "console" :: rest => console (nameOfWords rest) operands
  | ["promise", "new"] => promiseNew first
  | ["promise", "resolve"] => promise "resolve" operands
  | ["promise", "reject"] => promise "reject" operands
  | "promise" :: rest => promiseOver (nameOfWords rest) operands
  | ["fetch", "get"] => fetchGet first
  | ["fetch", "delete"] => fetchDelete first
  | ["fetch", method] => fetchSend method.toUpper first (operands.getD 1 .none)
  | "response" :: rest => response (nameOfWords rest) first
  | ["object", "spread"] => objectSpread first
  | _ :: rest => object (nameOfWords rest) operands
  | [] => ofValue first

end Expression

namespace TypeExpr

def utility (name : String) (arguments : List Value) : Except Fault TypeExpr :=
  apply ⟨name⟩ arguments

/-- The utility type that some words name, such as `non`, `nullable`, applied to its arguments. -/
def ofLibrary (words : List String) (arguments : List Value) : Except Fault TypeExpr :=
  match words with
  | ["readonly", "of"] => utility "Readonly" arguments
  | words => utility (String.join (words.map String.capitalize)) arguments

end TypeExpr

end TypeScriptGen
