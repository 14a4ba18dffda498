import TypeScriptGen.Fault
import TypeScriptGen.Host.Path
import TypeScriptGen.Text.Utf8

/-!
Files and directories below the working directory.
-/

set_option autoImplicit false
set_option relaxedAutoImplicit false

namespace TypeScriptGen

/-- The content of a file: a text, or octets that need not be one. -/
inductive FileContent where
  | text (s : String)
  | octets (bytes : List UInt8)
deriving DecidableEq, Repr

/-- Files and directories by where they are; the working directory itself is the empty place. -/
structure Files where
  contents : List (List String × FileContent) := []
  directories : List (List String) := []
deriving Repr

namespace FileContent

def encode (s : String) : List UInt8 := s.toUTF8.toList

def append (c : FileContent) (s : String) : FileContent :=
  match c with
  | .text t => .text (t ++ s)
  | .octets bytes => .octets (bytes ++ encode s)

def shown : FileContent → String
  | .text s => s
  | .octets bytes => Text.Utf8.repair bytes

end FileContent

namespace Files

def content? (f : Files) (place : List String) : Option FileContent :=
  (f.contents.find? (·.1 == place)).map Prod.snd

def hasDirectory (f : Files) (place : List String) : Bool :=
  place.isEmpty || place == ["/"] || f.directories.contains place

/-- Where components lead from a place. What a component is looked up in has to be a directory, and
a name has at most 255 octets. -/
def follow (f : Files) (path : String) :
    List String → List String → Except SystemError (List String)
  | place, [] => .ok place
  | place, part :: rest =>
    if !f.hasDirectory place then
      .error (if (f.content? place).isSome then .notDirectory path else .noSuchFile path)
    else if 255 < part.utf8ByteSize then .error (.longName path)
    else follow f path (Path.walk place part) rest

def locate (f : Files) (path : String) : Except SystemError (List String) :=
  f.follow path (Path.start path) (Path.components path)

/-- Is there anything at the end of a path? There is no answer for a name that is too long. -/
def lookUp (f : Files) (path : String) : Except SystemError Bool :=
  match f.locate path with
  | .ok place => .ok (f.hasDirectory place || (f.content? place).isSome)
  | .error e => if e == .longName path then .error e else .ok false

def exists? (f : Files) (path : String) : Bool := (f.lookUp path).toOption.getD false

def put (f : Files) (place : List String) (c : FileContent) : Files :=
  { f with contents :=
      if (f.content? place).isSome then
        f.contents.map fun entry => if entry.1 == place then (place, c) else entry
      else f.contents ++ [(place, c)] }

def ancestors (place : List String) : List (List String) :=
  (List.range place.length).map fun n => place.take n

def makeDirectory (f : Files) (path : String) : Files :=
  let place := Path.place path
  let wanted := (ancestors place ++ [place]).filter (!f.hasDirectory ·)
  { f with directories := f.directories ++ wanted }

/-- Put content at the end of a path, making the directories that lead to it. -/
def store (f : Files) (path : String) (c : FileContent) : Files :=
  let place := Path.place path
  let wanted := (ancestors place).filter (!f.hasDirectory ·)
  Files.put { f with directories := f.directories ++ wanted } place c

/-- The place of the file at the end of a path, if it can be opened for writing. -/
def openForWriting (f : Files) (path : String) : Except Fault (List String) :=
  if path.toList.contains '\x00' then .error (.misvalued .nullInPath)
  else match f.locate path with
    | .error e => .error (.system e)
    | .ok place => if f.hasDirectory place then .error (.system (.isDirectory path)) else .ok place

def openForReading (f : Files) (path : String) : Except SystemError FileContent := do
  let place ← f.locate path
  if f.hasDirectory place then throw (.isDirectory path)
  match f.content? place with
  | some c => return c
  | none => throw (.noSuchFile path)

/-- The texts of the files that lie in the directory at the end of a path, by name. -/
def textsIn (f : Files) (path : String) : Except SystemError (List (String × String)) :=
  let place := Path.place path
  if f.hasDirectory place then
    .ok (f.contents.filterMap fun (location, c) =>
      match location.getLast? with
      | some name => if location == place ++ [name] then some (name, c.shown) else none
      | none => none)
  else .error (.noSuchFile path)

end Files

end TypeScriptGen
