import NativeLinkage.Text

set_option autoImplicit false

namespace NativeLinkage

namespace Command

structure PathName where
  anchor : Text
  parts : List Text
  deriving DecidableEq, Repr

namespace PathName

def anchorOf : Text → Text
  | '/' :: '/' :: '/' :: _ => ['/']
  | '/' :: '/' :: _ => ['/', '/']
  | '/' :: _ => ['/']
  | _ => []

def isPart (part : Text) : Bool := part != [] && part != ['.']

def ofText (t : Text) : PathName := ⟨anchorOf t, (Text.splitAll '/' t).filter isPart⟩

def text (p : PathName) : Text :=
  if p.anchor = [] ∧ p.parts = [] then ['.']
  else p.anchor ++ List.intercalate ['/'] p.parts

def child (p : PathName) (name : Text) : PathName := { p with parts := p.parts ++ [name] }

def name (p : PathName) : Text := p.parts.getLast?.getD []

/-- The last part without its last extension. A dot at either end of a name begins no extension. -/
def stem (p : PathName) : Text :=
  match Text.splitLast? '.' p.name with
  | some (c :: before, _ :: _) => c :: before
  | _ => p.name

example : (ofText "./a//b/".toList).text = "a/b".toList := by decide
example : (ofText "x/a..jni".toList).stem = "a.".toList := by decide
example : (ofText ".jni".toList).stem = ".jni".toList := by decide

end PathName

/-- A place in the tree: so many levels above the working directory, or the root of everything,
    and the names that lead down from there. -/
structure Location where
  rooted : Bool
  above : Nat
  names : List Text
  deriving DecidableEq, Repr

namespace Location

def working : Location := ⟨false, 0, []⟩

def root : Location := ⟨true, 0, []⟩

def parent (l : Location) : Location :=
  if l.names ≠ [] then { l with names := l.names.dropLast }
  else if l.rooted then l
  else { l with above := l.above + 1 }

def step (l : Location) (part : Text) : Location :=
  if part = "..".toList then l.parent else { l with names := l.names ++ [part] }

def start (p : PathName) : Location := if p.anchor = [] then working else root

end Location

inductive Node
  | directory
  | file (content : Octets)
  deriving DecidableEq, Repr

inductive FileError
  | notFound
  | alreadyExists
  | notDirectory
  | isDirectory
  deriving DecidableEq, Repr

structure FileFault where
  error : FileError
  path : PathName
  deriving DecidableEq, Repr

namespace FileError

def code : FileError → Nat
  | notFound => 2
  | alreadyExists => 17
  | notDirectory => 20
  | isDirectory => 21

def description : FileError → Text
  | notFound => "No such file or directory".toList
  | alreadyExists => "File exists".toList
  | notDirectory => "Not a directory".toList
  | isDirectory => "Is a directory".toList

end FileError

def FileFault.message (f : FileFault) : Text :=
  "[Errno ".toList ++ Text.decimal f.error.code ++ "] ".toList ++ f.error.description ++
    ": ".toList ++ Text.quoted f.path.text

/-- The nodes below the starting points, which are directories themselves. -/
structure FileTree where
  nodes : List (Location × Node)
  deriving DecidableEq, Repr

namespace FileTree

def empty : FileTree := ⟨[]⟩

def node? (t : FileTree) (l : Location) : Option Node :=
  if l.names = [] then some .directory else t.nodes.lookup l

def put (t : FileTree) (l : Location) (n : Node) : FileTree :=
  if t.nodes.any (·.1 = l) then
    ⟨t.nodes.map fun entry => if entry.1 = l then (l, n) else entry⟩
  else ⟨t.nodes ++ [(l, n)]⟩

def walk (t : FileTree) : Location → List Text → Except FileError Location
  | l, [] => .ok l
  | l, part :: parts =>
    match t.node? (l.step part) with
    | none => .error .notFound
    | some (.file _) => .error .notDirectory
    | some .directory => walk t (l.step part) parts

/-- The place that a path name stands for; only what leads to it has to exist. -/
def locate (t : FileTree) (p : PathName) : Except FileError Location := do
  let directory ← t.walk (.start p) p.parts.dropLast
  match p.parts.getLast? with
  | none => return directory
  | some part => return directory.step part

def isDirectory (t : FileTree) (p : PathName) : Bool :=
  match t.locate p with
  | .ok l => t.node? l = some .directory
  | .error _ => false

def read (t : FileTree) (p : PathName) : Except FileFault Octets :=
  match t.locate p with
  | .error e => .error ⟨e, p⟩
  | .ok l =>
    match t.node? l with
    | none => .error ⟨.notFound, p⟩
    | some .directory => .error ⟨.isDirectory, p⟩
    | some (.file content) => .ok content

def write (t : FileTree) (p : PathName) (content : Octets) : Except FileFault FileTree :=
  match t.locate p with
  | .error e => .error ⟨e, p⟩
  | .ok l =>
    match t.node? l with
    | some .directory => .error ⟨.isDirectory, p⟩
    | _ => .ok (t.put l (.file content))

def makeDirectory (t : FileTree) (p : PathName) : Except FileError FileTree := do
  let l ← t.locate p
  match t.node? l with
  | some _ => throw .alreadyExists
  | none => return t.put l .directory

def tolerate (t : FileTree) (p : PathName) (e : FileError) : Except FileFault FileTree :=
  if t.isDirectory p then .ok t else .error ⟨e, p⟩

/-- The directory whose parts are given last part first, with those that it needs. A fault ends a
    run, so it leaves no trace of directories made before it. -/
def ensureReversed (t : FileTree) (anchor : Text) : List Text → Except FileFault FileTree
  | [] => .ok t
  | part :: parts =>
    let p : PathName := ⟨anchor, (part :: parts).reverse⟩
    match t.makeDirectory p with
    | .ok t => .ok t
    | .error .notFound =>
      match t.ensureReversed anchor parts with
      | .error f => .error f
      | .ok t =>
        match t.makeDirectory p with
        | .ok t => .ok t
        | .error e => t.tolerate p e
    | .error e => t.tolerate p e

def ensureDirectory (t : FileTree) (p : PathName) : Except FileFault FileTree :=
  t.ensureReversed p.anchor p.parts.reverse

def files (t : FileTree) : List (PathName × Octets) :=
  t.nodes.filterMap fun (l, n) =>
    match l, n with
    | ⟨false, 0, names⟩, .file content => some (⟨[], names⟩, content)
    | _, _ => none

end FileTree

end Command

end NativeLinkage
