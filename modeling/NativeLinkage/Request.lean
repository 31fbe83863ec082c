import NativeLinkage.Descriptor.Reader
import NativeLinkage.Manifest.Scan

set_option autoImplicit false

namespace NativeLinkage

namespace Manifest

inductive Defect
  | stray (c : Char)
  | unexpected (got : Option Token)
  | expected (wanted : Token) (got : Option Token)
  | noFunctionName
  | valueNotLiteral (field : Text)
  deriving DecidableEq, Repr

namespace Defect

def shown : Option Token → Text
  | none => Text.inQuotes "end of file".toList
  | some t => Text.inQuotes t.spelling

def message : Defect → Text
  | stray c => "unexpected ".toList ++ Text.inQuotes [c]
  | unexpected got => "unexpected ".toList ++ shown got
  | expected wanted got =>
    "expected ".toList ++ Text.inQuotes wanted.spelling ++ ", got ".toList ++ shown got
  | noFunctionName => "expected function name after '->'".toList
  | valueNotLiteral field => "value of ".toList ++ Text.inQuotes field ++ " must be a string".toList

def field? : Defect → Option Text
  | noFunctionName => some "target".toList
  | valueNotLiteral field => some field
  | _ => none

end Defect

end Manifest

inductive Field
  | className
  | methodName
  | signature
  | target
  | path
  deriving DecidableEq, Repr

def Field.label : Field → Text
  | className => "class".toList
  | methodName => "name".toList
  | signature => "sig".toList
  | target => "target".toList
  | path => "path".toList

inductive Misuse
  | missing (field : Field)
  | notAPath (path : Text)
  | mixedForms
  | unknownField (name : Text)
  | wrongCount (given : Nat)
  | duplicateField (line : Nat) (name : Text)
  | alreadyExported (qualifiedName symbol first : Text)
  | malformedManifest (line : Nat) (defect : Manifest.Defect)
  deriving DecidableEq, Repr

structure Notice where
  detail : Text
  field : Option Text
  deriving DecidableEq, Repr

def Notice.message (n : Notice) : Text :=
  let advice := "incorrect usage; please consult documentation".toList
  if n.detail = [] then advice else advice ++ ": ".toList ++ n.detail

namespace Misuse

def atLine (line : Nat) (text : Text) : Text :=
  "line ".toList ++ Text.decimal line ++ ": ".toList ++ text

def detail : Misuse → Text
  | missing field => "missing ".toList ++ Text.inQuotes field.label
  | notAPath path => Text.inQuotes path ++ " is not a <Class>.<method> path".toList
  | mixedForms => "named and positional arguments cannot be mixed".toList
  | unknownField name => "unknown field ".toList ++ Text.inQuotes name
  | wrongCount given =>
    "expected a path and a descriptor, got ".toList ++ Text.decimal given ++ " argument(s)".toList
  | duplicateField line name => atLine line ("duplicate field ".toList ++ Text.inQuotes name)
  | alreadyExported qualifiedName symbol first =>
    qualifiedName ++ " exports ".toList ++ symbol ++ ", already exported by ".toList ++ first
  | malformedManifest line defect => atLine line defect.message

def field? : Misuse → Option Text
  | missing field => some field.label
  | notAPath _ => some Field.path.label
  | mixedForms => none
  | unknownField name => some name
  | wrongCount _ => none
  | duplicateField _ name => some name
  | alreadyExported .. => some Field.methodName.label
  | malformedManifest _ defect => defect.field?

def notice (m : Misuse) : Notice := ⟨m.detail, m.field?⟩

def message (m : Misuse) : Text := m.notice.message

end Misuse

inductive Failure
  | misuse (misuse : Misuse)
  | malformed (fault : Descriptor.Fault)
  deriving DecidableEq, Repr

def Failure.message : Failure → Text
  | misuse m => m.message
  | malformed fault => fault.message

structure Request where
  className : Text
  methodName : Text
  descriptor : Text
  target : Text
  deriving DecidableEq, Repr

/-- The dotted name that people read; the class name itself is in binary form. -/
def Request.qualifiedName (r : Request) : Text :=
  Text.replace '/' '.' r.className ++ '.' :: r.methodName

namespace Request

def require (field : Field) : Option Text → Except Misuse Text
  | none => .error (.missing field)
  | some value => if Text.trim value = [] then .error (.missing field) else .ok (Text.trim value)

theorem require_eq_ok {field : Field} {value : Option Text} {t : Text} :
    require field value = .ok t ↔ value.map Text.trim = some t ∧ t ≠ [] := by
  cases value with
  | none => simp [require]
  | some v =>
    unfold require
    by_cases h : Text.trim v = []
    · simp only [h, if_true, Option.map_some, Option.some.injEq]
      constructor
      · intro hc
        contradiction
      · rintro ⟨rfl, hne⟩
        exact absurd rfl hne
    · simp only [h, if_false, Option.map_some, Option.some.injEq, Except.ok.injEq]
      constructor
      · rintro rfl
        exact ⟨rfl, h⟩
      · exact fun hc => hc.1

def ofFields (className methodName signature target : Option Text) : Except Misuse Request := do
  let className ← require .className className
  let methodName ← require .methodName methodName
  let signature ← require .signature signature
  let target ← require .target target
  return ⟨Text.replace '.' '/' className, methodName, signature, target⟩

def ofPath (path signature target : Option Text) : Except Misuse Request := do
  let path ← require .path path
  match Text.splitLast? '.' path with
  | some (c :: className, m :: methodName) =>
    ofFields (some (c :: className)) (some (m :: methodName)) signature target
  | _ => throw (.notAPath path)

def fieldNames : List Text := [Field.className.label, Field.methodName.label, Field.signature.label]

def least? : List Text → Option Text
  | [] => none
  | t :: ts => some (ts.foldl (fun a b => if b < a then b else a) t)

/-- Of several unknown names the least is reported, so that the order of the fields is free. -/
def unknownField? (named : List (Text × Text)) : Option Text :=
  least? ((named.map Prod.fst).filter fun name => !fieldNames.contains name)

/-- Field names occur once each in `named`. -/
def resolve (positional : List Text) (named : List (Text × Text)) (target : Option Text) :
    Except Misuse Request :=
  match positional, named with
  | _ :: _, _ :: _ => .error .mixedForms
  | [], _ :: _ =>
    match unknownField? named with
    | some name => .error (.unknownField name)
    | none =>
      ofFields (named.lookup Field.className.label) (named.lookup Field.methodName.label)
        (named.lookup Field.signature.label) target
  | [path, signature], [] => ofPath (some path) (some signature) target
  | positional, [] => .error (.wrongCount positional.length)

end Request

end NativeLinkage
