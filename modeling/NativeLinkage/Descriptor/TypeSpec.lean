import NativeLinkage.Descriptor.FieldType

set_option autoImplicit false

namespace NativeLinkage

inductive TypeSpec
  | base (code : Text)
  | object (name : Text)
  | array (element : Text)
  deriving DecidableEq, Repr

namespace TypeSpec

def type? : TypeSpec → Option FieldType
  | base [code] => (BaseType.ofCode? code).map .base
  | base _ => none
  | object name => (ClassName.ofText? name).map .object
  | array element => (FieldType.ofDescriptor? element).map .array

def complaint : TypeSpec → Text
  | base code => "Not a primitive descriptor code: ".toList ++ Text.quoted code
  | object name => "Not a binary class name: ".toList ++ Text.quoted name
  | array element => "Not a field descriptor: ".toList ++ Text.quoted element

/-- The rejected description itself is the error. -/
def check (spec : TypeSpec) : Except TypeSpec FieldType :=
  match spec.type? with
  | some t => .ok t
  | none => .error spec

def ofType : FieldType → TypeSpec
  | .base b => base [b.code]
  | .object name => object name.text
  | .array component => array component.descriptor

theorem check_ofType (t : FieldType) : (ofType t).check = .ok t := by
  cases t with
  | base b => simp [ofType, check, type?, BaseType.ofCode?_code]
  | object name => simp [ofType, check, type?, name.ofText?_text]
  | array component => simp [ofType, check, type?, component.ofDescriptor?_descriptor]

end TypeSpec

def shownAs (constructor : Text) (arguments : List (Text × Text)) : Text :=
  constructor ++ '(' ::
    List.intercalate ", ".toList (arguments.map fun (label, value) => label ++ '=' :: value) ++ [')']

/-- A single item is followed by a comma, so that it differs from an item in parentheses. -/
def shownTuple : List Text → Text
  | [item] => '(' :: item ++ ",)".toList
  | items => '(' :: List.intercalate ", ".toList items ++ [')']

def FieldType.shown : FieldType → Text
  | base b => shownAs "PrimitiveType".toList [("code".toList, Text.quoted [b.code])]
  | object name => shownAs "ClassType".toList [("name".toList, Text.quoted name.text)]
  | array component =>
    shownAs "ArrayType".toList [("element_descriptor".toList, Text.quoted component.descriptor)]

def MethodType.shown (m : MethodType) : Text :=
  shownAs "MethodSignature".toList
    [("args".toList, shownTuple (m.params.map FieldType.shown)),
      ("ret".toList, (m.result.map FieldType.shown).getD "None".toList)]

example : MethodType.shown ⟨[.base .int], none⟩ =
    "MethodSignature(args=(PrimitiveType(code='I'),), ret=None)".toList := by decide

end NativeLinkage
