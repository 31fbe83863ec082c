import NativeLinkage.Text

set_option autoImplicit false

namespace NativeLinkage

inductive BaseType
  | boolean
  | byte
  | char
  | short
  | int
  | long
  | float
  | double
  deriving DecidableEq, Repr

namespace BaseType

def code : BaseType → Char
  | boolean => 'Z'
  | byte => 'B'
  | char => 'C'
  | short => 'S'
  | int => 'I'
  | long => 'J'
  | float => 'F'
  | double => 'D'

def name : BaseType → Text
  | boolean => "boolean".toList
  | byte => "byte".toList
  | char => "char".toList
  | short => "short".toList
  | int => "int".toList
  | long => "long".toList
  | float => "float".toList
  | double => "double".toList

def ofCode? : Char → Option BaseType
  | 'Z' => some boolean
  | 'B' => some byte
  | 'C' => some char
  | 'S' => some short
  | 'I' => some int
  | 'J' => some long
  | 'F' => some float
  | 'D' => some double
  | _ => none

theorem ofCode?_code (b : BaseType) : ofCode? b.code = some b := by
  cases b <;> rfl

theorem code_of_ofCode? {c : Char} {b : BaseType} (h : ofCode? c = some b) : b.code = c := by
  unfold ofCode? at h
  split at h <;> cases h <;> rfl

end BaseType

/-- The binary name of a class. Only the character that ends a name in a descriptor is excluded. -/
structure ClassName where
  text : Text
  ne_nil : text ≠ []
  no_semicolon : ';' ∉ text
  deriving DecidableEq, Repr

def ClassName.ofText? (t : Text) : Option ClassName :=
  if h : t ≠ [] ∧ ';' ∉ t then some ⟨t, h.1, h.2⟩ else none

theorem ClassName.ofText?_text (name : ClassName) : ofText? name.text = some name := by
  simp [ofText?, name.ne_nil, name.no_semicolon]

theorem ClassName.ofText?_eq_some {t : Text} {name : ClassName} :
    ofText? t = some name ↔ t = name.text := by
  constructor
  · intro h
    unfold ofText? at h
    split at h
    · cases h
      rfl
    · contradiction
  · rintro rfl
    exact name.ofText?_text

inductive FieldType
  | base (type : BaseType)
  | object (name : ClassName)
  | array (component : FieldType)
  deriving DecidableEq, Repr

namespace FieldType

def descriptor : FieldType → Text
  | base type => [type.code]
  | object name => 'L' :: name.text ++ [';']
  | array component => '[' :: component.descriptor

theorem descriptor_ne_nil (t : FieldType) : t.descriptor ≠ [] := by
  cases t <;> simp [descriptor]

def dimensions : FieldType → Nat
  | array component => component.dimensions + 1
  | _ => 0

def component? : FieldType → Option FieldType
  | array component => some component
  | _ => none

/-- The types met when at most `depth` array levels are taken off, outermost first. -/
def peel : Nat → FieldType → List FieldType
  | 0, _ => []
  | depth + 1, t =>
    match t.component? with
    | some component => component :: peel depth component
    | none => []

def leaf? : Text → Option FieldType
  | [] => none
  | [code] => (BaseType.ofCode? code).map base
  | first :: rest =>
    if first = 'L' ∧ rest.getLast? = some ';' then (ClassName.ofText? rest.dropLast).map object
    else none

def ofDescriptor? : Text → Option FieldType
  | '[' :: rest => (ofDescriptor? rest).map array
  | leaf => leaf? leaf

theorem ofDescriptor?_bracket (t : Text) : ofDescriptor? ('[' :: t) = (ofDescriptor? t).map array :=
  rfl

theorem leaf?_object (name : ClassName) :
    leaf? (object name).descriptor = some (object name) := by
  have hne := name.ne_nil
  cases ht : name.text ++ [';'] with
  | nil => simp at ht
  | cons c rest =>
    have hlast : (c :: rest).getLast? = some ';' := by rw [← ht]; simp
    have hdrop : (c :: rest).dropLast = name.text := by rw [← ht]; simp
    simp only [descriptor, List.cons_append, ht]
    simp [leaf?, hlast, hdrop, name.ofText?_text]

theorem ofDescriptor?_descriptor (t : FieldType) : ofDescriptor? t.descriptor = some t := by
  induction t with
  | base b => cases b <;> rfl
  | object name => exact leaf?_object name
  | array component ih => simp [descriptor, ofDescriptor?_bracket, ih]

end FieldType

/-- A method without a result is void. -/
structure MethodType where
  params : List FieldType
  result : Option FieldType
  deriving DecidableEq, Repr

namespace MethodType

def paramsDescriptor (m : MethodType) : Text := m.params.flatMap FieldType.descriptor

def resultDescriptor : Option FieldType → Text
  | none => ['V']
  | some t => t.descriptor

def descriptor (m : MethodType) : Text :=
  '(' :: m.paramsDescriptor ++ ')' :: resultDescriptor m.result

end MethodType

def BaseType.nativeType (b : BaseType) : Text := 'j' :: b.name

def FieldType.isString : FieldType → Bool
  | object name => name.text = "java/lang/String".toList
  | _ => false

def FieldType.nativeType : FieldType → Text
  | base b => b.nativeType
  | object name => if (object name).isString then "jstring".toList else "jobject".toList
  | array _ => "jarray".toList

namespace NativeType

def environment : Text := "JNIEnv*".toList

def classHandle : Text := "jclass".toList

def void : Text := "void".toList

end NativeType

end NativeLinkage
