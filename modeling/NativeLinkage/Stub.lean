import NativeLinkage.Request
import NativeLinkage.Symbol
import NativeLinkage.Unicode.Uppercase

set_option autoImplicit false

namespace NativeLinkage

structure Param where
  type : Text
  name : Text
  deriving DecidableEq, Repr

def Param.declaration (p : Param) : Text := p.type ++ ' ' :: p.name

/-- A stub without a return type is void. -/
structure Stub where
  qualifiedName : Text
  symbol : Text
  params : List Param
  returnType : Option Text
  target : Text
  descriptor : Text
  deriving DecidableEq, Repr

namespace Stub

def listed (items : List Text) : Text := List.intercalate ", ".toList items

/-- An empty return type is written as void too. -/
def nativeReturn (s : Stub) : Text :=
  match s.returnType with
  | none | some [] => NativeType.void
  | some type => type

def paramList (s : Stub) : Text := listed (s.params.map Param.declaration)

def callArgs (s : Stub) : Text := listed (s.params.map Param.name)

def handles : List Param :=
  [⟨NativeType.environment, "env".toList⟩, ⟨NativeType.classHandle, "cls".toList⟩]

def numberedName (i : Nat) : Text := "arg".toList ++ Text.decimal i

def numbered (types : List FieldType) : List Param :=
  types.zipIdx.map fun (type, i) => ⟨type.nativeType, numberedName i⟩

@[simp] theorem length_numbered (types : List FieldType) :
    (numbered types).length = types.length := by
  simp [numbered]

def ofMethodType (qualifiedName : Text) (type : MethodType) (symbol target : Text) : Stub where
  qualifiedName := qualifiedName
  symbol := symbol
  params := handles ++ numbered type.params
  returnType := type.result.map FieldType.nativeType
  target := target
  descriptor := type.descriptor

end Stub

namespace Request

/-- The long form of the symbol, which tells overloads apart. -/
def symbol (r : Request) (type : MethodType) : Text :=
  Symbol.ofMethod r.className r.methodName (some type.paramsDescriptor)

def stubOfType (r : Request) (type : MethodType) : Stub :=
  Stub.ofMethodType r.qualifiedName type (r.symbol type) r.target

def stub (r : Request) : Except Descriptor.Fault Stub :=
  (MethodType.read r.descriptor).map r.stubOfType

theorem stub_eq_ok_iff {r : Request} {stub : Stub} :
    r.stub = .ok stub ↔
      ∃ type, MethodType.read r.descriptor = .ok type ∧ r.stubOfType type = stub := by
  unfold Request.stub
  cases MethodType.read r.descriptor with
  | error fault => simp [Except.map]
  | ok type => simp [Except.map]

theorem stub_eq_error_iff {r : Request} {fault : Descriptor.Fault} :
    r.stub = .error fault ↔ MethodType.read r.descriptor = .error fault := by
  unfold Request.stub
  cases MethodType.read r.descriptor with
  | error found => simp [Except.map]
  | ok type => simp [Except.map]

theorem qualifiedName_of_stub {r : Request} {stub : Stub} (h : r.stub = .ok stub) :
    stub.qualifiedName = r.qualifiedName := by
  obtain ⟨type, -, rfl⟩ := stub_eq_ok_iff.1 h
  rfl

end Request

/-- Lines are separated, not ended, by line feeds. -/
def Text.ofLines (lines : List Text) : Text := List.intercalate ['\n'] lines

def generatedNotice : Text := "// AUTO-GENERATED - DO NOT EDIT".toList

/-- The exported function without a body; the declaration and the definition share it. -/
def Stub.prototype (s : Stub) : Text :=
  "JNIEXPORT ".toList ++ s.nativeReturn ++ " JNICALL ".toList ++ s.symbol ++ '(' ::
    s.paramList ++ [')']

namespace Header

def guard (baseName : Text) : Text := Unicode.uppercase baseName ++ "_EXPORTS_H".toList

def opening (baseName : Text) : List Text :=
  [generatedNotice,
    "#ifndef ".toList ++ guard baseName,
    "#define ".toList ++ guard baseName,
    [],
    "#include <jni.h>".toList,
    [],
    "#ifdef __cplusplus".toList,
    "extern \"C\" \x7b".toList,
    "#endif".toList,
    []]

def closing (baseName : Text) : List Text :=
  [[],
    "#ifdef __cplusplus".toList,
    "\x7d".toList,
    "#endif".toList,
    [],
    "#endif // ".toList ++ guard baseName]

def comment (s : Stub) : Text :=
  "/* ".toList ++ s.qualifiedName ++ ' ' :: s.descriptor ++ " */".toList

def declaration (s : Stub) : List Text := [comment s, s.prototype ++ [';']]

def lines (baseName : Text) (stubs : List Stub) : List Text :=
  opening baseName ++ stubs.flatMap declaration ++ closing baseName

def render (baseName : Text) (stubs : List Stub) : Text := Text.ofLines (lines baseName stubs)

end Header

namespace Source

def distinct : List Text → List Text
  | [] => []
  | t :: ts => t :: (distinct ts).filter (· ≠ t)

theorem mem_distinct {t : Text} {ts : List Text} : t ∈ distinct ts ↔ t ∈ ts := by
  induction ts with
  | nil => simp [distinct]
  | cons u ts ih =>
    by_cases h : t = u
    · simp [distinct, h]
    · simp [distinct, h, ih]

theorem nodup_distinct (ts : List Text) : (distinct ts).Nodup := by
  induction ts with
  | nil => simp [distinct]
  | cons u ts ih =>
    rw [distinct, List.nodup_cons]
    exact ⟨by simp, ih.filter _⟩

def targetDeclaration (s : Stub) : Text :=
  "extern ".toList ++ s.nativeReturn ++ ' ' :: s.target ++ '(' :: s.paramList ++ ");".toList

def targetDeclarations (stubs : List Stub) : List Text := distinct (stubs.map targetDeclaration)

def declarationBlock (stubs : List Stub) : List Text :=
  match targetDeclarations stubs with
  | [] => []
  | declarations => declarations ++ [[]]

def call (s : Stub) : Text :=
  let call := s.target ++ '(' :: s.callArgs ++ ");".toList
  match s.returnType with
  | none => call
  | some _ => "return ".toList ++ call

def definition (s : Stub) : List Text :=
  [s.prototype ++ " \x7b".toList, "    ".toList ++ call s, "\x7d".toList, []]

def opening (header : Text) : List Text :=
  [generatedNotice, "#include \"".toList ++ header ++ ['"'], []]

def lines (header : Text) (stubs : List Stub) : List Text :=
  opening header ++ declarationBlock stubs ++ stubs.flatMap definition

def render (header : Text) (stubs : List Stub) : Text := Text.ofLines (lines header stubs)

end Source

end NativeLinkage
