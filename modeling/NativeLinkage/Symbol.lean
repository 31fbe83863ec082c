import NativeLinkage.Unicode.Encoding

set_option autoImplicit false

namespace NativeLinkage.Symbol
open Unicode (CodePoint)

def escapeUnit (unit : Nat) : Text := '_' :: '0' :: Text.hex 4 unit

/-- An underscore stands for the `/` of a binary name, and `_1`, `_2`, `_3` for the characters
    that descriptors and names use most; a digit after the underscore tells them apart. -/
def mangleChar (c : Char) : Text :=
  if c.isAlphanum then [c]
  else match c with
    | '/' => ['_']
    | '_' => ['_', '1']
    | ';' => ['_', '2']
    | '[' => ['_', '3']
    | c => (Unicode.units c.toNat).flatMap escapeUnit

def mangle (t : Text) : Text := t.flatMap mangleChar

@[simp] theorem mangle_cons (c : Char) (t : Text) : mangle (c :: t) = mangleChar c ++ mangle t :=
  rfl

@[simp] theorem mangle_append (s t : Text) : mangle (s ++ t) = mangle s ++ mangle t := by
  simp [mangle]

def mangleCodePoint : CodePoint → Text
  | .scalar c => mangleChar c
  | .surrogate offset => escapeUnit (CodePoint.surrogate offset).toNat

def mangleCodePoints (points : List CodePoint) : Text := points.flatMap mangleCodePoint

theorem mangleCodePoints_scalar (t : Text) :
    mangleCodePoints (t.map CodePoint.scalar) = mangle t := by
  induction t with
  | nil => rfl
  | cons c t ih => simpa [mangleCodePoints, mangleCodePoint] using ih

/-- The suffix that tells overloads apart; an empty parameter list still has one. -/
def parameterSuffix : Option Text → Text
  | none => []
  | some params => '_' :: '_' :: mangle params

/-- The symbol under which the virtual machine looks up a native method. The class name is in
    its binary form, and the parameters are their descriptors one after the other. -/
def ofMethod (className methodName : Text) (params : Option Text) : Text :=
  "Java_".toList ++ mangle className ++ '_' :: mangle methodName ++ parameterSuffix params

example : ofMethod "a/B_c".toList "m".toList (some "[I".toList) = "Java_a_B_1c_m___3I".toList := by
  decide

end NativeLinkage.Symbol
