import NativeLinkage.Proofs.Descriptor.Components

set_option autoImplicit false

namespace NativeLinkage
open Descriptor

namespace FieldType

def brackets (t : Text) : Nat := t.length - (t.dropWhile (· = '[')).length

theorem brackets_bracket (t : Text) : brackets ('[' :: t) = brackets t + 1 := by
  have hlength := (List.dropWhile_sublist (· = '[') (l := t)).length_le
  rw [brackets, List.dropWhile_cons_of_pos (by decide), List.length_cons, brackets]
  omega

theorem brackets_of_ne {c : Char} (h : c ≠ '[') (t : Text) : brackets (c :: t) = 0 := by
  rw [brackets, List.dropWhile_cons_of_neg (by simpa using h), Nat.sub_self]

/-- The levels of a type are the brackets of its descriptor; those in a class name come later. -/
theorem dimensions_eq_brackets (t : FieldType) : t.dimensions = brackets t.descriptor := by
  induction t with
  | base b =>
    have hb : b.code ≠ '[' := by cases b <;> decide
    exact (brackets_of_ne hb []).symm
  | object name => exact (brackets_of_ne (by decide) _).symm
  | array component ih => rw [dimensions, ih, descriptor, brackets_bracket]

theorem exists_component {t : FieldType} (h : 0 < t.dimensions) :
    ∃ component, t = array component := by
  cases t with
  | array component => exact ⟨component, rfl⟩
  | base b => contradiction
  | object name => contradiction

theorem leaf_of_dimensions {t : FieldType} (h : t.dimensions = 0) :
    (∃ b, t = base b) ∨ ∃ name, t = object name := by
  cases t with
  | base b => exact .inl ⟨b, rfl⟩
  | object name => exact .inr ⟨name, rfl⟩
  | array component => contradiction

/-- What the text within the outermost level is read as, with every type checked as it is built. -/
def reread (t : FieldType) : Building FieldType := buildField (t.descriptor.drop 1)

theorem reread_array (component : FieldType) :
    (array component).reread = .ok (.ok component []) := by
  change buildField component.descriptor = _
  rw [buildField_eq, readField_descriptor]

/-- What is left when levels come off, each by another reading. -/
def takeOff : Nat → FieldType → Building FieldType
  | 0, t => .ok (.ok t [])
  | levels + 1, t => andThen t.reread fun component _ => takeOff levels component

theorem takeOff_array (levels : Nat) (component : FieldType) :
    takeOff (levels + 1) (array component) = takeOff levels component := by
  rw [takeOff, reread_array]
  rfl

/-- Up to the last level the reading succeeds, and gives what the type itself has there. -/
theorem exists_takeOff {levels : Nat} {t : FieldType} (h : levels ≤ t.dimensions) :
    ∃ f, takeOff levels t = .ok (.ok f []) ∧ (t :: t.peel t.dimensions)[levels]? = some f ∧
      f.descriptor = t.descriptor.drop levels ∧ f.dimensions = t.dimensions - levels := by
  induction levels generalizing t with
  | zero => exact ⟨t, rfl, rfl, rfl, rfl⟩
  | succ levels ih =>
    obtain ⟨component, rfl⟩ := exists_component (Nat.lt_of_lt_of_le levels.succ_pos h)
    obtain ⟨f, htake, hpeel, hdescriptor, hdimensions⟩ := ih (Nat.le_of_succ_le_succ h)
    refine ⟨f, (takeOff_array levels component).trans htake, hpeel, hdescriptor, ?_⟩
    rw [hdimensions, dimensions, Nat.succ_sub_succ]

end FieldType

/-- An array has one level more than its component has brackets in front. So many levels come off by
    reading, and after each the descriptor is shorter by its first bracket; what is left is an array
    up to the last level, and behind it a base type or a class. -/
theorem array_peels_to_leaf {s : Text} {t : FieldType} (h : (TypeSpec.array s).check = .ok t) :
    t.descriptor = '[' :: s ∧
    t.dimensions = 1 + s.length - (s.dropWhile (· = '[')).length ∧
    ∀ i ≤ t.dimensions, ∃ f, t.takeOff i = .ok (.ok f []) ∧
      (t :: t.peel t.dimensions)[i]? = some f ∧ f.descriptor = t.descriptor.drop i ∧
      (i < t.dimensions → (∃ component, f = .array component) ∧
        f.dimensions = t.dimensions - i ∧ f.dimensions = FieldType.brackets f.descriptor) ∧
      (i = t.dimensions → (∃ b, f = .base b) ∨ ∃ name, f = .object name) := by
  obtain ⟨component, rfl, rfl⟩ := TypeSpec.check_array_eq_ok_iff.1 h
  refine ⟨rfl, ?_, fun i hi => ?_⟩
  · have hlength := (List.dropWhile_sublist (· = '[') (l := component.descriptor)).length_le
    rw [FieldType.dimensions, FieldType.dimensions_eq_brackets, FieldType.brackets]
    omega
  · obtain ⟨f, htake, hpeel, hdescriptor, hdimensions⟩ := FieldType.exists_takeOff hi
    refine ⟨f, htake, hpeel, hdescriptor, fun hlt => ⟨?_, hdimensions, ?_⟩, fun hend => ?_⟩
    · exact FieldType.exists_component (by omega)
    · exact f.dimensions_eq_brackets
    · exact FieldType.leaf_of_dimensions (by omega)

/-- Two levels come off an array of a class whose name begins with a bracket. -/
theorem bracketed_class_name_is_left :
    let name : ClassName := ⟨"[x".toList, by decide, by decide⟩
    let t : FieldType := .array (.array (.object name))
    (TypeSpec.array "[L[x;".toList).check = .ok t ∧ t.dimensions = 2 ∧
      ∃ f, t.takeOff 2 = .ok (.ok f []) ∧ f.descriptor = "L[x;".toList ∧
        ((∃ b, f = .base b) ∨ ∃ name, f = .object name) := by
  intro name t
  have hcheck : (TypeSpec.array "[L[x;".toList).check = .ok t :=
    TypeSpec.check_array_eq_ok_iff.2 ⟨.array (.object name), by decide, rfl⟩
  obtain ⟨-, -, hlevels⟩ := array_peels_to_leaf hcheck
  obtain ⟨f, htake, -, hdescriptor, -, hleaf⟩ := hlevels 2 (by decide)
  exact ⟨hcheck, rfl, f, htake, hdescriptor, hleaf rfl⟩

end NativeLinkage
