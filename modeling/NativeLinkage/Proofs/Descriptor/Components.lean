import NativeLinkage.Proofs.Descriptor.Construction

set_option autoImplicit false

namespace NativeLinkage
open Descriptor

namespace FieldType

theorem ofDescriptor?_of_ne {c : Char} (h : c ≠ '[') (t : Text) :
    ofDescriptor? (c :: t) = leaf? (c :: t) := by
  unfold ofDescriptor?
  split
  · next heq => exact absurd (List.cons.inj heq).1 h
  · rfl

theorem leaf?_eq_some {t : Text} {type : FieldType} (h : leaf? t = some type) :
    t = type.descriptor := by
  unfold leaf? at h
  split at h
  · contradiction
  · obtain ⟨b, hb, rfl⟩ := Option.map_eq_some_iff.1 h
    rw [descriptor, BaseType.code_of_ofCode? hb]
  · split at h
    · next first rest _ hends =>
      obtain ⟨rfl, hlast⟩ := hends
      obtain ⟨name, hname, rfl⟩ := Option.map_eq_some_iff.1 h
      obtain ⟨front, rfl⟩ := List.getLast?_eq_some_iff.1 hlast
      rw [List.dropLast_concat] at hname
      rw [descriptor, ← ClassName.ofText?_eq_some.1 hname, List.cons_append]
    · contradiction

theorem ofDescriptor?_eq_some_iff {t : Text} {type : FieldType} :
    ofDescriptor? t = some type ↔ t = type.descriptor := by
  constructor
  · intro h
    induction t generalizing type with
    | nil => contradiction
    | cons c t ih =>
      by_cases hc : c = '['
      · subst hc
        rw [ofDescriptor?_bracket] at h
        obtain ⟨component, hcomponent, rfl⟩ := Option.map_eq_some_iff.1 h
        rw [descriptor, ← ih hcomponent]
      · rw [ofDescriptor?_of_ne hc] at h
        exact leaf?_eq_some h
  · rintro rfl
    exact ofDescriptor?_descriptor type

theorem readWhole_eq_ok_iff {t : Text} {type : FieldType} :
    readWhole t = .ok type ↔ t = type.descriptor := by
  constructor
  · intro h
    cases hread : readField t with
    | ok found rest =>
      rw [readWhole, hread] at h
      cases h
      exact (readField_eq_ok hread).1
    | fault reason spot rest =>
      rw [readWhole, hread] at h
      contradiction
  · rintro rfl
    rw [readWhole, readField_descriptor]
    rfl

end FieldType

namespace FieldType

def isBaseCode : Text → Bool
  | [code] => (BaseType.ofCode? code).isSome
  | _ => false

def isDelimitedName (t : Text) : Bool :=
  3 ≤ t.length && t.head? == some 'L' && t.getLast? == some ';' &&
    !((t.drop 1).dropLast).contains ';'

/-- The text describes the component of an array, with any number of brackets in front. -/
def describesComponent (t : Text) : Bool :=
  let leaf := t.dropWhile (· = '[')
  isBaseCode leaf || isDelimitedName leaf

theorem isDelimitedName_eq_true_iff_ends {t : Text} :
    isDelimitedName t = true ↔ 3 ≤ t.length ∧ t.head? = some 'L' ∧ t.getLast? = some ';' ∧
      ';' ∉ (t.drop 1).dropLast := by
  simp [isDelimitedName, and_assoc]

theorem drop_dropLast_delimited (name : Text) :
    (('L' :: name ++ [';']).drop 1).dropLast = name := by
  rw [List.cons_append, List.drop_one, List.tail_cons, List.dropLast_concat]

theorem isDelimitedName_iff {t : Text} :
    isDelimitedName t = true ↔ ∃ name : ClassName, t = (object name).descriptor := by
  rw [isDelimitedName_eq_true_iff_ends]
  constructor
  · rintro ⟨hlength, hhead, hlast, hsemicolon⟩
    obtain ⟨front, rfl⟩ := List.getLast?_eq_some_iff.1 hlast
    cases front with
    | nil => contradiction
    | cons c name =>
      obtain rfl : c = 'L' := Option.some.inj hhead
      rw [drop_dropLast_delimited] at hsemicolon
      have hne : name ≠ [] := by
        rintro rfl
        contradiction
      exact ⟨⟨name, hne, hsemicolon⟩, rfl⟩
  · rintro ⟨name, rfl⟩
    have hlength := List.length_pos_iff.2 name.ne_nil
    refine ⟨?_, rfl, List.getLast?_concat, ?_⟩
    · simp only [descriptor, List.cons_append, List.length_cons, List.length_append, List.length_nil]
      omega
    · rw [descriptor, drop_dropLast_delimited]
      exact name.no_semicolon

theorem isBaseCode_iff {t : Text} : isBaseCode t = true ↔ ∃ b, t = (base b).descriptor := by
  constructor
  · intro h
    unfold isBaseCode at h
    split at h
    · obtain ⟨b, hb⟩ := Option.isSome_iff_exists.1 h
      exact ⟨b, by rw [descriptor, BaseType.code_of_ofCode? hb]⟩
    · contradiction
  · rintro ⟨b, rfl⟩
    rw [descriptor, isBaseCode, b.ofCode?_code]
    rfl

theorem describesComponent_iff {t : Text} :
    describesComponent t = true ↔ ∃ type : FieldType, t = type.descriptor := by
  constructor
  · intro h
    induction t with
    | nil => contradiction
    | cons c t ih =>
      by_cases hc : c = '['
      · subst hc
        obtain ⟨type, rfl⟩ := ih h
        exact ⟨array type, rfl⟩
      · rw [describesComponent, List.dropWhile_cons_of_neg (by simpa using hc), Bool.or_eq_true,
          isBaseCode_iff, isDelimitedName_iff] at h
        rcases h with ⟨b, hb⟩ | ⟨name, hname⟩
        · exact ⟨base b, hb⟩
        · exact ⟨object name, hname⟩
  · rintro ⟨type, rfl⟩
    induction type with
    | base b => cases b <;> rfl
    | object name =>
      have hname := isDelimitedName_iff.2 ⟨name, rfl⟩
      have hL : (object name).descriptor.dropWhile (· = '[') = (object name).descriptor :=
        List.dropWhile_cons_of_neg (by decide)
      rw [describesComponent, hL, hname, Bool.or_true]
    | array component ih => exact ih

end FieldType

theorem TypeSpec.check_array_eq_ok_iff {t : Text} {type : FieldType} :
    (TypeSpec.array t).check = .ok type ↔
      ∃ component : FieldType, t = component.descriptor ∧ type = .array component := by
  constructor
  · intro h
    unfold check at h
    split at h
    · next found hfound =>
      cases h
      obtain ⟨component, hcomponent, rfl⟩ := Option.map_eq_some_iff.1 hfound
      exact ⟨component, FieldType.ofDescriptor?_eq_some_iff.1 hcomponent, rfl⟩
    · contradiction
  · rintro ⟨component, rfl, rfl⟩
    exact check_ofType (.array component)

theorem TypeSpec.exists_check_array_iff {t : Text} :
    (∃ type, (TypeSpec.array t).check = .ok type) ↔ ∃ component : FieldType,
      t = component.descriptor := by
  constructor
  · rintro ⟨type, htype⟩
    obtain ⟨component, hcomponent, -⟩ := check_array_eq_ok_iff.1 htype
    exact ⟨component, hcomponent⟩
  · rintro ⟨component, hcomponent⟩
    exact ⟨.array component, check_array_eq_ok_iff.2 ⟨component, hcomponent, rfl⟩⟩

namespace Descriptor

def buildField (t : Text) : Building FieldType :=
  andThen (buildType t) fun type rest => .ok ((expectEnd rest).map fun _ => type)

theorem buildField_eq (t : Text) : buildField t = .ok (readField t) := by
  rw [buildField, buildType_eq, andThen_ok]
  rfl

/-- What a reader that stands before `t` is asked for, with every type checked as it is built. -/
def Reader.building (t : Text) : Call → Building Item
  | .type => (buildType t).map (Reading.map .type)
  | .field => (buildField t).map (Reading.map .type)
  | .method => (buildMethod t).map (Reading.map .method)

/-- No reader ever meets a description that is refused. -/
theorem Reader.building_eq (t : Text) (call : Call) : building t call = .ok (reading t call) := by
  cases call with
  | type => rw [building, buildType_eq]; rfl
  | field => rw [building, buildField_eq]; rfl
  | method => rw [building, buildMethod_eq]; rfl

end Descriptor

/-- The text of a component is accepted in construction exactly if it is read as a whole field, which
    its ends tell. The array then has the field that is read as its component, and is read from its
    own descriptor whatever follows. Readers build no type that construction refuses. -/
theorem construction_agrees_with_reading :
    (∀ s : Text, (∃ t, (TypeSpec.array s).check = .ok t) ↔ ∃ f, FieldType.readWhole s = .ok f) ∧
    (∀ s : Text, (∃ t, (TypeSpec.array s).check = .ok t) ↔ FieldType.describesComponent s = true) ∧
    (∀ (s : Text) (t f : FieldType), (TypeSpec.array s).check = .ok t →
      FieldType.readWhole s = .ok f →
      t.component? = some f ∧ f.descriptor = s ∧
        ∀ rest, FieldType.read ('[' :: s ++ rest) = .ok (t, rest)) ∧
    ∀ (t : Text) (call : Descriptor.Reader.Call),
      Descriptor.Reader.building t call = .ok (Descriptor.Reader.reading t call) := by
  refine ⟨fun s => ?_, fun s => ?_, ?_, Descriptor.Reader.building_eq⟩
  · simp only [TypeSpec.exists_check_array_iff, FieldType.readWhole_eq_ok_iff]
  · rw [TypeSpec.exists_check_array_iff, FieldType.describesComponent_iff]
  · intro s t f ht hf
    obtain ⟨component, rfl, rfl⟩ := TypeSpec.check_array_eq_ok_iff.1 ht
    have hread : FieldType.readWhole component.descriptor = .ok component :=
      FieldType.readWhole_eq_ok_iff.2 rfl
    obtain rfl : component = f := Except.ok.inj (hread.symm.trans hf)
    exact ⟨rfl, rfl, fun rest => FieldType.read_eq_ok_iff.2 rfl⟩

/-- A class whose name begins with a bracket, within one array level. -/
theorem bracketed_class_name_in_array :
    let f : FieldType := .array (.object ⟨"[x".toList, by decide, by decide⟩)
    (TypeSpec.array "[L[x;".toList).check = .ok (.array f) ∧
      FieldType.readWhole "[L[x;".toList = .ok f ∧ (FieldType.array f).component? = some f ∧
      FieldType.read "[[L[x;I)".toList = .ok (.array f, "I)".toList) := by
  intro f
  have hcheck : (TypeSpec.array "[L[x;".toList).check = .ok (.array f) :=
    TypeSpec.check_array_eq_ok_iff.2 ⟨f, by decide, rfl⟩
  have hread : FieldType.readWhole "[L[x;".toList = .ok f :=
    FieldType.readWhole_eq_ok_iff.2 (by decide)
  obtain ⟨hcomponent, -, hrest⟩ := construction_agrees_with_reading.2.2.1 _ _ _ hcheck hread
  exact ⟨hcheck, hread, hcomponent, hrest "I)".toList⟩

end NativeLinkage
