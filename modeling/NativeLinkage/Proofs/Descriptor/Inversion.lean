import NativeLinkage.Descriptor.Reader

set_option autoImplicit false

namespace NativeLinkage
open Descriptor

def FieldType.initial : FieldType → Char
  | .base b => b.code
  | .object _ => 'L'
  | .array _ => '['

theorem FieldType.descriptor_eq_initial_cons (t : FieldType) :
    ∃ tail, t.descriptor = t.initial :: tail := by
  cases t with
  | base b => exact ⟨[], rfl⟩
  | object name => exact ⟨name.text ++ [';'], rfl⟩
  | array component => exact ⟨component.descriptor, rfl⟩

theorem FieldType.initial_mem (t : FieldType) : t.initial ∈ "ZBCSIJFDL[".toList := by
  cases t with
  | base b => cases b <;> decide
  | object name => exact (by decide : 'L' ∈ "ZBCSIJFDL[".toList)
  | array component => exact (by decide : '[' ∈ "ZBCSIJFDL[".toList)

theorem FieldType.initial_ne (t : FieldType) {c : Char} (h : c ∉ "ZBCSIJFDL[".toList) :
    t.initial ≠ c := by
  intro hc
  exact h (hc ▸ t.initial_mem)

theorem readClassName_append (spot rest : Text) (name : ClassName) :
    readClassName spot (name.text ++ ';' :: rest) = .ok (.object name) rest := by
  have hend : ∀ c ∈ (';' :: rest).head?, c = ';' := by
    intro c hc
    cases hc
    rfl
  have htake := Text.takeWhile_ne_append name.no_semicolon hend
  have hdrop := Text.dropWhile_ne_append name.no_semicolon hend
  simp only [readClassName, htake, hdrop, name.ofText?_text]

theorem readLeaf_code (b : BaseType) (rest : Text) :
    readLeaf (b.code :: rest) = .ok (.base b) rest := by
  have hL : b.code ≠ 'L' := by cases b <;> decide
  rw [readLeaf, if_neg hL, b.ofCode?_code]

theorem readType_append (t : FieldType) (rest : Text) :
    readType (t.descriptor ++ rest) = .ok t rest := by
  induction t with
  | base b =>
    have hb : b.code ≠ '[' := by cases b <;> decide
    change readType (b.code :: rest) = _
    rw [readType_of_ne hb, readLeaf_code]
  | object name =>
    have hd : (FieldType.object name).descriptor ++ rest = 'L' :: (name.text ++ ';' :: rest) := by
      simp [FieldType.descriptor]
    rw [hd, readType_of_ne (by decide), readLeaf, if_pos rfl]
    exact readClassName_append _ rest name
  | array component ih =>
    change readType ('[' :: (component.descriptor ++ rest)) = _
    rw [readType_bracket, ih]
    rfl

theorem readType_eq_ok_iff {t rest : Text} {type : FieldType} :
    readType t = .ok type rest ↔ t = type.descriptor ++ rest := by
  constructor
  · exact readType_eq_ok
  · rintro rfl
    exact readType_append type rest

theorem readField_descriptor (t : FieldType) : readField t.descriptor = .ok t [] := by
  have htype := readType_append t []
  rw [List.append_nil] at htype
  rw [readField, htype]
  rfl

theorem readParams_of_readType {c : Char} {t rest : Text} {type : FieldType} (hc : c ≠ ')')
    (h : readType (c :: t) = .ok type rest) :
    readParams (c :: t) = (readParams rest).map (type :: ·) := by
  rw [readParams]
  · split
    · next read after hread =>
      rw [h] at hread
      cases hread
      rfl
    · next hread =>
      rw [h] at hread
      contradiction
  · exact List.cons_ne_nil c t
  · intro after hafter
    exact hc (List.cons.inj hafter).1

theorem readParams_append (params : List FieldType) (rest : Text) :
    readParams (params.flatMap FieldType.descriptor ++ ')' :: rest) = .ok params rest := by
  induction params with
  | nil => exact readParams_closing rest
  | cons type params ih =>
    have htype := readType_append type (params.flatMap FieldType.descriptor ++ ')' :: rest)
    obtain ⟨tail, htail⟩ := type.descriptor_eq_initial_cons
    have hne := type.initial_ne (c := ')') (by decide)
    rw [List.flatMap_cons, List.append_assoc]
    rw [htail, List.cons_append] at htype ⊢
    rw [readParams_of_readType hne htype, ih]
    rfl

theorem readParams_eq_ok_iff {t rest : Text} {params : List FieldType} :
    readParams t = .ok params rest ↔ t = params.flatMap FieldType.descriptor ++ ')' :: rest := by
  constructor
  · exact readParams_eq_ok
  · rintro rfl
    exact readParams_append params rest

theorem params_eq_of_flatMap_descriptor {params others : List FieldType}
    (h : params.flatMap FieldType.descriptor = others.flatMap FieldType.descriptor) :
    params = others := by
  have hread := readParams_append params []
  rw [h, readParams_append others []] at hread
  cases hread
  rfl

theorem readResult_type (t : FieldType) : readResult t.descriptor = .ok (some t) [] := by
  have htype := readType_append t []
  obtain ⟨tail, htail⟩ := t.descriptor_eq_initial_cons
  have hne := t.initial_ne (c := 'V') (by decide)
  rw [List.append_nil, htail] at htype
  rw [htail, readResult, htype]
  · rfl
  · exact List.cons_ne_nil _ tail
  · intro after hafter
    exact hne (List.cons.inj hafter).1

theorem readResult_eq_ok_iff {t : Text} {result : Option FieldType} :
    readResult t = .ok result [] ↔
      t = MethodType.resultDescriptor result ∨ result = none ∧ t = [] := by
  constructor
  · intro h
    unfold readResult at h
    split at h
    · cases h
      exact .inr ⟨rfl, rfl⟩
    · cases h
      exact .inl rfl
    · obtain ⟨type, htype, rfl⟩ := Reading.map_eq_ok.1 h
      rw [readType_eq_ok htype, List.append_nil]
      exact .inl rfl
  · rintro (rfl | ⟨rfl, rfl⟩)
    · cases result with
      | none => rfl
      | some type => exact readResult_type type
    · rfl

/-- The spellings of a method type: its descriptor and, if it is void, the descriptor without the
    letter for void. -/
def MethodType.Spelling (m : MethodType) (d : Text) : Prop :=
  d = m.descriptor ∨ m.result = none ∧ d = '(' :: m.paramsDescriptor ++ [')']

theorem readOpening_eq_ok_iff {t rest : Text} :
    readOpening t = .ok () rest ↔ t = '(' :: rest := by
  constructor
  · intro h
    unfold readOpening at h
    split at h
    · cases h
      rfl
    · contradiction
  · rintro rfl
    rfl

theorem readMethod_eq_ok_iff {d rest : Text} {m : MethodType} :
    readMethod d = .ok m rest ↔ m.Spelling d ∧ rest = [] := by
  obtain ⟨params, result⟩ := m
  simp only [readMethod, Reading.bind_eq_ok, Reading.map_eq_ok, readParams_eq_ok_iff]
  constructor
  · rintro ⟨_, _, hopening, _, _, rfl, _, _, hresult, _, hend, heq⟩
    cases heq
    obtain rfl := readOpening_eq_ok_iff.1 hopening
    obtain ⟨rfl, rfl⟩ := expectEnd_eq_ok.1 hend
    refine ⟨?_, rfl⟩
    rcases readResult_eq_ok_iff.1 hresult with rfl | ⟨rfl, rfl⟩
    · exact .inl rfl
    · exact .inr ⟨rfl, rfl⟩
  · rintro ⟨hd, rfl⟩
    have hsplit : ∃ tail, d = '(' :: (params.flatMap FieldType.descriptor ++ ')' :: tail) ∧
        readResult tail = .ok result [] := by
      rcases hd with rfl | ⟨hvoid, rfl⟩
      · exact ⟨_, rfl, readResult_eq_ok_iff.2 (.inl rfl)⟩
      · exact ⟨[], rfl, readResult_eq_ok_iff.2 (.inr ⟨hvoid, rfl⟩)⟩
    obtain ⟨tail, rfl, htail⟩ := hsplit
    exact ⟨(), _, rfl, params, tail, rfl, result, [], htail, (), rfl, rfl⟩

theorem Descriptor.Reading.result_eq_ok_iff {α : Type} {x : Reading α} {d rest : Text} {a : α} :
    x.result d = .ok (a, rest) ↔ x = .ok a rest := by
  cases x with
  | ok value left => simp [Reading.result]
  | fault reason spot left => simp [Reading.result]

theorem FieldType.read_eq_ok_iff {d rest : Text} {t : FieldType} :
    FieldType.read d = .ok (t, rest) ↔ d = t.descriptor ++ rest := by
  rw [FieldType.read, Reading.result_eq_ok_iff, readType_eq_ok_iff]

theorem MethodType.read_eq_ok_iff {d : Text} {m : MethodType} :
    MethodType.read d = .ok m ↔ m.Spelling d := by
  constructor
  · intro h
    cases hread : readMethod d with
    | ok value left =>
      rw [MethodType.read, hread] at h
      cases h
      exact (readMethod_eq_ok_iff.1 hread).1
    | fault reason spot left =>
      rw [MethodType.read, hread] at h
      contradiction
  · intro h
    have hread : readMethod d = .ok m [] := readMethod_eq_ok_iff.2 ⟨h, rfl⟩
    rw [MethodType.read, hread]
    rfl

/-- A descriptor that is no spelling of any method type is refused, and the fault shows it. -/
theorem MethodType.read_eq_error_iff {d : Text} :
    (∃ fault, MethodType.read d = .error fault ∧ fault.descriptor = d) ↔
      ¬ ∃ m : MethodType, m.Spelling d := by
  constructor
  · rintro ⟨fault, hfault, -⟩ ⟨m, hm⟩
    rw [MethodType.read_eq_ok_iff.2 hm] at hfault
    contradiction
  · intro hnone
    cases h : readMethod d with
    | ok m left => exact absurd ⟨m, (readMethod_eq_ok_iff.1 h).1⟩ hnone
    | fault reason spot left =>
      refine ⟨Fault.at d reason spot, ?_, rfl⟩
      rw [MethodType.read, h]
      rfl

/-- Types are read exactly where their descriptors stand, and method types exactly from their
    spellings; all other texts are refused. Each method type is read from its descriptor, and
    parameter lists are told apart by their descriptors. -/
theorem reading_inverts_descriptor :
    (∀ (d rest : Text) (t : FieldType),
      FieldType.read d = .ok (t, rest) ↔ d = t.descriptor ++ rest) ∧
    (∀ (d : Text) (m : MethodType), MethodType.read d = .ok m ↔
      d = m.descriptor ∨ m.result = none ∧ d = '(' :: m.paramsDescriptor ++ [')']) ∧
    (∀ d : Text, (∃ fault, MethodType.read d = .error fault ∧ fault.descriptor = d) ↔
      ¬ ∃ m : MethodType, m.Spelling d) ∧
    (∀ m : MethodType, MethodType.read m.descriptor = .ok m) ∧
    (∀ m n : MethodType, m.paramsDescriptor = n.paramsDescriptor ↔ m.params = n.params) := by
  refine ⟨fun d rest t => FieldType.read_eq_ok_iff, fun d m => MethodType.read_eq_ok_iff,
    fun d => MethodType.read_eq_error_iff, fun m => ?_, fun m n => ⟨?_, ?_⟩⟩
  · exact MethodType.read_eq_ok_iff.2 (.inl rfl)
  · exact params_eq_of_flatMap_descriptor
  · intro h
    rw [MethodType.paramsDescriptor, MethodType.paramsDescriptor, h]

end NativeLinkage
