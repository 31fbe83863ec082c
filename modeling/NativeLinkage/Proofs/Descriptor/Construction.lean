import Mathlib.Data.List.TakeWhile
import NativeLinkage.Descriptor.TypeSpec
import NativeLinkage.Proofs.Descriptor.Inversion

set_option autoImplicit false

/-!
Types built by checked construction. Here a reader only cuts raw descriptions out of the text, and
each of them is checked before it becomes a type; a refused description would stop everything that
is under way. None is ever refused: construction agrees with reading on every text.
-/
namespace NativeLinkage
namespace Descriptor

abbrev Building (α : Type) := Except TypeSpec (Reading α)

def andThen {α β : Type} (x : Building α) (next : α → Text → Building β) : Building β :=
  match x with
  | .error spec => .error spec
  | .ok (.ok value rest) => next value rest
  | .ok (.fault reason spot rest) => .ok (.fault reason spot rest)

theorem andThen_ok {α β : Type} (x : Reading α) (f : α → Text → Reading β) :
    andThen (.ok x) (fun value rest => .ok (f value rest)) = .ok (x.bind f) := by
  cases x with
  | ok value rest => rfl
  | fault reason spot rest => rfl

def cutClassName (spot rest : Text) : Reading TypeSpec :=
  match rest.dropWhile (· ≠ ';') with
  | [] => .fault .unterminatedClassName spot rest
  | _ :: after =>
    if rest.takeWhile (· ≠ ';') = [] then .fault .emptyClassName spot rest
    else .ok (.object (rest.takeWhile (· ≠ ';'))) after

def cutLeaf : Text → Reading TypeSpec
  | [] => .fault .unexpectedEnd [] []
  | c :: rest =>
    if (BaseType.ofCode? c).isSome then .ok (.base [c]) rest
    else if c = 'L' then cutClassName (c :: rest) rest
    else .fault (.unexpectedChar c) (c :: rest) (c :: rest)

def checked : Reading TypeSpec → Building FieldType
  | .ok spec rest => spec.check.map (.ok · rest)
  | .fault reason spot rest => .ok (.fault reason spot rest)

/-- An array is described by the text of its component, cut out again once its end is known. -/
def buildType (t : Text) : Building FieldType :=
  andThen (checked (cutLeaf (t.dropWhile (· = '[')))) fun type rest =>
    if t.head? = some '[' then
      checked (.ok (.array ((t.take (t.length - rest.length)).drop 1)) rest)
    else .ok (.ok type rest)

theorem checked_cutClassName (spot rest : Text) :
    checked (cutClassName spot rest) = .ok (readClassName spot rest) := by
  unfold cutClassName readClassName
  cases rest.dropWhile (· ≠ ';') with
  | nil => rfl
  | cons c after =>
    have hsemicolon := Text.not_mem_takeWhile_ne ';' rest
    by_cases hempty : rest.takeWhile (· ≠ ';') = []
    · simp only [hempty, if_true]
      rfl
    · have hname : ClassName.ofText? (rest.takeWhile (· ≠ ';')) =
          some ⟨rest.takeWhile (· ≠ ';'), hempty, hsemicolon⟩ :=
        ClassName.ofText?_eq_some.2 rfl
      simp only [hempty, if_false, checked, TypeSpec.check, TypeSpec.type?, hname]
      rfl

theorem checked_cutLeaf (t : Text) : checked (cutLeaf t) = .ok (readLeaf t) := by
  cases t with
  | nil => rfl
  | cons c rest =>
    rw [cutLeaf, readLeaf]
    cases hcode : BaseType.ofCode? c with
    | some b =>
      have hL : c ≠ 'L' := by
        rintro rfl
        contradiction
      simp only [Option.isSome_some, if_true, hL, if_false, checked, TypeSpec.check,
        TypeSpec.type?, hcode]
      rfl
    | none =>
      by_cases hL : c = 'L'
      · simp only [Option.isSome_none, Bool.false_eq_true, if_false, hL, if_true]
        exact checked_cutClassName _ _
      · simp only [Option.isSome_none, Bool.false_eq_true, if_false, hL]
        rfl

theorem readType_of_head_ne {t : Text} (h : t.head? ≠ some '[') : readType t = readLeaf t := by
  cases t with
  | nil => rfl
  | cons c t => exact readType_of_ne (by simpa using h) t

theorem readType_of_readLeaf_fault {t spot rest : Text} {reason : Reason}
    (h : readLeaf (t.dropWhile (· = '[')) = .fault reason spot rest) :
    readType t = .fault reason spot rest := by
  induction t with
  | nil => exact h
  | cons c t ih =>
    by_cases hc : c = '['
    · subst hc
      rw [readType_bracket, ih h]
      rfl
    · rw [List.dropWhile_cons_of_neg (by simpa using hc)] at h
      rwa [readType_of_ne hc]

theorem exists_readType_of_readLeaf {t rest : Text} {leaf : FieldType}
    (h : readLeaf (t.dropWhile (· = '[')) = .ok leaf rest) :
    ∃ type, readType t = .ok type rest := by
  induction t with
  | nil => exact ⟨leaf, h⟩
  | cons c t ih =>
    by_cases hc : c = '['
    · subst hc
      obtain ⟨component, hcomponent⟩ := ih h
      exact ⟨.array component, by rw [readType_bracket, hcomponent]; rfl⟩
    · rw [List.dropWhile_cons_of_neg (by simpa using hc)] at h
      exact ⟨leaf, by rwa [readType_of_ne hc]⟩

theorem checked_array (component : FieldType) (rest : Text) :
    checked (.ok (.array component.descriptor) rest) = .ok (.ok (.array component) rest) := by
  have hcheck := TypeSpec.check_ofType (.array component)
  rw [TypeSpec.ofType] at hcheck
  rw [checked, hcheck]
  rfl

/-- What is taken from the front is the descriptor of the array; its component begins at the second
    character. -/
theorem drop_take_bracket (component rest : Text) :
    (('[' :: (component ++ rest)).take (('[' :: (component ++ rest)).length - rest.length)).drop 1 =
      component := by
  have hlength : ('[' :: (component ++ rest)).length - rest.length = component.length + 1 := by
    simp only [List.length_cons, List.length_append]
    omega
  rw [hlength, List.take_succ_cons, List.take_left, List.drop_one, List.tail_cons]

theorem buildType_eq (t : Text) : buildType t = .ok (readType t) := by
  rw [buildType, checked_cutLeaf]
  cases hleaf : readLeaf (t.dropWhile (· = '[')) with
  | fault reason spot rest =>
    rw [readType_of_readLeaf_fault hleaf]
    rfl
  | ok leaf rest =>
    rw [andThen]
    by_cases hhead : t.head? = some '['
    · obtain ⟨type, htype⟩ := exists_readType_of_readLeaf hleaf
      obtain ⟨t, rfl⟩ := List.head?_eq_some_iff.1 hhead
      obtain ⟨component, hcomponent, rfl⟩ := Reading.map_eq_ok.1 htype
      obtain rfl := readType_eq_ok hcomponent
      rw [if_pos hhead, drop_take_bracket, checked_array, htype]
    · have hbracket : t.dropWhile (· = '[') = t := by
        cases t with
        | nil => rfl
        | cons c t => exact List.dropWhile_cons_of_neg (by simpa using hhead)
      rw [if_neg hhead, readType_of_head_ne hhead, ← hleaf, hbracket]

def buildParams (t : Text) : Building (List FieldType) :=
  match t with
  | [] => .ok (.fault .unterminatedArguments [] [])
  | ')' :: rest => .ok (.ok [] rest)
  | t =>
    match _h : buildType t with
    | .error spec => .error spec
    | .ok (.fault reason spot rest) => .ok (.fault reason spot rest)
    | .ok (.ok type rest) => (buildParams rest).map (Reading.map (type :: ·))
termination_by t.length
decreasing_by
  rw [buildType_eq] at _h
  exact length_lt_of_readType (Except.ok.inj _h)

def buildResult : Text → Building (Option FieldType)
  | [] => .ok (.ok none [])
  | 'V' :: rest => .ok (.ok none rest)
  | t => (buildType t).map (Reading.map some)

def buildMethod (t : Text) : Building MethodType :=
  andThen (.ok (readOpening t)) fun _ afterOpening =>
  andThen (buildParams afterOpening) fun params afterParams =>
  andThen (buildResult afterParams) fun result rest =>
  .ok ((expectEnd rest).map fun _ => ⟨params, result⟩)

theorem buildParams_of_ne {t : Text} (hnil : t ≠ []) (hclosing : ∀ rest, t ≠ ')' :: rest) :
    buildParams t =
      match readType t with
      | .ok type rest => (buildParams rest).map (Reading.map (type :: ·))
      | .fault reason spot rest => .ok (.fault reason spot rest) := by
  rw [buildParams]
  · split
    · next hbuild =>
      rw [buildType_eq] at hbuild
      contradiction
    · next hbuild => rw [← Except.ok.inj ((buildType_eq t).symm.trans hbuild).symm]
    · next hbuild => rw [← Except.ok.inj ((buildType_eq t).symm.trans hbuild).symm]
  · exact hnil
  · exact hclosing

theorem buildParams_eq (t : Text) : buildParams t = .ok (readParams t) := by
  fun_induction readParams t with
  | case1 => rw [buildParams]
  | case2 rest => rw [buildParams]
  | case3 t hnil hclosing type rest htype ih =>
    rw [buildParams_of_ne hnil hclosing, htype]
    dsimp only
    rw [ih]
    rfl
  | case4 t hnil hclosing reason spot rest htype =>
    rw [buildParams_of_ne hnil hclosing, htype]

theorem buildResult_eq (t : Text) : buildResult t = .ok (readResult t) := by
  cases t with
  | nil => rfl
  | cons c t =>
    by_cases hc : c = 'V'
    · subst hc
      rfl
    · have hne (rest : Text) : c :: t ≠ 'V' :: rest := fun h => hc (List.cons.inj h).1
      rw [buildResult, readResult, buildType_eq]
      · rfl
      · exact List.cons_ne_nil c t
      · exact hne
      · exact List.cons_ne_nil c t
      · exact hne

/-- No description that a method descriptor holds is refused, whatever the text of the
    descriptor. -/
theorem buildMethod_eq (t : Text) : buildMethod t = .ok (readMethod t) := by
  simp only [buildMethod, buildParams_eq, buildResult_eq, andThen_ok]
  rfl

end Descriptor
end NativeLinkage
