import Mathlib.Data.List.TakeWhile
import NativeLinkage.Proofs.Descriptor.Inversion

set_option autoImplicit false

/-!
A fault points at the first obstacle. The text before its place is the beginning of a descriptor;
the text up to and including the character at that place is not, unless the text has merely been cut
off. Two faults are placed by the start of a class name instead: a name without its end, where the
whole text can still be completed, and an empty name, which shows one character later.
-/
namespace NativeLinkage
namespace Descriptor

section
variable {α β : Type} {read : Text → Reading α} {outer : Text → Reading β}

/-- Some text that begins with `front` is read to its end. -/
def Begins (read : Text → Reading α) (front : Text) : Prop :=
  ∃ more value, read (front ++ more) = .ok value []

/-- No text that begins with `front` is read, not even in part. -/
def Refuses (read : Text → Reading α) (front : Text) : Prop :=
  ∀ more value rest, read (front ++ more) ≠ .ok value rest

/-- An empty class name shows only at its end, which is one character after its opening letter. -/
def Reason.extent : Reason → Nat
  | emptyClassName => 2
  | _ => 1

/-- `good` is the text before the place of a fault, and `spot` the text from there on. -/
structure Pinpoints (read : Text → Reading α) (good spot : Text) (reason : Reason) : Prop where
  begins : Begins read good
  incomplete : spot = [] ∨ reason = .unterminatedClassName → Begins read (good ++ spot)
  refuses : spot ≠ [] → reason ≠ .unterminatedClassName →
    Refuses read (good ++ spot.take reason.extent)
  emptyName : reason = .emptyClassName → ∃ rest, spot = 'L' :: ';' :: rest

theorem pinpoints_end {good : Text} {reason : Reason} (h : Begins read good)
    (hreason : reason ≠ .emptyClassName) : Pinpoints read good [] reason :=
  ⟨h, fun _ => by rwa [List.append_nil], fun hspot => absurd rfl hspot,
    fun heq => absurd heq hreason⟩

theorem pinpoints_char {good rest : Text} {c : Char} {reason : Reason} (h : Begins read good)
    (hunterminated : reason ≠ .unterminatedClassName) (hempty : reason ≠ .emptyClassName)
    (hrefuses : Refuses read (good ++ [c])) : Pinpoints read good (c :: rest) reason := by
  have hextent : reason.extent = 1 := by
    cases reason with
    | emptyClassName => exact absurd rfl hempty
    | _ => rfl
  refine ⟨h, ?_, fun _ _ => ?_, fun heq => absurd heq hempty⟩
  · rintro (hnil | heq)
    · exact absurd hnil (List.cons_ne_nil c rest)
    · exact absurd heq hunterminated
  · rw [hextent, List.take_succ_cons, List.take_zero]
    exact hrefuses

section
variable {before good spot : Text} {reason : Reason}

/-- The fault of a part is one of the whole if what can follow in the part can follow in the whole,
    and what cannot, cannot. -/
theorem Pinpoints.lift (h : Pinpoints read good spot reason)
    (hbegins : ∀ front, Begins read front → Begins outer (before ++ front))
    (hrefuses : ∀ front, front ≠ [] → front <+: good ++ spot → Refuses read front →
      Refuses outer (before ++ front)) :
    Pinpoints outer (before ++ good) spot reason := by
  refine ⟨hbegins good h.begins, fun hend => ?_, fun hspot hreason => ?_, h.emptyName⟩
  · rw [List.append_assoc]
    exact hbegins _ (h.incomplete hend)
  · rw [List.append_assoc]
    refine hrefuses _ ?_ ?_ (h.refuses hspot hreason)
    · have hextent : reason.extent ≠ 0 := by cases reason <;> exact Nat.succ_ne_zero _
      simp [hspot, hextent]
    · exact (List.prefix_append_right_inj good).2 (List.take_prefix _ _)

theorem Pinpoints.within {f : α → β} (houter : ∀ t, outer (before ++ t) = (read t).map f)
    (h : Pinpoints read good spot reason) : Pinpoints outer (before ++ good) spot reason := by
  apply h.lift
  · rintro front ⟨more, value, hread⟩
    refine ⟨more, f value, ?_⟩
    rw [List.append_assoc, houter, hread]
    rfl
  · intro front _ _ hrefuses more value rest hread
    rw [List.append_assoc, houter, Reading.map_eq_ok] at hread
    obtain ⟨a, ha, -⟩ := hread
    exact hrefuses more a rest ha

theorem Pinpoints.leading
    (hcomplete : ∀ t value, read t = .ok value [] → ∃ more value, outer (t ++ more) = .ok value [])
    (hpart : ∀ t value rest, t ≠ [] → t.head? = (good ++ spot).head? → outer t = .ok value rest →
      ∃ value rest, read t = .ok value rest)
    (h : Pinpoints read good spot reason) : Pinpoints outer good spot reason := by
  rw [← List.nil_append good]
  apply h.lift
  · rintro front ⟨more, value, hread⟩
    obtain ⟨after, whole, houter⟩ := hcomplete _ value hread
    exact ⟨more ++ after, whole, by rwa [List.nil_append, ← List.append_assoc]⟩
  · rintro (_ | ⟨c, front⟩) hne ⟨tail, htail⟩ hrefuses more value rest hread
    · exact absurd rfl hne
    · obtain ⟨part, after, hfirst⟩ := hpart _ value rest (List.cons_ne_nil _ _)
        (by rw [← htail]; rfl) hread
      exact hrefuses more part after hfirst

end

end

theorem begins_readType_nil : Begins readType [] := ⟨['I'], .base .int, rfl⟩

/-- A class name that lacks its end can be given one. -/
theorem begins_readType_className {t : Text} (h : ';' ∉ t) : Begins readType ('L' :: t) := by
  have hne : t ++ ['a'] ≠ [] := List.concat_ne_nil 'a' t
  have hsemicolon : ';' ∉ t ++ ['a'] := by simp [h]
  refine ⟨"a;".toList, .object ⟨t ++ ['a'], hne, hsemicolon⟩, readType_eq_ok_iff.2 ?_⟩
  simp [FieldType.descriptor]

theorem refuses_readType_emptyName : Refuses readType "L;".toList := by
  intro more value rest hread
  contradiction

theorem refuses_readType_char {c : Char} (hbracket : c ≠ '[') (hL : c ≠ 'L')
    (hcode : BaseType.ofCode? c = none) : Refuses readType [c] := by
  intro more value rest hread
  rw [List.singleton_append, readType_of_ne hbracket, readLeaf, if_neg hL, hcode] at hread
  contradiction

theorem takeWhile_eq_nil_of_ofText? {t : Text}
    (h : ClassName.ofText? (t.takeWhile (· ≠ ';')) = none) : t.takeWhile (· ≠ ';') = [] := by
  by_contra hne
  rw [ClassName.ofText?, dif_pos ⟨hne, Text.not_mem_takeWhile_ne ';' t⟩] at h
  contradiction

theorem pinpoints_readClassName {t spot rest : Text} {reason : Reason}
    (h : readClassName ('L' :: t) t = .fault reason spot rest) :
    spot = 'L' :: t ∧ Pinpoints readType [] spot reason := by
  unfold readClassName at h
  split at h
  · next hdrop =>
    cases h
    have hsemicolon : ';' ∉ t := by
      intro hmem
      have := List.dropWhile_eq_nil_iff.1 hdrop ';' hmem
      contradiction
    refine ⟨rfl, begins_readType_nil, fun _ => begins_readType_className hsemicolon, ?_, by simp⟩
    exact fun _ hreason => absurd rfl hreason
  · next c after hdrop =>
    split at h
    · contradiction
    · next hname =>
      cases h
      have hempty := takeWhile_eq_nil_of_ofText? hname
      have hsplit := List.takeWhile_append_dropWhile (p := fun x => decide (x ≠ ';')) (l := t)
      rw [hempty, hdrop, List.nil_append] at hsplit
      obtain rfl : c = ';' := by
        rw [← hsplit, List.takeWhile_cons] at hempty
        split at hempty
        · contradiction
        · next hc => simpa using hc
      refine ⟨rfl, begins_readType_nil, ?_, fun _ _ => ?_, fun _ => ⟨after, by rw [hsplit]⟩⟩
      · rintro (hnil | hreason)
        · contradiction
        · contradiction
      · rw [← hsplit]
        exact refuses_readType_emptyName

theorem pinpoints_readLeaf {t spot rest : Text} {reason : Reason} (hbracket : t.head? ≠ some '[')
    (h : readLeaf t = .fault reason spot rest) : spot = t ∧ Pinpoints readType [] spot reason := by
  cases t with
  | nil =>
    cases h
    exact ⟨rfl, pinpoints_end begins_readType_nil (by simp)⟩
  | cons c t =>
    rw [readLeaf] at h
    split at h
    · next hc =>
      subst hc
      exact pinpoints_readClassName h
    · next hL =>
      split at h
      · contradiction
      · next hcode =>
        cases h
        refine ⟨rfl, pinpoints_char begins_readType_nil (by simp) (by simp) ?_⟩
        exact refuses_readType_char (by simpa using hbracket) hL hcode

theorem pinpoints_readType {t spot rest : Text} {reason : Reason}
    (h : readType t = .fault reason spot rest) :
    ∃ good, t = good ++ spot ∧ Pinpoints readType good spot reason := by
  induction t with
  | nil =>
    obtain ⟨rfl, hplace⟩ := pinpoints_readLeaf (t := []) (by simp) h
    exact ⟨[], rfl, hplace⟩
  | cons c t ih =>
    by_cases hc : c = '['
    · subst hc
      rw [readType_bracket, Reading.map_eq_fault] at h
      obtain ⟨good, rfl, hplace⟩ := ih h
      have hbracket : ∀ t, readType (['['] ++ t) = (readType t).map .array := readType_bracket
      exact ⟨'[' :: good, rfl, hplace.within hbracket⟩
    · rw [readType_of_ne hc] at h
      obtain ⟨rfl, hplace⟩ := pinpoints_readLeaf (by simpa using hc) h
      exact ⟨[], rfl, hplace⟩

theorem readParams_descriptor_append (type : FieldType) (rest : Text) :
    readParams (type.descriptor ++ rest) = (readParams rest).map (type :: ·) := by
  have htype := readType_append type rest
  obtain ⟨tail, htail⟩ := type.descriptor_eq_initial_cons
  rw [htail, List.cons_append] at htype ⊢
  exact readParams_of_readType (type.initial_ne (by decide)) htype

theorem begins_readParams_nil : Begins readParams [] := ⟨[')'], [], readParams_closing []⟩

theorem exists_readType_of_readParams {t rest : Text} {params : List FieldType}
    (hclosing : t.head? ≠ some ')') (h : readParams t = .ok params rest) :
    ∃ type rest, readType t = .ok type rest := by
  obtain rfl := readParams_eq_ok h
  cases params with
  | nil => exact absurd rfl hclosing
  | cons type params =>
    rw [List.flatMap_cons, List.append_assoc]
    exact ⟨type, _, readType_append type _⟩

theorem pinpoints_readParams {t spot rest : Text} {reason : Reason}
    (h : readParams t = .fault reason spot rest) :
    ∃ good, t = good ++ spot ∧ Pinpoints readParams good spot reason := by
  fun_induction readParams t with
  | case1 =>
    cases h
    exact ⟨[], rfl, pinpoints_end begins_readParams_nil (by simp)⟩
  | case2 after => contradiction
  | case3 t _ _ type after htype ih =>
    rw [Reading.map_eq_fault] at h
    obtain ⟨good, rfl, hplace⟩ := ih h
    rw [readType_eq_ok htype, ← List.append_assoc]
    exact ⟨_, rfl, hplace.within (readParams_descriptor_append type)⟩
  | case4 t hnil hclosing found place after htype =>
    cases h
    obtain ⟨good, rfl, hplace⟩ := pinpoints_readType htype
    refine ⟨good, rfl, hplace.leading ?_ ?_⟩
    · intro t type hread
      refine ⟨[')'], [type], ?_⟩
      obtain rfl := readType_eq_ok hread
      rw [List.append_nil, readParams_descriptor_append, readParams_closing]
      rfl
    · intro t params rest _ hhead hread
      refine exists_readType_of_readParams ?_ hread
      rw [hhead]
      intro hc
      obtain ⟨tail, htail⟩ := List.head?_eq_some_iff.1 hc
      exact hclosing tail htail

def readEnding (t : Text) : Reading (Option FieldType) :=
  (readResult t).bind fun result rest => (expectEnd rest).map fun _ => result

theorem readEnding_eq_ok_iff {t rest : Text} {result : Option FieldType} :
    readEnding t = .ok result rest ↔ readResult t = .ok result [] ∧ rest = [] := by
  simp only [readEnding, Reading.bind_eq_ok, Reading.map_eq_ok]
  constructor
  · rintro ⟨found, mid, hresult, _, hend, rfl⟩
    obtain ⟨rfl, rfl⟩ := expectEnd_eq_ok.1 hend
    exact ⟨hresult, rfl⟩
  · rintro ⟨hresult, rfl⟩
    exact ⟨result, [], hresult, (), rfl, rfl⟩

theorem readResult_of_head {t : Text} (hnil : t ≠ []) (hvoid : t.head? ≠ some 'V') :
    readResult t = (readType t).map some := by
  rw [readResult]
  · exact hnil
  · rintro rest rfl
    exact hvoid rfl

theorem readResult_append (type : FieldType) (rest : Text) :
    readResult (type.descriptor ++ rest) = .ok (some type) rest := by
  have htype := readType_append type rest
  obtain ⟨tail, htail⟩ := type.descriptor_eq_initial_cons
  have hvoid := type.initial_ne (c := 'V') (by decide)
  rw [readResult_of_head, htype]
  · rfl
  · simp [type.descriptor_ne_nil]
  · simpa [htail] using hvoid

/-- A result that ends before the text does is read whatever follows it. -/
theorem exists_of_readResult_cons {t rest : Text} {c : Char} {result : Option FieldType}
    (h : readResult t = .ok result (c :: rest)) :
    ∃ good, t = good ++ c :: rest ∧ ∀ more, readResult (good ++ more) = .ok result more := by
  unfold readResult at h
  split at h
  · cases h
  · cases h
    exact ⟨['V'], rfl, fun more => rfl⟩
  · obtain ⟨type, htype, rfl⟩ := Reading.map_eq_ok.1 h
    exact ⟨type.descriptor, readType_eq_ok htype, readResult_append type⟩

theorem pinpoints_readResult {t spot rest : Text} {reason : Reason}
    (h : readResult t = .fault reason spot rest) :
    ∃ good, t = good ++ spot ∧ Pinpoints readEnding good spot reason := by
  have hnil : t ≠ [] := by rintro rfl; contradiction
  have hvoid : t.head? ≠ some 'V' := by
    intro hhead
    obtain ⟨tail, rfl⟩ := List.head?_eq_some_iff.1 hhead
    contradiction
  rw [readResult_of_head hnil hvoid, Reading.map_eq_fault] at h
  obtain ⟨good, rfl, hplace⟩ := pinpoints_readType h
  refine ⟨good, rfl, hplace.leading ?_ ?_⟩
  · intro t type hread
    obtain rfl := readType_eq_ok hread
    refine ⟨[], some type, readEnding_eq_ok_iff.2 ⟨?_, rfl⟩⟩
    rw [List.append_assoc, readResult_append]
    rfl
  · intro t result rest hne hhead hread
    have hresult := (readEnding_eq_ok_iff.1 hread).1
    rw [readResult_of_head hne (hhead ▸ hvoid)] at hresult
    obtain ⟨type, htype, -⟩ := Reading.map_eq_ok.1 hresult
    exact ⟨type, [], htype⟩

theorem pinpoints_readEnding {t spot rest : Text} {reason : Reason}
    (h : readEnding t = .fault reason spot rest) :
    ∃ good, t = good ++ spot ∧ Pinpoints readEnding good spot reason := by
  rcases Reading.bind_eq_fault.1 h with hresult | ⟨result, mid, hresult, hend⟩
  · exact pinpoints_readResult hresult
  · rw [Reading.map_eq_fault] at hend
    cases mid with
    | nil => contradiction
    | cons c mid =>
      cases hend
      obtain ⟨good, rfl, hgood⟩ := exists_of_readResult_cons hresult
      have hread : readEnding good = .ok result [] := by
        refine readEnding_eq_ok_iff.2 ⟨?_, rfl⟩
        rw [← hgood [], List.append_nil]
      have hbegins : Begins readEnding good := ⟨[], result, by rwa [List.append_nil]⟩
      refine ⟨good, rfl, pinpoints_char hbegins (by simp) (by simp) ?_⟩
      intro more found rest hfound
      rw [List.append_assoc] at hfound
      have hrest := (readEnding_eq_ok_iff.1 hfound).1
      rw [hgood] at hrest
      cases hrest

theorem readMethod_opening (t : Text) :
    readMethod ('(' :: t) = (readParams t).bind fun params rest =>
      (readEnding rest).map (MethodType.mk params) := by
  change (readParams t).bind _ = _
  congr 1
  funext params rest
  rw [readEnding]
  cases readResult rest with
  | fault reason spot rest => rfl
  | ok result rest =>
    change (expectEnd rest).map _ = ((expectEnd rest).map _).map _
    cases expectEnd rest <;> rfl

theorem readMethod_after_params (params : List FieldType) (t : Text) :
    readMethod ('(' :: (params.flatMap FieldType.descriptor ++ [')']) ++ t) =
      (readEnding t).map (MethodType.mk params) := by
  rw [List.cons_append, List.append_assoc, List.singleton_append, readMethod_opening,
    readParams_append]
  rfl

theorem begins_readMethod_nil : Begins readMethod [] :=
  ⟨"()".toList, ⟨[], none⟩, readMethod_eq_ok_iff.2 ⟨.inr ⟨rfl, rfl⟩, rfl⟩⟩

theorem Pinpoints.opening {good spot : Text} {reason : Reason}
    (h : Pinpoints readParams good spot reason) :
    Pinpoints readMethod ('(' :: good) spot reason := by
  change Pinpoints readMethod (['('] ++ good) spot reason
  apply h.lift
  · rintro front ⟨more, params, hread⟩
    refine ⟨more, ⟨params, none⟩, ?_⟩
    change readMethod ('(' :: (front ++ more)) = _
    rw [readMethod_opening, hread]
    rfl
  · intro front _ _ hrefuses more value rest hread
    change readMethod ('(' :: (front ++ more)) = _ at hread
    rw [readMethod_opening] at hread
    obtain ⟨params, mid, hparams, -⟩ := Reading.bind_eq_ok.1 hread
    exact hrefuses more params mid hparams

theorem readMethod_of_ne_opening {c : Char} (hc : c ≠ '(') (t : Text) :
    readMethod (c :: t) = .fault (.noOpening c) (c :: t) (c :: t) := by
  have hopening : readOpening (c :: t) = .fault (.noOpening c) (c :: t) (c :: t) := by
    unfold readOpening
    split
    · next heq => exact absurd (List.cons.inj heq).1 hc
    · rfl
  rw [readMethod, hopening]
  rfl

theorem pinpoints_noOpening {c : Char} (hc : c ≠ '(') (t : Text) :
    Pinpoints readMethod [] (c :: t) (.noOpening c) := by
  refine pinpoints_char begins_readMethod_nil (by simp) (by simp) ?_
  intro more value rest hread
  rw [List.nil_append, List.singleton_append, readMethod_of_ne_opening hc] at hread
  contradiction

theorem pinpoints_readMethod {d spot rest : Text} {reason : Reason}
    (h : readMethod d = .fault reason spot rest) :
    ∃ good, d = good ++ spot ∧ Pinpoints readMethod good spot reason := by
  cases d with
  | nil =>
    cases h
    exact ⟨[], rfl, pinpoints_end begins_readMethod_nil (by simp)⟩
  | cons c t =>
    by_cases hc : c = '('
    · subst hc
      rw [readMethod_opening] at h
      rcases Reading.bind_eq_fault.1 h with hparams | ⟨params, mid, hparams, hending⟩
      · obtain ⟨good, rfl, hplace⟩ := pinpoints_readParams hparams
        exact ⟨'(' :: good, rfl, hplace.opening⟩
      · rw [Reading.map_eq_fault] at hending
        obtain ⟨good, rfl, hplace⟩ := pinpoints_readEnding hending
        refine ⟨_, ?_, hplace.within (readMethod_after_params params)⟩
        rw [readParams_eq_ok hparams]
        simp
    · rw [readMethod_of_ne_opening hc] at h
      cases h
      exact ⟨[], rfl, pinpoints_noOpening hc t⟩

end Descriptor

open Descriptor

def MethodType.Accepts (d : Text) : Prop := ∃ m, MethodType.read d = .ok m

theorem Descriptor.begins_readMethod_iff {front : Text} :
    Begins readMethod front ↔ ∃ d, MethodType.Accepts d ∧ front <+: d := by
  constructor
  · rintro ⟨more, m, hread⟩
    refine ⟨front ++ more, ⟨m, ?_⟩, List.prefix_append front more⟩
    exact MethodType.read_eq_ok_iff.2 (readMethod_eq_ok_iff.1 hread).1
  · rintro ⟨d, ⟨m, hm⟩, more, rfl⟩
    exact ⟨more, m, readMethod_eq_ok_iff.2 ⟨MethodType.read_eq_ok_iff.1 hm, rfl⟩⟩

theorem Descriptor.Refuses.not_prefix {front d : Text} (h : Refuses readMethod front)
    (hd : MethodType.Accepts d) : ¬ front <+: d := by
  rintro ⟨more, rfl⟩
  obtain ⟨m, hm⟩ := hd
  exact h more m [] (readMethod_eq_ok_iff.2 ⟨MethodType.read_eq_ok_iff.1 hm, rfl⟩)

theorem MethodType.exists_of_read_eq_error {d : Text} {fault : Fault}
    (h : MethodType.read d = .error fault) :
    ∃ good spot, d = good ++ spot ∧ fault.descriptor = d ∧ fault.position = good.length ∧
      Pinpoints readMethod good spot fault.reason := by
  cases hread : readMethod d with
  | ok m rest =>
    rw [MethodType.read, hread] at h
    contradiction
  | fault reason spot rest =>
    rw [MethodType.read, hread] at h
    cases h
    obtain ⟨good, rfl, hplace⟩ := pinpoints_readMethod hread
    refine ⟨good, spot, rfl, rfl, ?_, hplace⟩
    change (good ++ spot).length - spot.length = good.length
    rw [List.length_append, Nat.add_sub_cancel]

theorem Descriptor.Reason.message_cases (reason : Reason) :
    reason = .unterminatedClassName ∨ reason = .emptyClassName ∨
      ∃ opening ∈ ["Unexpected", "Expected", "Unterminated a", "Invalid"],
        opening.toList <+: reason.message := by
  have hopens {opening words : String} (rest : Text) (h : opening.toList <+: words.toList) :
      opening.toList <+: words.toList ++ rest := h.trans (List.prefix_append _ _)
  cases reason with
  | unterminatedClassName => exact .inl rfl
  | emptyClassName => exact .inr (.inl rfl)
  | unexpectedEnd => exact .inr (.inr ⟨"Unexpected", by simp, by decide⟩)
  | unexpectedChar c => exact .inr (.inr ⟨"Unexpected", by simp, hopens _ (by decide)⟩)
  | noOpening got =>
    refine .inr (.inr ⟨"Expected", by simp, ?_⟩)
    cases got with
    | none => decide
    | some c => exact hopens _ (by decide)
  | unterminatedArguments => exact .inr (.inr ⟨"Unterminated a", by simp, by decide⟩)
  | trailing rest => exact .inr (.inr ⟨"Unexpected", by simp, hopens _ (by decide)⟩)
  | invalidUtf8 => exact .inr (.inr ⟨"Invalid", by simp, by decide⟩)

/-- Faults about class names can be told from all others by their wording. -/
theorem Descriptor.Reason.eq_of_message_eq {reason other : Reason}
    (hother : other = .unterminatedClassName ∨ other = .emptyClassName)
    (h : reason.message = other.message) : reason = other := by
  rcases reason.message_cases with rfl | rfl | ⟨opening, hopening, hprefix⟩
  · rcases hother with rfl | rfl
    · rfl
    · exact absurd h (by decide)
  · rcases hother with rfl | rfl
    · exact absurd h (by decide)
    · rfl
  · have hwords : ∀ opening ∈ ["Unexpected", "Expected", "Unterminated a", "Invalid"],
        ¬ opening.toList <+: Reason.unterminatedClassName.message ∧
        ¬ opening.toList <+: Reason.emptyClassName.message := by decide
    rw [h] at hprefix
    rcases hother with rfl | rfl
    · exact absurd hprefix (hwords opening hopening).1
    · exact absurd hprefix (hwords opening hopening).2

/-- The text before the place of a fault can be completed to a descriptor. So can the whole text if
    it lacks the end of a class name or the fault is at its end; in all other cases no descriptor
    goes on with the character at that place, or with both characters of an empty class name. -/
theorem fault_points_at_first_obstacle {d : Text} {fault : Fault}
    (h : MethodType.read d = .error fault) :
    fault.descriptor = d ∧ fault.position ≤ d.length ∧
    (∃ t, MethodType.Accepts t ∧ d.take fault.position <+: t) ∧
    (fault.reason.message = "Unterminated class name".toList ∨ fault.position = d.length →
      ∃ t, MethodType.Accepts t ∧ d <+: t ∧ d ≠ t) ∧
    (fault.reason.message ≠ "Unterminated class name".toList → fault.position ≠ d.length →
      fault.reason.message ≠ "Empty class name".toList →
      ∀ t, MethodType.Accepts t → ¬ d.take (fault.position + 1) <+: t) ∧
    (fault.reason.message = "Empty class name".toList →
      (d.drop fault.position).take 2 = "L;".toList ∧
      ∀ t, MethodType.Accepts t → ¬ d.take (fault.position + 2) <+: t) := by
  obtain ⟨good, spot, rfl, hdescriptor, hposition, hplace⟩ := MethodType.exists_of_read_eq_error h
  have htake (n : Nat) : (good ++ spot).take (good.length + n) = good ++ spot.take n :=
    List.take_length_add_append n
  have hspot : good.length ≠ (good ++ spot).length → spot ≠ [] := by
    rintro hne rfl
    simp at hne
  refine ⟨hdescriptor, ?_, ?_, fun hend => ?_, fun hunterminated hend hempty t ht => ?_,
    fun hempty => ?_⟩
  · rw [hposition, List.length_append]
    omega
  · rw [hposition, List.take_left]
    exact begins_readMethod_iff.1 hplace.begins
  · have hcut : spot = [] ∨ fault.reason = .unterminatedClassName := by
      rcases hend with hmessage | hlength
      · exact .inr (Reason.eq_of_message_eq (.inl rfl) hmessage)
      · rw [hposition, List.length_append] at hlength
        exact .inl (List.length_eq_zero_iff.1 (by omega))
    obtain ⟨t, ⟨m, hm⟩, hprefix⟩ := begins_readMethod_iff.1 (hplace.incomplete hcut)
    refine ⟨t, ⟨m, hm⟩, hprefix, ?_⟩
    rintro rfl
    rw [h] at hm
    contradiction
  · have hextent : fault.reason.extent = 1 := by
      unfold Reason.extent
      split
      · next heq => exact absurd (by rw [heq]; rfl) hempty
      · rfl
    have hrefuses := hplace.refuses (hspot (hposition ▸ hend))
      (fun heq => hunterminated (by rw [heq]; rfl))
    rw [hposition, htake, ← hextent]
    exact hrefuses.not_prefix ht
  · have hreason := Reason.eq_of_message_eq (.inr rfl) hempty
    obtain ⟨rest, rfl⟩ := hplace.emptyName hreason
    have hrefuses := hplace.refuses (List.cons_ne_nil _ _) (by simp [hreason])
    rw [hreason] at hrefuses
    rw [hposition, htake, List.drop_left]
    exact ⟨rfl, fun t ht => hrefuses.not_prefix ht⟩

/-- An empty class name after a parameter. -/
theorem empty_class_name_stops_descriptor :
    let d := "([La/b;L;I)V".toList
    let fault : Fault := ⟨d, 7, .emptyClassName⟩
    MethodType.read d = .error fault ∧
      (∃ t, MethodType.Accepts t ∧ "([La/b;".toList <+: t) ∧
      ∀ t, MethodType.Accepts t → ¬ "([La/b;L;".toList <+: t := by
  intro d fault
  have hread : MethodType.read d = .error fault := by decide +kernel
  obtain ⟨-, -, hbegins, -, -, hempty⟩ := fault_points_at_first_obstacle hread
  exact ⟨hread, hbegins, (hempty (by decide)).2⟩

end NativeLinkage
