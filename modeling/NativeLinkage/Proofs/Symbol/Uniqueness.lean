import NativeLinkage.Proofs.Descriptor.Inversion
import NativeLinkage.Proofs.Symbol.Demangling
import NativeLinkage.Stub

set_option autoImplicit false

/-!
Different native methods have different symbols. The separators of a symbol are mangled slashes: one
before every segment of the class name and before the method name, two before the parameters. No
segment is empty, so two slashes in a row first occur before the parameters, whatever these hold.
-/
namespace NativeLinkage.Symbol

def LegalSegment (segment : Text) : Prop :=
  segment ≠ [] ∧ '/' ∉ segment ∧ ∀ c ∈ segment.head?, isEscapeDigit c = false

instance : DecidablePred LegalSegment
  | [] => isFalse fun h => h.1 rfl
  | c :: rest =>
    decidable_of_iff ('/' ∉ c :: rest ∧ isEscapeDigit c = false) (by simp [LegalSegment])

def LegalClassName (name : Text) : Prop := ∀ segment ∈ Text.splitAll '/' name, LegalSegment segment

instance (name : Text) : Decidable (LegalClassName name) :=
  inferInstanceAs (Decidable (∀ segment ∈ Text.splitAll '/' name, _))

/-- No parameters at all, as in the short form of a symbol, or the descriptors of types. -/
def LegalParams : Option Text → Prop
  | none => True
  | some params => ∃ types : List FieldType,
      (∀ t ∈ types, Readable t.descriptor) ∧ params = types.flatMap FieldType.descriptor

structure Legal (className methodName : Text) (params : Option Text) : Prop where
  className : LegalClassName className
  methodName : LegalSegment methodName
  params : LegalParams params

theorem readable_append {s t : Text} (hs : Readable s) (ht : Readable t)
    (h : ∀ c ∈ t.head?, isEscapeDigit c = false) : Readable (s ++ t) :=
  List.isChain_append.2 ⟨hs, ht, fun _ _ c hc _ => h c hc⟩

theorem readable_slash_cons {t : Text} (ht : Readable t)
    (h : ∀ c ∈ t.head?, isEscapeDigit c = false) : Readable ('/' :: t) :=
  List.isChain_cons.2 ⟨fun c hc _ => h c hc, ht⟩

theorem readable_of_not_mem {t : Text} (h : '/' ∉ t) : Readable t := by
  induction t with
  | nil => exact List.isChain_nil
  | cons c t ih =>
    rw [List.mem_cons, not_or] at h
    exact List.isChain_cons.2 ⟨fun d _ hc => absurd hc.symm h.1, ih h.2⟩

theorem isEscapeDigit_initial (t : FieldType) : isEscapeDigit t.initial = false := by
  cases t with
  | base b => cases b <;> rfl
  | object name => rfl
  | array component => rfl

theorem head_descriptors (types : List FieldType) :
    ∀ c ∈ (types.flatMap FieldType.descriptor).head?, isEscapeDigit c = false := by
  cases types with
  | nil => simp
  | cons t types =>
    obtain ⟨tail, htail⟩ := t.descriptor_eq_initial_cons
    intro c hc
    rw [List.flatMap_cons, htail] at hc
    cases hc
    exact isEscapeDigit_initial t

theorem readable_descriptors {types : List FieldType} (h : ∀ t ∈ types, Readable t.descriptor) :
    Readable (types.flatMap FieldType.descriptor) := by
  induction types with
  | nil => exact List.isChain_nil
  | cons t types ih =>
    rw [List.forall_mem_cons] at h
    exact readable_append h.1 (ih h.2) (head_descriptors types)

def slashed (parts : List Text) : Text := parts.flatMap ('/' :: ·)

theorem slashed_cons (part : Text) (parts : List Text) :
    slashed (part :: parts) = '/' :: (part ++ slashed parts) := rfl

theorem slashed_append (parts others : List Text) :
    slashed (parts ++ others) = slashed parts ++ slashed others :=
  List.flatMap_append

theorem slashed_splitAll (t : Text) : slashed (Text.splitAll '/' t) = '/' :: t := by
  induction t with
  | nil => rfl
  | cons c t ih =>
    unfold Text.splitAll
    by_cases hc : c = '/'
    · rw [if_pos hc, slashed_cons, ih, hc, List.nil_append]
    · rw [if_neg hc]
      split
      · next hnil =>
        rw [hnil] at ih
        contradiction
      · next part parts hparts =>
        rw [hparts, slashed_cons] at ih
        rw [slashed_cons, List.cons_append, (List.cons.inj ih).2]

theorem splitAll_inj {s t : Text} (h : Text.splitAll '/' s = Text.splitAll '/' t) : s = t := by
  have hslashed := congrArg slashed h
  rw [slashed_splitAll, slashed_splitAll] at hslashed
  exact (List.cons.inj hslashed).2

/-- The parameters behind the two slashes that set them off. -/
def setOff : Option Text → Text
  | none => []
  | some params => '/' :: '/' :: params

def path (className methodName : Text) : List Text := Text.splitAll '/' className ++ [methodName]

theorem mangle_slash_cons (t : Text) : mangle ('/' :: t) = '_' :: mangle t := rfl

theorem parameterSuffix_eq_mangle (params : Option Text) :
    parameterSuffix params = mangle (setOff params) := by
  cases params with
  | none => rfl
  | some params => rfl

theorem ofMethod_eq_mangle (className methodName : Text) (params : Option Text) :
    ofMethod className methodName params =
      "Java".toList ++ mangle (slashed (path className methodName) ++ setOff params) := by
  have hpath : slashed (path className methodName) = '/' :: (className ++ '/' :: methodName) := by
    rw [path, slashed_append, slashed_splitAll, slashed_cons]
    simp [slashed]
  have hmangle : mangle ('/' :: (className ++ '/' :: methodName)) =
      '_' :: (mangle className ++ '_' :: mangle methodName) := by
    rw [mangle_slash_cons, mangle_append className, mangle_slash_cons methodName]
  have hfirst : "Java_".toList = "Java".toList ++ ['_'] := by decide
  change "Java_".toList ++ mangle className ++ '_' :: mangle methodName ++
    parameterSuffix params = _
  rw [hpath, mangle_append _ (setOff params), hmangle, parameterSuffix_eq_mangle, hfirst]
  simp only [List.append_assoc, List.cons_append, List.nil_append]

theorem append_inj_of_slash {s t x y : Text} (hs : '/' ∉ s) (ht : '/' ∉ t)
    (hx : ∀ c ∈ x.head?, c = '/') (hy : ∀ c ∈ y.head?, c = '/') (h : s ++ x = t ++ y) :
    s = t ∧ x = y := by
  have htake := Text.takeWhile_ne_append hs hx
  have hdrop := Text.dropWhile_ne_append hs hx
  rw [h, Text.takeWhile_ne_append ht hy] at htake
  rw [h, Text.dropWhile_ne_append ht hy] at hdrop
  exact ⟨htake.symm, hdrop.symm⟩

theorem head_slashed_setOff (parts : List Text) (params : Option Text) :
    ∀ c ∈ (slashed parts ++ setOff params).head?, c = '/' := by
  cases parts with
  | nil =>
    cases params with
    | none => intro c hc; cases hc
    | some params => intro c hc; cases hc; rfl
  | cons part parts => intro c hc; cases hc; rfl

/-- A part is not empty and has no slash, so that it does not begin where parameters are set
    off. -/
theorem slashed_cons_ne_setOff {part : Text} (hpart : LegalSegment part) (x : Text)
    (params : Option Text) : '/' :: (part ++ x) ≠ setOff params := by
  obtain ⟨hne, hslash, -⟩ := hpart
  cases part with
  | nil => exact absurd rfl hne
  | cons c part =>
    intro h
    cases params with
    | none => contradiction
    | some params =>
      have hc : c = '/' := (List.cons.inj (List.cons.inj h).2).1
      exact hslash (hc ▸ List.mem_cons_self)

theorem slashed_setOff_inj {parts others : List Text} {params params' : Option Text}
    (hparts : ∀ part ∈ parts, LegalSegment part) (hothers : ∀ part ∈ others, LegalSegment part)
    (h : slashed parts ++ setOff params = slashed others ++ setOff params') :
    parts = others ∧ setOff params = setOff params' := by
  induction parts generalizing others with
  | nil =>
    cases others with
    | nil => exact ⟨rfl, h⟩
    | cons other others =>
      rw [slashed_cons, List.cons_append, List.append_assoc] at h
      exact absurd h.symm (slashed_cons_ne_setOff (hothers other List.mem_cons_self) _ _)
  | cons part parts ih =>
    cases others with
    | nil =>
      rw [slashed_cons, List.cons_append, List.append_assoc] at h
      exact absurd h (slashed_cons_ne_setOff (hparts part List.mem_cons_self) _ _)
    | cons other others =>
      rw [List.forall_mem_cons] at hparts hothers
      rw [slashed_cons, slashed_cons, List.cons_append, List.cons_append, List.append_assoc,
        List.append_assoc] at h
      obtain ⟨rfl, hrest⟩ := append_inj_of_slash hparts.1.2.1 hothers.1.2.1
        (head_slashed_setOff parts params) (head_slashed_setOff others params')
        (List.cons.inj h).2
      obtain ⟨rfl, hparams⟩ := ih hparts.2 hothers.2 hrest
      exact ⟨rfl, hparams⟩

theorem setOff_inj {params params' : Option Text} (h : setOff params = setOff params') :
    params = params' := by
  cases params with
  | none =>
    cases params' with
    | none => rfl
    | some params' => contradiction
  | some params =>
    cases params' with
    | none => contradiction
    | some params' => rw [(List.cons.inj (List.cons.inj h).2).2]

theorem readable_slashed {parts : List Text} (h : ∀ part ∈ parts, LegalSegment part) :
    Readable (slashed parts) := by
  induction parts with
  | nil => exact List.isChain_nil
  | cons part parts ih =>
    rw [List.forall_mem_cons] at h
    obtain ⟨⟨hne, hslash, hhead⟩, hparts⟩ := h
    have hnext : ∀ c ∈ (slashed parts).head?, isEscapeDigit c = false := by
      intro c hc
      have hc' := head_slashed_setOff parts none c
      rw [setOff, List.append_nil] at hc'
      rw [hc' hc]
      rfl
    rw [slashed_cons]
    refine readable_slash_cons (readable_append (readable_of_not_mem hslash) (ih hparts) hnext) ?_
    cases part with
    | nil => exact absurd rfl hne
    | cons c part => exact hhead

theorem readable_setOff {params : Option Text} (h : LegalParams params) :
    Readable (setOff params) := by
  cases params with
  | none => exact List.isChain_nil
  | some params =>
    obtain ⟨types, htypes, rfl⟩ := h
    refine readable_slash_cons
      (readable_slash_cons (readable_descriptors htypes) (head_descriptors types)) ?_
    intro c hc
    cases hc
    rfl

section
variable {className className' methodName methodName' : Text} {params params' : Option Text}

theorem Legal.path (h : Legal className methodName params) :
    ∀ part ∈ path className methodName, LegalSegment part := by
  intro part hpart
  rw [Symbol.path, List.mem_append, List.mem_singleton] at hpart
  rcases hpart with hpart | rfl
  · exact h.className part hpart
  · exact h.methodName

theorem Legal.readable (h : Legal className methodName params) :
    Readable (slashed (Symbol.path className methodName) ++ setOff params) := by
  refine readable_append (readable_slashed h.path) (readable_setOff h.params) ?_
  cases params with
  | none => intro c hc; cases hc
  | some params => intro c hc; cases hc; rfl

theorem ofMethod_inj (h : Legal className methodName params)
    (h' : Legal className' methodName' params')
    (heq : ofMethod className methodName params = ofMethod className' methodName' params') :
    className = className' ∧ methodName = methodName' ∧ params = params' := by
  rw [ofMethod_eq_mangle, ofMethod_eq_mangle, List.append_cancel_left_eq] at heq
  obtain ⟨hpath, hparams⟩ :=
    slashed_setOff_inj h.path h'.path (mangle_inj h.readable h'.readable heq)
  obtain ⟨hclass, hmethod⟩ := List.append_inj' hpath rfl
  exact ⟨splitAll_inj hclass, (List.cons.inj hmethod).1, setOff_inj hparams⟩

end

/-- The parts of a legal symbol can be told from it, and requests for legal methods share their
    symbol exactly when they ask for the same method. -/
theorem symbol_determines_method :
    (∀ (c c' m m' : Text) (p p' : Option Text), Legal c m p → Legal c' m' p' →
      (ofMethod c m p = ofMethod c' m' p' ↔ c = c' ∧ m = m' ∧ p = p')) ∧
    (∀ (r r' : Request) (t t' : MethodType),
      MethodType.read r.descriptor = .ok t → MethodType.read r'.descriptor = .ok t' →
      Legal r.className r.methodName (some t.paramsDescriptor) →
      Legal r'.className r'.methodName (some t'.paramsDescriptor) →
      ∃ s s', r.stub = .ok s ∧ r'.stub = .ok s' ∧
        (s.symbol = s'.symbol ↔
          r.className = r'.className ∧ r.methodName = r'.methodName ∧ t.params = t'.params)) := by
  constructor
  · intro c c' m m' p p' h h'
    constructor
    · exact ofMethod_inj h h'
    · rintro ⟨rfl, rfl, rfl⟩
      rfl
  · intro r r' t t' ht ht' h h'
    refine ⟨r.stubOfType t, r'.stubOfType t', ?_, ?_, ?_⟩
    · exact Request.stub_eq_ok_iff.2 ⟨t, ht, rfl⟩
    · exact Request.stub_eq_ok_iff.2 ⟨t', ht', rfl⟩
    · change ofMethod r.className r.methodName _ = ofMethod r'.className r'.methodName _ ↔ _
      constructor
      · intro heq
        obtain ⟨hclass, hmethod, hparams⟩ := ofMethod_inj h h' heq
        exact ⟨hclass, hmethod, params_eq_of_flatMap_descriptor (Option.some.inj hparams)⟩
      · rintro ⟨hclass, hmethod, hparams⟩
        rw [hclass, hmethod, MethodType.paramsDescriptor, hparams, ← MethodType.paramsDescriptor]

/-- The short form and the long form without parameters differ, and so do two methods whose
    names hold underscores where the others have a slash. -/
theorem symbol_tells_forms_and_methods_apart :
    ofMethod "a/_B".toList "_f".toList none ≠ ofMethod "a/_B".toList "_f".toList (some []) ∧
    ∃ s s' : Stub,
      (⟨"a/B".toList, "c".toList, "([Lq/_D;)I".toList, []⟩ : Request).stub = .ok s ∧
      (⟨"a".toList, "B_c".toList, "([Lq/_D;)V".toList, []⟩ : Request).stub = .ok s' ∧
      s.symbol ≠ s'.symbol := by
  have hshort : Legal "a/_B".toList "_f".toList none := ⟨by decide, by decide, trivial⟩
  have hlong : Legal "a/_B".toList "_f".toList (some []) :=
    ⟨by decide, by decide, [], by simp, rfl⟩
  let d : ClassName := ⟨"q/_D".toList, by decide, by decide⟩
  have hd : ∀ t ∈ [FieldType.array (.object d)], Readable t.descriptor := by
    intro t ht
    rw [List.mem_singleton] at ht
    rw [ht]
    decide
  have hslash : Legal "a/B".toList "c".toList (some "[Lq/_D;".toList) :=
    ⟨by decide, by decide, _, hd, by decide⟩
  have hunderscore : Legal "a".toList "B_c".toList (some "[Lq/_D;".toList) :=
    ⟨by decide, by decide, _, hd, by decide⟩
  constructor
  · intro heq
    exact absurd ((symbol_determines_method.1 _ _ _ _ _ _ hshort hlong).1 heq).2.2 (by decide)
  · obtain ⟨s, s', hs, hs', hiff⟩ := symbol_determines_method.2
      ⟨"a/B".toList, "c".toList, "([Lq/_D;)I".toList, []⟩
      ⟨"a".toList, "B_c".toList, "([Lq/_D;)V".toList, []⟩
      ⟨[.array (.object d)], some (.base .int)⟩ ⟨[.array (.object d)], none⟩
      (MethodType.read_eq_ok_iff.2 (.inl (by decide)))
      (MethodType.read_eq_ok_iff.2 (.inl (by decide))) hslash hunderscore
    refine ⟨s, s', hs, hs', fun heq => ?_⟩
    exact absurd (hiff.1 heq).1 (by decide)

end NativeLinkage.Symbol
