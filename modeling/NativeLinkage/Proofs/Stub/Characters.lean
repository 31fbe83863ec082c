import NativeLinkage.Proofs.Descriptor.Inversion
import NativeLinkage.Proofs.Manifest.SingleLine
import NativeLinkage.Proofs.Symbol.Demangling

set_option autoImplicit false

namespace NativeLinkage

namespace Text

def isPlainChar (c : Char) : Bool := Identifier.isWordChar c || " *(),".toList.contains c

def Plain (t : Text) : Prop := ∀ c ∈ t, isPlainChar c = true

instance (t : Text) : Decidable (Plain t) :=
  decidable_of_iff (t.all isPlainChar = true) List.all_eq_true

section
variable {s t : Text}

theorem Plain.append (hs : Plain s) (ht : Plain t) : Plain (s ++ t) :=
  List.forall_mem_append.2 ⟨hs, ht⟩

theorem Plain.cons {c : Char} (hc : isPlainChar c = true) (ht : Plain t) : Plain (c :: t) :=
  List.forall_mem_cons.2 ⟨hc, ht⟩

theorem plain_of_isWordChar (h : ∀ c ∈ t, Identifier.isWordChar c = true) : Plain t :=
  fun c hc => Bool.or_eq_true_iff.2 (.inl (h c hc))

theorem Plain.not_mem (h : Plain t) {c : Char} (hc : isPlainChar c = false) : c ∉ t := by
  intro hmem
  rw [h c hmem] at hc
  contradiction

theorem Plain.not_mem_lineFeed (h : Plain t) : '\n' ∉ t := h.not_mem (by decide)

end

/-- Lines without line feeds are found again in the text that they make. -/
theorem splitOn_ofLines {lines : List Text} (h : ∀ line ∈ lines, '\n' ∉ line) (hne : lines ≠ []) :
    (ofLines lines).splitOn '\n' = lines :=
  List.splitOn_intercalate '\n' h hne

theorem isWordChar_of_mem_decimal (n : Nat) :
    ∀ c ∈ decimal n, Identifier.isWordChar c = true := by
  intro c hc
  have hdigit : c.isDigit = true := Nat.isDigit_of_mem_toDigits (by decide) (by decide) hc
  rw [Identifier.isWordChar, Char.isAlphanum, hdigit, Bool.or_true, Bool.true_or]

theorem isWordChar_of_mem_hex (width n : Nat) :
    ∀ c ∈ hex width n, Identifier.isWordChar c = true :=
  forall_mem_hex (by decide) width n

end Text

theorem Stub.forall_mem_listed {P : Char → Prop} (hmark : ∀ c ∈ ", ".toList, P c)
    {items : List Text} (h : ∀ t ∈ items, ∀ c ∈ t, P c) : ∀ c ∈ listed items, P c := by
  induction items with
  | nil => exact List.forall_mem_nil _
  | cons t items ih =>
    rw [List.forall_mem_cons] at h
    cases items with
    | nil => simpa only [listed, List.intercalate_singleton] using h.1
    | cons u items =>
      rw [listed, List.intercalate_cons_cons]
      exact List.forall_mem_append.2 ⟨List.forall_mem_append.2 ⟨h.1, hmark⟩, ih h.2⟩

theorem Stub.plain_listed {items : List Text} (h : ∀ t ∈ items, Text.Plain t) :
    Text.Plain (listed items) :=
  forall_mem_listed (show Text.Plain ", ".toList by decide) h

namespace Symbol

theorem isWordChar_of_mem_escapeUnit (unit : Nat) :
    ∀ c ∈ escapeUnit unit, Identifier.isWordChar c = true :=
  List.forall_mem_cons.2 ⟨by decide, List.forall_mem_cons.2
    ⟨by decide, Text.isWordChar_of_mem_hex 4 unit⟩⟩

theorem isWordChar_of_mem_mangleChar (c : Char) :
    ∀ d ∈ mangleChar c, Identifier.isWordChar d = true := by
  unfold mangleChar
  split
  · next hc =>
    refine List.forall_mem_singleton.2 ?_
    rw [Identifier.isWordChar, hc, Bool.true_or]
  · split
    · exact List.all_eq_true.1 (by decide)
    · exact List.all_eq_true.1 (by decide)
    · exact List.all_eq_true.1 (by decide)
    · exact List.all_eq_true.1 (by decide)
    · intro d hd
      obtain ⟨unit, -, hunit⟩ := List.mem_flatMap.1 hd
      exact isWordChar_of_mem_escapeUnit unit d hunit

theorem plain_mangle (t : Text) : Text.Plain (mangle t) := by
  apply Text.plain_of_isWordChar
  intro d hd
  obtain ⟨c, -, hc⟩ := List.mem_flatMap.1 hd
  exact isWordChar_of_mem_mangleChar c d hc

theorem plain_ofMethod (className methodName : Text) (params : Option Text) :
    Text.Plain (ofMethod className methodName params) := by
  have hsuffix : Text.Plain (parameterSuffix params) := by
    cases params with
    | none => exact List.forall_mem_nil _
    | some params => exact .cons (by decide) (.cons (by decide) (plain_mangle params))
  have hjava : Text.Plain "Java_".toList := by decide
  exact (hjava.append (plain_mangle className)).append
    (.cons (by decide) (plain_mangle methodName)) |>.append hsuffix

end Symbol

theorem FieldType.isWordChar_of_mem_nativeType (t : FieldType) :
    ∀ c ∈ t.nativeType, Identifier.isWordChar c = true := by
  apply List.all_eq_true.1
  cases t with
  | base b => cases b <;> decide
  | object name =>
    change (if (object name).isString then "jstring".toList else "jobject".toList).all _ = true
    split <;> decide
  | array component =>
    change "jarray".toList.all _ = true
    decide

theorem FieldType.plain_nativeType (t : FieldType) : Text.Plain t.nativeType :=
  Text.plain_of_isWordChar t.isWordChar_of_mem_nativeType

theorem MethodType.not_mem_descriptor {d : Text} {m : MethodType}
    (h : MethodType.read d = .ok m) (hd : '\n' ∉ d) : '\n' ∉ m.descriptor := by
  rcases MethodType.read_eq_ok_iff.1 h with rfl | ⟨hvoid, rfl⟩
  · exact hd
  · simpa [MethodType.descriptor, hvoid, MethodType.resultDescriptor] using hd

namespace Stub

/-- What is written of a stub stays on its line, and its code is plain but for the target. -/
structure SingleLine (s : Stub) : Prop where
  qualifiedName : '\n' ∉ s.qualifiedName
  descriptor : '\n' ∉ s.descriptor
  target : '\n' ∉ s.target
  symbol : Text.Plain s.symbol
  params : ∀ p ∈ s.params, Text.Plain p.type ∧ Text.Plain p.name
  returnType : ∀ t ∈ s.returnType, Text.Plain t

theorem isWordChar_of_mem_numbered {types : List FieldType} :
    ∀ p ∈ numbered types, (∀ c ∈ p.type, Identifier.isWordChar c = true) ∧
      ∀ c ∈ p.name, Identifier.isWordChar c = true := by
  intro p hp
  obtain ⟨⟨type, i⟩, -, rfl⟩ := List.mem_map.1 hp
  refine ⟨type.isWordChar_of_mem_nativeType, ?_⟩
  exact List.forall_mem_append.2 ⟨List.all_eq_true.1 (by decide), Text.isWordChar_of_mem_decimal i⟩

theorem plain_of_mem_numbered {types : List FieldType} :
    ∀ p ∈ numbered types, Text.Plain p.type ∧ Text.Plain p.name := by
  intro p hp
  obtain ⟨htype, hname⟩ := isWordChar_of_mem_numbered p hp
  exact ⟨Text.plain_of_isWordChar htype, Text.plain_of_isWordChar hname⟩

section
variable {s : Stub} (h : s.SingleLine)
include h

theorem SingleLine.plain_nativeReturn : Text.Plain s.nativeReturn := by
  have hvoid : Text.Plain NativeType.void := by decide
  unfold nativeReturn
  split
  · exact hvoid
  · exact hvoid
  · next type _ htype => exact h.returnType type htype

theorem SingleLine.plain_paramList : Text.Plain s.paramList := by
  apply plain_listed
  intro t ht
  obtain ⟨p, hp, rfl⟩ := List.mem_map.1 ht
  obtain ⟨htype, hname⟩ := h.params p hp
  exact htype.append (.cons (by decide) hname)

theorem SingleLine.plain_callArgs : Text.Plain s.callArgs := by
  apply plain_listed
  intro t ht
  obtain ⟨p, hp, rfl⟩ := List.mem_map.1 ht
  exact (h.params p hp).2

theorem SingleLine.plain_prototype : Text.Plain s.prototype := by
  have hexport : Text.Plain "JNIEXPORT ".toList := by decide
  have hcall : Text.Plain " JNICALL ".toList := by decide
  have hclosing : Text.Plain [')'] := by decide
  have hparams : Text.Plain ('(' :: s.paramList) := .cons (by decide) h.plain_paramList
  have hreturn := (hexport.append h.plain_nativeReturn).append hcall
  exact ((hreturn.append h.symbol).append hparams).append hclosing

end

end Stub

theorem Request.SingleLine.qualifiedName {r : Request} (h : r.SingleLine) :
    '\n' ∉ r.qualifiedName := by
  rw [Request.qualifiedName, List.mem_append, List.mem_cons]
  rintro (hclass | hdot | hmethod)
  · obtain ⟨c, hc, hreplaced⟩ := List.mem_map.1 hclass
    split at hreplaced
    · contradiction
    · exact h.className (hreplaced ▸ hc)
  · contradiction
  · exact h.methodName hmethod

theorem Request.SingleLine.stub {r : Request} (h : r.SingleLine) {s : Stub}
    (hs : r.stub = .ok s) : s.SingleLine := by
  obtain ⟨type, htype, rfl⟩ := Request.stub_eq_ok_iff.1 hs
  refine ⟨h.qualifiedName, MethodType.not_mem_descriptor htype h.descriptor, h.target,
    Symbol.plain_ofMethod _ _ _, ?_, ?_⟩
  · refine List.forall_mem_append.2 ⟨?_, Stub.plain_of_mem_numbered⟩
    decide
  · intro t ht
    obtain ⟨result, -, rfl⟩ := Option.map_eq_some_iff.1 ht
    exact result.plain_nativeType

theorem Identifier.isWordChar_of_isValid {t : Text} (h : isValid t = true) :
    ∀ c ∈ t, isWordChar c = true := by
  cases t with
  | nil => contradiction
  | cons first rest =>
    simp only [isValid, Bool.and_eq_true, List.all_eq_true] at h
    exact List.forall_mem_cons.2 ⟨h.1.2, h.2⟩

theorem isWordChar_toUpper {c : Char} (h : Identifier.isWordChar c = true) :
    c.toNat < 0x80 ∧ Identifier.isWordChar c.toUpper = true := by
  have hascii : c.toNat < 0x80 := by
    rcases Bool.or_eq_true_iff.1 h with halphanum | hunderscore
    · exact Symbol.isAlphanum_lt halphanum
    · rw [eq_of_beq hunderscore]
      decide
  have hupper : ∀ n < 0x80, Identifier.isWordChar (Char.ofNat n) = true →
      Identifier.isWordChar (Char.ofNat n).toUpper = true := by decide +kernel
  have hc := hupper c.toNat hascii
  rw [Char.ofNat_toNat] at hc
  exact ⟨hascii, hc h⟩

theorem Unicode.uppercaseChar_of_ascii {c : Char} (h : c.toNat < 0x80) :
    uppercaseChar c = [c.toUpper] :=
  if_pos h

namespace Header

theorem plain_guard {baseName : Text} (h : Identifier.isValid baseName = true) :
    Text.Plain (guard baseName) := by
  refine .append ?_ (by decide)
  apply Text.plain_of_isWordChar
  intro d hd
  obtain ⟨c, hc, hdc⟩ := List.mem_flatMap.1 hd
  have hword := Identifier.isWordChar_of_isValid h c hc
  obtain ⟨hascii, hupper⟩ := isWordChar_toUpper hword
  rw [Unicode.uppercaseChar_of_ascii hascii, List.mem_singleton] at hdc
  rwa [hdc]

theorem not_mem_comment {s : Stub} (h : s.SingleLine) : '\n' ∉ comment s := by
  simp [comment, h.qualifiedName, h.descriptor]

theorem not_mem_declaration {s : Stub} (h : s.SingleLine) :
    ∀ line ∈ declaration s, '\n' ∉ line := by
  refine List.forall_mem_cons.2 ⟨not_mem_comment h, List.forall_mem_singleton.2 ?_⟩
  simpa using h.plain_prototype.not_mem_lineFeed

theorem not_mem_lines {baseName : Text} (hname : Identifier.isValid baseName = true)
    {stubs : List Stub} (h : ∀ s ∈ stubs, s.SingleLine) :
    ∀ line ∈ lines baseName stubs, '\n' ∉ line := by
  have hguard := (plain_guard hname).not_mem_lineFeed
  refine List.forall_mem_append.2 ⟨List.forall_mem_append.2 ⟨?_, ?_⟩, ?_⟩
  · refine List.forall_mem_cons.2 ⟨by decide, List.forall_mem_cons.2 ⟨?_,
      List.forall_mem_cons.2 ⟨?_, by decide⟩⟩⟩
    · simpa using hguard
    · simpa using hguard
  · intro line hline
    obtain ⟨s, hs, hdeclaration⟩ := List.mem_flatMap.1 hline
    exact not_mem_declaration (h s hs) line hdeclaration
  · have hlast : '\n' ∉ "#endif // ".toList ++ guard baseName := by simpa using hguard
    simpa [closing] using hlast

end Header

end NativeLinkage
