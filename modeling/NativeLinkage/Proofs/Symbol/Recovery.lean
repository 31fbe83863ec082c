import NativeLinkage.Proofs.Stub.Characters

set_option autoImplicit false

namespace NativeLinkage.Symbol
open Unicode

theorem isWordChar_iff {c : Char} :
    Identifier.isWordChar c = true ↔ c.isAlphanum = true ∨ c = '_' := by
  simp [Identifier.isWordChar]

theorem isWordChar_of_mem_mangle (t : Text) :
    ∀ d ∈ mangle t, Identifier.isWordChar d = true := by
  intro d hd
  obtain ⟨c, -, hc⟩ := List.mem_flatMap.1 hd
  exact isWordChar_of_mem_mangleChar c d hc

theorem isWordChar_of_mem_ofMethod (className methodName : Text) (params : Option Text) :
    ∀ d ∈ ofMethod className methodName params, Identifier.isWordChar d = true := by
  have hjava : ∀ d ∈ "Java_".toList, Identifier.isWordChar d = true :=
    List.all_eq_true.1 (by decide)
  have hmethod : ∀ d ∈ '_' :: mangle methodName, Identifier.isWordChar d = true :=
    List.forall_mem_cons.2 ⟨by decide, isWordChar_of_mem_mangle methodName⟩
  have hsuffix : ∀ d ∈ parameterSuffix params, Identifier.isWordChar d = true := by
    cases params with
    | none => exact List.forall_mem_nil _
    | some params =>
      exact List.forall_mem_cons.2 ⟨by decide, List.forall_mem_cons.2
        ⟨by decide, isWordChar_of_mem_mangle params⟩⟩
  have hclass := List.forall_mem_append.2 ⟨hjava, isWordChar_of_mem_mangle className⟩
  exact List.forall_mem_append.2 ⟨List.forall_mem_append.2 ⟨hclass, hmethod⟩, hsuffix⟩

/-- The rules by which mangled text is read. An escape is an underscore with 1, 2 or 3, or with 0 and
    the four digits of a UTF-16 unit, and two escapes of a high and a low surrogate are one
    character; every other underscore is a `/`, and every other character stands for itself. -/
structure ReadsEscapes (decode : Text → Text) : Prop where
  nil : decode [] = []
  literal {c : Char} (h : c ≠ '_') (t : Text) : decode (c :: t) = c :: decode t
  underscore (t : Text) : decode ('_' :: '1' :: t) = '_' :: decode t
  semicolon (t : Text) : decode ('_' :: '2' :: t) = ';' :: decode t
  bracket (t : Text) : decode ('_' :: '3' :: t) = '[' :: decode t
  unit {digits : Text} {c : Char} (hlength : digits.length = 4)
    (hvalue : Text.ofHex? digits = some c.toNat) (t : Text) :
    decode ('_' :: '0' :: (digits ++ t)) = c :: decode t
  pair {digits digits' : Text} {high low : Nat} (hlength : digits.length = 4)
    (hlength' : digits'.length = 4) (hvalue : Text.ofHex? digits = some high)
    (hvalue' : Text.ofHex? digits' = some low) (hhigh : isHighSurrogate high = true)
    (hlow : isLowSurrogate low = true) (t : Text) :
    decode ('_' :: '0' :: (digits ++ '_' :: '0' :: (digits' ++ t))) =
      Char.ofNat (0x10000 + (high - 0xd800) * 0x400 + (low - 0xdc00)) :: decode t
  slash {t : Text} (h : escaped? t = none) : decode ('_' :: t) = '/' :: decode t

theorem isHighSurrogate_toNat (c : Char) : isHighSurrogate c.toNat = false := by
  have hvalid := toNat_valid c
  simp only [isHighSurrogate, Bool.and_eq_false_iff, decide_eq_false_iff_not]
  omega

theorem ofUnits_toNat_cons (c : Char) (units : List Nat) :
    ofUnits (c.toNat :: units) = c :: ofUnits units := by
  rw [ofUnits_single_append (isHighSurrogate_toNat c), Char.ofNat_toNat]

theorem escaped?_digits {digits : Text} {unit : Nat} (hlength : digits.length = 4)
    (hvalue : Text.ofHex? digits = some unit) (t : Text) :
    escaped? ('0' :: (digits ++ t)) = some (unit, t) := by
  match digits, hlength with
  | [a, b, c, d], _ =>
    change (Text.ofHex? [a, b, c, d]).map (fun unit => (unit, t)) = _
    rw [hvalue]
    rfl

theorem demangle_of_escaped {t rest : Text} {c : Char} (h : escaped? t = some (c.toNat, rest)) :
    demangle ('_' :: t) = c :: demangle rest := by
  rw [demangle, demangledUnits_of_escaped h, ofUnits_toNat_cons]
  rfl

theorem readsEscapes_demangle : ReadsEscapes demangle where
  nil := by rw [demangle, demangledUnits_nil]; rfl
  literal h t := by rw [demangle, demangledUnits_of_ne h, ofUnits_toNat_cons]; rfl
  underscore t := demangle_of_escaped rfl
  semicolon t := demangle_of_escaped rfl
  bracket t := demangle_of_escaped rfl
  unit hlength hvalue t := demangle_of_escaped (escaped?_digits hlength hvalue t)
  pair hlength hlength' hvalue hvalue' hhigh hlow t := by
    rw [demangle, demangledUnits_of_escaped (escaped?_digits hlength hvalue _),
      demangledUnits_of_escaped (escaped?_digits hlength' hvalue' t), ofUnits, hhigh, hlow]
    rfl
  slash h := by rw [demangle, demangledUnits_of_slash h, ofUnits_toNat_cons]; rfl

theorem isEscapeDigit_iff {c : Char} : isEscapeDigit c = true ↔ c ∈ "0123".toList := by
  simp [isEscapeDigit, or_assoc]

theorem readable_iff {t : Text} : Readable t ↔ ∀ d ∈ "0123".toList, ¬ ['/', d] <:+: t := by
  rw [Readable, List.isChain_iff_forall_rel_of_append_cons_cons]
  constructor
  · rintro h d hd ⟨before, after, rfl⟩
    have hsplit : before ++ ['/', d] ++ after = before ++ '/' :: d :: after := by simp
    have hfalse := h hsplit rfl
    rw [isEscapeDigit_iff.2 hd] at hfalse
    contradiction
  · rintro h a b before after rfl rfl
    refine Bool.eq_false_iff.2 fun hb => h b (isEscapeDigit_iff.1 hb) ?_
    exact ⟨before, after, by simp⟩

/-- Text without a `/` directly before one of the digits 0 to 3 is mangled to ASCII letters, digits
    and underscores, from which reading the escapes from left to right gives it back; so such texts
    are told apart by what they are mangled to. -/
theorem mangled_text_reads_back :
    ReadsEscapes demangle ∧
    (∀ t : Text, (∀ d ∈ "0123".toList, ¬ ['/', d] <:+: t) →
      (∀ c ∈ mangle t, c.isAlphanum = true ∨ c = '_') ∧ demangle (mangle t) = t) ∧
    ∀ s t : Text, (∀ d ∈ "0123".toList, ¬ ['/', d] <:+: s) →
      (∀ d ∈ "0123".toList, ¬ ['/', d] <:+: t) → mangle s = mangle t → s = t := by
  refine ⟨readsEscapes_demangle, fun t ht => ⟨fun c hc => ?_, ?_⟩, fun s t hs ht h => ?_⟩
  · exact isWordChar_iff.1 (isWordChar_of_mem_mangle t c hc)
  · exact demangle_mangle (readable_iff.2 ht)
  · exact mangle_inj (readable_iff.2 hs) (readable_iff.2 ht) h

/-- A digit after an underscore, a slash between the two, and a character of two units. -/
theorem underscored_digit_reads_back :
    (∀ d ∈ "0123".toList, ¬ ['/', d] <:+: "_1/_;/[𝕊".toList) ∧
      mangle "_1/_;/[𝕊".toList = "_11__1_2__3_0d835_0dd4a".toList ∧
      demangle "_11__1_2__3_0d835_0dd4a".toList = "_1/_;/[𝕊".toList := by
  have hreadable : ∀ d ∈ "0123".toList, ¬ ['/', d] <:+: "_1/_;/[𝕊".toList :=
    readable_iff.1 (by decide)
  have hmangle : mangle "_1/_;/[𝕊".toList = "_11__1_2__3_0d835_0dd4a".toList := by
    decide +kernel
  obtain ⟨-, hback⟩ := mangled_text_reads_back.2.1 _ hreadable
  rw [hmangle] at hback
  exact ⟨hreadable, hmangle, hback⟩

end NativeLinkage.Symbol
