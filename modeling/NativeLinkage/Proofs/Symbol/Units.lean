import NativeLinkage.Proofs.Symbol.Demangling

set_option autoImplicit false

/-!
Mangling goes unit by unit. It is defined on code points, as text is, while the virtual machine
looks symbols up by UTF-16 units; so what a text is mangled to is put together here from what
becomes of each unit alone. UTF-16 is stated from its decoding side: which units stand for a code
point.
-/
namespace NativeLinkage

namespace Unicode

theorem CodePoint.toNat_lt (p : CodePoint) : p.toNat < 0x110000 := by
  cases p with
  | scalar c =>
    have hvalid := toNat_valid c
    change c.toNat < 0x110000
    omega
  | surrogate offset =>
    change 0xd800 + offset.val < 0x110000
    omega

namespace Utf16

/-- A code point of the basic plane, a surrogate that stands alone included, is one unit; any other
    is a high and a low surrogate, each with ten bits of it. -/
inductive Stands : List Nat → CodePoint → Prop
  | one {p : CodePoint} (h : p.toNat < 0x10000) : Stands [p.toNat] p
  | pair {high low : Nat} {p : CodePoint} (hhigh : isHighSurrogate high = true)
    (hlow : isLowSurrogate low = true)
    (hvalue : p.toNat = 0x10000 + (high - 0xd800) * 0x400 + (low - 0xdc00)) : Stands [high, low] p

inductive Encodes : List CodePoint → List Nat → Prop
  | nil : Encodes [] []
  | cons {p : CodePoint} {points : List CodePoint} {units more : List Nat} (hunits : Stands units p)
    (hmore : Encodes points more) : Encodes (p :: points) (units ++ more)

theorem stands_units (p : CodePoint) : Stands (units p.toNat) p := by
  have hlt := p.toNat_lt
  unfold units
  split
  · next h => exact .one h
  · refine .pair ?_ ?_ ?_
    · simp only [isHighSurrogate, Bool.and_eq_true, decide_eq_true_eq]
      omega
    · simp only [isLowSurrogate, Bool.and_eq_true, decide_eq_true_eq]
      omega
    · omega

theorem Stands.eq_units {us : List Nat} {p : CodePoint} (h : Stands us p) : us = units p.toNat := by
  cases h with
  | one h => rw [units_of_lt h]
  | @pair high low _ hhigh hlow hvalue =>
    simp only [isHighSurrogate, Bool.and_eq_true, decide_eq_true_eq] at hhigh
    simp only [isLowSurrogate, Bool.and_eq_true, decide_eq_true_eq] at hlow
    have hbeyond : ¬ p.toNat < 0x10000 := by omega
    have hhighUnit : high = 0xd800 + (p.toNat - 0x10000) / 0x400 := by omega
    have hlowUnit : low = 0xdc00 + (p.toNat - 0x10000) % 0x400 := by omega
    rw [units, if_neg hbeyond, ← hhighUnit, ← hlowUnit]

/-- Every sequence of code points has one encoding. -/
theorem encodes_iff {points : List CodePoint} {us : List Nat} :
    Encodes points us ↔ us = points.flatMap fun p => units p.toNat := by
  constructor
  · intro h
    induction h with
    | nil => rfl
    | cons hunits _ ih => rw [List.flatMap_cons, ← hunits.eq_units, ih]
  · rintro rfl
    induction points with
    | nil => exact .nil
    | cons p points ih => exact .cons (stands_units p) ih

end Utf16

end Unicode

namespace Symbol
open Unicode

def mangleUnit (unit : Nat) : Text :=
  if (Char.ofNat unit).isAlphanum then [Char.ofNat unit]
  else if unit = '/'.toNat then ['_']
  else if unit = '_'.toNat then ['_', '1']
  else if unit = ';'.toNat then ['_', '2']
  else if unit = '['.toNat then ['_', '3']
  else escapeUnit unit

/-- The rules of the virtual machine for one unit. An ASCII letter or digit stays, four marks have
    escapes of their own, and every other unit is written as four hexadecimal digits. -/
structure EscapesUnits (escape : Nat → Text) : Prop where
  kept {c : Char} (h : c.isAlphanum = true) : escape c.toNat = [c]
  slash : escape '/'.toNat = "_".toList
  underscore : escape '_'.toNat = "_1".toList
  semicolon : escape ';'.toNat = "_2".toList
  bracket : escape '['.toNat = "_3".toList
  other {unit : Nat} (hunit : unit < 0x10000)
    (h : ∀ c : Char, c.isAlphanum = true ∨ c ∈ "/_;[".toList → unit ≠ c.toNat) :
    ∃ digits : Text, escape unit = '_' :: '0' :: digits ∧ digits.length = 4 ∧
      (∀ d ∈ digits, d ∈ "0123456789abcdef".toList) ∧ Text.ofHex? digits = some unit

theorem mangleUnit_of_isAlphanum {c : Char} (h : c.isAlphanum = true) :
    mangleUnit c.toNat = [c] := by
  rw [mangleUnit, Char.ofNat_toNat, if_pos h]

theorem toNat_ofNat_of_isAlphanum {unit : Nat} (h : (Char.ofNat unit).isAlphanum = true) :
    (Char.ofNat unit).toNat = unit := by
  by_cases hvalid : unit.isValidChar
  · rw [Char.ofNat, dif_pos hvalid]
    rfl
  · rw [Char.ofNat, dif_neg hvalid] at h
    contradiction

theorem mangleUnit_of_other {unit : Nat}
    (h : ∀ c : Char, c.isAlphanum = true ∨ c ∈ "/_;[".toList → unit ≠ c.toNat) :
    mangleUnit unit = escapeUnit unit := by
  have hmark (c : Char) (hc : c ∈ "/_;[".toList) : unit ≠ c.toNat := h c (.inr hc)
  have halphanum : ¬ (Char.ofNat unit).isAlphanum = true := fun hc =>
    h _ (.inl hc) (toNat_ofNat_of_isAlphanum hc).symm
  rw [mangleUnit, if_neg halphanum, if_neg (hmark '/' (by decide)), if_neg (hmark '_' (by decide)),
    if_neg (hmark ';' (by decide)), if_neg (hmark '[' (by decide))]

theorem escapesUnits_mangleUnit : EscapesUnits mangleUnit where
  kept := mangleUnit_of_isAlphanum
  slash := rfl
  underscore := rfl
  semicolon := rfl
  bracket := rfl
  other {unit} hunit h := ⟨Text.hex 4 unit, mangleUnit_of_other h, Text.length_hex 4 unit,
    Text.forall_mem_hex (by decide) 4 unit, Text.ofHex?_hex_of_lt hunit⟩

theorem toNat_lt_of_mem_marks {c : Char} (h : c ∈ "/_;[".toList) : c.toNat < 0x80 := by
  have hall : "/_;[".toList.all (fun c => decide (c.toNat < 0x80)) = true := by decide
  exact of_decide_eq_true (List.all_eq_true.1 hall c h)

theorem mangleUnit_of_le {unit : Nat} (h : 0x80 ≤ unit) : mangleUnit unit = escapeUnit unit := by
  apply mangleUnit_of_other
  rintro c (hc | hc) rfl
  · have hlt := isAlphanum_lt hc
    omega
  · have hlt := toNat_lt_of_mem_marks hc
    omega

theorem mangleUnit_of_mem_units {c : Char} (h : c.isAlphanum = false) (hmark : c ∉ "/_;[".toList)
    {unit : Nat} (hunit : unit ∈ units c.toNat) : mangleUnit unit = escapeUnit unit := by
  unfold units at hunit
  split at hunit
  · obtain rfl := List.mem_singleton.1 hunit
    apply mangleUnit_of_other
    rintro d hd heq
    obtain rfl := Char.toNat_inj.1 heq
    rcases hd with hd | hd
    · rw [h] at hd
      contradiction
    · exact hmark hd
  · apply mangleUnit_of_le
    simp only [List.mem_cons, List.not_mem_nil, or_false] at hunit
    omega

theorem mangleChar_eq (c : Char) : mangleChar c = (units c.toNat).flatMap mangleUnit := by
  unfold mangleChar
  split
  · next h =>
    have hlt := isAlphanum_lt h
    rw [units_of_lt (by omega), List.flatMap_singleton, mangleUnit_of_isAlphanum h]
  · next h =>
    split
    · rfl
    · rfl
    · rfl
    · rfl
    · next hslash hunderscore hsemicolon hbracket =>
      have hmark : c ∉ "/_;[".toList := by
        simpa using ⟨hslash, hunderscore, hsemicolon, hbracket⟩
      refine List.flatMap_congr fun unit hunit => ?_
      exact (mangleUnit_of_mem_units (Bool.eq_false_iff.2 h) hmark hunit).symm

theorem mangleCodePoint_eq (p : CodePoint) :
    mangleCodePoint p = (units p.toNat).flatMap mangleUnit := by
  cases p with
  | scalar c => exact mangleChar_eq c
  | surrogate offset =>
    have hlow : 0x80 ≤ (CodePoint.surrogate offset).toNat :=
      Nat.le_trans (by decide) (Nat.le_add_right 0xd800 offset.val)
    have hhigh : (CodePoint.surrogate offset).toNat < 0x10000 := by
      change 0xd800 + offset.val < 0x10000
      omega
    rw [units_of_lt hhigh, List.flatMap_singleton, mangleUnit_of_le hlow, mangleCodePoint]

theorem mangleCodePoints_of_encodes {points : List CodePoint} {us : List Nat}
    (h : Utf16.Encodes points us) : mangleCodePoints points = us.flatMap mangleUnit := by
  rw [Utf16.encodes_iff.1 h, List.flatMap_assoc]
  exact List.flatMap_congr fun p _ => mangleCodePoint_eq p

theorem mangleCodePoints_append (points others : List CodePoint) :
    mangleCodePoints (points ++ others) = mangleCodePoints points ++ mangleCodePoints others :=
  List.flatMap_append

/-- Every sequence of code points, with surrogates that stand alone or without, has one encoding in
    UTF-16, and is mangled to what its units are mangled to, in order. So sequences with one
    encoding are mangled alike, and an append is mangled part by part; text is the case without
    surrogates. -/
theorem mangling_goes_unit_by_unit :
    EscapesUnits mangleUnit ∧
    (∀ points, ∃ us, Utf16.Encodes points us ∧
      (∀ others, Utf16.Encodes points others → others = us) ∧
      mangleCodePoints points = us.flatMap mangleUnit) ∧
    (∀ points others us, Utf16.Encodes points us → Utf16.Encodes others us →
      mangleCodePoints points = mangleCodePoints others) ∧
    (∀ points others, mangleCodePoints (points ++ others) =
      mangleCodePoints points ++ mangleCodePoints others) ∧
    ∀ t : Text, mangle t = mangleCodePoints (t.map CodePoint.scalar) := by
  refine ⟨escapesUnits_mangleUnit, fun points => ?_, fun points others us hpoints hothers => ?_,
    mangleCodePoints_append, fun t => (mangleCodePoints_scalar t).symm⟩
  · have hunits := Utf16.encodes_iff.2 (Eq.refl (points.flatMap fun p => units p.toNat))
    exact ⟨_, hunits, fun others hothers => Utf16.encodes_iff.1 hothers,
      mangleCodePoints_of_encodes hunits⟩
  · rw [mangleCodePoints_of_encodes hpoints, mangleCodePoints_of_encodes hothers]

/-- A high and a low surrogate that stand alone next to each other, and the character they make. -/
theorem surrogates_are_mangled_as_their_character :
    let points : List CodePoint := [.scalar '_', .surrogate 0x35, .surrogate 0x54a]
    let others : List CodePoint := [.scalar '_', .scalar '𝕊']
    Utf16.Encodes points [0x5f, 0xd835, 0xdd4a] ∧ Utf16.Encodes others [0x5f, 0xd835, 0xdd4a] ∧
      mangleCodePoints points = mangleCodePoints others ∧
      mangleCodePoints others = "_1_0d835_0dd4a".toList := by
  intro points others
  have hpoints : Utf16.Encodes points [0x5f, 0xd835, 0xdd4a] := Utf16.encodes_iff.2 (by decide)
  have hothers : Utf16.Encodes others [0x5f, 0xd835, 0xdd4a] := Utf16.encodes_iff.2 (by decide)
  obtain ⟨-, -, hsame, -⟩ := mangling_goes_unit_by_unit
  exact ⟨hpoints, hothers, hsame points others _ hpoints hothers, by decide +kernel⟩

end Symbol

end NativeLinkage
