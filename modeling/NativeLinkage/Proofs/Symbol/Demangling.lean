import Mathlib.Algebra.Group.Nat.Defs
import Mathlib.Data.List.Chain
import NativeLinkage.Symbol

set_option autoImplicit false

namespace NativeLinkage

namespace Text

def hexDigit? (c : Char) : Option Nat :=
  if '0' ≤ c ∧ c ≤ '9' then some (c.toNat - '0'.toNat)
  else if 'a' ≤ c ∧ c ≤ 'f' then some (c.toNat - 'a'.toNat + 10)
  else none

def ofHex? (digits : Text) : Option Nat :=
  digits.foldl (fun n? c => n?.bind fun n => (hexDigit? c).map (n * 16 + ·)) (some 0)

theorem hexDigit?_digitChar : ∀ d, d < 16 → hexDigit? (Nat.digitChar d) = some d := by
  decide

theorem ofHex?_concat (digits : Text) (c : Char) :
    ofHex? (digits ++ [c]) = (ofHex? digits).bind fun n => (hexDigit? c).map (n * 16 + ·) := by
  rw [ofHex?, List.foldl_append]
  rfl

theorem ofHex?_hex (width n : Nat) : ofHex? (hex width n) = some (n % 16 ^ width) := by
  induction width generalizing n with
  | zero => simp [hex, ofHex?, Nat.mod_one]
  | succ width ih =>
    have hd := hexDigit?_digitChar (n % 16) (Nat.mod_lt n (by decide))
    have hmod : n % 16 ^ (width + 1) = n / 16 % 16 ^ width * 16 + n % 16 := by
      rw [Nat.pow_succ, Nat.mul_comm, Nat.mod_mul]
      omega
    rw [hex, ofHex?_concat, ih, Option.bind_some, hd, hmod]
    rfl

theorem ofHex?_hex_of_lt {width n : Nat} (h : n < 16 ^ width) :
    ofHex? (hex width n) = some n := by
  rw [ofHex?_hex, Nat.mod_eq_of_lt h]

end Text

namespace Unicode

def isHighSurrogate (unit : Nat) : Bool := 0xd800 ≤ unit && unit < 0xdc00

def isLowSurrogate (unit : Nat) : Bool := 0xdc00 ≤ unit && unit < 0xe000

/-- The characters that UTF-16 units write. A high surrogate and the low one after it are one
    character; a surrogate that stands alone is read as U+0000. -/
def ofUnits : List Nat → Text
  | [] => []
  | [unit] => [Char.ofNat unit]
  | high :: low :: rest =>
    if isHighSurrogate high && isLowSurrogate low then
      Char.ofNat (0x10000 + (high - 0xd800) * 0x400 + (low - 0xdc00)) :: ofUnits rest
    else Char.ofNat high :: ofUnits (low :: rest)

theorem ofUnits_single_append {unit : Nat} (h : isHighSurrogate unit = false) (rest : List Nat) :
    ofUnits (unit :: rest) = Char.ofNat unit :: ofUnits rest := by
  cases rest with
  | nil => rfl
  | cons next rest => rw [ofUnits, h, Bool.false_and, if_neg Bool.false_ne_true]

theorem ofUnits_units_append (c : Char) (rest : List Nat) :
    ofUnits (units c.toNat ++ rest) = c :: ofUnits rest := by
  have hvalid := toNat_valid c
  unfold units
  split
  · have hhigh : isHighSurrogate c.toNat = false := by
      rw [isHighSurrogate, Bool.and_eq_false_iff]
      simp only [decide_eq_false_iff_not]
      omega
    rw [List.singleton_append, ofUnits_single_append hhigh, Char.ofNat_toNat]
  · have hhigh : isHighSurrogate (0xd800 + (c.toNat - 0x10000) / 0x400) = true := by
      rw [isHighSurrogate, Bool.and_eq_true]
      simp only [decide_eq_true_eq]
      omega
    have hlow : isLowSurrogate (0xdc00 + (c.toNat - 0x10000) % 0x400) = true := by
      rw [isLowSurrogate, Bool.and_eq_true]
      simp only [decide_eq_true_eq]
      omega
    have hjoin : 0x10000 + (0xd800 + (c.toNat - 0x10000) / 0x400 - 0xd800) * 0x400 +
        (0xdc00 + (c.toNat - 0x10000) % 0x400 - 0xdc00) = c.toNat := by
      omega
    rw [List.cons_append, List.singleton_append, ofUnits, hhigh, hlow, hjoin, Char.ofNat_toNat]
    rfl

def unitsOf (t : Text) : List Nat := t.flatMap fun c => units c.toNat

theorem unitsOf_cons (c : Char) (t : Text) : unitsOf (c :: t) = units c.toNat ++ unitsOf t := rfl

theorem ofUnits_unitsOf (t : Text) : ofUnits (unitsOf t) = t := by
  induction t with
  | nil => rfl
  | cons c t ih => rw [unitsOf_cons, ofUnits_units_append, ih]

end Unicode

namespace Symbol
open Unicode

/-- The unit that the text after an underscore escapes, and the text after the escape. -/
def escaped? : Text → Option (Nat × Text)
  | '0' :: a :: b :: c :: d :: rest => (Text.ofHex? [a, b, c, d]).map fun unit => (unit, rest)
  | '1' :: rest => some ('_'.toNat, rest)
  | '2' :: rest => some (';'.toNat, rest)
  | '3' :: rest => some ('['.toNat, rest)
  | _ => none

theorem length_of_escaped? {t rest : Text} {unit : Nat} (h : escaped? t = some (unit, rest)) :
    rest.length < t.length := by
  unfold escaped? at h
  split at h
  · obtain ⟨_, _, heq⟩ := Option.map_eq_some_iff.1 h
    cases heq
    simp only [List.length_cons]
    omega
  all_goals
    cases h
  all_goals
    exact Nat.lt_succ_self _

def demangledUnits : Text → List Nat
  | [] => []
  | c :: t =>
    if c = '_' then
      match _h : escaped? t with
      | some (unit, rest) => unit :: demangledUnits rest
      | none => '/'.toNat :: demangledUnits t
    else c.toNat :: demangledUnits t
termination_by t => t.length
decreasing_by
  · exact Nat.lt_succ_of_lt (length_of_escaped? _h)
  · exact Nat.lt_succ_self _
  · exact Nat.lt_succ_self _

def demangle (t : Text) : Text := ofUnits (demangledUnits t)

theorem demangledUnits_nil : demangledUnits [] = [] := by
  rw [demangledUnits]

theorem demangledUnits_of_ne {c : Char} (h : c ≠ '_') (t : Text) :
    demangledUnits (c :: t) = c.toNat :: demangledUnits t := by
  rw [demangledUnits, if_neg h]

theorem demangledUnits_of_escaped {t rest : Text} {unit : Nat}
    (h : escaped? t = some (unit, rest)) :
    demangledUnits ('_' :: t) = unit :: demangledUnits rest := by
  rw [demangledUnits, if_pos rfl]
  split
  · next found => rw [h] at found; cases found; rfl
  · next found => rw [h] at found; contradiction

theorem demangledUnits_of_slash {t : Text} (h : escaped? t = none) :
    demangledUnits ('_' :: t) = '/'.toNat :: demangledUnits t := by
  rw [demangledUnits, if_pos rfl]
  split
  · next found => rw [h] at found; contradiction
  · rfl

theorem escaped?_hex {unit : Nat} (h : unit < 0x10000) (rest : Text) :
    escaped? ('0' :: (Text.hex 4 unit ++ rest)) = some (unit, rest) := by
  have hvalue : Text.ofHex? (Text.hex 4 unit) = some unit := Text.ofHex?_hex_of_lt h
  match hdigits : Text.hex 4 unit, Text.length_hex 4 unit with
  | [a, b, c, d], _ =>
    rw [hdigits] at hvalue
    change (Text.ofHex? [a, b, c, d]).map (fun unit => (unit, rest)) = _
    rw [hvalue]
    rfl

theorem demangledUnits_escapeUnit {unit : Nat} (h : unit < 0x10000) (rest : Text) :
    demangledUnits (escapeUnit unit ++ rest) = unit :: demangledUnits rest :=
  demangledUnits_of_escaped (escaped?_hex h rest)

theorem demangledUnits_escapeUnits {units : List Nat} (h : ∀ unit ∈ units, unit < 0x10000)
    (rest : Text) :
    demangledUnits (units.flatMap escapeUnit ++ rest) = units ++ demangledUnits rest := by
  induction units with
  | nil => rfl
  | cons unit units ih =>
    rw [List.forall_mem_cons] at h
    rw [List.flatMap_cons, List.append_assoc, demangledUnits_escapeUnit h.1, ih h.2]
    rfl

def isEscapeDigit (c : Char) : Bool := c == '0' || c == '1' || c == '2' || c == '3'

theorem escaped?_eq_none {t : Text} (h : ∀ c ∈ t.head?, isEscapeDigit c = false) :
    escaped? t = none := by
  unfold escaped?
  split
  all_goals try exact absurd (h _ rfl) (by decide)
  rfl

/-- No `/` stands directly before an escape digit. -/
def Readable (t : Text) : Prop := t.IsChain fun a b => a = '/' → isEscapeDigit b = false

instance (t : Text) : Decidable (Readable t) :=
  inferInstanceAs (Decidable (t.IsChain fun a b => a = '/' → isEscapeDigit b = false))

theorem head_mangleChar (c : Char) :
    ∃ rest, mangleChar c = c :: rest ∨ mangleChar c = '_' :: rest := by
  unfold mangleChar
  split
  · exact ⟨[], .inl rfl⟩
  · split
    all_goals try exact ⟨_, .inr rfl⟩
    unfold units
    split <;> exact ⟨_, .inr rfl⟩

theorem head_mangle {t : Text} (h : ∀ c ∈ t.head?, isEscapeDigit c = false) :
    ∀ c ∈ (mangle t).head?, isEscapeDigit c = false := by
  cases t with
  | nil => exact h
  | cons first t =>
    rw [mangle_cons]
    obtain ⟨rest, hfirst | hfirst⟩ := head_mangleChar first
    · rw [hfirst]
      exact h
    · rw [hfirst]
      intro c hc
      cases hc
      decide

theorem isAlphanum_lt {c : Char} (h : c.isAlphanum = true) : c.toNat < 0x80 := by
  have hbelow (last : Char) (hlast : c.val ≤ last.val) (hascii : last.toNat < 0x80) :
      c.toNat < 0x80 :=
    Nat.lt_of_le_of_lt (UInt32.le_iff_toNat_le.1 hlast) hascii
  rcases Bool.or_eq_true_iff.1 h with halpha | hdigit
  · rcases Bool.or_eq_true_iff.1 halpha with hupper | hlower
    · exact hbelow 'Z' (of_decide_eq_true hupper).2 (by decide)
    · exact hbelow 'z' (of_decide_eq_true (Bool.and_eq_true_iff.1 hlower).2) (by decide)
  · exact hbelow '9' (of_decide_eq_true (Bool.and_eq_true_iff.1 hdigit).2) (by decide)

/-- What one character becomes is read as the units of this character, if the text after it does
    not turn a `/` into an escape. -/
theorem demangledUnits_mangleChar (c : Char) {rest : Text}
    (h : c = '/' → ∀ d ∈ rest.head?, isEscapeDigit d = false) :
    demangledUnits (mangleChar c ++ rest) = units c.toNat ++ demangledUnits rest := by
  unfold mangleChar
  split
  · next halnum =>
    have hne : c ≠ '_' := by rintro rfl; contradiction
    have hlt := isAlphanum_lt halnum
    rw [List.singleton_append, demangledUnits_of_ne hne, units_of_lt (by omega)]
    rfl
  · split
    · exact demangledUnits_of_slash (escaped?_eq_none (h rfl))
    · exact demangledUnits_of_escaped rfl
    · exact demangledUnits_of_escaped rfl
    · exact demangledUnits_of_escaped rfl
    · apply demangledUnits_escapeUnits
      intro unit hunit
      have hvalid := toNat_valid c
      exact units_lt (by omega) hunit

theorem demangledUnits_mangle {t : Text} (h : Readable t) :
    demangledUnits (mangle t) = unitsOf t := by
  induction t with
  | nil => exact demangledUnits_nil
  | cons c t ih =>
    obtain ⟨hhead, htail⟩ := List.isChain_cons.1 h
    rw [mangle_cons, demangledUnits_mangleChar c, ih htail, unitsOf_cons]
    intro hc
    exact head_mangle fun d hd => hhead d hd hc

theorem demangle_mangle {t : Text} (h : Readable t) : demangle (mangle t) = t := by
  rw [demangle, demangledUnits_mangle h, ofUnits_unitsOf]

theorem mangle_inj {s t : Text} (hs : Readable s) (ht : Readable t) (h : mangle s = mangle t) :
    s = t := by
  rw [← demangle_mangle hs, h, demangle_mangle ht]

end Symbol

end NativeLinkage
