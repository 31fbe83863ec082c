import NativeLinkage.Unicode.Classes

set_option autoImplicit false

namespace NativeLinkage

/-- Text without surrogates that stand alone, which are no characters. Lengths and positions count
    code points. -/
abbrev Text := List Char

abbrev Octets := List UInt8

namespace Text

def decimal (n : Nat) : Text := Nat.toDigits 10 n

def inQuotes (t : Text) : Text := '\x27' :: t ++ ['\x27']

def replace (old new : Char) (t : Text) : Text := t.map fun c => if c = old then new else c

theorem not_mem_replace {old new : Char} (h : old ≠ new) (t : Text) : old ∉ replace old new t := by
  intro hm
  obtain ⟨c, -, hc⟩ := List.mem_map.1 hm
  split at hc
  · exact h hc.symm
  · contradiction

def splitLast? (sep : Char) : Text → Option (Text × Text)
  | [] => none
  | c :: t =>
    match splitLast? sep t with
    | some (before, after) => some (c :: before, after)
    | none => if c = sep then some ([], t) else none

theorem splitLast?_eq_none {sep : Char} {t : Text} : splitLast? sep t = none ↔ sep ∉ t := by
  induction t with
  | nil => simp [splitLast?]
  | cons c t ih =>
    unfold splitLast?
    split
    · next before after h =>
      have hm : sep ∈ t := by
        apply Classical.byContradiction
        intro hn
        simp [ih.2 hn] at h
      simp [hm]
    · next h =>
      have hn := ih.1 h
      by_cases hc : c = sep
      · simp [hc]
      · simp [hc, hn, Ne.symm hc]

theorem append_of_splitLast? {sep : Char} {t before after : Text}
    (h : splitLast? sep t = some (before, after)) :
    t = before ++ sep :: after ∧ sep ∉ after := by
  induction t generalizing before with
  | nil => simp [splitLast?] at h
  | cons c t ih =>
    unfold splitLast? at h
    split at h
    · next b a hs =>
      simp only [Option.some.injEq, Prod.mk.injEq] at h
      obtain ⟨rfl, rfl⟩ := h
      obtain ⟨rfl, hn⟩ := ih hs
      exact ⟨rfl, hn⟩
    · next hs =>
      split at h
      · next hc =>
        simp only [Option.some.injEq, Prod.mk.injEq] at h
        obtain ⟨rfl, rfl⟩ := h
        exact ⟨by simp [hc], splitLast?_eq_none.1 hs⟩
      · simp at h

theorem splitLast?_append {sep : Char} (before : Text) {after : Text} (h : sep ∉ after) :
    splitLast? sep (before ++ sep :: after) = some (before, after) := by
  induction before with
  | nil => simp [splitLast?, splitLast?_eq_none.2 h]
  | cons c before ih => simp [splitLast?, ih]

def splitAll (sep : Char) : Text → List Text
  | [] => [[]]
  | c :: t =>
    if c = sep then [] :: splitAll sep t
    else match splitAll sep t with
      | [] => [[c]]
      | part :: parts => (c :: part) :: parts

theorem takeWhile_append_of_head {p : Char → Bool} {s t : Text} (hs : ∀ c ∈ s, p c = true)
    (ht : ∀ c ∈ t.head?, p c = false) : (s ++ t).takeWhile p = s := by
  rw [List.takeWhile_append_of_pos hs]
  cases t with
  | nil => rw [List.takeWhile_nil, List.append_nil]
  | cons c t => rw [List.takeWhile_cons_of_neg (Bool.eq_false_iff.1 (ht c rfl)), List.append_nil]

theorem dropWhile_append_of_head {p : Char → Bool} {s t : Text} (hs : ∀ c ∈ s, p c = true)
    (ht : ∀ c ∈ t.head?, p c = false) : (s ++ t).dropWhile p = t := by
  have hsplit := List.takeWhile_append_dropWhile (p := p) (l := s ++ t)
  rw [takeWhile_append_of_head hs ht] at hsplit
  exact List.append_cancel_left hsplit

theorem decide_ne_of_not_mem {sep : Char} {s : Text} (h : sep ∉ s) :
    ∀ c ∈ s, decide (c ≠ sep) = true := by
  intro c hc
  exact decide_eq_true fun heq => h (heq ▸ hc)

theorem takeWhile_ne_append {sep : Char} {s t : Text} (hs : sep ∉ s)
    (ht : ∀ c ∈ t.head?, c = sep) : (s ++ t).takeWhile (· ≠ sep) = s :=
  takeWhile_append_of_head (decide_ne_of_not_mem hs)
    fun c hc => decide_eq_false fun hne => hne (ht c hc)

theorem dropWhile_ne_append {sep : Char} {s t : Text} (hs : sep ∉ s)
    (ht : ∀ c ∈ t.head?, c = sep) : (s ++ t).dropWhile (· ≠ sep) = t :=
  dropWhile_append_of_head (decide_ne_of_not_mem hs)
    fun c hc => decide_eq_false fun hne => hne (ht c hc)

theorem not_mem_takeWhile_ne (sep : Char) (t : Text) : sep ∉ t.takeWhile (· ≠ sep) := by
  intro hmem
  have hne := List.all_eq_true.1 List.all_takeWhile sep hmem
  simp at hne

/-- The Unicode property White_Space together with the four separators 1C to 1F. -/
def isBlank (c : Char) : Bool :=
  let n := c.toNat
  (0x09 ≤ n && n ≤ 0x0d) || (0x1c ≤ n && n ≤ 0x20) || n == 0x85 || n == 0xa0 || n == 0x1680 ||
    (0x2000 ≤ n && n ≤ 0x200a) || n == 0x2028 || n == 0x2029 || n == 0x202f || n == 0x205f ||
    n == 0x3000

def trimLeft (t : Text) : Text := t.dropWhile isBlank

def trimRight (t : Text) : Text := (t.reverse.dropWhile isBlank).reverse

def trim (t : Text) : Text := trimRight (trimLeft t)

example : trim " \t a b\u3000".toList = "a b".toList := by decide

def normalizeLineEnds : Text → Text
  | [] => []
  | '\r' :: '\n' :: t => '\n' :: normalizeLineEnds t
  | '\r' :: t => '\n' :: normalizeLineEnds t
  | c :: t => c :: normalizeLineEnds t

theorem not_mem_normalizeLineEnds (t : Text) : '\r' ∉ normalizeLineEnds t := by
  fun_induction normalizeLineEnds t with
  | case1 => simp
  | case2 t ih => simpa using ih
  | case3 t _ ih => simpa using ih
  | case4 c t _ hc ih =>
    rw [List.mem_cons]
    rintro (rfl | hm)
    · exact hc rfl
    · exact ih hm

/-- The last `width` digits of `n`, the most significant first. -/
def hex : Nat → Nat → Text
  | 0, _ => []
  | width + 1, n => hex width (n / 16) ++ [Nat.digitChar (n % 16)]

@[simp] theorem length_hex (width n : Nat) : (hex width n).length = width := by
  induction width generalizing n with
  | zero => rfl
  | succ width ih => simp [hex, ih]

theorem forall_mem_hex {P : Char → Prop} (h : ∀ d < 16, P (Nat.digitChar d)) (width n : Nat) :
    ∀ c ∈ hex width n, P c := by
  induction width generalizing n with
  | zero => exact List.forall_mem_nil _
  | succ width ih =>
    refine List.forall_mem_append.2 ⟨ih _, List.forall_mem_singleton.2 (h _ ?_)⟩
    exact Nat.mod_lt n (by decide)

example : hex 4 0xe9 = "00e9".toList := by decide

def singleQuote : Char := '\x27'

def doubleQuote : Char := '\x22'

/-- Double quotes serve only where they avoid an escape: around single quotes alone. -/
def quoteMark (hasSingle hasDouble : Bool) : Char :=
  if hasSingle && !hasDouble then doubleQuote else singleQuote

def namedEscape? : Char → Option Text
  | '\n' => some "\\n".toList
  | '\r' => some "\\r".toList
  | '\t' => some "\\t".toList
  | _ => none

def numericEscape (n : Nat) : Text :=
  if n < 0x100 then '\\' :: 'x' :: hex 2 n
  else if n < 0x10000 then '\\' :: 'u' :: hex 4 n
  else '\\' :: 'U' :: hex 8 n

def quotedChar (quote c : Char) : Text :=
  if c = quote ∨ c = '\\' then ['\\', c]
  else match namedEscape? c with
    | some escape => escape
    | none => if Unicode.isPrintable c then [c] else numericEscape c.toNat

def quoted (t : Text) : Text :=
  let quote := quoteMark (t.contains singleQuote) (t.contains doubleQuote)
  quote :: t.flatMap (quotedChar quote) ++ [quote]

example : quoted "it's".toList = "\"it's\"".toList := by decide
example : quoted "a\x01\\".toList = "'a\\x01\\\\'".toList := by decide

end Text

end NativeLinkage
