import NativeLinkage.Proofs.Manifest.Lexing

set_option autoImplicit false

/-!
Line ends of two characters. A carriage return before a line feed is skipped, or goes into the
comment that stands there; a literal that comes so far is not closed, with it or without it. So a
manifest is read alike whether its lines end with a line feed or with a carriage return and a line
feed, and even if they end now in one way and now in the other.
-/
namespace NativeLinkage

namespace Text

def expandLineEnds (t : Text) : Text := t.flatMap fun c => if c = '\n' then ['\r', '\n'] else [c]

/-- The first text is the second with some of its line feeds expanded. After a line comment it need
    not be all of them, since the comment takes the carriage return and leaves the line feed. -/
inductive Expanded : Text → Text → Prop
  | nil : Expanded [] []
  | cons (c : Char) {s t : Text} (h : Expanded s t) : Expanded (c :: s) (c :: t)
  | lineFeed {s t : Text} (h : Expanded s t) : Expanded ('\r' :: '\n' :: s) ('\n' :: t)

theorem expanded_expandLineEnds (t : Text) : Expanded (expandLineEnds t) t := by
  induction t with
  | nil => exact .nil
  | cons c t ih =>
    rw [expandLineEnds, List.flatMap_cons]
    by_cases h : c = '\n'
    · subst h
      exact ih.lineFeed
    · rw [if_neg h]
      exact ih.cons c

namespace Expanded

variable {s t : Text} {p : Char → Bool}

theorem takeWhile_eq (h : Expanded s t) (hreturn : p '\r' = false) (hline : p '\n' = false) :
    s.takeWhile p = t.takeWhile p := by
  induction h with
  | nil => rfl
  | cons c _ ih => rw [List.takeWhile_cons, List.takeWhile_cons, ih]
  | lineFeed => simp [hreturn, hline]

theorem dropWhile (h : Expanded s t) (hline : p '\n' = false) :
    Expanded (s.dropWhile p) (t.dropWhile p) := by
  induction h with
  | nil => exact .nil
  | cons c h ih =>
    rw [List.dropWhile_cons, List.dropWhile_cons]
    split
    · exact ih
    · exact h.cons c
  | @lineFeed s t h _ =>
    have hrest (t : Text) : ('\n' :: t).dropWhile p = '\n' :: t :=
      List.dropWhile_cons_of_neg (by simp [hline])
    rw [List.dropWhile_cons, hrest, hrest]
    split
    · exact h.cons '\n'
    · exact h.lineFeed

end Expanded

end Text

namespace Manifest

open Text (Expanded)

variable {s t : Text}

/-- Both readings fail, or both find the same and leave texts that differ in line ends only. -/
def ReadAlike {α : Type} (same : α → α → Prop) : Option (α × Text) → Option (α × Text) → Prop :=
  Option.Rel fun x y => same x.1 y.1 ∧ Expanded x.2 y.2

theorem ReadAlike.map {α : Type} {same : α → α → Prop} {x y : Option (α × Text)} {f g : α → α}
    (h : ReadAlike same x y) (hsame : ∀ a b, same a b → same (f a) (g b)) :
    ReadAlike same (x.map fun a => (f a.1, a.2)) (y.map fun b => (g b.1, b.2)) := by
  cases h with
  | none => exact .none
  | some h => exact .some ⟨hsame _ _ h.1, h.2⟩

theorem readAlike_pieces? (h : Expanded s t) : ReadAlike Eq (pieces? s) (pieces? t) := by
  have hcons (p : Piece) (ps qs : List Piece) (heq : ps = qs) : p :: ps = p :: qs :=
    congrArg (p :: ·) heq
  fun_induction pieces? t generalizing s with
  | case1 => cases h; exact .none
  | case2 rest =>
    cases h with
    | cons _ h => exact .some ⟨rfl, h⟩
  | case3 rest =>
    cases h with
    | cons | lineFeed => exact .none
  | case4 =>
    cases h with
    | cons _ h => cases h; exact .none
  | case5 rest =>
    -- A backslash may escape the carriage return, but the line feed is still there.
    cases h with
    | cons _ h =>
      cases h with
      | cons | lineFeed => exact .none
  | case6 c rest hline ih =>
    cases h with
    | cons _ h =>
      cases h with
      | lineFeed => exact absurd rfl hline
      | @cons _ s _ h =>
        have hread : pieces? ('\\' :: c :: s) = _ :=
          pieces?_spelling_append (p := .escaped c) hline s
        rw [hread]
        exact (ih h).map (hcons (.escaped c))
  | case7 c rest hquote hline hlast hbroken hescape ih =>
    have hbackslash : c ≠ '\\' := by
      intro hc
      cases rest with
      | nil => exact hlast hc rfl
      | cons d rest => exact hescape d rest hc rfl
    cases h with
    | lineFeed => exact absurd rfl hline
    | @cons _ s _ h =>
      have hread : pieces? (c :: s) = _ :=
        pieces?_spelling_append (p := .plain c) ⟨hquote, hbackslash, hline⟩ s
      rw [hread]
      exact (ih h).map (hcons (.plain c))

/-- An expanded line end neither makes nor breaks a closing mark. -/
theorem readAlike_block? (h : Expanded s t) :
    ReadAlike (fun a b => a.count '\n' = b.count '\n') (block? s) (block? t) := by
  have hcons (c : Char) (a b : Text) (heq : a.count '\n' = b.count '\n') :
      (c :: a).count '\n' = (c :: b).count '\n' := by
    rw [List.count_cons, List.count_cons, heq]
  fun_induction block? t generalizing s with
  | case1 => cases h; exact .none
  | case2 rest =>
    cases h with
    | cons _ h =>
      cases h with
      | cons _ h => exact .some ⟨rfl, h⟩
  | case3 c rest hopen ih =>
    cases h with
    | cons _ h =>
      rw [block?]
      · exact (ih h).map (hcons c)
      · rintro after rfl rfl
        cases h with
        | cons => exact hopen _ rfl rfl
    | @lineFeed s _ h =>
      have hboth : block? ('\r' :: '\n' :: s) =
          (block? s).map fun a => ('\r' :: '\n' :: a.1, a.2) := by
        rw [block?, block?, Option.map_map]
        · rfl
        · simp
        · simp
      rw [hboth]
      refine (ih h).map (f := fun a => '\r' :: '\n' :: a) fun a b heq => ?_
      rw [List.count_cons_of_ne (by decide), hcons '\n' a b heq]

inductive Lexeme.Alike : Lexeme → Lexeme → Prop
  | skipped (lines : Nat) {s t : Text} (h : Expanded s t) :
    Alike (skipped lines s) (skipped lines t)
  | token (token : Token) {s t : Text} (h : Expanded s t) : Alike (.token token s) (.token token t)
  | stray (c : Char) : Alike (stray c) (stray c)

theorem lexeme_dash {d : Char} (h : d ≠ '>') (t : Text) : lexeme '-' (d :: t) = .stray '-' := by
  rw [lexeme]
  · rfl
  all_goals simp [h]

theorem lexeme_slash {d : Char} (hslash : d ≠ '/') (hstar : d ≠ '*') (t : Text) :
    lexeme '/' (d :: t) = .stray '/' := by
  rw [lexeme]
  · rfl
  all_goals simp [hslash, hstar]

theorem alike_plainLexeme (c : Char) (h : Expanded s t) :
    (plainLexeme c s).Alike (plainLexeme c t) := by
  have hreturn : isWordChar '\r' = false := by decide +kernel
  have hline : isWordChar '\n' = false := by decide +kernel
  unfold plainLexeme
  split
  · exact .skipped 0 h
  · split
    · rw [h.takeWhile_eq hreturn hline]
      exact .token _ (h.dropWhile hline)
    · split
      · exact .token _ h
      · exact .stray c

theorem alike_lexeme_quote (h : Expanded s t) : (lexeme '"' s).Alike (lexeme '"' t) := by
  have hpieces := readAlike_pieces? h
  rw [lexeme, lexeme]
  generalize pieces? s = x, pieces? t = y at hpieces ⊢
  cases hpieces with
  | none => exact .stray '"'
  | @some x y h =>
    obtain ⟨pieces, rest⟩ := x
    obtain ⟨rfl, hrest⟩ : pieces = _ ∧ _ := h
    exact .token _ hrest

theorem alike_lexeme_dash (h : Expanded s t) : (lexeme '-' s).Alike (lexeme '-' t) := by
  cases h with
  | nil | lineFeed => exact .stray '-'
  | cons d h =>
    by_cases harrow : d = '>'
    · subst harrow
      exact .token .arrow h
    · rw [lexeme_dash harrow, lexeme_dash harrow]
      exact .stray '-'

theorem alike_lexeme_slash (h : Expanded s t) : (lexeme '/' s).Alike (lexeme '/' t) := by
  cases h with
  | nil | lineFeed => exact .stray '/'
  | @cons d s t h =>
    by_cases hcomment : d = '/'
    · subst hcomment
      exact .skipped 0 (h.dropWhile (by decide))
    by_cases hblock : d = '*'
    · subst hblock
      have hbody := readAlike_block? h
      rw [lexeme, lexeme]
      generalize block? s = x, block? t = y at hbody ⊢
      cases hbody with
      | none => exact .stray '/'
      | some h =>
        dsimp only
        rw [h.1]
        exact .skipped _ h.2
    · rw [lexeme_slash hcomment hblock, lexeme_slash hcomment hblock]
      exact .stray '/'

theorem alike_lexeme (c : Char) (h : Expanded s t) : (lexeme c s).Alike (lexeme c t) := by
  by_cases hline : c = '\n'
  · subst hline
    exact .skipped 1 h
  by_cases hquote : c = '"'
  · subst hquote
    exact alike_lexeme_quote h
  by_cases hdash : c = '-'
  · subst hdash
    exact alike_lexeme_dash h
  by_cases hslash : c = '/'
  · subst hslash
    exact alike_lexeme_slash h
  rw [lexeme_eq_plainLexeme hline hquote hdash hslash,
    lexeme_eq_plainLexeme hline hquote hdash hslash]
  exact alike_plainLexeme c h

/-- An expanded line end begins with a gap, after which the same stands at the front. -/
theorem exists_alike_of_expanded_cons {c : Char} (h : Expanded s (c :: t)) :
    ∃ u, (lexeme c u).Alike (lexeme c t) ∧ ∀ line, scan line s = scan line (c :: u) := by
  cases h with
  | @cons _ u _ h => exact ⟨u, alike_lexeme c h, fun line => rfl⟩
  | @lineFeed u _ h =>
    have hskipped : lexeme '\r' ('\n' :: u) = .skipped 0 ('\n' :: u) := rfl
    exact ⟨u, alike_lexeme '\n' h, scan_of_skipped hskipped⟩

theorem Lexeme.Alike.scan_eq {c : Char} (h : (lexeme c s).Alike (lexeme c t))
    (hrest : ∀ {u : Text}, Expanded u (lexeme c t).rest → ∀ line,
      scan line u = scan line (lexeme c t).rest) (line : Nat) :
    scan line (c :: s) = scan line (c :: t) := by
  generalize hs : lexeme c s = front at h
  generalize ht : lexeme c t = front' at h hrest
  cases h with
  | skipped lines h => rw [scan_of_skipped hs, scan_of_skipped ht, hrest h]; rfl
  | token token h => rw [scan_of_token hs, scan_of_token ht, hrest h]; rfl
  | stray => rw [scan_of_stray hs, scan_of_stray ht]

theorem scan_of_expanded (h : Expanded s t) (line : Nat) : scan line s = scan line t := by
  induction hlength : t.length using Nat.strongRecOn generalizing s t line with
  | ind length ih =>
    cases t with
    | nil => cases h; rfl
    | cons c t =>
      obtain ⟨u, halike, hscan⟩ := exists_alike_of_expanded_cons h
      rw [hscan]
      refine halike.scan_eq (fun hrest line => ih _ ?_ hrest line rfl) line
      rw [← hlength]
      exact Nat.lt_succ_of_le (length_rest_lexeme c t)

theorem read_of_expanded (h : Expanded s t) : read s = read t := by
  rw [read, read, scan_of_expanded h]

/-- With a carriage return before every line feed, a text is read as the same entries on the same
    lines, or refused for the same misuse. -/
theorem line_ends_are_read_alike (t : Text) : read t.expandLineEnds = read t :=
  read_of_expanded t.expanded_expandLineEnds

example :
    read "/*\n*/ export(\"\\\n\") -> f;".toList = .error (.malformedManifest 2 (.stray '"')) ∧
      read "/*\r\n*/ export(\"\\\r\n\") -> f;".toList =
        .error (.malformedManifest 2 (.stray '"')) := by
  decide +kernel

end Manifest

end NativeLinkage
