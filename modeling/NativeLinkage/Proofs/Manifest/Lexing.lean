import Mathlib.Data.List.Chain
import Mathlib.Data.List.TakeWhile
import NativeLinkage.Proofs.Manifest.Grammar

set_option autoImplicit false

/-!
The scanner finds the tokens that a text spells. Layout and tokens begin with different characters,
and a literal or a mark shows where it ends, so the only token that could be cut in two places is a
word; a word is followed by another token than a word, or by layout, and is therefore taken whole.
-/
namespace NativeLinkage.Manifest

theorem pieces?_spelling_append {p : Piece} (h : p.WellFormed) (t : Text) :
    pieces? (p.spelling ++ t) = (pieces? t).map fun found => (p :: found.1, found.2) := by
  cases p with
  | plain c =>
    obtain ⟨hquote, hbackslash, hline⟩ := h
    change pieces? (c :: t) = _
    rw [pieces?]
    · exact hquote
    · exact hline
    · exact fun hc _ => hbackslash hc
    · exact fun _ hc _ => hbackslash hc
    · exact fun _ _ hc _ => hbackslash hc
  | escaped c =>
    change pieces? ('\\' :: c :: t) = _
    rw [pieces?]
    exact h

theorem pieces?_append {pieces : List Piece} (h : ∀ p ∈ pieces, p.WellFormed) (rest : Text) :
    pieces? (pieces.flatMap Piece.spelling ++ '"' :: rest) = some (pieces, rest) := by
  induction pieces with
  | nil => rw [List.flatMap_nil, List.nil_append, pieces?]
  | cons piece pieces ih =>
    rw [List.forall_mem_cons] at h
    rw [List.flatMap_cons, List.append_assoc, pieces?_spelling_append h.1, ih h.2]
    rfl

theorem pieces?_eq_some {t rest : Text} {pieces : List Piece}
    (h : pieces? t = some (pieces, rest)) :
    t = pieces.flatMap Piece.spelling ++ '"' :: rest ∧ ∀ p ∈ pieces, p.WellFormed := by
  fun_induction pieces? t generalizing pieces with
  | case1 => contradiction
  | case2 after =>
    cases h
    exact ⟨rfl, by simp⟩
  | case3 => contradiction
  | case4 => contradiction
  | case5 => contradiction
  | case6 c after hline ih =>
    obtain ⟨⟨tail, left⟩, htail, heq⟩ := Option.map_eq_some_iff.1 h
    cases heq
    obtain ⟨rfl, hwell⟩ := ih htail
    exact ⟨rfl, List.forall_mem_cons.2 ⟨fun hc => hline hc, hwell⟩⟩
  | case7 c after hquote hline hlast hbroken hescape ih =>
    obtain ⟨⟨tail, left⟩, htail, heq⟩ := Option.map_eq_some_iff.1 h
    cases heq
    obtain ⟨rfl, hwell⟩ := ih htail
    have hbackslash : c ≠ '\\' := by
      intro hc
      cases hafter : tail.flatMap Piece.spelling ++ '"' :: rest with
      | nil => exact hlast hc hafter
      | cons d after => exact hescape d after hc hafter
    exact ⟨rfl, List.forall_mem_cons.2 ⟨⟨hquote, hbackslash, hline⟩, hwell⟩⟩

theorem block?_append {body : Text} (h : ¬ ['*', '/'] <:+: body) (rest : Text) :
    block? (body ++ '*' :: '/' :: rest) = some (body, rest) := by
  induction body with
  | nil => rw [List.nil_append, block?]
  | cons c body ih =>
    rw [List.infix_cons_iff, not_or] at h
    rw [List.cons_append, block?, ih h.2]
    · rfl
    · intro after hc hafter
      subst hc
      cases body with
      | nil => cases (List.cons.inj hafter).1
      | cons d body =>
        obtain ⟨rfl, -⟩ := List.cons.inj hafter
        exact h.1 ⟨body, rfl⟩

theorem not_infix_of_block? {t body rest : Text} (h : block? t = some (body, rest)) :
    ¬ ['*', '/'] <:+: body := by
  fun_induction block? t generalizing body with
  | case1 => contradiction
  | case2 after =>
    cases h
    simp
  | case3 c after hopen ih =>
    obtain ⟨⟨tail, left⟩, htail, heq⟩ := Option.map_eq_some_iff.1 h
    cases heq
    rw [List.infix_cons_iff, not_or]
    refine ⟨?_, ih htail⟩
    rintro ⟨tail', htail'⟩
    obtain ⟨rfl, rfl⟩ := List.cons.inj htail'
    exact hopen _ rfl (append_of_block? htail)

def Token.isWord : Token → Bool
  | word _ => true
  | _ => false

def Apart (tokens : List Token) : Prop :=
  tokens.IsChain fun a b => a.isWord = true → b.isWord = false

theorem isGap_cases {c : Char} (h : isGap c = true) : c = ' ' ∨ c = '\t' ∨ c = '\r' := by
  simpa [isGap, or_assoc] using h

theorem isGap_eq_false_of_isWordStart {c : Char} (h : isWordStart c = true) : isGap c = false := by
  apply Bool.eq_false_iff.2
  intro hgap
  rcases isGap_cases hgap with rfl | rfl | rfl <;> exact absurd h (by decide)

theorem head_of_separates {t rest : Text} (h : Separates t rest) :
    ∀ c ∈ t.head?, isWordChar c = false := by
  intro c hc
  cases h with
  | lineFeed => cases hc; decide
  | gap hgap =>
    cases hc
    rcases isGap_cases hgap with rfl | rfl | rfl <;> decide
  | line => cases hc; decide
  | block => cases hc; decide

theorem head_of_spelling {token : Token} (h : token.isWord = false) (rest : Text) :
    ∀ c ∈ (token.spelling ++ rest).head?, isWordChar c = false := by
  intro c hc
  cases token with
  | word name => contradiction
  | literal pieces => cases hc; decide
  | arrow | opening | closing | comma | equals | semicolon => cases hc; decide

theorem head_of_spells {t : Text} {tokens : List Token} (h : Spells t tokens)
    (htokens : ∀ token ∈ tokens.head?, token.isWord = false) :
    ∀ c ∈ t.head?, isWordChar c = false := by
  cases h with
  | finish hlayout =>
    cases hlayout with
    | none => simp
    | more hsep => exact head_of_separates hsep
  | token hwell hlayout hrest =>
    cases hlayout with
    | none => exact head_of_spelling (htokens _ rfl) _
    | more hsep => exact head_of_separates hsep

theorem lexeme_eq_plainLexeme {c : Char} (hline : c ≠ '\n') (hquote : c ≠ '"') (hdash : c ≠ '-')
    (hslash : c ≠ '/') (t : Text) : lexeme c t = plainLexeme c t := by
  unfold lexeme
  split
  all_goals first | contradiction | rfl

theorem lexeme_of_isGap {c : Char} (h : isGap c = true) (t : Text) :
    lexeme c t = .skipped 0 t := by
  rcases isGap_cases h with rfl | rfl | rfl <;> rfl

theorem lexeme_of_isWordStart {c : Char} (h : isWordStart c = true) (t : Text) :
    lexeme c t = .token (.word (c :: t.takeWhile isWordChar)) (t.dropWhile isWordChar) := by
  rw [lexeme_eq_plainLexeme, plainLexeme, isGap_eq_false_of_isWordStart h, h]
  · rfl
  all_goals
    rintro rfl
    exact absurd h (by decide)

theorem lexeme_of_separates {t rest : Text} (h : Separates t rest) :
    ∃ c after lines, t = c :: after ∧ lexeme c after = .skipped lines rest := by
  cases h with
  | lineFeed => exact ⟨'\n', rest, 1, rfl, rfl⟩
  | @gap c hgap => exact ⟨c, rest, 0, rfl, lexeme_of_isGap hgap rest⟩
  | @line body _ hbody hrest =>
    refine ⟨'/', '/' :: (body ++ rest), 0, rfl, ?_⟩
    change Lexeme.skipped 0 _ = _
    rw [Text.dropWhile_ne_append hbody hrest]
  | @block body hbody =>
    refine ⟨'/', _, body.count '\n', rfl, ?_⟩
    rw [lexeme, block?_append hbody]

/-- A line comment takes what stands before the next line feed. -/
theorem separates_comment (t : Text) :
    Separates ('/' :: '/' :: t) (t.dropWhile fun c => decide (c ≠ '\n')) := by
  have hbody := Text.not_mem_takeWhile_ne '\n' t
  have hrest : ∀ c ∈ (t.dropWhile (· ≠ '\n')).head?, c = '\n' := by
    intro c hc
    have := List.head?_dropWhile_not (fun x => decide (x ≠ '\n')) t
    rw [Option.mem_def.1 hc] at this
    simpa using this
  have hsep := Separates.line hbody hrest
  rwa [List.takeWhile_append_dropWhile] at hsep

theorem isGap_of_plainLexeme {c : Char} {t rest : Text} {lines : Nat}
    (h : plainLexeme c t = .skipped lines rest) : isGap c = true ∧ lines = 0 ∧ rest = t := by
  unfold plainLexeme at h
  split at h
  · next hgap =>
    cases h
    exact ⟨hgap, rfl, rfl⟩
  · split at h
    · contradiction
    · split at h <;> contradiction

theorem separates_of_lexeme {c : Char} {t rest : Text} {lines : Nat}
    (h : lexeme c t = .skipped lines rest) : Separates (c :: t) rest := by
  unfold lexeme at h
  split at h
  · cases h
    exact .lineFeed _
  · split at h <;> contradiction
  · contradiction
  · next t =>
    cases h
    exact separates_comment t
  · split at h
    · next body after hblock =>
      cases h
      rw [append_of_block? hblock]
      exact .block (not_infix_of_block? hblock) _
    · contradiction
  · obtain ⟨hgap, rfl, rfl⟩ := isGap_of_plainLexeme h
    exact .gap hgap _

theorem lexeme_of_spelling {token : Token} (hwell : token.WellFormed) {rest : Text}
    (hrest : token.isWord = true → ∀ c ∈ rest.head?, isWordChar c = false) :
    ∃ c after, token.spelling ++ rest = c :: after ∧ lexeme c after = .token token rest := by
  cases token with
  | word name =>
    cases name with
    | nil => exact hwell.elim
    | cons c tail =>
      obtain ⟨hstart, htail⟩ := hwell
      refine ⟨c, tail ++ rest, rfl, ?_⟩
      have htake := Text.takeWhile_append_of_head htail (hrest rfl)
      have hdrop := Text.dropWhile_append_of_head htail (hrest rfl)
      rw [lexeme_of_isWordStart hstart, htake, hdrop]
  | literal pieces =>
    refine ⟨'"', pieces.flatMap Piece.spelling ++ '"' :: rest, by simp [Token.spelling], ?_⟩
    rw [lexeme, pieces?_append hwell]
  | arrow => exact ⟨'-', '>' :: rest, rfl, rfl⟩
  | opening | closing | comma | equals | semicolon => exact ⟨_, rest, rfl, rfl⟩

theorem spelling_of_lexeme {c : Char} {t rest : Text} {token : Token}
    (h : lexeme c t = .token token rest) : c :: t = token.spelling ++ rest ∧ token.WellFormed := by
  unfold lexeme at h
  split at h
  · contradiction
  · split at h
    · next pieces after hpieces =>
      cases h
      obtain ⟨rfl, hwell⟩ := pieces?_eq_some hpieces
      exact ⟨by simp [Token.spelling], hwell⟩
    · contradiction
  · cases h
    exact ⟨rfl, trivial⟩
  · contradiction
  · split at h <;> contradiction
  · unfold plainLexeme at h
    split at h
    · contradiction
    · split at h
      · next hstart =>
        cases h
        refine ⟨?_, hstart, fun d hd => List.mem_takeWhile_imp hd⟩
        rw [Token.spelling, List.cons_append, List.takeWhile_append_dropWhile]
      · split at h
        · next mark hmark =>
          cases h
          rw [Token.spelling_of_ofMark? hmark]
          refine ⟨rfl, ?_⟩
          unfold Token.ofMark? at hmark
          split at hmark <;> cases hmark <;> trivial
        · contradiction

theorem scan_of_layout {t rest : Text} (h : Layout t rest) (line : Nat) :
    ∃ lines, scan line t = scan (line + lines) rest := by
  induction h generalizing line with
  | none t => exact ⟨0, rfl⟩
  | more hsep _ ih =>
    obtain ⟨c, after, lines, rfl, hlexeme⟩ := lexeme_of_separates hsep
    obtain ⟨more, hmore⟩ := ih (line + lines)
    refine ⟨lines + more, ?_⟩
    rw [scan_of_skipped hlexeme, hmore, Nat.add_assoc]

/-- The text is scanned to its end. -/
def Scan.Complete (s : Scan) : Prop := ∃ line, s.ending = .finish line

theorem scan_of_spells {t : Text} {tokens : List Token} (h : Spells t tokens)
    (hwords : Apart tokens) (line : Nat) :
    (scan line t).Complete ∧ (scan line t).tokens.map Placed.token = tokens := by
  induction h generalizing line with
  | finish hlayout =>
    obtain ⟨lines, hscan⟩ := scan_of_layout hlayout line
    rw [hscan, scan_nil]
    exact ⟨⟨_, rfl⟩, rfl⟩
  | token hwell hlayout hrest ih =>
    obtain ⟨hnext, htokens⟩ := List.isChain_cons.1 hwords
    obtain ⟨lines, hscan⟩ := scan_of_layout hlayout line
    obtain ⟨c, after, happend, hlexeme⟩ := lexeme_of_spelling hwell
      fun hword => head_of_spells hrest fun next hmem => hnext next hmem hword
    obtain ⟨hcomplete, hmap⟩ := ih htokens (line + lines)
    rw [hscan, happend, scan_of_token hlexeme]
    refine ⟨hcomplete, ?_⟩
    rw [Scan.cons, List.map_cons, hmap]

theorem Spells.of_separates {t rest : Text} {tokens : List Token} (hsep : Separates t rest)
    (h : Spells rest tokens) : Spells t tokens := by
  cases h with
  | finish hlayout => exact .finish (.more hsep hlayout)
  | token hwell hlayout hrest => exact .token hwell (.more hsep hlayout) hrest

theorem spells_of_scan {line : Nat} {t : Text} (h : (scan line t).Complete) :
    Spells t ((scan line t).tokens.map Placed.token) := by
  fun_induction scan line t with
  | case1 line => exact .finish (.none [])
  | case2 line c t lines rest hlexeme ih =>
    exact (ih h).of_separates (separates_of_lexeme hlexeme)
  | case3 line c t token rest hlexeme ih =>
    obtain ⟨hspelling, hwell⟩ := spelling_of_lexeme hlexeme
    rw [hspelling]
    exact .token hwell (.none _) (ih h)
  | case4 line c t stray hlexeme =>
    obtain ⟨last, hlast⟩ := h
    contradiction

end NativeLinkage.Manifest
