import NativeLinkage.Text

set_option autoImplicit false

namespace NativeLinkage

namespace Manifest

inductive Piece
  | plain (c : Char)
  | escaped (c : Char)
  deriving DecidableEq, Repr

namespace Piece

def spelling : Piece → Text
  | plain c => [c]
  | escaped c => ['\\', c]

def char : Piece → Char
  | plain c => c
  | escaped c => c

end Piece

inductive Token
  | word (name : Text)
  | literal (pieces : List Piece)
  | arrow
  | opening
  | closing
  | comma
  | equals
  | semicolon
  deriving DecidableEq, Repr

namespace Token

def spelling : Token → Text
  | word name => name
  | literal pieces => '"' :: pieces.flatMap Piece.spelling ++ ['"']
  | arrow => ['-', '>']
  | opening => ['(']
  | closing => [')']
  | comma => [',']
  | equals => ['=']
  | semicolon => [';']

def ofMark? : Char → Option Token
  | '(' => some opening
  | ')' => some closing
  | ',' => some comma
  | '=' => some equals
  | ';' => some semicolon
  | _ => none

theorem spelling_of_ofMark? {c : Char} {t : Token} (h : ofMark? c = some t) : t.spelling = [c] := by
  unfold ofMark? at h
  split at h <;> cases h <;> rfl

def keyword : Token := word "export".toList

end Token

/-- A word begins with an ASCII letter or an underscore; letters and digits of every script may
    follow. -/
def isWordStart (c : Char) : Bool := c.isAlpha || c == '_'

def isWordChar (c : Char) : Bool := Unicode.isAlphanumeric c || c == '_'

def isGap (c : Char) : Bool := c == ' ' || c == '\t' || c == '\r'

/-- The pieces up to the closing quote, and the text after it. A literal ends on its line. -/
def pieces? : Text → Option (List Piece × Text)
  | [] => none
  | '"' :: rest => some ([], rest)
  | '\n' :: _ => none
  | ['\\'] => none
  | '\\' :: '\n' :: _ => none
  | '\\' :: c :: rest => (pieces? rest).map fun (pieces, after) => (.escaped c :: pieces, after)
  | c :: rest => (pieces? rest).map fun (pieces, after) => (.plain c :: pieces, after)

def block? : Text → Option (Text × Text)
  | [] => none
  | '*' :: '/' :: rest => some ([], rest)
  | c :: rest => (block? rest).map fun (body, after) => (c :: body, after)

theorem length_of_pieces? {t after : Text} {pieces : List Piece}
    (h : pieces? t = some (pieces, after)) : after.length < t.length := by
  fun_induction pieces? t generalizing pieces with
  | case1 => contradiction
  | case2 rest => cases h; simp
  | case3 => contradiction
  | case4 => contradiction
  | case5 => contradiction
  | case6 c rest _ ih =>
    obtain ⟨⟨ps, a⟩, hp, he⟩ := Option.map_eq_some_iff.1 h
    cases he
    have := ih hp
    simp only [List.length_cons]
    omega
  | case7 c rest _ _ _ _ _ ih =>
    obtain ⟨⟨ps, a⟩, hp, he⟩ := Option.map_eq_some_iff.1 h
    cases he
    have := ih hp
    simp only [List.length_cons]
    omega

theorem append_of_block? {t body after : Text} (h : block? t = some (body, after)) :
    t = body ++ '*' :: '/' :: after := by
  fun_induction block? t generalizing body with
  | case1 => contradiction
  | case2 rest => cases h; rfl
  | case3 c rest _ ih =>
    obtain ⟨⟨b, a⟩, hb, he⟩ := Option.map_eq_some_iff.1 h
    cases he
    rw [ih hb, List.cons_append]

inductive Lexeme
  | skipped (lines : Nat) (rest : Text)
  | token (token : Token) (rest : Text)
  | stray (c : Char)
  deriving DecidableEq, Repr

def Lexeme.rest : Lexeme → Text
  | skipped _ rest | token _ rest => rest
  | stray _ => []

def plainLexeme (c : Char) (rest : Text) : Lexeme :=
  if isGap c then .skipped 0 rest
  else if isWordStart c then
    .token (.word (c :: rest.takeWhile isWordChar)) (rest.dropWhile isWordChar)
  else match Token.ofMark? c with
    | some mark => .token mark rest
    | none => .stray c

def lexeme : Char → Text → Lexeme
  | '\n', rest => .skipped 1 rest
  | '"', rest =>
    match pieces? rest with
    | some (pieces, after) => .token (.literal pieces) after
    | none => .stray '"'
  | '-', '>' :: rest => .token .arrow rest
  | '/', '/' :: rest => .skipped 0 (rest.dropWhile (· ≠ '\n'))
  | '/', '*' :: rest =>
    match block? rest with
    | some (body, after) => .skipped (body.count '\n') after
    | none => .stray '/'
  | c, rest => plainLexeme c rest

theorem length_dropWhile_le (p : Char → Bool) (t : Text) : (t.dropWhile p).length ≤ t.length :=
  (List.dropWhile_sublist p).length_le

theorem length_rest_plainLexeme (c : Char) (t : Text) :
    (plainLexeme c t).rest.length ≤ t.length := by
  unfold plainLexeme
  split
  · exact Nat.le_refl _
  · split
    · exact length_dropWhile_le isWordChar t
    · split
      · exact Nat.le_refl _
      · exact Nat.zero_le _

theorem length_rest_lexeme (c : Char) (t : Text) : (lexeme c t).rest.length ≤ t.length := by
  unfold lexeme
  split
  · exact Nat.le_refl _
  · split
    · next hp => exact Nat.le_of_lt (length_of_pieces? hp)
    · exact Nat.zero_le _
  · simp [Lexeme.rest]
  · exact Nat.le_succ_of_le (length_dropWhile_le _ _)
  · split
    · next hb =>
      rw [append_of_block? hb]
      simp only [Lexeme.rest, List.length_cons, List.length_append]
      omega
    · exact Nat.zero_le _
  · exact length_rest_plainLexeme _ _

structure Placed where
  token : Token
  line : Nat
  deriving DecidableEq, Repr

/-- Where the tokens stop: at the end of the text, or at a character that begins no token. -/
inductive Ending
  | finish (line : Nat)
  | stray (line : Nat) (c : Char)
  deriving DecidableEq, Repr

structure Scan where
  tokens : List Placed
  ending : Ending
  deriving DecidableEq, Repr

def Scan.cons (p : Placed) (s : Scan) : Scan := { s with tokens := p :: s.tokens }

/-- Lines are counted from `line`, the line on which the text begins. -/
def scan (line : Nat) (t : Text) : Scan :=
  match t with
  | [] => ⟨[], .finish line⟩
  | c :: t =>
    match _h : lexeme c t with
    | .skipped lines rest => scan (line + lines) rest
    | .token token rest => (scan line rest).cons ⟨token, line⟩
    | .stray c => ⟨[], .stray line c⟩
termination_by t.length
decreasing_by all_goals
  have := length_rest_lexeme c t
  simp_all only [Lexeme.rest, List.length_cons]
  omega

theorem scan_nil (line : Nat) : scan line [] = ⟨[], .finish line⟩ := by
  rw [scan]

theorem scan_of_skipped {c : Char} {t rest : Text} {lines : Nat}
    (h : lexeme c t = .skipped lines rest) (line : Nat) :
    scan line (c :: t) = scan (line + lines) rest := by
  rw [scan]
  split <;> simp_all

theorem scan_of_token {c : Char} {t rest : Text} {token : Token}
    (h : lexeme c t = .token token rest) (line : Nat) :
    scan line (c :: t) = (scan line rest).cons ⟨token, line⟩ := by
  rw [scan]
  split <;> simp_all

theorem scan_of_stray {c d : Char} {t : Text} (h : lexeme c t = .stray d) (line : Nat) :
    scan line (c :: t) = ⟨[], .stray line d⟩ := by
  rw [scan]
  split <;> simp_all

end Manifest

end NativeLinkage
