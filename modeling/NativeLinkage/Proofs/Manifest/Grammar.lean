import NativeLinkage.Manifest.Statement

set_option autoImplicit false

namespace NativeLinkage.Manifest

def Piece.WellFormed : Piece → Prop
  | plain c => c ≠ '"' ∧ c ≠ '\\' ∧ c ≠ '\n'
  | escaped c => c ≠ '\n'

def IsWord : Text → Prop
  | [] => False
  | c :: rest => isWordStart c = true ∧ ∀ d ∈ rest, isWordChar d = true

instance : DecidablePred IsWord
  | [] => inferInstanceAs (Decidable False)
  | c :: rest =>
    decidable_of_iff (isWordStart c = true ∧ rest.all isWordChar = true)
      (by rw [List.all_eq_true]; rfl)

def Token.WellFormed : Token → Prop
  | word name => IsWord name
  | literal pieces => ∀ p ∈ pieces, p.WellFormed
  | _ => True

/-- One item of layout at the front of a text, and the text after it. A line comment runs to the
    next line feed or to the end, a block comment to the first closing mark. -/
inductive Separates : Text → Text → Prop
  | lineFeed (rest : Text) : Separates ('\n' :: rest) rest
  | gap {c : Char} (h : isGap c = true) (rest : Text) : Separates (c :: rest) rest
  | line {body rest : Text} (hbody : '\n' ∉ body) (hrest : ∀ c ∈ rest.head?, c = '\n') :
    Separates ('/' :: '/' :: (body ++ rest)) rest
  | block {body : Text} (hbody : ¬ ['*', '/'] <:+: body) (rest : Text) :
    Separates ('/' :: '*' :: (body ++ '*' :: '/' :: rest)) rest

inductive Layout : Text → Text → Prop
  | none (t : Text) : Layout t t
  | more {t mid rest : Text} (h : Separates t mid) (hmid : Layout mid rest) : Layout t rest

inductive Spells : Text → List Token → Prop
  | finish {t : Text} (h : Layout t []) : Spells t []
  | token {t rest : Text} {token : Token} {tokens : List Token} (hwell : token.WellFormed)
    (hlayout : Layout t (token.spelling ++ rest)) (hrest : Spells rest tokens) :
    Spells t (token :: tokens)

inductive Argument
  | value (pieces : List Piece)
  | field (name : Text) (pieces : List Piece)
  deriving DecidableEq, Repr

def Argument.tokens : Argument → List Token
  | value pieces => [.literal pieces]
  | field name pieces => [.word name, .equals, .literal pieces]

def Argument.value? : Argument → Option Text
  | value pieces => some (pieces.map Piece.char)
  | field .. => none

def Argument.field? : Argument → Option (Text × Text)
  | value _ => none
  | field name pieces => some (name, pieces.map Piece.char)

structure Statement where
  arguments : List Argument
  target : Text
  deriving DecidableEq, Repr

namespace Statement

def furtherTokens (arguments : List Argument) : List Token :=
  arguments.flatMap fun a => .comma :: a.tokens

def argumentTokens : List Argument → List Token
  | [] => []
  | a :: rest => a.tokens ++ furtherTokens rest

def closingTokens (target : Text) : List Token := [.closing, .arrow, .word target, .semicolon]

def tokens (s : Statement) : List Token :=
  .keyword :: .opening :: (argumentTokens s.arguments ++ closingTokens s.target)

/-- What the statement says, if its first token is on this line. -/
def entry (s : Statement) (line : Nat) : Entry where
  line := line
  positional := s.arguments.filterMap Argument.value?
  named := s.arguments.filterMap Argument.field?
  target := s.target

end Statement

/-- The text is a manifest of these statements. -/
def Writes (t : Text) (statements : List Statement) : Prop :=
  Spells t (statements.flatMap Statement.tokens)

end NativeLinkage.Manifest
