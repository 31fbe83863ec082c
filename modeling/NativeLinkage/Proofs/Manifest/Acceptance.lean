import Mathlib.Data.List.Forall2
import NativeLinkage.Proofs.Manifest.Lexing

set_option autoImplicit false

namespace NativeLinkage.Manifest

namespace Awaiting
open Statement

def Remainder : Awaiting → List Token → Prop
  | statement, tokens => ∃ ss : List Statement, tokens = ss.flatMap Statement.tokens
  | opening _, tokens => ∃ (as : List Argument) (f : Text) (ss : List Statement),
    tokens = .opening :: (argumentTokens as ++ closingTokens f ++ ss.flatMap Statement.tokens)
  | argumentOrClosing _, tokens => ∃ (as : List Argument) (f : Text) (ss : List Statement),
    tokens = argumentTokens as ++ closingTokens f ++ ss.flatMap Statement.tokens
  | argument _, tokens => ∃ (a : Argument) (as : List Argument) (f : Text) (ss : List Statement),
    tokens = argumentTokens (a :: as) ++ closingTokens f ++ ss.flatMap Statement.tokens
  | equals .., tokens => ∃ (ps : List Piece) (as : List Argument) (f : Text)
      (ss : List Statement), tokens = .equals :: .literal ps ::
        (furtherTokens as ++ closingTokens f ++ ss.flatMap Statement.tokens)
  | value .., tokens => ∃ (ps : List Piece) (as : List Argument) (f : Text)
      (ss : List Statement), tokens = .literal ps ::
        (furtherTokens as ++ closingTokens f ++ ss.flatMap Statement.tokens)
  | commaOrClosing _, tokens => ∃ (as : List Argument) (f : Text) (ss : List Statement),
    tokens = furtherTokens as ++ closingTokens f ++ ss.flatMap Statement.tokens
  | arrow _, tokens => ∃ (f : Text) (ss : List Statement),
    tokens = .arrow :: .word f :: .semicolon :: ss.flatMap Statement.tokens
  | target _, tokens => ∃ (f : Text) (ss : List Statement),
    tokens = .word f :: .semicolon :: ss.flatMap Statement.tokens
  | semicolon _, tokens => ∃ ss : List Statement, tokens = .semicolon :: ss.flatMap Statement.tokens

theorem argument_of_argumentMove {d : Draft} {token : Token} {after : Awaiting}
    {tokens : List Token} (hmove : argumentMove d token = .next after)
    (h : after.Remainder tokens) : (argument d).Remainder (token :: tokens) := by
  cases token with
  | literal pieces =>
    cases hmove
    obtain ⟨as, f, ss, rfl⟩ := h
    exact ⟨.value pieces, as, f, ss, rfl⟩
  | word name =>
    cases hmove
    obtain ⟨pieces, as, f, ss, rfl⟩ := h
    exact ⟨.field name pieces, as, f, ss, rfl⟩
  | arrow | opening | closing | comma | equals | semicolon => contradiction

theorem argumentOrClosing_of_argument {d : Draft} {tokens : List Token}
    (h : (argument d).Remainder tokens) : (argumentOrClosing d).Remainder tokens := by
  obtain ⟨a, as, f, ss, htokens⟩ := h
  exact ⟨a :: as, f, ss, htokens⟩

theorem remainder_of_next {state after : Awaiting} {p : Placed} {tokens : List Token}
    (hmove : state.move p = .next after) (h : after.Remainder tokens) :
    state.Remainder (p.token :: tokens) := by
  obtain ⟨token, line⟩ := p
  cases state with
  | statement =>
    simp only [move] at hmove
    split at hmove
    · next hkeyword =>
      cases hmove
      obtain ⟨as, f, ss, rfl⟩ := h
      exact ⟨⟨as, f⟩ :: ss, by simp [hkeyword, Statement.tokens]⟩
    · contradiction
  | opening d =>
    cases token with
    | opening =>
      cases hmove
      obtain ⟨as, f, ss, rfl⟩ := h
      exact ⟨as, f, ss, rfl⟩
    | _ => contradiction
  | argumentOrClosing d =>
    cases token with
    | closing =>
      cases hmove
      obtain ⟨f, ss, rfl⟩ := h
      exact ⟨[], f, ss, rfl⟩
    | literal pieces =>
      have hargument : argumentMove d (.literal pieces) = .next after := hmove
      exact argumentOrClosing_of_argument (argument_of_argumentMove hargument h)
    | word name =>
      have hargument : argumentMove d (.word name) = .next after := hmove
      exact argumentOrClosing_of_argument (argument_of_argumentMove hargument h)
    | _ => contradiction
  | argument d => exact argument_of_argumentMove hmove h
  | equals d name =>
    cases token with
    | equals =>
      cases hmove
      obtain ⟨pieces, as, f, ss, rfl⟩ := h
      exact ⟨pieces, as, f, ss, rfl⟩
    | _ => contradiction
  | value d name =>
    cases token with
    | literal pieces =>
      cases hmove
      obtain ⟨as, f, ss, rfl⟩ := h
      exact ⟨pieces, as, f, ss, rfl⟩
    | _ => contradiction
  | commaOrClosing d =>
    cases token with
    | comma =>
      cases hmove
      obtain ⟨a, as, f, ss, rfl⟩ := h
      exact ⟨a :: as, f, ss, rfl⟩
    | closing =>
      cases hmove
      obtain ⟨f, ss, rfl⟩ := h
      exact ⟨[], f, ss, rfl⟩
    | _ => contradiction
  | arrow d =>
    cases token with
    | arrow =>
      cases hmove
      obtain ⟨f, ss, rfl⟩ := h
      exact ⟨f, ss, rfl⟩
    | _ => contradiction
  | target d =>
    cases token with
    | word name =>
      cases hmove
      obtain ⟨ss, rfl⟩ := h
      exact ⟨name, ss, rfl⟩
    | _ => contradiction
  | semicolon e => cases token <;> contradiction

theorem remainder_of_complete {state : Awaiting} {p : Placed} {entry : Entry} {tokens : List Token}
    (hmove : state.move p = .complete entry) (h : statement.Remainder tokens) :
    state.Remainder (p.token :: tokens) := by
  obtain ⟨token, line⟩ := p
  cases state with
  | semicolon e =>
    cases token with
    | semicolon =>
      obtain ⟨ss, rfl⟩ := h
      exact ⟨ss, rfl⟩
    | _ => contradiction
  | statement =>
    simp only [move] at hmove
    split at hmove <;> contradiction
  | _ => cases token <;> contradiction

theorem remainder_of_read {state : Awaiting} {line : Nat} {ps : List Placed} {es : List Entry}
    (h : state.read (.finish line) ps = .ok es) : state.Remainder (ps.map Placed.token) := by
  induction ps generalizing state es with
  | nil =>
    cases state with
    | statement => exact ⟨[], rfl⟩
    | _ => contradiction
  | cons p ps ih =>
    rw [read] at h
    split at h
    · next after hmove => exact remainder_of_next hmove (ih h)
    · next entry hmove =>
      cases hrest : statement.read (.finish line) ps with
      | error misuse =>
        rw [hrest] at h
        contradiction
      | ok rest => exact remainder_of_complete hmove (ih hrest)
    · contradiction

theorem exists_finish_of_read {state : Awaiting} {ending : Ending} {ps : List Placed}
    {es : List Entry} (h : state.read ending ps = .ok es) : ∃ line, ending = .finish line := by
  induction ps generalizing state es with
  | nil =>
    cases ending with
    | finish line => exact ⟨line, rfl⟩
    | stray line c => contradiction
  | cons p ps ih =>
    rw [read] at h
    split at h
    · exact ih h
    · cases hrest : statement.read ending ps with
      | error misuse =>
        rw [hrest] at h
        contradiction
      | ok rest => exact ih hrest
    · contradiction

end Awaiting

theorem eq_cons_of_map_token {ps : List Placed} {token : Token} {tokens : List Token}
    (h : ps.map Placed.token = token :: tokens) :
    ∃ line rest, ps = ⟨token, line⟩ :: rest ∧ rest.map Placed.token = tokens := by
  cases ps with
  | nil => contradiction
  | cons p rest =>
    obtain ⟨htoken, hrest⟩ := List.cons.inj h
    exact ⟨p.line, rest, by rw [← htoken], hrest⟩

namespace Draft

def add (d : Draft) : Argument → Draft
  | .value pieces => d.addValue pieces
  | .field name pieces => d.addField name pieces

def addAll (d : Draft) (arguments : List Argument) : Draft := arguments.foldl add d

theorem entry_addAll (d : Draft) (arguments : List Argument) (f : Text) :
    (d.addAll arguments).entry f = ⟨d.line, d.positional ++ arguments.filterMap Argument.value?,
      d.named ++ arguments.filterMap Argument.field?, f⟩ := by
  induction arguments generalizing d with
  | nil => simp [addAll, entry]
  | cons a arguments ih =>
    change ((d.add a).addAll arguments).entry f = _
    rw [ih]
    cases a with
    | value pieces =>
      simp [add, addValue, Argument.value?, Argument.field?, List.filterMap_cons]
    | field name pieces =>
      simp [add, addField, Argument.value?, Argument.field?, List.filterMap_cons]

end Draft

namespace Awaiting
open Statement

variable (ending : Ending)

theorem read_argument (d : Draft) {a : Argument} {ps : List Placed} {tokens : List Token}
    (h : ps.map Placed.token = a.tokens ++ tokens) :
    ∃ rest, rest.map Placed.token = tokens ∧
      (argument d).read ending ps = (commaOrClosing (d.add a)).read ending rest ∧
      (argumentOrClosing d).read ending ps = (commaOrClosing (d.add a)).read ending rest := by
  cases a with
  | value pieces =>
    obtain ⟨_, rest, rfl, hrest⟩ := eq_cons_of_map_token h
    exact ⟨rest, hrest, rfl, rfl⟩
  | field name pieces =>
    obtain ⟨_, afterName, rfl, hname⟩ := eq_cons_of_map_token h
    obtain ⟨_, afterEquals, rfl, hequals⟩ := eq_cons_of_map_token hname
    obtain ⟨_, rest, rfl, hrest⟩ := eq_cons_of_map_token hequals
    exact ⟨rest, hrest, rfl, rfl⟩

theorem read_further (d : Draft) {arguments : List Argument} {ps : List Placed}
    {tokens : List Token} (h : ps.map Placed.token = furtherTokens arguments ++ tokens) :
    ∃ rest, rest.map Placed.token = tokens ∧
      (commaOrClosing d).read ending ps =
        (commaOrClosing (d.addAll arguments)).read ending rest := by
  induction arguments generalizing d ps with
  | nil => exact ⟨ps, h, rfl⟩
  | cons a arguments ih =>
    rw [furtherTokens, List.flatMap_cons, List.append_assoc] at h
    obtain ⟨_, afterComma, rfl, hcomma⟩ := eq_cons_of_map_token h
    obtain ⟨afterArgument, hargument, hread, -⟩ := read_argument ending d hcomma
    obtain ⟨rest, hrest, hreads⟩ := ih (d.add a) hargument
    refine ⟨rest, hrest, ?_⟩
    exact hread.trans hreads

theorem read_closing (d : Draft) {f : Text} {ps : List Placed} {tokens : List Token}
    (h : ps.map Placed.token = closingTokens f ++ tokens) :
    ∃ rest, rest.map Placed.token = tokens ∧
      (commaOrClosing d).read ending ps = (statement.read ending rest).map (d.entry f :: ·) ∧
      (argumentOrClosing d).read ending ps = (statement.read ending rest).map (d.entry f :: ·) := by
  obtain ⟨_, afterClosing, rfl, hclosing⟩ := eq_cons_of_map_token h
  obtain ⟨_, afterArrow, rfl, harrow⟩ := eq_cons_of_map_token hclosing
  obtain ⟨_, afterTarget, rfl, htarget⟩ := eq_cons_of_map_token harrow
  obtain ⟨_, rest, rfl, hrest⟩ := eq_cons_of_map_token htarget
  exact ⟨rest, hrest, rfl, rfl⟩

theorem read_arguments (d : Draft) {arguments : List Argument} {f : Text} {ps : List Placed}
    {tokens : List Token}
    (h : ps.map Placed.token = argumentTokens arguments ++ closingTokens f ++ tokens) :
    ∃ rest, rest.map Placed.token = tokens ∧
      (argumentOrClosing d).read ending ps =
        (statement.read ending rest).map ((d.addAll arguments).entry f :: ·) := by
  cases arguments with
  | nil =>
    obtain ⟨rest, hrest, -, hread⟩ := read_closing ending d h
    exact ⟨rest, hrest, hread⟩
  | cons a arguments =>
    rw [argumentTokens, List.append_assoc, List.append_assoc] at h
    obtain ⟨afterFirst, hfirst, -, hread⟩ := read_argument ending d h
    obtain ⟨afterAll, hall, hreads⟩ := read_further ending (d.add a) hfirst
    obtain ⟨rest, hrest, hclosing, -⟩ := read_closing ending ((d.add a).addAll arguments) hall
    exact ⟨rest, hrest, hread.trans (hreads.trans hclosing)⟩

theorem read_statement {s : Statement} {ps : List Placed} {tokens : List Token}
    (h : ps.map Placed.token = s.tokens ++ tokens) :
    ∃ line rest, rest.map Placed.token = tokens ∧
      statement.read ending ps = (statement.read ending rest).map (s.entry line :: ·) := by
  obtain ⟨line, afterKeyword, rfl, hkeyword⟩ := eq_cons_of_map_token h
  obtain ⟨_, afterOpening, rfl, hopening⟩ := eq_cons_of_map_token hkeyword
  obtain ⟨rest, hrest, hread⟩ := read_arguments ending (.start line) hopening
  refine ⟨line, rest, hrest, hread.trans ?_⟩
  rw [Draft.entry_addAll]
  rfl

theorem read_statements {ss : List Statement} {line : Nat} {ps : List Placed}
    (h : ps.map Placed.token = ss.flatMap Statement.tokens) :
    ∃ es, statement.read (.finish line) ps = .ok es ∧
      List.Forall₂ (fun s e => e = s.entry e.line) ss es := by
  induction ss generalizing ps with
  | nil =>
    obtain rfl := List.map_eq_nil_iff.1 h
    exact ⟨[], rfl, .nil⟩
  | cons s ss ih =>
    obtain ⟨start, rest, hrest, hread⟩ := read_statement (.finish line) h
    obtain ⟨es, hes, hall⟩ := ih hrest
    rw [hread, hes]
    exact ⟨s.entry start :: es, rfl, .cons rfl hall⟩

end Awaiting

end NativeLinkage.Manifest
