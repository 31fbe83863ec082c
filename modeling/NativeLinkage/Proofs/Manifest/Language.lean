import NativeLinkage.Proofs.Manifest.Acceptance

set_option autoImplicit false

namespace NativeLinkage.Manifest

theorem apart_cons {token : Token} {tokens : List Token} (htoken : token.isWord = false)
    (h : Apart tokens) : Apart (token :: tokens) := by
  refine List.isChain_cons.2 ⟨?_, h⟩
  intro next _ hword
  rw [htoken] at hword
  contradiction

theorem apart_word_cons {token : Token} {tokens : List Token} (htoken : token.isWord = false)
    (h : Apart tokens) (name : Text) : Apart (.word name :: token :: tokens) := by
  refine List.isChain_cons.2 ⟨?_, apart_cons htoken h⟩
  intro next hnext _
  cases hnext
  exact htoken

theorem apart_argument (a : Argument) {tokens : List Token} (h : Apart tokens) :
    Apart (a.tokens ++ tokens) := by
  cases a with
  | value pieces => exact apart_cons rfl h
  | field name pieces => exact apart_word_cons rfl (apart_cons rfl h) name

theorem apart_further (arguments : List Argument) {tokens : List Token} (h : Apart tokens) :
    Apart (Statement.furtherTokens arguments ++ tokens) := by
  induction arguments with
  | nil => exact h
  | cons a arguments ih =>
    rw [Statement.furtherTokens, List.flatMap_cons, List.append_assoc]
    exact apart_cons rfl (apart_argument a ih)

theorem apart_statement (s : Statement) {tokens : List Token} (h : Apart tokens) :
    Apart (s.tokens ++ tokens) := by
  obtain ⟨arguments, f⟩ := s
  have hclosing : Apart (Statement.closingTokens f ++ tokens) :=
    apart_cons rfl (apart_cons rfl (apart_word_cons rfl h f))
  rw [Statement.tokens, List.cons_append, List.cons_append, List.append_assoc]
  apply apart_word_cons rfl
  cases arguments with
  | nil => exact hclosing
  | cons a arguments =>
    rw [Statement.argumentTokens, List.append_assoc]
    exact apart_argument a (apart_further arguments hclosing)

theorem apart_statements (ss : List Statement) : Apart (ss.flatMap Statement.tokens) := by
  induction ss with
  | nil => exact List.isChain_nil
  | cons s ss ih => exact apart_statement s ih

theorem writes_of_read {t : Text} {es : List Entry} (h : read t = .ok es) :
    ∃ ss, Writes t ss := by
  obtain ⟨line, hending⟩ := Awaiting.exists_finish_of_read h
  rw [read, hending] at h
  obtain ⟨ss, hss⟩ := Awaiting.remainder_of_read h
  have hspells := spells_of_scan (t := t) ⟨line, hending⟩
  rw [hss] at hspells
  exact ⟨ss, hspells⟩

theorem read_of_writes {t : Text} {ss : List Statement} (h : Writes t ss) :
    ∃ es, read t = .ok es ∧ List.Forall₂ (fun s e => e = s.entry e.line) ss es := by
  obtain ⟨⟨line, hending⟩, htokens⟩ := scan_of_spells h (apart_statements ss) 1
  rw [read, hending]
  exact Awaiting.read_statements htokens

def Piece.ofChar (c : Char) : Piece := if c = '"' ∨ c = '\\' then .escaped c else .plain c

def piecesOf (t : Text) : List Piece := t.map Piece.ofChar

def Argument.written : Argument → Text
  | value pieces => (Token.literal pieces).spelling
  | field name pieces => name ++ ' ' :: '=' :: ' ' :: (Token.literal pieces).spelling

namespace Statement

def writtenArguments : List Argument → Text
  | [] => []
  | a :: rest => a.written ++ rest.flatMap fun b => ',' :: ' ' :: b.written

def written (s : Statement) : Text :=
  Token.keyword.spelling ++ '(' :: (writtenArguments s.arguments ++
    ')' :: ' ' :: '-' :: '>' :: ' ' :: (s.target ++ [';', '\n']))

end Statement

namespace Entry

/-- Positional arguments stand before named ones. -/
def statement (e : Entry) : Statement where
  arguments := e.positional.map (fun t => .value (piecesOf t)) ++
    e.named.map fun field => .field field.1 (piecesOf field.2)
  target := e.target

/-- A literal ends on its line, and names are words. -/
structure Writable (e : Entry) : Prop where
  positional : ∀ t ∈ e.positional, '\n' ∉ t
  named : ∀ field ∈ e.named, IsWord field.1 ∧ '\n' ∉ field.2
  target : IsWord e.target

end Entry

def write (es : List Entry) : Text := es.flatMap fun e => e.statement.written

theorem Piece.wellFormed_ofChar {c : Char} (h : c ≠ '\n') : (ofChar c).WellFormed := by
  unfold ofChar
  split
  · exact h
  · next hplain =>
    rw [not_or] at hplain
    exact ⟨hplain.1, hplain.2, h⟩

theorem wellFormed_piecesOf {t : Text} (h : '\n' ∉ t) :
    (Token.literal (piecesOf t)).WellFormed := by
  intro piece hpiece
  obtain ⟨c, hc, rfl⟩ := List.mem_map.1 hpiece
  exact Piece.wellFormed_ofChar fun heq => h (heq ▸ hc)

theorem wellFormed_keyword : Token.keyword.WellFormed := by
  change IsWord "export".toList
  decide

section Spelling

variable {t : Text} {tokens : List Token}

theorem Spells.lineFeed (h : Spells t tokens) : Spells ('\n' :: t) tokens :=
  h.of_separates (.lineFeed t)

end Spelling

theorem Entry.Writable.wellFormed {e : Entry} (h : e.Writable) :
    ∀ a ∈ e.statement.arguments, ∀ token ∈ a.tokens, token.WellFormed := by
  intro a ha
  rcases List.mem_append.1 ha with hpositional | hnamed
  · obtain ⟨t, ht, rfl⟩ := List.mem_map.1 hpositional
    exact List.forall_mem_singleton.2 (wellFormed_piecesOf (h.positional t ht))
  · obtain ⟨field, hfield, rfl⟩ := List.mem_map.1 hnamed
    obtain ⟨hname, hvalue⟩ := h.named field hfield
    refine List.forall_mem_cons.2 ⟨hname, List.forall_mem_cons.2 ⟨trivial, ?_⟩⟩
    exact List.forall_mem_singleton.2 (wellFormed_piecesOf hvalue)

end NativeLinkage.Manifest
