import NativeLinkage.Proofs.Manifest.Demand
import NativeLinkage.Proofs.Manifest.Refusal
import NativeLinkage.Proofs.Manifest.SingleLine

set_option autoImplicit false

/-!
The lines of entries and defects. Lines are counted while the text is scanned, in layout only, since
no token holds a line feed. So the line of a token is one more than the number of line feeds before
it in the text. An entry has the line of its keyword, and a defect that of the first token, stray
character or end with which no manifest goes on.
-/
namespace NativeLinkage.Manifest

theorem Piece.WellFormed.not_mem_spelling {p : Piece} (h : p.WellFormed) : '\n' ∉ p.spelling := by
  cases p with
  | plain c => simpa [spelling] using Ne.symm h.2.2
  | escaped c => simpa [spelling] using Ne.symm h

theorem Token.WellFormed.not_mem_spelling {token : Token} (h : token.WellFormed) :
    '\n' ∉ token.spelling := by
  cases token with
  | word name => exact not_mem_of_isWord h
  | literal pieces =>
    have hpieces : '\n' ∉ pieces.flatMap Piece.spelling := by
      intro hmem
      obtain ⟨p, hp, hspelling⟩ := List.mem_flatMap.1 hmem
      exact (h p hp).not_mem_spelling hspelling
    simpa [spelling] using hpieces
  | arrow | opening | closing | comma | equals | semicolon => decide

theorem count_of_skipped {c : Char} {t rest : Text} {lines : Nat}
    (h : lexeme c t = .skipped lines rest) :
    ∃ layout, c :: t = layout ++ rest ∧ layout.count '\n' = lines := by
  unfold lexeme at h
  split at h
  · cases h
    exact ⟨['\n'], rfl, rfl⟩
  · split at h <;> contradiction
  · contradiction
  · next t =>
    cases h
    refine ⟨'/' :: '/' :: t.takeWhile (· ≠ '\n'), ?_, ?_⟩
    · rw [List.cons_append, List.cons_append, List.takeWhile_append_dropWhile]
    · have hline := Text.not_mem_takeWhile_ne '\n' t
      exact List.count_eq_zero.2 fun hmem => hline (by simpa using hmem)
  · split at h
    · next body after hblock =>
      cases h
      refine ⟨'/' :: '*' :: (body ++ ['*', '/']), ?_, ?_⟩
      · rw [append_of_block? hblock]
        simp
      · simp
    · contradiction
  · obtain ⟨hgap, rfl, rfl⟩ := isGap_of_plainLexeme h
    refine ⟨[c], rfl, ?_⟩
    rcases isGap_cases hgap with rfl | rfl | rfl <;> rfl

def Token.EndsAt (token : Token) (rest : Text) : Prop :=
  token.isWord = true → ∀ c ∈ rest.head?, isWordChar c = false

/-- The text begins with these tokens and their layout, after which `rest` is left. -/
inductive Leads : Text → List Token → Text → Prop
  | layout {t rest : Text} (h : Layout t rest) : Leads t [] rest
  | token {t mid rest : Text} {token : Token} {tokens : List Token} (hwell : token.WellFormed)
    (hlayout : Layout t (token.spelling ++ mid)) (hends : token.EndsAt mid)
    (hmid : Leads mid tokens rest) : Leads t (token :: tokens) rest

theorem Leads.of_separates {t mid rest : Text} {tokens : List Token} (hsep : Separates t mid)
    (h : Leads mid tokens rest) : Leads t tokens rest := by
  cases h with
  | layout hlayout => exact .layout (.more hsep hlayout)
  | token hwell hlayout hends hmid => exact .token hwell (.more hsep hlayout) hends hmid

def Scan.append (ps : List Placed) (s : Scan) : Scan := { s with tokens := ps ++ s.tokens }

theorem scan_of_layout_count {t rest : Text} (h : Layout t rest) :
    ∃ before, t = before ++ rest ∧
      ∀ line, scan line t = scan (line + before.count '\n') rest := by
  induction h with
  | none t => exact ⟨[], rfl, fun line => rfl⟩
  | more hsep _ ih =>
    obtain ⟨c, after, lines, rfl, hlexeme⟩ := lexeme_of_separates hsep
    obtain ⟨layout, hafter, rfl⟩ := count_of_skipped hlexeme
    obtain ⟨before, rfl, hscan⟩ := ih
    refine ⟨layout ++ before, ?_, fun line => ?_⟩
    · rw [hafter, List.append_assoc]
    · rw [scan_of_skipped hlexeme, hscan, List.count_append, Nat.add_assoc]

/-- The scanner goes through the tokens to what is left, counting the line feeds on the way. -/
theorem scan_of_leads {t rest : Text} {tokens : List Token} (h : Leads t tokens rest) :
    ∃ before, t = before ++ rest ∧ ∀ line, ∃ ps, ps.map Placed.token = tokens ∧
      scan line t = (scan (line + before.count '\n') rest).append ps := by
  induction h with
  | layout hlayout =>
    obtain ⟨before, ht, hscan⟩ := scan_of_layout_count hlayout
    exact ⟨before, ht, fun line => ⟨[], rfl, hscan line⟩⟩
  | @token t mid rest token tokens hwell hlayout hends _ ih =>
    obtain ⟨layout, rfl, hlines⟩ := scan_of_layout_count hlayout
    obtain ⟨c, after, hspelling, hlexeme⟩ := lexeme_of_spelling hwell hends
    obtain ⟨before, rfl, hscan⟩ := ih
    refine ⟨layout ++ (token.spelling ++ before), by simp, fun line => ?_⟩
    obtain ⟨ps, hps, hrest⟩ := hscan (line + layout.count '\n')
    refine ⟨⟨token, line + layout.count '\n'⟩ :: ps, by rw [List.map_cons, hps], ?_⟩
    have hcount : (token.spelling ++ before).count '\n' = before.count '\n' := by
      rw [List.count_append, List.count_eq_zero_of_not_mem hwell.not_mem_spelling, Nat.zero_add]
    rw [hlines, hspelling, scan_of_token hlexeme, hrest, List.count_append, hcount, Nat.add_assoc]
    rfl

theorem not_separates_of_lexeme {c : Char} {t : Text}
    (h : ∀ lines rest, lexeme c t ≠ .skipped lines rest) : ∀ after, ¬ Separates (c :: t) after := by
  intro after hsep
  obtain ⟨d, tail, lines, heq, hlexeme⟩ := lexeme_of_separates hsep
  cases heq
  exact h lines after hlexeme

theorem endsAt_of_lexeme {c : Char} {t rest : Text} {token : Token}
    (h : lexeme c t = .token token rest) : token.EndsAt rest := by
  intro hword d hd
  obtain ⟨hspelling, hwell⟩ := spelling_of_lexeme h
  cases token with
  | word name =>
    cases name with
    | nil => exact hwell.elim
    | cons first tail =>
      obtain ⟨rfl, -⟩ := List.cons.inj hspelling
      rw [lexeme_of_isWordStart hwell.1] at h
      cases h
      have hnot := List.head?_dropWhile_not isWordChar t
      rw [Option.mem_def.1 hd] at hnot
      simpa using hnot
  | literal | arrow | opening | closing | comma | equals | semicolon => contradiction

/-- Tokens that are found stand in the text one after the other, and the others after them. -/
theorem leads_of_scan {line : Nat} {t : Text} {ps qs : List Placed}
    (h : (scan line t).tokens = ps ++ qs) :
    ∃ before rest, t = before ++ rest ∧ Leads t (ps.map Placed.token) rest ∧
      (∀ after, ¬ Separates rest after) ∧
      scan (line + before.count '\n') rest = ⟨qs, (scan line t).ending⟩ := by
  fun_induction scan line t generalizing ps with
  | case1 line =>
    obtain ⟨rfl, rfl⟩ := List.append_eq_nil_iff.1 h.symm
    exact ⟨[], [], rfl, .layout (.none []), fun after hsep => (by cases hsep), scan_nil line⟩
  | case2 line c t lines rest hlexeme ih =>
    obtain ⟨layout, hlayout, rfl⟩ := count_of_skipped hlexeme
    obtain ⟨before, left, rfl, hleads, hstart, hscan⟩ := ih h
    refine ⟨layout ++ before, left, by rw [hlayout, List.append_assoc],
      hleads.of_separates (separates_of_lexeme hlexeme), hstart, ?_⟩
    rw [List.count_append, ← Nat.add_assoc, hscan]
  | case3 line c t token rest hlexeme ih =>
    cases ps with
    | nil =>
      refine ⟨[], c :: t, rfl, .layout (.none _), not_separates_of_lexeme (by simp [hlexeme]), ?_⟩
      rw [List.count_nil, Nat.add_zero, scan_of_token hlexeme]
      exact congrArg (Scan.mk · _) h
    | cons p ps =>
      obtain ⟨rfl, hrest⟩ := List.cons.inj h
      obtain ⟨hspelling, hwell⟩ := spelling_of_lexeme hlexeme
      obtain ⟨before, left, rfl, hleads, hstart, hscan⟩ := ih hrest
      refine ⟨token.spelling ++ before, left, by rw [hspelling, List.append_assoc], ?_, hstart, ?_⟩
      · exact .token hwell (hspelling ▸ .none _) (endsAt_of_lexeme hlexeme) hleads
      · rw [List.count_append, List.count_eq_zero_of_not_mem hwell.not_mem_spelling, Nat.zero_add,
          hscan]
        rfl
  | case4 line c t stray hlexeme =>
    obtain ⟨rfl, rfl⟩ := List.append_eq_nil_iff.1 h.symm
    refine ⟨[], c :: t, rfl, .layout (.none _), not_separates_of_lexeme (by simp [hlexeme]), ?_⟩
    rw [List.count_nil, Nat.add_zero, scan_of_stray hlexeme]

theorem scan_of_spelling {line : Nat} {token : Token} {rest : Text} (hwell : token.WellFormed)
    (hends : token.EndsAt rest) :
    scan line (token.spelling ++ rest) = (scan line rest).cons ⟨token, line⟩ := by
  obtain ⟨c, after, hspelling, hlexeme⟩ := lexeme_of_spelling hwell hends
  rw [hspelling, scan_of_token hlexeme]

theorem front_of_not_separates {t : Text} (h : ∀ after, ¬ Separates t after) (line : Nat) :
    (∃ (token : Token) (rest : Text), t = token.spelling ++ rest ∧ token.WellFormed ∧
      token.EndsAt rest ∧ scan line t = (scan line rest).cons ⟨token, line⟩) ∨
    (∃ (c : Char) (rest : Text) (d : Char), t = c :: rest ∧ lexeme c rest = .stray d ∧
      scan line t = ⟨[], .stray line d⟩) ∨
    (t = [] ∧ scan line t = ⟨[], .finish line⟩) := by
  cases t with
  | nil => exact .inr (.inr ⟨rfl, scan_nil line⟩)
  | cons c t =>
    cases hlexeme : lexeme c t with
    | skipped lines rest => exact absurd (separates_of_lexeme hlexeme) (h rest)
    | token token rest =>
      obtain ⟨hspelling, hwell⟩ := spelling_of_lexeme hlexeme
      exact .inl ⟨token, rest, hspelling, hwell, endsAt_of_lexeme hlexeme,
        scan_of_token hlexeme line⟩
    | stray d => exact .inr (.inl ⟨c, t, d, rfl, hlexeme, scan_of_stray hlexeme line⟩)

/-- The statement with this index begins after `before`, with its keyword. -/
def BeginsAfter (t : Text) (index : Nat) (before : Text) : Prop :=
  ∃ (ss : List Statement) (rest : Text), ss.length = index ∧
    t = before ++ (Token.keyword.spelling ++ rest) ∧ Token.keyword.EndsAt rest ∧
    Leads t (ss.flatMap Statement.tokens) (Token.keyword.spelling ++ rest)

namespace Awaiting

variable {state : Awaiting} {ending : Ending} {ps qs : List Placed} {es : List Entry}

theorem read_append {line : Nat} (h : state.read (.finish line) ps = .ok es) :
    state.read ending (ps ++ qs) = (statement.read ending qs).map (es ++ ·) := by
  induction ps generalizing state es with
  | nil =>
    have hstate : state = statement := by
      by_contra hne
      rw [read, finish_of_ne hne] at h
      contradiction
    subst hstate
    cases h
    rw [List.nil_append]
    cases statement.read ending qs <;> rfl
  | cons p ps ih =>
    rw [read] at h
    rw [List.cons_append, read]
    cases hmove : state.move p with
    | next after =>
      rw [hmove] at h
      exact ih h
    | complete entry =>
      rw [hmove] at h
      obtain ⟨later, hlater, rfl⟩ := exists_of_map_eq_ok h
      dsimp only
      rw [ih hlater]
      cases statement.read ending qs <;> rfl
    | refuse =>
      rw [hmove] at h
      contradiction

theorem line_of_keyword {line : Nat}
    (h : statement.read ending (⟨.keyword, line⟩ :: ps) = .ok es) :
    ∃ e later, es = e :: later ∧ e.line = line := by
  obtain ⟨last, rfl⟩ := exists_finish_of_read h
  obtain ⟨ss, hss⟩ := remainder_of_read h
  cases ss with
  | nil => contradiction
  | cons s ss =>
    obtain ⟨-, htokens⟩ := List.cons.inj hss
    obtain ⟨_, inside, rfl, hinside⟩ := eq_cons_of_map_token htokens
    obtain ⟨rest, -, hread⟩ := read_arguments (.finish last) (.start line) hinside
    obtain ⟨later, -, rfl⟩ := exists_of_map_eq_ok (hread.symm.trans h)
    exact ⟨_, later, rfl, by rw [Draft.entry_addAll, Draft.start]⟩

end Awaiting

section
variable {t : Text} {es : List Entry} {e : Entry} {index : Nat}

theorem exists_beginsAfter (h : read t = .ok es) (he : es[index]? = some e) :
    ∃ before, BeginsAfter t index before := by
  obtain ⟨last, hending⟩ := Awaiting.exists_finish_of_read h
  unfold read at h
  dsimp only at h
  rw [hending] at h
  obtain ⟨ss, hss⟩ := Awaiting.remainder_of_read h
  obtain ⟨es', hread, hall⟩ := @Awaiting.read_statements ss last _ hss
  obtain rfl : es = es' := Except.ok.inj (h.symm.trans hread)
  have hlength : index < ss.length := by
    rw [hall.length_eq]
    exact (List.getElem?_eq_some_iff.1 he).1
  rw [← List.take_append_drop index ss, List.flatMap_append, List.map_eq_append_iff] at hss
  obtain ⟨ps, qs, hsplit, hps, hqs⟩ := hss
  obtain ⟨before, rest, ht, hleads, hstart, hscan⟩ := leads_of_scan hsplit
  rw [List.drop_eq_getElem_cons hlength] at hqs
  obtain ⟨line, qs, rfl, -⟩ := eq_cons_of_map_token hqs
  rcases front_of_not_separates hstart (1 + before.count '\n') with
    ⟨token, after, rfl, -, hends, hfront⟩ | ⟨c, after, d, -, -, hfront⟩ | ⟨-, hfront⟩
  · obtain ⟨hplaced, -⟩ := List.cons.inj (Scan.mk.inj (hscan.symm.trans hfront)).1
    obtain rfl := (Placed.mk.inj hplaced).1
    refine ⟨before, ss.take index, after, ?_, ht, hends, hps ▸ hleads⟩
    rw [List.length_take, Nat.min_eq_left hlength.le]
  · cases hscan.symm.trans hfront
  · cases hscan.symm.trans hfront

theorem line_of_beginsAfter {before : Text} (h : read t = .ok es) (he : es[index]? = some e)
    (hbegins : BeginsAfter t index before) : e.line = 1 + before.count '\n' := by
  obtain ⟨ss, rest, rfl, rfl, hends, hleads⟩ := hbegins
  -- What is left at both places is the same, so the scan has come as far as `before`.
  obtain ⟨front, hfront, hscans⟩ := scan_of_leads hleads
  obtain rfl := List.append_cancel_right hfront
  obtain ⟨ps, hps, hscan⟩ := hscans 1
  rw [scan_of_spelling wellFormed_keyword hends] at hscan
  obtain ⟨earlier, hearlier, hall⟩ := @Awaiting.read_statements ss 0 ps hps
  unfold read at h
  rw [hscan] at h
  change Awaiting.statement.read _ (ps ++ _ :: _) = _ at h
  rw [Awaiting.read_append hearlier] at h
  obtain ⟨es, hes, rfl⟩ := exists_of_map_eq_ok h
  obtain ⟨first, later, rfl, hline⟩ := Awaiting.line_of_keyword hes
  rw [hall.length_eq, List.getElem?_append_right le_rfl, Nat.sub_self] at he
  cases he
  exact hline

end

/-- What no manifest goes on with after these tokens: a token, a character that begins none, or the
    end of the text. -/
inductive Stops (tokens : List Token) : Text → Prop
  | token {token : Token} {rest : Text} (hwell : token.WellFormed) (hends : token.EndsAt rest)
    (hviable : ¬ Viable (tokens ++ [token])) : Stops tokens (token.spelling ++ rest)
  | stray {c : Char} {t : Text} (hlayout : ∀ after, ¬ Separates (c :: t) after)
    (htoken : ∀ (token : Token) rest, token.WellFormed → c :: t ≠ token.spelling ++ rest) :
    Stops tokens (c :: t)
  | finish (hgrammatical : ¬ Grammatical tokens) : Stops tokens []

/-- A manifest begins with the tokens of `before`, and none goes on with what comes then. -/
def DefectAfter (t before : Text) : Prop :=
  ∃ (tokens : List Token) (rest : Text), t = before ++ rest ∧ Leads t tokens rest ∧
    Viable tokens ∧ Stops tokens rest

theorem lexeme_of_stray {c : Char} {t : Text} (hlayout : ∀ after, ¬ Separates (c :: t) after)
    (htoken : ∀ (token : Token) rest, token.WellFormed → c :: t ≠ token.spelling ++ rest) :
    ∃ d, lexeme c t = .stray d := by
  cases hlexeme : lexeme c t with
  | skipped lines rest => exact absurd (separates_of_lexeme hlexeme) (hlayout rest)
  | token token rest =>
    obtain ⟨hspelling, hwell⟩ := spelling_of_lexeme hlexeme
    exact absurd hspelling (htoken token rest hwell)
  | stray d => exact ⟨d, rfl⟩

theorem ne_spelling_of_stray {c d : Char} {t : Text} (h : lexeme c t = .stray d) (token : Token)
    (rest : Text) (hwell : token.WellFormed) : c :: t ≠ token.spelling ++ rest := by
  intro hspelling
  have hstart : isWordStart c = true ∨ token.isWord = false := by
    cases token with
    | word name =>
      cases name with
      | nil => exact hwell.elim
      | cons first tail =>
        obtain ⟨rfl, -⟩ := List.cons.inj hspelling
        exact .inl hwell.1
    | _ => exact .inr rfl
  rcases hstart with hword | hmark
  · rw [lexeme_of_isWordStart hword] at h
    contradiction
  · have hends : token.EndsAt rest := by simp [Token.EndsAt, hmark]
    obtain ⟨first, after, hfirst, hlexeme⟩ := lexeme_of_spelling hwell hends
    obtain ⟨rfl, rfl⟩ := List.cons.inj (hspelling.trans hfirst)
    rw [h] at hlexeme
    contradiction

theorem exists_defectAfter {t : Text} {m : Misuse} (h : read t = .error m) :
    ∃ before, DefectAfter t before := by
  obtain ⟨ps, qs, last, hsplit, htakes, hlast⟩ := Awaiting.exists_takes_of_read_error h
  obtain ⟨before, rest, ht, hleads, hstart, hscan⟩ := leads_of_scan hsplit
  refine ⟨before, ps.map Placed.token, rest, ht, hleads, Awaiting.viable_of_takes htakes, ?_⟩
  rcases front_of_not_separates hstart (1 + before.count '\n') with
    ⟨token, after, rfl, hwell, hends, hfront⟩ | ⟨c, after, d, rfl, hstray, hfront⟩ | ⟨rfl, hfront⟩
  · obtain ⟨rfl, -⟩ := Scan.mk.inj (hscan.symm.trans hfront)
    rcases hlast with ⟨p, more, hp, hmove, -⟩ | ⟨hnil, -⟩
    · obtain ⟨rfl, -⟩ := List.cons.inj hp
      have hviable := (Awaiting.move_eq_refuse_iff htakes).1 hmove
      rw [List.map_append] at hviable
      exact .token hwell hends hviable
    · contradiction
  · exact .stray hstart (ne_spelling_of_stray hstray)
  · obtain ⟨rfl, hending⟩ := Scan.mk.inj (hscan.symm.trans hfront)
    rcases hlast with ⟨p, more, hp, -⟩ | ⟨-, hfinish⟩
    · contradiction
    · refine .finish fun hgrammatical => ?_
      rw [hending, (Awaiting.eq_statement_iff htakes).2 hgrammatical] at hfinish
      contradiction

theorem read_of_defectAfter {t before : Text} (h : DefectAfter t before) :
    ∃ defect, read t = .error (.malformedManifest (1 + before.count '\n') defect) := by
  obtain ⟨tokens, rest, rfl, hleads, hviable, hstops⟩ := h
  obtain ⟨front, hfront, hscans⟩ := scan_of_leads hleads
  obtain rfl := List.append_cancel_right hfront
  obtain ⟨ps, rfl, hscan⟩ := hscans 1
  obtain ⟨last, htakes⟩ := Awaiting.exists_takes_of_viable hviable
  unfold read
  rw [hscan]
  cases hstops with
  | @token token rest hwell hends hnot =>
    rw [scan_of_spelling hwell hends]
    have hmove : last.move ⟨token, 1 + before.count '\n'⟩ = .refuse := by
      rw [Awaiting.move_eq_refuse_iff htakes, List.map_append]
      exact hnot
    refine ⟨last.defect (some token), htakes.read_eq_error ?_⟩
    change last.read _ (_ :: _) = _
    rw [Awaiting.read, hmove]
  | @stray c t hlayout htoken =>
    obtain ⟨d, hlexeme⟩ := lexeme_of_stray hlayout htoken
    rw [scan_of_stray hlexeme]
    exact ⟨.stray d, htakes.read_eq_error rfl⟩
  | finish hgrammatical =>
    rw [scan_nil]
    have hstate := mt (Awaiting.eq_statement_iff htakes).1 hgrammatical
    exact ⟨last.defect none, htakes.read_eq_error (Awaiting.finish_of_ne hstate _)⟩

theorem prefix_detail (line : Nat) (defect : Defect) :
    "line ".toList ++ Text.decimal line ++ ":".toList <+:
      (Misuse.malformedManifest line defect).detail := by
  refine ⟨' ' :: defect.message, ?_⟩
  unfold Misuse.detail Misuse.atLine
  simp only [List.append_assoc]
  rfl

/-- Reading on demand returns entries or a misuse, and never asks for more than the text. The line
    of an entry is counted up to its keyword, and that in a defect's message up to the first place
    with which no manifest goes on. -/
theorem lines_of_entries_and_defects (t : Text) :
    (∃ es, Awaiting.statement.demand (.remaining 1 t) = .ok es ∧ read t = .ok es ∧
      ∀ index e, es[index]? = some e → (∃ before, BeginsAfter t index before) ∧
        ∀ before, BeginsAfter t index before → e.line = 1 + before.count '\n') ∨
    ∃ m, Awaiting.statement.demand (.remaining 1 t) = .error (.misuse m) ∧ read t = .error m ∧
      (∃ before, DefectAfter t before) ∧
        ∀ before, DefectAfter t before →
          "line ".toList ++ Text.decimal (1 + before.count '\n') ++ ":".toList <+: m.detail := by
  have hdemand := demand_eq_read t
  cases hread : read t with
  | ok es =>
    rw [hread] at hdemand
    refine .inl ⟨es, hdemand, rfl, fun index e he => ⟨exists_beginsAfter hread he, ?_⟩⟩
    exact fun before hbegins => line_of_beginsAfter hread he hbegins
  | error m =>
    rw [hread] at hdemand
    refine .inr ⟨m, hdemand, rfl, exists_defectAfter hread, fun before hdefect => ?_⟩
    obtain ⟨defect, hline⟩ := read_of_defectAfter hdefect
    obtain rfl : m = _ := Except.error.inj (hread.symm.trans hline)
    exact prefix_detail _ defect

example : read "/*\n*/ export() -> f;\n// then\nexport(".toList =
    .error (.malformedManifest 4 (.unexpected none)) := by
  decide +kernel

end NativeLinkage.Manifest
