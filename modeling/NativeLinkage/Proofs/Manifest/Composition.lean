import NativeLinkage.Proofs.Manifest.Lines

set_option autoImplicit false

/-!
Manifests compose. A line feed ends every lexeme that the end of a text ends: it closes a line
comment, no word goes on with it, and block comments and literals that are not closed are no lexemes
at all. So a text that goes on after a line feed is scanned to its end as before, and what comes
then is scanned as a text of its own, only further down.
-/
namespace NativeLinkage

def Misuse.down (n : Nat) : Misuse → Misuse
  | duplicateField line name => duplicateField (line + n) name
  | malformedManifest line defect => malformedManifest (line + n) defect
  | m => m

namespace Manifest

def Placed.down (n : Nat) (p : Placed) : Placed := { p with line := p.line + n }

def Ending.down (n : Nat) : Ending → Ending
  | finish line => finish (line + n)
  | stray line c => stray (line + n) c

def Scan.down (n : Nat) (s : Scan) : Scan := ⟨s.tokens.map (Placed.down n), s.ending.down n⟩

def Draft.down (n : Nat) (d : Draft) : Draft := { d with line := d.line + n }

def Entry.down (n : Nat) (e : Entry) : Entry := { e with line := e.line + n }

def Awaiting.down (n : Nat) : Awaiting → Awaiting
  | statement => statement
  | opening d => opening (d.down n)
  | argumentOrClosing d => argumentOrClosing (d.down n)
  | argument d => argument (d.down n)
  | equals d name => equals (d.down n) name
  | value d name => value (d.down n) name
  | commaOrClosing d => commaOrClosing (d.down n)
  | arrow d => arrow (d.down n)
  | target d => target (d.down n)
  | semicolon e => semicolon (e.down n)

def Move.down (n : Nat) : Move → Move
  | next state => next (state.down n)
  | complete entry => complete (entry.down n)
  | refuse => refuse

def readDown (n : Nat) : Except Misuse (List Entry) → Except Misuse (List Entry)
  | .ok es => .ok (es.map (Entry.down n))
  | .error m => .error (m.down n)

theorem readDown_map_cons (n : Nat) (entry : Entry) (x : Except Misuse (List Entry)) :
    readDown n (x.map (entry :: ·)) = (readDown n x).map (entry.down n :: ·) := by
  cases x <;> rfl

theorem scan_add (n line : Nat) (t : Text) : scan (line + n) t = (scan line t).down n := by
  fun_induction scan line t with
  | case1 line => rw [scan_nil]; rfl
  | case2 line c t lines rest hlexeme ih =>
    rw [scan_of_skipped hlexeme, Nat.add_right_comm, ih]
  | case3 line c t token rest hlexeme ih =>
    rw [scan_of_token hlexeme, ih]
    rfl
  | case4 line c t stray hlexeme => rw [scan_of_stray hlexeme]; rfl

namespace Awaiting

theorem argumentMove_down (n : Nat) (d : Draft) (token : Token) :
    argumentMove (d.down n) token = (argumentMove d token).down n := by
  cases token <;> rfl

/-- The automaton only keeps the line of a keyword. -/
theorem move_down (n : Nat) (state : Awaiting) (p : Placed) :
    (state.down n).move (p.down n) = (state.move p).down n := by
  obtain ⟨token, line⟩ := p
  cases state with
  | statement =>
    by_cases hkeyword : token = Token.keyword
    · subst hkeyword
      rfl
    · simp only [move, down, Placed.down, hkeyword, if_false, Move.down]
  | argument d => exact argumentMove_down n d token
  | _ => cases token <;> rfl

theorem defect_down (n : Nat) (state : Awaiting) (got : Option Token) :
    (state.down n).defect got = state.defect got := by
  cases state <;> rfl

theorem finish_down (n : Nat) (state : Awaiting) (ending : Ending) :
    (state.down n).finish (ending.down n) = readDown n (state.finish ending) := by
  cases ending with
  | stray line c => rfl
  | finish line => cases state <;> rfl

theorem read_down (n : Nat) (state : Awaiting) (ending : Ending) (ps : List Placed) :
    (state.down n).read (ending.down n) (ps.map (Placed.down n)) =
      readDown n (state.read ending ps) := by
  induction ps generalizing state with
  | nil => exact finish_down n state ending
  | cons p ps ih =>
    rw [List.map_cons, read, read, move_down]
    cases state.move p with
    | next after => exact ih after
    | complete entry =>
      have hrest : statement.read (ending.down n) (ps.map (Placed.down n)) = _ := ih statement
      change (statement.read _ _).map (entry.down n :: ·) = readDown n (Except.map _ _)
      rw [hrest, readDown_map_cons]
    | refuse =>
      change Except.error (Misuse.malformedManifest (p.line + n) _) = _
      rw [defect_down]
      rfl

end Awaiting

theorem Separates.append_lineFeed {t rest : Text} (h : Separates t rest) (b : Text) :
    Separates (t ++ '\n' :: b) (rest ++ '\n' :: b) := by
  cases h with
  | lineFeed => exact .lineFeed _
  | gap hgap => exact .gap hgap _
  | @line body _ hbody hrest =>
    rw [List.cons_append, List.cons_append, List.append_assoc]
    refine .line hbody ?_
    cases rest with
    | nil => simp
    | cons c rest => exact hrest
  | @block body hbody =>
    have hblock := Separates.block hbody (rest ++ '\n' :: b)
    simpa using hblock

section
variable {c : Char} {t rest : Text}

theorem lexeme_append_of_skipped {lines : Nat} (h : lexeme c t = .skipped lines rest) (b : Text) :
    lexeme c (t ++ '\n' :: b) = .skipped lines (rest ++ '\n' :: b) := by
  obtain ⟨d, after, found, hfront, hlexeme⟩ :=
    lexeme_of_separates ((separates_of_lexeme h).append_lineFeed b)
  obtain ⟨rfl, rfl⟩ := List.cons.inj hfront
  -- Both skip the same text, whose line feeds are counted.
  obtain ⟨layout, hlayout, rfl⟩ := count_of_skipped h
  obtain ⟨more, hmore, rfl⟩ := count_of_skipped hlexeme
  change c :: t ++ '\n' :: b = _ at hmore
  rw [hlayout, List.append_assoc] at hmore
  obtain rfl := List.append_cancel_right hmore
  exact hlexeme

theorem Token.EndsAt.append_lineFeed {token : Token} (h : token.EndsAt rest) (b : Text) :
    token.EndsAt (rest ++ '\n' :: b) := by
  intro hword d hd
  cases rest with
  | nil =>
    cases hd
    decide
  | cons first rest => exact h hword d hd

theorem lexeme_append_of_token {token : Token} (h : lexeme c t = .token token rest) (b : Text) :
    lexeme c (t ++ '\n' :: b) = .token token (rest ++ '\n' :: b) := by
  obtain ⟨hspelling, hwell⟩ := spelling_of_lexeme h
  obtain ⟨d, after, hfront, hlexeme⟩ :=
    lexeme_of_spelling hwell ((endsAt_of_lexeme h).append_lineFeed b)
  rw [← List.append_assoc, ← hspelling] at hfront
  obtain ⟨rfl, rfl⟩ := List.cons.inj hfront
  exact hlexeme

end

/-- The tokens of the text before the line feed, and those of the text after it with their lines. -/
theorem scan_append_lineFeed {line : Nat} {a : Text} (h : (scan line a).Complete) (b : Text) :
    scan line (a ++ '\n' :: b) =
      (scan (line + (1 + a.count '\n')) b).append (scan line a).tokens := by
  fun_induction scan line a with
  | case1 line =>
    have hline : lexeme '\n' b = .skipped 1 b := rfl
    rw [List.nil_append, scan_of_skipped hline]
    rfl
  | case2 line c t lines rest hlexeme ih =>
    obtain ⟨layout, hlayout, rfl⟩ := count_of_skipped hlexeme
    have hcount : line + layout.count '\n' + (1 + rest.count '\n') =
        line + (1 + (c :: t).count '\n') := by
      rw [hlayout, List.count_append]
      omega
    rw [List.cons_append, scan_of_skipped (lexeme_append_of_skipped hlexeme b), ih h, hcount]
  | case3 line c t token rest hlexeme ih =>
    obtain ⟨hspelling, hwell⟩ := spelling_of_lexeme hlexeme
    have hcount : (c :: t).count '\n' = rest.count '\n' := by
      rw [hspelling, List.count_append, List.count_eq_zero_of_not_mem hwell.not_mem_spelling,
        Nat.zero_add]
    rw [List.cons_append, scan_of_token (lexeme_append_of_token hlexeme b), ih h, hcount]
    rfl
  | case4 line c t stray hlexeme =>
    obtain ⟨last, hlast⟩ := h
    contradiction

theorem read_append_lineFeed {a : Text} {es : List Entry} (h : read a = .ok es) (b : Text) :
    read (a ++ '\n' :: b) = (readDown (1 + a.count '\n') (read b)).map (es ++ ·) := by
  obtain ⟨last, hending⟩ := Awaiting.exists_finish_of_read h
  have hread : Awaiting.statement.read (.finish last) (scan 1 a).tokens = .ok es := hending ▸ h
  rw [read, scan_append_lineFeed ⟨last, hending⟩ b, scan_add]
  change Awaiting.statement.read _ ((scan 1 a).tokens ++ _) = _
  rw [Awaiting.read_append hread]
  exact congrArg _ (Awaiting.read_down _ .statement _ _)

theorem exists_malformed_of_read {t : Text} {m : Misuse} (h : read t = .error m) :
    ∃ line defect, m = .malformedManifest line defect := by
  obtain ⟨before, hdefect⟩ := exists_defectAfter h
  obtain ⟨defect, hline⟩ := read_of_defectAfter hdefect
  exact ⟨_, defect, Except.error.inj (h.symm.trans hline)⟩

/-- After a manifest that is read and a line feed, any text is read as it is alone, with its lines
    counted from there: its entries follow those of the manifest, or its defect is reported in the
    same words and for the same field. -/
theorem manifests_compose {a : Text} {es : List Entry} (h : read a = .ok es) (b : Text) :
    (∀ fs, read b = .ok fs → read (a ++ '\n' :: b) =
      .ok (es ++ fs.map fun f => { f with line := f.line + (1 + a.count '\n') })) ∧
    ∀ m, read b = .error m → ∃ (line : Nat) (words : Text) (found : Misuse),
      read (a ++ '\n' :: b) = .error found ∧
      m.detail = "line ".toList ++ Text.decimal line ++ ": ".toList ++ words ∧
      found.detail = "line ".toList ++ Text.decimal (line + (1 + a.count '\n')) ++ ": ".toList ++
        words ∧
      found.field? = m.field? := by
  have hcompose := read_append_lineFeed h b
  refine ⟨fun fs hfs => ?_, fun m hm => ?_⟩
  · rw [hfs] at hcompose
    exact hcompose
  · obtain ⟨line, defect, rfl⟩ := exists_malformed_of_read hm
    rw [hm] at hcompose
    exact ⟨line, defect.message, _, hcompose, rfl, rfl, rfl⟩

/-- A line comment at the end of a manifest, before another manifest and before a word alone. -/
theorem closed_comment_composes :
    let a := "export() -> f; // x".toList
    let entry (line : Nat) : Entry := ⟨line, [], [], ['f']⟩
    read a = .ok [entry 1] ∧ read (a ++ '\n' :: a) = .ok [entry 1, entry 2] ∧
      ∃ line words found, read (a ++ '\n' :: ['y']) = .error found ∧
        (Misuse.malformedManifest 1 (.expected .keyword (some (.word ['y'])))).detail =
          "line ".toList ++ Text.decimal line ++ ": ".toList ++ words ∧
        found.detail = "line ".toList ++ Text.decimal (line + 1) ++ ": ".toList ++ words ∧
        found.field? = none := by
  intro a entry
  have hread : read a = .ok [entry 1] := by decide +kernel
  have hword : read ['y'] =
      .error (.malformedManifest 1 (.expected .keyword (some (.word ['y'])))) := by decide +kernel
  exact ⟨hread, (manifests_compose hread a).1 _ hread, (manifests_compose hread ['y']).2 _ hword⟩

end Manifest

end NativeLinkage
