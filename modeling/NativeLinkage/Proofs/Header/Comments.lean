import NativeLinkage.Proofs.Session.Batch
import NativeLinkage.Proofs.Stub.Characters

set_option autoImplicit false

/-!
The header as a compiler sees it, without its comments. Each declaration has a comment line before
it, in which the name and the descriptor of the method are written as they are. Whatever they hold,
the other lines of the header are unaffected; but a name or a descriptor with the closing mark ends
its comment early, and the rest of the comment line is then read as code.
-/
namespace NativeLinkage

theorem Text.ofLines_cons_cons (line other : Text) (lines : List Text) :
    ofLines (line :: other :: lines) = line ++ '\n' :: ofLines (other :: lines) := by
  rw [ofLines, List.intercalate_cons_cons, List.append_assoc]
  rfl

namespace Comment

/-- Where the reader of a text in C is: in code, perhaps after a slash; in a comment that runs to
    the end of the line; or in a comment that runs to the closing mark, perhaps after a star. -/
inductive Mode
  | code
  | slash
  | line
  | block
  | star
  deriving DecidableEq, Repr

namespace Mode

def next : Mode → Char → Mode
  | code, c => if c = '/' then slash else code
  | slash, c => if c = '/' then line else if c = '*' then block else code
  | line, c => if c = '\n' then code else line
  | block, c => if c = '*' then star else block
  | star, c => if c = '/' then code else if c = '*' then star else block

/-- A slash is held back until it is known whether it begins a comment. -/
def held : Mode → Text
  | slash => ['/']
  | _ => []

def kept (m : Mode) (c : Char) : Text :=
  match m with
  | code => if c = '/' then [] else [c]
  | slash => if c = '/' ∨ c = '*' then [] else ['/', c]
  | line => if c = '\n' then ['\n'] else []
  | block | star => []

def after (m : Mode) (t : Text) : Mode := t.foldl next m

def strip : Mode → Text → Text
  | m, [] => m.held
  | m, c :: t => m.kept c ++ strip (m.next c) t

def EndsOnLine (m : Mode) : Prop := m = code ∨ m = slash ∨ m = line

theorem after_cons (m : Mode) (c : Char) (t : Text) : m.after (c :: t) = (m.next c).after t := rfl

theorem after_append (m : Mode) (s t : Text) : m.after (s ++ t) = (m.after s).after t :=
  List.foldl_append

theorem strip_lineFeed {m : Mode} {s : Text} (h : (m.after s).EndsOnLine) (t : Text) :
    m.strip (s ++ '\n' :: t) = m.strip s ++ '\n' :: code.strip t := by
  induction s generalizing m with
  | nil =>
    rcases h with h | h | h
    all_goals
      change m = _ at h
      subst h
      rfl
  | cons c s ih =>
    rw [List.cons_append, strip, strip, ih h, List.append_assoc]

theorem mem_of_mem_strip {m : Mode} {t : Text} {c : Char} (h : c ∈ m.strip t) :
    c = '/' ∨ c ∈ t := by
  induction t generalizing m with
  | nil =>
    cases m with
    | slash => exact .inl (List.mem_singleton.1 h)
    | code | line | block | star => contradiction
  | cons d t ih =>
    rcases List.mem_append.1 h with hkept | hrest
    · rw [List.mem_cons]
      cases m with
      | code =>
        change c ∈ (if d = '/' then [] else [d]) at hkept
        split at hkept
        · contradiction
        · exact .inr (.inl (List.mem_singleton.1 hkept))
      | slash =>
        change c ∈ (if d = '/' ∨ d = '*' then [] else ['/', d]) at hkept
        split at hkept
        · contradiction
        · rcases List.mem_cons.1 hkept with hslash | hd
          · exact .inl hslash
          · exact .inr (.inl (List.mem_singleton.1 hd))
      | line =>
        change c ∈ (if d = '\n' then ['\n'] else []) at hkept
        split at hkept
        · next hd => exact .inr (.inl (hd ▸ List.mem_singleton.1 hkept))
        · contradiction
      | block | star => contradiction
    · exact (ih hrest).imp_right (List.mem_cons_of_mem _)

theorem strip_code_append {s : Text} (h : '/' ∉ s) (t : Text) :
    code.strip (s ++ t) = s ++ code.strip t := by
  induction s with
  | nil => rfl
  | cons c s ih =>
    rw [List.mem_cons, not_or] at h
    have hc : c ≠ '/' := Ne.symm h.1
    rw [List.cons_append, strip, kept, next, if_neg hc, if_neg hc, ih h.2]
    rfl

theorem after_code_of_not_mem {s : Text} (h : '/' ∉ s) : code.after s = code := by
  induction s with
  | nil => rfl
  | cons c s ih =>
    rw [List.mem_cons, not_or] at h
    rw [after_cons, next, if_neg (Ne.symm h.1), ih h.2]

theorem after_line_of_not_mem {s : Text} (h : '\n' ∉ s) : line.after s = line := by
  induction s with
  | nil => rfl
  | cons c s ih =>
    rw [List.mem_cons, not_or] at h
    rw [after_cons, next, if_neg (Ne.symm h.1), ih h.2]

theorem strip_line_of_not_mem {s : Text} (h : '\n' ∉ s) : line.strip s = [] := by
  induction s with
  | nil => rfl
  | cons c s ih =>
    rw [List.mem_cons, not_or] at h
    have hc : c ≠ '\n' := Ne.symm h.1
    rw [strip, kept, next, if_neg hc, if_neg hc, ih h.2]
    rfl

end Mode

def remove (t : Text) : Text := Mode.code.strip t

def Closed (line : Text) : Prop := (Mode.code.after line).EndsOnLine

/-- Where every line closes its comments, these are removed line by line. -/
theorem remove_ofLines {lines : List Text} (h : ∀ line ∈ lines, Closed line) :
    remove (Text.ofLines lines) = Text.ofLines (lines.map remove) := by
  induction lines with
  | nil => rfl
  | cons line lines ih =>
    rw [List.forall_mem_cons] at h
    cases lines with
    | nil => simp only [Text.ofLines, List.map_cons, List.map_nil, List.intercalate_singleton]
    | cons other lines =>
      rw [Text.ofLines_cons_cons, List.map_cons, List.map_cons, Text.ofLines_cons_cons,
        ← List.map_cons, ← ih h.2]
      exact Mode.strip_lineFeed h.1 _

theorem remove_of_not_mem {line : Text} (h : '/' ∉ line) : remove line = line := by
  have hstrip := Mode.strip_code_append h []
  rw [List.append_nil] at hstrip
  exact hstrip.trans (List.append_nil line)

theorem closed_of_not_mem {line : Text} (h : '/' ∉ line) : Closed line :=
  .inl (Mode.after_code_of_not_mem h)

theorem map_remove_of_not_mem {lines : List Text} (h : ∀ line ∈ lines, '/' ∉ line) :
    lines.map remove = lines := by
  have hid : lines.map remove = lines.map id :=
    List.map_congr_left fun line hline => remove_of_not_mem (h line hline)
  rw [hid, List.map_id]

theorem not_mem_remove {line : Text} (h : '\n' ∉ line) : '\n' ∉ remove line := by
  intro hmem
  rcases Mode.mem_of_mem_strip hmem with hslash | hline
  · contradiction
  · exact h hline

theorem remove_lineComment {code comment : Text} (hcode : '/' ∉ code) (hcomment : '\n' ∉ comment) :
    remove (code ++ '/' :: '/' :: comment) = code := by
  rw [remove, Mode.strip_code_append hcode]
  change code ++ Mode.line.strip comment = code
  rw [Mode.strip_line_of_not_mem hcomment, List.append_nil]

theorem closed_lineComment {code comment : Text} (hcode : '/' ∉ code) (hcomment : '\n' ∉ comment) :
    Closed (code ++ '/' :: '/' :: comment) := by
  rw [Closed, Mode.after_append, Mode.after_code_of_not_mem hcode]
  exact .inr (.inr (Mode.after_line_of_not_mem hcomment))

def Closes (t : Text) : Prop := ['*', '/'] <:+: t

instance (t : Text) : Decidable (Closes t) := inferInstanceAs (Decidable (_ <:+: _))

theorem not_closes_iff_isChain {t : Text} :
    ¬ Closes t ↔ t.IsChain fun a b => ¬ (a = '*' ∧ b = '/') := by
  rw [List.isChain_iff_forall_rel_of_append_cons_cons]
  constructor
  · rintro h a b before after rfl ⟨rfl, rfl⟩
    exact h ⟨before, after, by simp⟩
  · rintro h ⟨before, after, rfl⟩
    have hsplit : before ++ ['*', '/'] ++ after = before ++ '*' :: '/' :: after := by simp
    exact h hsplit ⟨rfl, rfl⟩

theorem not_closes_append_cons {s t : Text} {c : Char} (hstar : c ≠ '*') (hslash : c ≠ '/') :
    ¬ Closes (s ++ c :: t) ↔ ¬ Closes s ∧ ¬ Closes t := by
  simp only [not_closes_iff_isChain]
  rw [List.isChain_append, List.isChain_cons]
  constructor
  · rintro ⟨hs, ⟨-, ht⟩, -⟩
    exact ⟨hs, ht⟩
  · rintro ⟨hs, ht⟩
    refine ⟨hs, ⟨fun _ _ h => hstar h.1, ht⟩, ?_⟩
    rintro a - b hb ⟨-, rfl⟩
    cases hb
    exact hslash rfl

theorem strip_block_append {t : Text} (h : ¬ Closes t) (rest : Text) :
    Mode.block.strip (t ++ '*' :: '/' :: rest) = Mode.code.strip rest := by
  -- After a star the text may not begin with a slash, which the chain from that star says.
  have hmodes : (t.IsChain fun a b => ¬ (a = '*' ∧ b = '/')) →
      Mode.block.strip (t ++ '*' :: '/' :: rest) = Mode.code.strip rest ∧
      (('*' :: t).IsChain (fun a b => ¬ (a = '*' ∧ b = '/')) →
        Mode.star.strip (t ++ '*' :: '/' :: rest) = Mode.code.strip rest) := by
    clear h
    induction t with
    | nil => exact fun _ => ⟨rfl, fun _ => rfl⟩
    | cons c t ih =>
      intro h
      obtain ⟨hblock, hstar⟩ := ih h.tail
      by_cases hc : c = '*'
      · subst hc
        exact ⟨hstar h, fun _ => hstar h⟩
      · refine ⟨?_, fun hafter => ?_⟩
        · rw [List.cons_append, Mode.strip, Mode.kept, Mode.next, if_neg hc]
          exact hblock
        · have hslash : c ≠ '/' := fun hc' => (List.isChain_cons_cons.1 hafter).1 ⟨rfl, hc'⟩
          rw [List.cons_append, Mode.strip, Mode.kept, Mode.next, if_neg hslash, if_neg hc]
          exact hblock
  exact (hmodes (not_closes_iff_isChain.1 h)).1

end Comment

namespace Header
open Comment

def openingDirectives (baseName : Text) : List Text :=
  ["#ifndef ".toList ++ guard baseName,
    "#define ".toList ++ guard baseName,
    [],
    "#include <jni.h>".toList,
    [],
    "#ifdef __cplusplus".toList,
    "extern \"C\" \x7b".toList,
    "#endif".toList,
    []]

def bareOpening (baseName : Text) : List Text := [] :: openingDirectives baseName

def closingDirectives : List Text :=
  [[],
    "#ifdef __cplusplus".toList,
    "\x7d".toList,
    "#endif".toList,
    []]

def bareClosing : List Text := closingDirectives ++ ["#endif ".toList]

/-- The lines without comments, where this is left of the comment line of each declaration. -/
def codeLines (baseName : Text) (residue : Stub → Text) (stubs : List Stub) : List Text :=
  bareOpening baseName ++ stubs.flatMap (fun s => [residue s, s.prototype ++ [';']]) ++ bareClosing

/-- The lines of a header whose names stay in their comments. -/
def bareLines (baseName : Text) (stubs : List Stub) : List Text :=
  codeLines baseName (fun _ => []) stubs

section
variable {baseName : Text} (hname : Identifier.isValid baseName = true)
include hname

theorem slash_not_mem_openingDirectives : ∀ line ∈ openingDirectives baseName, '/' ∉ line := by
  have hguard : '/' ∉ guard baseName := (plain_guard hname).not_mem (by decide)
  refine List.forall_mem_cons.2 ⟨?_, List.forall_mem_cons.2 ⟨?_, by decide⟩⟩
  · simpa using hguard
  · simpa using hguard

theorem opening_without_comments :
    (∀ line ∈ opening baseName, Closed line) ∧
      (opening baseName).map remove = bareOpening baseName := by
  have hslash := slash_not_mem_openingDirectives hname
  change (∀ line ∈ generatedNotice :: openingDirectives baseName, Closed line) ∧
    (generatedNotice :: openingDirectives baseName).map remove = [] :: openingDirectives baseName
  have hnotice : generatedNotice = [] ++ '/' :: '/' :: " AUTO-GENERATED - DO NOT EDIT".toList := by
    decide
  constructor
  · refine List.forall_mem_cons.2 ⟨?_, fun line hline => closed_of_not_mem (hslash line hline)⟩
    rw [hnotice]
    exact closed_lineComment (by decide) (by decide)
  · rw [List.map_cons, hnotice, remove_lineComment (by decide) (by decide)]
    rw [map_remove_of_not_mem hslash]

theorem closing_without_comments :
    (∀ line ∈ closing baseName, Closed line) ∧ (closing baseName).map remove = bareClosing := by
  have hslash : ∀ line ∈ closingDirectives, '/' ∉ line := by decide
  have hguard := (plain_guard hname).not_mem_lineFeed
  have hcomment : '\n' ∉ ' ' :: guard baseName := by simpa using hguard
  have hlast : "#endif // ".toList ++ guard baseName =
      "#endif ".toList ++ '/' :: '/' :: ' ' :: guard baseName := by
    have hmark : "#endif // ".toList = "#endif ".toList ++ ['/', '/', ' '] := by decide
    rw [hmark, List.append_assoc]
    rfl
  change (∀ line ∈ closingDirectives ++ ["#endif // ".toList ++ guard baseName], Closed line) ∧
    (closingDirectives ++ ["#endif // ".toList ++ guard baseName]).map remove = bareClosing
  rw [hlast]
  constructor
  · refine List.forall_mem_append.2 ⟨fun line hline => closed_of_not_mem (hslash line hline), ?_⟩
    exact List.forall_mem_singleton.2 (closed_lineComment (by decide) hcomment)
  · rw [List.map_append, map_remove_of_not_mem hslash, List.map_singleton,
      remove_lineComment (by decide) hcomment]
    rfl

end

/-- Whatever the comment of a declaration holds, it goes on no further than its line. -/
theorem closed_comment (s : Stub) : Closed (comment s) := by
  have hend (m : Mode) : (m.after " */".toList).EndsOnLine := by
    cases m
    · exact .inr (.inl rfl)
    · exact .inr (.inl rfl)
    · exact .inr (.inr rfl)
    · exact .inl rfl
    · exact .inl rfl
  rw [Closed, comment, Mode.after_append]
  exact hend _

theorem remove_comment {s : Stub} (hname : ¬ Closes s.qualifiedName)
    (hdescriptor : ¬ Closes s.descriptor) : remove (comment s) = [] := by
  have hbody : ¬ Closes ([] ++ ' ' :: (s.qualifiedName ++ ' ' :: (s.descriptor ++ [' ']))) := by
    rw [not_closes_append_cons (by decide) (by decide),
      not_closes_append_cons (by decide) (by decide),
      not_closes_append_cons (by decide) (by decide)]
    exact ⟨by decide, hname, hdescriptor, by decide⟩
  have hcomment : comment s = '/' :: '*' ::
      (([] ++ ' ' :: (s.qualifiedName ++ ' ' :: (s.descriptor ++ [' ']))) ++ ['*', '/']) := by
    simp [comment]
  rw [hcomment]
  exact strip_block_append hbody []

/-- The class name of a request is harmless, since its slashes are written as dots. -/
theorem closes_qualifiedName_iff (r : Request) :
    Closes r.qualifiedName ↔ Closes r.methodName := by
  have hclass : ¬ Closes (Text.replace '/' '.' r.className) := by
    rintro ⟨before, after, happend⟩
    have hslash := Text.not_mem_replace (show '/' ≠ '.' by decide) r.className
    rw [← happend] at hslash
    simp at hslash
  have hsplit := not_closes_append_cons (s := Text.replace '/' '.' r.className)
    (t := r.methodName) (c := '.') (by decide) (by decide)
  rw [← not_iff_not, Request.qualifiedName, hsplit]
  exact ⟨And.right, fun h => ⟨hclass, h⟩⟩

theorem remove_render {baseName : Text} (hname : Identifier.isValid baseName = true)
    {stubs : List Stub} (h : ∀ s ∈ stubs, s.SingleLine) :
    remove (render baseName stubs) =
      Text.ofLines (codeLines baseName (fun s => remove (comment s)) stubs) := by
  obtain ⟨hopening, hbareOpening⟩ := opening_without_comments hname
  obtain ⟨hclosing, hbareClosing⟩ := closing_without_comments hname
  have hslash : ∀ s ∈ stubs, '/' ∉ s.prototype ++ [';'] := by
    intro s hs
    simpa using (h s hs).plain_prototype.not_mem (by decide)
  have hclosed : ∀ line ∈ lines baseName stubs, Closed line := by
    refine List.forall_mem_append.2 ⟨List.forall_mem_append.2 ⟨hopening, ?_⟩, hclosing⟩
    intro line hline
    obtain ⟨s, hs, hdeclaration⟩ := List.mem_flatMap.1 hline
    rcases List.mem_pair.1 hdeclaration with rfl | rfl
    · exact closed_comment s
    · exact closed_of_not_mem (hslash s hs)
  have hdeclarations : (stubs.flatMap declaration).map remove =
      stubs.flatMap fun s => [remove (comment s), s.prototype ++ [';']] := by
    rw [List.map_flatMap]
    refine List.flatMap_congr fun s hs => ?_
    rw [declaration, List.map_cons, List.map_singleton, remove_of_not_mem (hslash s hs)]
  rw [render, remove_ofLines hclosed, lines, List.map_append, List.map_append, hbareOpening,
    hbareClosing, hdeclarations, codeLines]

theorem not_mem_codeLines {baseName : Text} (hname : Identifier.isValid baseName = true)
    {residue : Stub → Text} {stubs : List Stub} (h : ∀ s ∈ stubs, s.SingleLine)
    (hresidue : ∀ s ∈ stubs, '\n' ∉ residue s) :
    ∀ line ∈ codeLines baseName residue stubs, '\n' ∉ line := by
  have hguard := (plain_guard hname).not_mem_lineFeed
  refine List.forall_mem_append.2 ⟨List.forall_mem_append.2 ⟨?_, ?_⟩, by decide⟩
  · refine List.forall_mem_cons.2 ⟨by decide, List.forall_mem_cons.2 ⟨?_,
      List.forall_mem_cons.2 ⟨?_, by decide⟩⟩⟩
    · simpa using hguard
    · simpa using hguard
  · intro line hline
    obtain ⟨s, hs, hdeclaration⟩ := List.mem_flatMap.1 hline
    rcases List.mem_pair.1 hdeclaration with rfl | rfl
    · exact hresidue s hs
    · simpa using (h s hs).plain_prototype.not_mem_lineFeed

theorem eq_of_codeLines_eq {baseName : Text} {residue residue' : Stub → Text} {stubs : List Stub}
    (h : codeLines baseName residue stubs = codeLines baseName residue' stubs) :
    ∀ s ∈ stubs, residue s = residue' s := by
  have hmiddle := List.append_cancel_left (List.append_cancel_right h)
  clear h
  induction stubs with
  | nil => exact List.forall_mem_nil _
  | cons s stubs ih =>
    obtain ⟨hfirst, hrest⟩ := List.cons.inj hmiddle
    exact List.forall_mem_cons.2 ⟨hfirst, ih (List.cons.inj hrest).2⟩

theorem remove_render_eq_iff {baseName : Text} (hname : Identifier.isValid baseName = true)
    {stubs : List Stub} (h : ∀ s ∈ stubs, s.SingleLine) :
    remove (render baseName stubs) = Text.ofLines (bareLines baseName stubs) ↔
      ∀ s ∈ stubs, remove (comment s) = [] := by
  rw [remove_render hname h, bareLines]
  constructor
  · intro heq
    have hleft := not_mem_codeLines hname h fun s hs => not_mem_remove (not_mem_comment (h s hs))
    have hright := not_mem_codeLines hname h (fun s _ => List.not_mem_nil)
    have hne (residue : Stub → Text) : codeLines baseName residue stubs ≠ [] :=
      List.append_ne_nil_of_right_ne_nil _ (by decide)
    have hlines := congrArg (List.splitOn '\n') heq
    rw [Text.splitOn_ofLines hleft (hne _), Text.splitOn_ofLines hright (hne _)] at hlines
    exact eq_of_codeLines_eq hlines
  · intro hvanish
    have hdeclarations : stubs.flatMap (fun s => [remove (comment s), s.prototype ++ [';']]) =
        stubs.flatMap fun s => [[], s.prototype ++ [';']] :=
      List.flatMap_congr fun s hs => by rw [hvanish s hs]
    rw [codeLines, codeLines, hdeclarations]

/-- Of the header of a manifest, whatever names it holds, comments leave the fixed lines and the
    prototypes, one for each stub in order; only on the comment lines something else can be left.
    Nothing is left of a comment line if neither the method name nor the descriptor holds the
    closing mark; and the whole header is bare exactly if nothing is left of any comment line. -/
theorem comments_of_header (name : Text) {text : Text} {es : List Manifest.Entry}
    (hread : Manifest.read text = .ok es) :
    let stubs := (ExportTable.empty.batch (Command.requestsOf es)).stubs
    let baseName := Identifier.ofText name
    remove (render baseName stubs) =
      Text.ofLines (codeLines baseName (fun s => remove (comment s)) stubs) ∧
    (∀ s ∈ stubs, ∃ r ∈ Command.requestsOf es, r.stub = .ok s ∧
      (¬ Closes r.methodName → ¬ Closes s.descriptor → remove (comment s) = [])) ∧
    (remove (render baseName stubs) = Text.ofLines (bareLines baseName stubs) ↔
      ∀ s ∈ stubs, remove (comment s) = []) := by
  intro stubs baseName
  have hname : Identifier.isValid baseName = true := Identifier.isValid_ofText name
  have horigin : ∀ s ∈ stubs, ∃ r ∈ Command.requestsOf es, r.stub = .ok s :=
    fun s hs => ExportTable.exists_request_of_mem_stubs hs
  have hsingle : ∀ s ∈ stubs, s.SingleLine := by
    intro s hs
    obtain ⟨r, hr, hstub⟩ := horigin s hs
    exact (singleLine_of_mem_requestsOf hread hr).stub hstub
  refine ⟨remove_render hname hsingle, ?_, remove_render_eq_iff hname hsingle⟩
  intro s hs
  obtain ⟨r, hr, hstub⟩ := horigin s hs
  refine ⟨r, hr, hstub, fun hmethod hdescriptor => remove_comment ?_ hdescriptor⟩
  rwa [Request.qualifiedName_of_stub hstub, closes_qualifiedName_iff]

/-- The header of a method with an ordinary parameter is bare without its comments. -/
theorem ordinary_names_stay_in_comments :
    let text := "export(\"p.C.m\", \"(La/b;)V\") -> f;".toList
    let es : List Manifest.Entry := [⟨1, ["p.C.m".toList, "(La/b;)V".toList], [], "f".toList⟩]
    let stubs := (ExportTable.empty.batch (Command.requestsOf es)).stubs
    let baseName := Identifier.ofText "m".toList
    Manifest.read text = .ok es ∧
      remove (render baseName stubs) = Text.ofLines (bareLines baseName stubs) := by
  intro text es stubs baseName
  have hread : Manifest.read text = .ok es := by decide +kernel
  obtain ⟨-, -, hbare⟩ := comments_of_header "m".toList hread
  exact ⟨hread, hbare.2 (by decide +kernel)⟩

/-- A package may end in a star. In a descriptor a slash follows it, and the two end the comment:
    the rest of the descriptor is left in the code. -/
theorem package_in_descriptor_ends_comment :
    let text := "export(\"p.C.m\", \"(La*/b;)V\") -> f;".toList
    let es : List Manifest.Entry := [⟨1, ["p.C.m".toList, "(La*/b;)V".toList], [], "f".toList⟩]
    let stubs := (ExportTable.empty.batch (Command.requestsOf es)).stubs
    let baseName := Identifier.ofText "m".toList
    Manifest.read text = .ok es ∧
      remove (render baseName stubs) ≠ Text.ofLines (bareLines baseName stubs) ∧
      "b;)V */".toList ∈ (remove (render baseName stubs)).splitOn '\n' := by
  decide +kernel

end Header

end NativeLinkage
