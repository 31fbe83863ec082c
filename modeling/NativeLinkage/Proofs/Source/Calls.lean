import NativeLinkage.Proofs.Source.Targets
import NativeLinkage.Proofs.Symbol.Recovery

set_option autoImplicit false

/-!
What the calls of a source call. In a definition a name denotes a parameter first, then a function
that the file defines, and only then one that it declares. Targets are written as a manifest has them,
so a target with the name of a parameter or of an exported function is not reached; targets with
any other names are.
-/
namespace NativeLinkage

namespace Text

def lastWord (t : Text) : Text := ((splitLast? ' ' t).map Prod.snd).getD t

theorem lastWord_append_blank (before : Text) {word : Text} (h : ' ' ∉ word) :
    lastWord (before ++ ' ' :: word) = word := by
  rw [lastWord, splitLast?_append before h]
  rfl

theorem not_mem_of_isWordChar {t : Text} (h : ∀ c ∈ t, Identifier.isWordChar c = true) {c : Char}
    (hc : Identifier.isWordChar c = false) : c ∉ t := by
  intro hmem
  rw [h c hmem] at hc
  contradiction

end Text

namespace Source

def nameBefore (line : Text) : Text := Text.lastWord (line.takeWhile (· ≠ '('))

def parameterNames (prototype : Text) : List Text :=
  ((((prototype.dropWhile (· ≠ '(')).drop 1).takeWhile (· ≠ ')')).splitOn ',').map Text.lastWord

/-- What a name can denote in a definition. -/
inductive Referent
  | parameter
  | exported
  | external
  | undeclared
  deriving DecidableEq, Repr

/-- Parameters hide functions, and what the file defines it does not take from elsewhere. -/
def referent (lines : List Text) (prototype name : Text) : Referent :=
  if (parameterNames prototype).contains name then .parameter
  else if ((defined lines).map fun definition => nameBefore definition.1).contains name then
    .exported
  else if ((lines.filter isExtern).map declaredTarget).contains name then .external
  else .undeclared

/-- What is called in the definitions of a source, line by line. -/
def referents (lines : List Text) : List Referent :=
  (defined lines).flatMap fun definition =>
    definition.2.map fun line => referent lines definition.1 (nameBefore line)

theorem nameBefore_append {front name : Text} (hfront : '(' ∉ front) (hname : '(' ∉ name)
    (hblank : ' ' ∉ name) (rest : Text) :
    nameBefore (front ++ ' ' :: (name ++ '(' :: rest)) = name := by
  have hbefore : '(' ∉ front ++ ' ' :: name := by simp [hfront, hname]
  have hline : front ++ ' ' :: (name ++ '(' :: rest) = (front ++ ' ' :: name) ++ '(' :: rest := by
    simp
  rw [nameBefore, hline, Text.takeWhile_ne_append hbefore (eq_of_mem_head?_cons _ _),
    Text.lastWord_append_blank front hblank]

end Source

structure Stub.Nameable (s : Stub) : Prop where
  nativeReturn : ∀ c ∈ s.nativeReturn, Identifier.isWordChar c = true
  symbol : ∀ c ∈ s.symbol, Identifier.isWordChar c = true
  params_ne_nil : s.params ≠ []
  types : ∀ p ∈ s.params, ∀ c ∈ p.type, Identifier.isWordChar c = true ∨ c = '*'
  names : ∀ p ∈ s.params, ∀ c ∈ p.name, Identifier.isWordChar c = true
  target : '(' ∉ s.target
  target_blank : ' ' ∉ s.target

namespace Stub

/-- Items set apart by a comma and a blank are set apart by the comma, each but the first with the
    blank in front. -/
theorem listed_cons (item : Text) (items : List Text) :
    listed (item :: items) = List.intercalate [','] (item :: items.map (' ' :: ·)) := by
  induction items generalizing item with
  | nil => simp [listed]
  | cons next items ih =>
    have hblank (word : Text) (words : List Text) :
        List.intercalate [','] ((' ' :: word) :: words) =
          ' ' :: List.intercalate [','] (word :: words) := by
      cases words with
      | nil => simp
      | cons second words => simp [List.intercalate_cons_cons]
    calc
      listed (item :: next :: items) = item ++ ',' :: ' ' :: listed (next :: items) := by
        simp [listed, List.intercalate_cons_cons]
      _ = item ++ ',' :: List.intercalate [','] ((' ' :: next) :: items.map (' ' :: ·)) := by
        rw [ih, hblank]
      _ = List.intercalate [','] (item :: (next :: items).map (' ' :: ·)) := by
        simp [List.intercalate_cons_cons]

theorem prototype_eq (s : Stub) :
    s.prototype = "JNIEXPORT ".toList ++ s.nativeReturn ++ " JNICALL".toList ++
      ' ' :: (s.symbol ++ '(' :: (s.paramList ++ [')'])) := by
  have hcall : " JNICALL ".toList = " JNICALL".toList ++ [' '] := by decide
  unfold prototype
  rw [hcall]
  simp only [List.append_assoc, List.cons_append, List.nil_append]

section
variable {s : Stub} (h : s.Nameable)
include h

theorem Nameable.declarable : s.Declarable :=
  ⟨Text.not_mem_of_isWordChar h.nativeReturn (by decide), h.target⟩

theorem Nameable.not_mem_declaration {p : Param} (hp : p ∈ s.params) {c : Char}
    (hc : c = ',' ∨ c = ')') : c ∉ p.declaration := by
  have hword : Identifier.isWordChar c = false := by rcases hc with rfl | rfl <;> decide
  have hother : c ≠ '*' ∧ c ≠ ' ' := by rcases hc with rfl | rfl <;> decide
  rw [Param.declaration, List.mem_append, List.mem_cons]
  rintro (htype | hblank | hname)
  · rcases h.types p hp c htype with hwordChar | hstar
    · rw [hwordChar] at hword
      contradiction
    · exact hother.1 hstar
  · exact hother.2 hblank
  · exact Text.not_mem_of_isWordChar (h.names p hp) hword hname

theorem Nameable.not_mem_paramList : ')' ∉ s.paramList := by
  suffices hne : ∀ c ∈ s.paramList, c ≠ ')' from fun hmem => hne _ hmem rfl
  apply forall_mem_listed
  · simp
  · rintro t ht c hc rfl
    obtain ⟨p, hp, rfl⟩ := List.mem_map.1 ht
    exact h.not_mem_declaration hp (.inr rfl) hc

theorem Nameable.map_lastWord_paramList :
    (s.paramList.splitOn ',').map Text.lastWord = s.params.map Param.name := by
  have hitems : ∀ p ∈ s.params, ',' ∉ p.declaration :=
    fun p hp => h.not_mem_declaration hp (.inl rfl)
  have hnames : ∀ p ∈ s.params, ' ' ∉ p.name :=
    fun p hp => Text.not_mem_of_isWordChar (h.names p hp) (by decide)
  unfold paramList
  cases hparams : s.params with
  | nil => exact absurd hparams h.params_ne_nil
  | cons p params =>
    rw [hparams, List.forall_mem_cons] at hitems hnames
    have hsplit : ∀ item ∈ p.declaration :: (params.map Param.declaration).map (' ' :: ·),
        ',' ∉ item := by
      simpa using hitems
    rw [List.map_cons, listed_cons, List.splitOn_intercalate ',' hsplit (List.cons_ne_nil _ _),
      List.map_cons, List.map_cons, List.map_map, List.map_map, Param.declaration,
      Text.lastWord_append_blank p.type hnames.1]
    refine congrArg (p.name :: ·) (List.map_congr_left fun q hq => ?_)
    exact Text.lastWord_append_blank (' ' :: q.type) (hnames.2 q hq)

theorem Nameable.not_mem_front :
    '(' ∉ "JNIEXPORT ".toList ++ s.nativeReturn ++ " JNICALL".toList := by
  have hreturn : '(' ∉ s.nativeReturn := Text.not_mem_of_isWordChar h.nativeReturn (by decide)
  simp [hreturn]

theorem Nameable.parameterNames_prototype :
    Source.parameterNames s.prototype = s.params.map Param.name := by
  have hsymbol : '(' ∉ s.symbol := Text.not_mem_of_isWordChar h.symbol (by decide)
  have hfront : '(' ∉ ("JNIEXPORT ".toList ++ s.nativeReturn ++ " JNICALL".toList) ++
      ' ' :: s.symbol := by
    rw [List.mem_append, List.mem_cons]
    rintro (hmem | hblank | hmem)
    · exact h.not_mem_front hmem
    · contradiction
    · exact hsymbol hmem
  have hprototype : s.prototype =
      (("JNIEXPORT ".toList ++ s.nativeReturn ++ " JNICALL".toList) ++ ' ' :: s.symbol) ++
        '(' :: (s.paramList ++ [')']) := by
    rw [prototype_eq, List.append_assoc _ (' ' :: s.symbol), List.cons_append]
  rw [Source.parameterNames, hprototype,
    Text.dropWhile_ne_append hfront (Source.eq_of_mem_head?_cons _ _), List.drop_one,
    List.tail_cons, Text.takeWhile_ne_append h.not_mem_paramList (Source.eq_of_mem_head?_cons _ _),
    h.map_lastWord_paramList]

theorem Nameable.nameBefore_prototype : Source.nameBefore s.prototype = s.symbol := by
  rw [prototype_eq]
  exact Source.nameBefore_append h.not_mem_front
    (Text.not_mem_of_isWordChar h.symbol (by decide))
    (Text.not_mem_of_isWordChar h.symbol (by decide)) _

theorem Nameable.nameBefore_call :
    Source.nameBefore ("    ".toList ++ Source.call s) = s.target := by
  have hfront (front : Text) (hparenthesis : '(' ∉ front) (rest : Text) :
      Source.nameBefore (front ++ ' ' :: (s.target ++ '(' :: rest)) = s.target :=
    Source.nameBefore_append hparenthesis h.target h.target_blank rest
  unfold Source.call
  split
  · have := hfront "   ".toList (by decide) (s.callArgs ++ ");".toList)
    simpa using this
  · have := hfront "    return".toList (by decide) (s.callArgs ++ ");".toList)
    simpa using this

end

end Stub

theorem nameable_of_mem_requestsOf {text : Text} {es : List Manifest.Entry}
    (hread : Manifest.read text = .ok es) {r : Request} (hr : r ∈ Command.requestsOf es) {s : Stub}
    (hs : r.stub = .ok s) : s.Nameable := by
  have htarget {c : Char} := not_mem_target_of_mem_requestsOf hread hr (c := c)
  obtain ⟨type, -, rfl⟩ := Request.stub_eq_ok_iff.1 hs
  refine ⟨?_, Symbol.isWordChar_of_mem_ofMethod _ _ _, List.cons_ne_nil _ _, ?_, ?_,
    htarget (by decide) (by decide +kernel), htarget (by decide) (by decide +kernel)⟩
  · rw [r.nativeReturn_stubOfType type]
    cases type.result with
    | none => exact List.all_eq_true.1 (by decide)
    | some t => exact t.isWordChar_of_mem_nativeType
  · refine List.forall_mem_append.2 ⟨?_, fun p hp c hc => .inl ?_⟩
    · have hhandles : ∀ p ∈ Stub.handles,
          p.type.all (fun c => Identifier.isWordChar c || c == '*') = true := by decide
      simpa using hhandles
    · exact (Stub.isWordChar_of_mem_numbered p hp).1 c hc
  · refine List.forall_mem_append.2 ⟨?_, fun p hp => ?_⟩
    · have hhandles : ∀ p ∈ Stub.handles, p.name.all Identifier.isWordChar = true := by decide
      simpa using hhandles
    · exact (Stub.isWordChar_of_mem_numbered p hp).2

def Source.GeneratedName (name : Text) : Prop :=
  name = "env".toList ∨ name = "cls".toList ∨ (∃ i, name = Stub.numberedName i) ∨
    "Java_".toList <+: name

namespace Request
variable (r : Request) (type : MethodType)

theorem generatedName_of_mem_params :
    ∀ name ∈ (r.stubOfType type).params.map Param.name, Source.GeneratedName name := by
  rw [r.names_params_stubOfType type]
  refine List.forall_mem_cons.2 ⟨.inl rfl, List.forall_mem_cons.2 ⟨.inr (.inl rfl), ?_⟩⟩
  intro name hname
  obtain ⟨i, -, rfl⟩ := List.mem_map.1 hname
  exact .inr (.inr (.inl ⟨i, rfl⟩))

theorem generatedName_symbol : Source.GeneratedName (r.stubOfType type).symbol := by
  refine .inr (.inr (.inr ?_))
  change "Java_".toList <+: "Java_".toList ++ _ ++ _ ++ _
  rw [List.append_assoc, List.append_assoc]
  exact List.prefix_append _ _

end Request

namespace Source
variable {stubs : List Stub}

def Referent.ofStub (stubs : List Stub) (s : Stub) : Referent :=
  if (s.params.map Param.name).contains s.target then .parameter
  else if (stubs.map Stub.symbol).contains s.target then .exported
  else .external

theorem Referent.ofStub_eq_external_iff {s : Stub} :
    ofStub stubs s = .external ↔
      s.target ∉ s.params.map Param.name ∧ ∀ s' ∈ stubs, s.target ≠ s'.symbol := by
  have hsymbols : s.target ∉ stubs.map Stub.symbol ↔ ∀ s' ∈ stubs, s.target ≠ s'.symbol := by
    simp only [List.mem_map, not_exists, not_and, ne_eq, eq_comm]
  rw [← hsymbols, ofStub]
  simp only [List.contains_iff_mem]
  by_cases hparams : s.target ∈ s.params.map Param.name
  · simp [hparams]
  · by_cases hsymbol : s.target ∈ stubs.map Stub.symbol
    · simp [hparams, hsymbol]
    · simp only [hparams, hsymbol, if_false, not_false_eq_true, and_self]

/-- A source declares every target, so that no call is left without a referent. -/
theorem referent_lines (header : Text) (h : ∀ s ∈ stubs, s.Nameable) {s : Stub} (hs : s ∈ stubs) :
    referent (lines header stubs) s.prototype s.target = Referent.ofStub stubs s := by
  have hexported : (defined (lines header stubs)).map (fun definition => nameBefore definition.1) =
      stubs.map Stub.symbol := by
    rw [defined_lines, List.map_map]
    exact List.map_congr_left fun s hs => (h s hs).nameBefore_prototype
  have hdeclared : s.target ∈ ((lines header stubs).filter isExtern).map declaredTarget := by
    rw [filter_isExtern_lines]
    exact (mem_map_declaredTarget fun s hs => (h s hs).declarable).2 ⟨s, hs, rfl⟩
  rw [referent, (h s hs).parameterNames_prototype, hexported,
    if_pos (List.contains_iff_mem.2 hdeclared), Referent.ofStub]

theorem referents_lines (header : Text) (h : ∀ s ∈ stubs, s.Nameable) :
    referents (lines header stubs) = stubs.map (Referent.ofStub stubs) := by
  have hcalls : ∀ s ∈ stubs,
      ["    ".toList ++ call s].map (fun line =>
        referent (lines header stubs) s.prototype (nameBefore line)) =
      [Referent.ofStub stubs s] := by
    intro s hs
    rw [List.map_singleton, (h s hs).nameBefore_call, referent_lines header h hs]
  rw [referents, defined_lines, List.flatMap_map, List.map_eq_flatMap]
  exact List.flatMap_congr hcalls

end Source

/-- In a source for stubs that one session returns for requests of a manifest, every definition
    has one call. It reaches the target, which is defined elsewhere, unless the target has the name
    of a parameter of its own stub or of an exported function; a target with neither kind of name
    is always reached. -/
theorem calls_reach_targets_iff (baseName : Text) {header : Text} (hheader : '\n' ∉ header)
    {text : Text} {es : List Manifest.Entry} (hread : Manifest.read text = .ok es)
    (actions : List Session.Action)
    (hactions : ∀ r ∈ actions.flatMap Session.Action.requests, r ∈ Command.requestsOf es)
    {stubs : List Stub} (hstubs : ∀ s ∈ stubs, s ∈ ((Session.start baseName).run actions).returned) :
    let sourceLines := (Source.render header stubs).splitOn '\n'
    Source.referents sourceLines = stubs.map (Source.Referent.ofStub stubs) ∧
    ((∀ referent ∈ Source.referents sourceLines, referent = .external) ↔
      ∀ s ∈ stubs, s.target ∉ s.params.map Param.name ∧ ∀ s' ∈ stubs, s.target ≠ s'.symbol) ∧
    ∀ s ∈ stubs, ¬ Source.GeneratedName s.target →
      s.target ∉ s.params.map Param.name ∧ ∀ s' ∈ stubs, s.target ≠ s'.symbol := by
  intro sourceLines
  have horigin : ∀ s ∈ stubs, ∃ r ∈ Command.requestsOf es, r.stub = .ok s := by
    intro s hs
    rcases Session.exists_request_of_mem_returned (hstubs s hs) with hstart | ⟨r, hr, hstub⟩
    · contradiction
    · exact ⟨r, hactions r hr, hstub⟩
  have hsingle : ∀ s ∈ stubs, s.SingleLine := by
    intro s hs
    obtain ⟨r, hr, hstub⟩ := horigin s hs
    exact (singleLine_of_mem_requestsOf hread hr).stub hstub
  have hnameable : ∀ s ∈ stubs, s.Nameable := by
    intro s hs
    obtain ⟨r, hr, hstub⟩ := horigin s hs
    exact nameable_of_mem_requestsOf hread hr hstub
  have hlines : sourceLines = Source.lines header stubs :=
    Text.splitOn_ofLines (Source.not_mem_lines hheader hsingle) (List.cons_ne_nil _ _)
  have hreferents : Source.referents sourceLines = stubs.map (Source.Referent.ofStub stubs) := by
    rw [hlines, Source.referents_lines header hnameable]
  refine ⟨hreferents, ?_, fun s hs hname => ⟨fun hparam => ?_, fun s' hs' hsymbol => ?_⟩⟩
  · rw [hreferents, List.forall_mem_map]
    exact forall₂_congr fun s _ => Source.Referent.ofStub_eq_external_iff
  · obtain ⟨r, -, hstub⟩ := horigin s hs
    obtain ⟨type, -, rfl⟩ := Request.stub_eq_ok_iff.1 hstub
    exact hname (r.generatedName_of_mem_params type _ hparam)
  · obtain ⟨r, -, hstub⟩ := horigin s' hs'
    obtain ⟨type, -, rfl⟩ := Request.stub_eq_ok_iff.1 hstub
    exact hname (hsymbol ▸ r.generatedName_symbol type)

/-- A target with a number that its stub has no parameter for, and one that only begins as symbols
    do. -/
theorem similar_names_are_reached :
    let text := "export(\"a.B.m\", \"(I)I\") -> arg1;\nexport(\"a.B.n\", \"()V\") -> Java_a;".toList
    let es : List Manifest.Entry := [⟨1, ["a.B.m".toList, "(I)I".toList], [], "arg1".toList⟩,
      ⟨2, ["a.B.n".toList, "()V".toList], [], "Java_a".toList⟩]
    let stubs := ((Session.start "m".toList).run [.exportBatch (Command.requestsOf es)]).returned
    let sourceLines := (Source.render "m_exports.h".toList stubs).splitOn '\n'
    Manifest.read text = .ok es ∧ stubs.length = 2 ∧
      ∀ referent ∈ Source.referents sourceLines, referent = .external := by
  intro text es stubs sourceLines
  have hread : Manifest.read text = .ok es := by decide +kernel
  obtain ⟨-, hreached, -⟩ := calls_reach_targets_iff "m".toList
    (show '\n' ∉ "m_exports.h".toList by decide) hread [.exportBatch (Command.requestsOf es)]
    (by rw [List.flatMap_singleton]; exact fun r hr => hr) (fun s hs => hs)
  exact ⟨hread, by decide +kernel, hreached.2 (by decide +kernel)⟩

/-- A target with the name of the first parameter, and one with the name of its own symbol: the one
    definition calls its parameter, and the other itself. -/
theorem generated_names_capture_calls :
    let text := "export(\"a.B.m\", \"()V\") -> env;\nexport(\"a.B.n\", \"()V\") -> Java_a_B_n__;".toList
    let es : List Manifest.Entry := [⟨1, ["a.B.m".toList, "()V".toList], [], "env".toList⟩,
      ⟨2, ["a.B.n".toList, "()V".toList], [], "Java_a_B_n__".toList⟩]
    let stubs := (ExportTable.empty.batch (Command.requestsOf es)).stubs
    let sourceLines := (Source.render "m_exports.h".toList stubs).splitOn '\n'
    Manifest.read text = .ok es ∧ Source.referents sourceLines = [.parameter, .exported] ∧
      (∃ s ∈ stubs, s.target ∈ s.params.map Param.name) ∧
      ∃ s ∈ stubs, ∃ s' ∈ stubs, s.target = s'.symbol := by
  intro text es stubs sourceLines
  exact ⟨by decide +kernel, by decide +kernel, by decide +kernel, by decide +kernel⟩

end NativeLinkage
