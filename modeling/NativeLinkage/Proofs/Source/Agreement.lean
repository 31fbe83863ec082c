import Mathlib.Data.List.Nodup
import NativeLinkage.Proofs.Session.Batch
import NativeLinkage.Proofs.Stub.Characters
import NativeLinkage.Proofs.Stub.Signature

set_option autoImplicit false

namespace NativeLinkage

/-- What stands before the mark that ends a line, if this is a prototype. -/
def prototypeBefore? (mark line : Text) : Option Text :=
  if "JNIEXPORT ".toList <+: line ∧ mark <:+ line then some (line.take (line.length - mark.length))
  else none

theorem Stub.prefix_prototype (s : Stub) : "JNIEXPORT ".toList <+: s.prototype := by
  unfold prototype
  rw [List.append_assoc, List.append_assoc, List.append_assoc, List.append_assoc]
  exact List.prefix_append _ _

theorem prototypeBefore?_prototype (s : Stub) (mark : Text) :
    prototypeBefore? mark (s.prototype ++ mark) = some s.prototype := by
  have hopens := s.prefix_prototype.trans (List.prefix_append s.prototype mark)
  rw [prototypeBefore?, if_pos ⟨hopens, List.suffix_append _ _⟩, List.length_append,
    Nat.add_sub_cancel_right, List.take_left]

theorem prototypeBefore?_eq_none {mark line : Text} (h : line.head? ≠ some 'J') :
    prototypeBefore? mark line = none := by
  refine if_neg fun hline => h ?_
  obtain ⟨rest, rfl⟩ := hline.1
  rfl

theorem Stub.head_prototype_append (s : Stub) (mark : Text) :
    (s.prototype ++ mark).head? = some 'J' := by
  obtain ⟨rest, hrest⟩ := s.prefix_prototype
  rw [← hrest]
  rfl

namespace Header

def declared (lines : List Text) : List Text := lines.filterMap (prototypeBefore? [';'])

theorem declared_eq_nil {lines : List Text} (h : ∀ line ∈ lines, line.head? ≠ some 'J') :
    declared lines = [] :=
  List.filterMap_eq_nil_iff.2 fun line hline => prototypeBefore?_eq_none (h line hline)

theorem declared_lines (baseName : Text) (stubs : List Stub) :
    declared (lines baseName stubs) = stubs.map Stub.prototype := by
  have hopening : declared (opening baseName) = [] := by
    refine declared_eq_nil (List.forall_mem_cons.2 ⟨by decide, List.forall_mem_cons.2 ⟨by simp,
      List.forall_mem_cons.2 ⟨by simp, by decide⟩⟩⟩)
  have hclosing : declared (closing baseName) = [] := by
    apply declared_eq_nil
    simp [closing]
  have hdeclarations : declared (stubs.flatMap declaration) = stubs.map Stub.prototype := by
    induction stubs with
    | nil => rfl
    | cons s stubs ih =>
      have hcomment : prototypeBefore? [';'] (comment s) = none :=
        prototypeBefore?_eq_none (by simp [comment])
      rw [declared, List.flatMap_cons, declaration, List.filterMap_append,
        List.filterMap_cons_none hcomment,
        List.filterMap_cons_some (prototypeBefore?_prototype s [';'])]
      exact congrArg (s.prototype :: ·) ih
  rw [declared, lines, List.filterMap_append, List.filterMap_append]
  change declared _ ++ declared _ ++ declared _ = _
  rw [hopening, hclosing, hdeclarations, List.nil_append, List.append_nil]

end Header

namespace Source

/-- The prototypes that the lines define, each with the lines of its body. -/
def defined : List Text → List (Text × List Text)
  | [] => []
  | line :: rest =>
    match prototypeBefore? " \x7b".toList line with
    | some prototype => (prototype, rest.takeWhile (· ≠ "\x7d".toList)) :: defined rest
    | none => defined rest

def isExtern (line : Text) : Bool := "extern ".toList.isPrefixOf line

theorem defined_cons_of_head {line : Text} (h : line.head? ≠ some 'J') (rest : List Text) :
    defined (line :: rest) = defined rest := by
  rw [defined, prototypeBefore?_eq_none h]

theorem defined_append_of_head {front : List Text} (h : ∀ line ∈ front, line.head? ≠ some 'J')
    (rest : List Text) : defined (front ++ rest) = defined rest := by
  induction front with
  | nil => rfl
  | cons line front ih =>
    rw [List.forall_mem_cons] at h
    rw [List.cons_append, defined_cons_of_head h.1, ih h.2]

theorem defined_definition_append (s : Stub) (rest : List Text) :
    defined (definition s ++ rest) = (s.prototype, ["    ".toList ++ call s]) :: defined rest := by
  rw [definition, List.cons_append, defined, prototypeBefore?_prototype]
  have hhead : ("    ".toList ++ call s).head? ≠ some 'J' := by simp
  have htake : (("    ".toList ++ call s) :: "\x7d".toList :: [] :: rest).takeWhile
      (· ≠ "\x7d".toList) = ["    ".toList ++ call s] := by
    rw [List.takeWhile_cons_of_pos (by simp), List.takeWhile_cons_of_neg (by decide)]
  change (s.prototype, (("    ".toList ++ call s) :: "\x7d".toList :: [] :: rest).takeWhile _) ::
    defined (("    ".toList ++ call s) :: "\x7d".toList :: [] :: rest) = _
  rw [htake, defined_cons_of_head hhead, defined_cons_of_head (by decide),
    defined_cons_of_head (by decide)]

theorem defined_definitions (stubs : List Stub) :
    defined (stubs.flatMap definition) =
      stubs.map fun s => (s.prototype, ["    ".toList ++ call s]) := by
  induction stubs with
  | nil => rfl
  | cons s stubs ih => rw [List.flatMap_cons, defined_definition_append, ih, List.map_cons]

theorem isExtern_targetDeclaration (s : Stub) : isExtern (targetDeclaration s) = true := by
  rw [isExtern, List.isPrefixOf_iff_prefix]
  unfold targetDeclaration
  rw [List.append_assoc, List.append_assoc, List.append_assoc]
  exact List.prefix_append _ _

theorem isExtern_eq_false {line : Text} (h : line.head? ≠ some 'e') : isExtern line = false := by
  refine Bool.eq_false_iff.2 fun hline => h ?_
  obtain ⟨rest, rfl⟩ := List.isPrefixOf_iff_prefix.1 hline
  rfl

theorem filter_isExtern_eq_nil {lines : List Text} (h : ∀ line ∈ lines, line.head? ≠ some 'e') :
    lines.filter isExtern = [] :=
  List.filter_eq_nil_iff.2 fun line hline => by
    rw [isExtern_eq_false (h line hline)]
    exact Bool.false_ne_true

theorem head_opening (header : Text) {c : Char} (hc : c ∉ ['/', '#']) :
    ∀ line ∈ opening header, line.head? ≠ some c := by
  rw [List.mem_pair, not_or] at hc
  refine List.forall_mem_cons.2 ⟨?_, List.forall_mem_cons.2 ⟨?_, by simp⟩⟩
  · exact fun h => hc.1 (Option.some.inj h).symm
  · exact fun h => hc.2 (Option.some.inj h).symm

theorem head_definition (s : Stub) {c : Char} (hc : c ∉ ['J', ' ', '\x7d']) :
    ∀ line ∈ definition s, line.head? ≠ some c := by
  simp only [List.mem_cons, List.not_mem_nil, or_false, not_or] at hc
  refine List.forall_mem_cons.2 ⟨?_, List.forall_mem_cons.2 ⟨?_, List.forall_mem_cons.2 ⟨?_,
    by simp⟩⟩⟩
  · rw [Stub.head_prototype_append]
    exact fun h => hc.1 (Option.some.inj h).symm
  · exact fun h => hc.2.1 (Option.some.inj h).symm
  · exact fun h => hc.2.2 (Option.some.inj h).symm

theorem filter_isExtern_lines (header : Text) (stubs : List Stub) :
    (lines header stubs).filter isExtern = targetDeclarations stubs := by
  have hblock : (declarationBlock stubs).filter isExtern = targetDeclarations stubs := by
    have hall : (targetDeclarations stubs).filter isExtern = targetDeclarations stubs := by
      refine List.filter_eq_self.2 fun line hline => ?_
      obtain ⟨s, -, rfl⟩ := List.mem_map.1 (mem_distinct.1 hline)
      exact isExtern_targetDeclaration s
    unfold declarationBlock
    split
    · next hnil => exact hnil.symm
    · rw [List.filter_append, hall]
      exact List.append_nil _
  have hdefinitions : (stubs.flatMap definition).filter isExtern = [] := by
    refine filter_isExtern_eq_nil fun line hline => ?_
    obtain ⟨s, -, hdefinition⟩ := List.mem_flatMap.1 hline
    exact head_definition s (by decide) line hdefinition
  rw [lines, List.filter_append, List.filter_append, hblock, hdefinitions,
    filter_isExtern_eq_nil (head_opening header (by decide)), List.nil_append, List.append_nil]

theorem count_targetDeclaration (header : Text) {stubs : List Stub} {s : Stub} (hs : s ∈ stubs) :
    (lines header stubs).count (targetDeclaration s) = 1 := by
  rw [← List.count_filter (isExtern_targetDeclaration s), filter_isExtern_lines]
  exact List.count_eq_one_of_mem (nodup_distinct _) (mem_distinct.2 (List.mem_map_of_mem hs))

theorem targetDeclaration_mem_block {stubs : List Stub} {s : Stub} (hs : s ∈ stubs) :
    targetDeclaration s ∈ declarationBlock stubs := by
  have hmem : targetDeclaration s ∈ targetDeclarations stubs :=
    mem_distinct.2 (List.mem_map_of_mem hs)
  unfold declarationBlock
  split
  · next hnil =>
    rw [hnil] at hmem
    contradiction
  · exact List.mem_append_left _ hmem

theorem head_declarationBlock (stubs : List Stub) {c : Char} (hc : c ≠ 'e') :
    ∀ line ∈ declarationBlock stubs, line.head? ≠ some c := by
  have hdeclarations : ∀ line ∈ targetDeclarations stubs, line.head? ≠ some c := by
    intro line hline
    obtain ⟨s, -, rfl⟩ := List.mem_map.1 (mem_distinct.1 hline)
    obtain ⟨rest, hrest⟩ := List.isPrefixOf_iff_prefix.1 (isExtern_targetDeclaration s)
    rw [← hrest]
    exact fun hhead => hc (Option.some.inj hhead).symm
  unfold declarationBlock
  split
  · exact List.forall_mem_nil _
  · exact List.forall_mem_append.2 ⟨hdeclarations, by simp⟩

theorem head_front (header : Text) (stubs : List Stub) :
    ∀ line ∈ opening header ++ declarationBlock stubs, line.head? ≠ some 'J' :=
  List.forall_mem_append.2
    ⟨head_opening header (by decide), head_declarationBlock stubs (by decide)⟩

theorem defined_lines (header : Text) (stubs : List Stub) :
    defined (lines header stubs) = stubs.map fun s => (s.prototype, ["    ".toList ++ call s]) := by
  rw [lines, defined_append_of_head (head_front header stubs), defined_definitions]

/-- The declaration of a target stands before the definition that calls it. -/
theorem targetDeclaration_before {header : Text} {stubs : List Stub} {s : Stub} (hs : s ∈ stubs)
    {before after : List Text}
    (h : lines header stubs = before ++ (s.prototype ++ " \x7b".toList) :: after) :
    targetDeclaration s ∈ before := by
  have hmem : targetDeclaration s ∈ opening header ++ declarationBlock stubs :=
    List.mem_append_right _ (targetDeclaration_mem_block hs)
  have hfront := head_front header stubs
  rw [lines] at h
  rcases List.append_eq_append_iff.1 h with ⟨rest, hbefore, -⟩ | ⟨rest, hlines, hafter⟩
  · rw [hbefore]
    exact List.mem_append_left _ hmem
  · cases rest with
    | nil => rwa [hlines, List.append_nil] at hmem
    | cons line rest =>
      obtain ⟨rfl, -⟩ := List.cons.inj hafter
      rw [hlines] at hfront
      have hline : s.prototype ++ " \x7b".toList ∈
          before ++ (s.prototype ++ " \x7b".toList) :: rest :=
        List.mem_append_right _ List.mem_cons_self
      exact absurd (s.head_prototype_append _) (hfront _ hline)

theorem not_mem_targetDeclaration {s : Stub} (h : s.SingleLine) : '\n' ∉ targetDeclaration s := by
  have hreturn := h.plain_nativeReturn.not_mem_lineFeed
  have hparams := h.plain_paramList.not_mem_lineFeed
  unfold targetDeclaration
  simp [hreturn, hparams, h.target]

theorem not_mem_call {s : Stub} (h : s.SingleLine) : '\n' ∉ call s := by
  have hargs := h.plain_callArgs.not_mem_lineFeed
  have hcall : '\n' ∉ s.target ++ '(' :: s.callArgs ++ ");".toList := by simp [hargs, h.target]
  rw [call]
  split
  · exact hcall
  · rw [List.mem_append, not_or]
    exact ⟨by decide, hcall⟩

theorem not_mem_definition {s : Stub} (h : s.SingleLine) :
    ∀ line ∈ definition s, '\n' ∉ line := by
  have hprototype := h.plain_prototype.not_mem_lineFeed
  have hcall := not_mem_call h
  refine List.forall_mem_cons.2 ⟨?_, List.forall_mem_cons.2 ⟨?_, by decide⟩⟩
  · simpa using hprototype
  · simpa using hcall

theorem not_mem_lines {header : Text} (hheader : '\n' ∉ header) {stubs : List Stub}
    (h : ∀ s ∈ stubs, s.SingleLine) : ∀ line ∈ lines header stubs, '\n' ∉ line := by
  have hdeclarations : ∀ line ∈ targetDeclarations stubs, '\n' ∉ line := by
    intro line hline
    obtain ⟨s, hs, rfl⟩ := List.mem_map.1 (mem_distinct.1 hline)
    exact not_mem_targetDeclaration (h s hs)
  refine List.forall_mem_append.2 ⟨List.forall_mem_append.2 ⟨?_, ?_⟩, ?_⟩
  · refine List.forall_mem_cons.2 ⟨by decide, List.forall_mem_cons.2 ⟨?_, by simp⟩⟩
    simp [hheader]
  · unfold declarationBlock
    split
    · exact List.forall_mem_nil _
    · exact List.forall_mem_append.2 ⟨hdeclarations, by simp⟩
  · intro line hline
    obtain ⟨s, hs, hdefinition⟩ := List.mem_flatMap.1 hline
    exact not_mem_definition (h s hs) line hdefinition

end Source

theorem FieldType.nativeType_ne_nil (t : FieldType) : t.nativeType ≠ [] := by
  cases t with
  | base b => exact List.cons_ne_nil _ _
  | object name =>
    change (if (object name).isString then "jstring".toList else "jobject".toList) ≠ []
    split <;> decide
  | array component =>
    change "jarray".toList ≠ []
    decide

theorem Stub.nativeReturn_of_ne_nil {s : Stub} {type : Text} (h : s.returnType = some type)
    (hne : type ≠ []) : s.nativeReturn = type := by
  unfold nativeReturn
  split
  · next hnone =>
    rw [h] at hnone
    contradiction
  · next hnil => exact absurd (Option.some.inj (h.symm.trans hnil)) hne
  · next found _ hfound => exact Option.some.inj (hfound.symm.trans h)

namespace Request
variable (r : Request) (type : MethodType)

/-- The two ways of writing a void result agree. -/
theorem nativeReturn_stubOfType :
    (r.stubOfType type).nativeReturn =
      (type.result.map FieldType.nativeType).getD NativeType.void := by
  obtain ⟨params, result⟩ := type
  cases result with
  | none => rfl
  | some t => exact Stub.nativeReturn_of_ne_nil rfl t.nativeType_ne_nil

theorem call_stubOfType :
    Source.call (r.stubOfType type) = (if type.result.isSome then "return ".toList else []) ++
      r.target ++ '(' :: List.intercalate ", ".toList ((r.stubOfType type).params.map Param.name) ++
        ");".toList := by
  obtain ⟨params, result⟩ := type
  cases result with
  | none => rfl
  | some t =>
    change "return ".toList ++ (r.target ++ '(' :: _ ++ ");".toList) =
      "return ".toList ++ r.target ++ '(' :: _ ++ ");".toList
    rw [← List.append_assoc, ← List.append_assoc]
    rfl

end Request

/-- The stubs that one session returns for requests of a manifest have different symbols. Read line
    by line, their header declares and their source defines the same prototypes in the same order,
    each with the types and names of all parameters of its stub. The body of a definition is one
    call of its target with the names of all these parameters, and returns exactly if the descriptor
    has a result; the target is declared with the same types and names on one line, which stands
    before the definition. -/
theorem header_and_source_agree (name : Text) {header : Text} (hheader : '\n' ∉ header)
    {text : Text} {es : List Manifest.Entry} (hread : Manifest.read text = .ok es)
    (actions : List Session.Action)
    (hactions : ∀ r ∈ actions.flatMap Session.Action.requests, r ∈ Command.requestsOf es) :
    let baseName := Identifier.ofText name
    let stubs := ((Session.start baseName).run actions).returned
    let headerLines := (Header.render baseName stubs).splitOn '\n'
    let sourceLines := (Source.render header stubs).splitOn '\n'
    (stubs.map Stub.symbol).Nodup ∧
    Header.declared headerLines = stubs.map Stub.prototype ∧
    Source.defined sourceLines =
      stubs.map (fun s => (s.prototype, ["    ".toList ++ Source.call s])) ∧
    (sourceLines.filter Source.isExtern).Nodup ∧
    ∀ s ∈ stubs, ∃ r ∈ Command.requestsOf es, ∃ type,
      MethodType.read r.descriptor = .ok type ∧ r.stubOfType type = s ∧
      s.prototype = "JNIEXPORT ".toList ++ s.nativeReturn ++ " JNICALL ".toList ++ s.symbol ++
        '(' :: s.paramList ++ [')'] ∧
      s.nativeReturn = (type.result.map FieldType.nativeType).getD "void".toList ∧
      s.paramList = List.intercalate ", ".toList (s.params.map fun p => p.type ++ ' ' :: p.name) ∧
      s.params.map Param.type = "JNIEnv*".toList :: "jclass".toList ::
        type.params.map FieldType.nativeType ∧
      s.params.map Param.name = "env".toList :: "cls".toList ::
        (List.range type.params.length).map (fun i => "arg".toList ++ Text.decimal i) ∧
      Source.call s = (if type.result.isSome then "return ".toList else []) ++ r.target ++
        '(' :: List.intercalate ", ".toList (s.params.map Param.name) ++ ");".toList ∧
      let declaration := "extern ".toList ++ s.nativeReturn ++ ' ' :: r.target ++
        '(' :: s.paramList ++ ");".toList
      sourceLines.count declaration = 1 ∧
      ∀ before after, sourceLines = before ++ (s.prototype ++ " \x7b".toList) :: after →
        declaration ∈ before := by
  intro baseName stubs headerLines sourceLines
  have horigin : ∀ s ∈ stubs, ∃ r ∈ Command.requestsOf es, r.stub = .ok s := by
    intro s hs
    rcases Session.exists_request_of_mem_returned hs with hstart | ⟨r, hr, hstub⟩
    · contradiction
    · exact ⟨r, hactions r hr, hstub⟩
  have hsingle : ∀ s ∈ stubs, s.SingleLine := by
    intro s hs
    obtain ⟨r, hr, hstub⟩ := horigin s hs
    exact (singleLine_of_mem_requestsOf hread hr).stub hstub
  have hheaderLines : headerLines = Header.lines baseName stubs :=
    Text.splitOn_ofLines (Header.not_mem_lines (Identifier.isValid_ofText name) hsingle)
      (List.append_ne_nil_of_right_ne_nil _ (List.cons_ne_nil _ _))
  have hsourceLines : sourceLines = Source.lines header stubs :=
    Text.splitOn_ofLines (Source.not_mem_lines hheader hsingle) (List.cons_ne_nil _ _)
  refine ⟨(Session.consistent_run baseName actions).nodup, ?_, ?_, ?_, ?_⟩
  · rw [hheaderLines, Header.declared_lines]
  · rw [hsourceLines, Source.defined_lines]
  · rw [hsourceLines, Source.filter_isExtern_lines]
    exact Source.nodup_distinct _
  · intro s hs
    obtain ⟨r, hr, hstub⟩ := horigin s hs
    obtain ⟨type, htype, rfl⟩ := Request.stub_eq_ok_iff.1 hstub
    refine ⟨r, hr, type, htype, rfl, rfl, r.nativeReturn_stubOfType type, rfl,
      r.types_params_stubOfType type, r.names_params_stubOfType type, r.call_stubOfType type,
      ?_, ?_⟩
    · rw [hsourceLines]
      exact Source.count_targetDeclaration header hs
    · intro before after hlines
      rw [hsourceLines] at hlines
      exact Source.targetDeclaration_before hs hlines

/-- Two overloads with one target, one void and one not. -/
theorem overloads_of_one_target_agree :
    let text := "export(\"a.B.m\", \"()V\") -> f;\nexport(\"a.B.m\", \"(I)J\") -> f;".toList
    let es : List Manifest.Entry := [⟨1, ["a.B.m".toList, "()V".toList], [], "f".toList⟩,
      ⟨2, ["a.B.m".toList, "(I)J".toList], [], "f".toList⟩]
    let baseName := Identifier.ofText "m".toList
    let stubs := ((Session.start baseName).run [.exportBatch (Command.requestsOf es)]).returned
    let headerLines := (Header.render baseName stubs).splitOn '\n'
    let sourceLines := (Source.render "m_exports.h".toList stubs).splitOn '\n'
    let prototypes := ["JNIEXPORT void JNICALL Java_a_B_m__(JNIEnv* env, jclass cls)".toList,
      "JNIEXPORT jlong JNICALL Java_a_B_m__I(JNIEnv* env, jclass cls, jint arg0)".toList]
    Manifest.read text = .ok es ∧ stubs.length = 2 ∧
      Header.declared headerLines = prototypes ∧
      (Source.defined sourceLines).map Prod.fst = prototypes ∧
      (Source.defined sourceLines).map Prod.snd =
        [["    f(env, cls);".toList], ["    return f(env, cls, arg0);".toList]] ∧
      sourceLines.filter Source.isExtern = ["extern void f(JNIEnv* env, jclass cls);".toList,
        "extern jlong f(JNIEnv* env, jclass cls, jint arg0);".toList] := by
  intro text es baseName stubs headerLines sourceLines prototypes
  have hread : Manifest.read text = .ok es := by decide +kernel
  have hprototypes : stubs.map Stub.prototype = prototypes := by decide +kernel
  obtain ⟨-, hdeclared, hdefined, -, -⟩ := header_and_source_agree "m".toList
    (show '\n' ∉ "m_exports.h".toList by decide) hread [.exportBatch (Command.requestsOf es)]
    (by rw [List.flatMap_singleton]; exact fun r hr => hr)
  refine ⟨hread, by decide +kernel, hdeclared.trans hprototypes, ?_, ?_, by decide +kernel⟩
  · rw [hdefined, List.map_map]
    exact hprototypes
  · rw [hdefined, List.map_map]
    decide +kernel

end NativeLinkage
