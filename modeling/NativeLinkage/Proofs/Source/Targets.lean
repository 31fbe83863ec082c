import NativeLinkage.Proofs.Source.Agreement

set_option autoImplicit false

namespace NativeLinkage

namespace Request

theorem target_of_ofFields {className methodName signature target : Option Text} {r : Request}
    (h : ofFields className methodName signature target = .ok r) :
    target.map Text.trim = some r.target := by
  obtain ⟨c, m, s, t, -, -, -, ht, rfl⟩ := ofFields_eq_ok h
  exact (require_eq_ok.1 ht).1

theorem target_of_resolve {positional : List Text} {named : List (Text × Text)}
    {target : Option Text} {r : Request} (h : resolve positional named target = .ok r) :
    target.map Text.trim = some r.target := by
  obtain ⟨_, _, _, hfields, -⟩ := ofFields_of_resolve h
  exact target_of_ofFields hfields

end Request

theorem Manifest.Entry.target_of_request {e : Manifest.Entry} {r : Request}
    (h : e.request = .ok r) : r.target = Text.trim e.target := by
  unfold request at h
  split at h
  · contradiction
  · exact (Option.some.inj (Request.target_of_resolve h)).symm

namespace Source

/-- The function that a line declares: what stands after its return type and before its
    parameters. -/
def declaredTarget (line : Text) : Text :=
  (((line.drop "extern ".toList.length).dropWhile (· ≠ ' ')).drop 1).takeWhile (· ≠ '(')

end Source

structure Stub.Declarable (s : Stub) : Prop where
  nativeReturn : ' ' ∉ s.nativeReturn
  target : '(' ∉ s.target

theorem FieldType.blank_not_mem_nativeType (t : FieldType) : ' ' ∉ t.nativeType := by
  cases t with
  | base b => cases b <;> decide
  | object name =>
    change ' ' ∉ if (object name).isString then "jstring".toList else "jobject".toList
    split <;> decide
  | array component =>
    change ' ' ∉ "jarray".toList
    decide

theorem not_mem_target_of_mem_requestsOf {text : Text} {es : List Manifest.Entry}
    (hread : Manifest.read text = .ok es) {r : Request} (hr : r ∈ Command.requestsOf es) {c : Char}
    (hstart : Manifest.isWordStart c = false) (hchar : Manifest.isWordChar c = false) :
    c ∉ r.target := by
  intro hmem
  obtain ⟨e, he, hrequest⟩ := List.mem_filterMap.1 hr
  cases hcase : e.request with
  | error m =>
    rw [hcase] at hrequest
    contradiction
  | ok found =>
    rw [hcase] at hrequest
    cases hrequest
    have htarget := (Manifest.writable_of_read hread e he).target
    have hentry : c ∈ Text.trim e.target := e.target_of_request hcase ▸ hmem
    exact htarget.not_mem hstart hchar (Text.mem_of_mem_trim hentry)

theorem declarable_of_mem_requestsOf {text : Text} {es : List Manifest.Entry}
    (hread : Manifest.read text = .ok es) {r : Request} (hr : r ∈ Command.requestsOf es) {s : Stub}
    (hs : r.stub = .ok s) : s.Declarable := by
  obtain ⟨type, -, rfl⟩ := Request.stub_eq_ok_iff.1 hs
  refine ⟨?_, not_mem_target_of_mem_requestsOf hread hr (by decide) (by decide +kernel)⟩
  rw [r.nativeReturn_stubOfType type]
  cases type.result with
  | none => decide
  | some t => exact t.blank_not_mem_nativeType

namespace Source

section
variable {s s' : Stub} {stubs : List Stub}

theorem targetDeclaration_eq (s : Stub) : targetDeclaration s = "extern ".toList ++
    (s.nativeReturn ++ ' ' :: (s.target ++ '(' :: (s.paramList ++ ");".toList))) := by
  unfold targetDeclaration
  rw [List.append_assoc, List.append_assoc, List.append_assoc, List.cons_append, List.cons_append]

theorem eq_of_mem_head?_cons (c : Char) (t : Text) : ∀ d ∈ (c :: t).head?, d = c := by
  simp

theorem declaredTarget_targetDeclaration (h : s.Declarable) :
    declaredTarget (targetDeclaration s) = s.target := by
  rw [declaredTarget, targetDeclaration_eq, List.drop_left,
    Text.dropWhile_ne_append h.nativeReturn (eq_of_mem_head?_cons _ _), List.drop_one,
    List.tail_cons, Text.takeWhile_ne_append h.target (eq_of_mem_head?_cons _ _)]

/-- Declarations of one target differ exactly in the types. -/
theorem targetDeclaration_eq_iff (h : s.Declarable) (h' : s'.Declarable)
    (htarget : s.target = s'.target) :
    targetDeclaration s = targetDeclaration s' ↔
      s.nativeReturn = s'.nativeReturn ∧ s.paramList = s'.paramList := by
  constructor
  · intro heq
    rw [targetDeclaration_eq, targetDeclaration_eq, htarget] at heq
    have hlines := List.append_cancel_left heq
    have hreturn : s.nativeReturn = s'.nativeReturn := by
      rw [← Text.takeWhile_ne_append h.nativeReturn (eq_of_mem_head?_cons _ _), hlines,
        Text.takeWhile_ne_append h'.nativeReturn (eq_of_mem_head?_cons _ _)]
    rw [hreturn] at hlines
    obtain ⟨-, hafter⟩ := List.cons.inj (List.append_cancel_left hlines)
    obtain ⟨-, hparams⟩ := List.cons.inj (List.append_cancel_left hafter)
    exact ⟨hreturn, List.append_cancel_right hparams⟩
  · rintro ⟨hreturn, hparams⟩
    rw [targetDeclaration_eq, targetDeclaration_eq, hreturn, hparams, htarget]

theorem mem_map_declaredTarget (h : ∀ s ∈ stubs, s.Declarable) {target : Text} :
    target ∈ (targetDeclarations stubs).map declaredTarget ↔ ∃ s ∈ stubs, s.target = target := by
  constructor
  · intro hmem
    obtain ⟨line, hline, rfl⟩ := List.mem_map.1 hmem
    obtain ⟨s, hs, rfl⟩ := List.mem_map.1 (mem_distinct.1 hline)
    exact ⟨s, hs, (declaredTarget_targetDeclaration (h s hs)).symm⟩
  · rintro ⟨s, hs, rfl⟩
    rw [← declaredTarget_targetDeclaration (h s hs)]
    exact List.mem_map_of_mem (mem_distinct.2 (List.mem_map_of_mem hs))

theorem nodup_map_declaredTarget_iff (h : ∀ s ∈ stubs, s.Declarable) :
    ((targetDeclarations stubs).map declaredTarget).Nodup ↔
      ∀ s ∈ stubs, ∀ s' ∈ stubs, s.target = s'.target →
        s.nativeReturn = s'.nativeReturn ∧ s.paramList = s'.paramList := by
  have hdistinct : (targetDeclarations stubs).Nodup := nodup_distinct _
  rw [List.nodup_map_iff_inj_on hdistinct]
  constructor
  · intro hinj s hs s' hs' htarget
    have hdeclared : ∀ u ∈ stubs, targetDeclaration u ∈ targetDeclarations stubs :=
      fun u hu => mem_distinct.2 (List.mem_map_of_mem hu)
    refine (targetDeclaration_eq_iff (h s hs) (h s' hs') htarget).1
      (hinj _ (hdeclared s hs) _ (hdeclared s' hs') ?_)
    rw [declaredTarget_targetDeclaration (h s hs), declaredTarget_targetDeclaration (h s' hs'),
      htarget]
  · intro hsame line hline line' hline' htarget
    obtain ⟨s, hs, rfl⟩ := List.mem_map.1 (mem_distinct.1 hline)
    obtain ⟨s', hs', rfl⟩ := List.mem_map.1 (mem_distinct.1 hline')
    rw [declaredTarget_targetDeclaration (h s hs),
      declaredTarget_targetDeclaration (h s' hs')] at htarget
    exact (targetDeclaration_eq_iff (h s hs) (h s' hs') htarget).2 (hsame s hs s' hs' htarget)

end

end Source

/-- In a source for stubs that one session returns for requests of a manifest, the functions that
    are declared are the targets, and no two lines declare one function exactly if stubs with one
    target have the same native types. -/
theorem targets_declared_once_iff (baseName : Text) {header : Text} (hheader : '\n' ∉ header)
    {text : Text} {es : List Manifest.Entry} (hread : Manifest.read text = .ok es)
    (actions : List Session.Action)
    (hactions : ∀ r ∈ actions.flatMap Session.Action.requests, r ∈ Command.requestsOf es)
    {stubs : List Stub} (hstubs : ∀ s ∈ stubs, s ∈ ((Session.start baseName).run actions).returned) :
    let externs := ((Source.render header stubs).splitOn '\n').filter Source.isExtern
    (∀ target, target ∈ externs.map Source.declaredTarget ↔ ∃ s ∈ stubs, s.target = target) ∧
    ((externs.map Source.declaredTarget).Nodup ↔
      ∀ s ∈ stubs, ∀ s' ∈ stubs, s.target = s'.target →
        s.nativeReturn = s'.nativeReturn ∧ s.paramList = s'.paramList) := by
  intro externs
  have horigin : ∀ s ∈ stubs, ∃ r ∈ Command.requestsOf es, r.stub = .ok s := by
    intro s hs
    rcases Session.exists_request_of_mem_returned (hstubs s hs) with hstart | ⟨r, hr, hstub⟩
    · contradiction
    · exact ⟨r, hactions r hr, hstub⟩
  have hsingle : ∀ s ∈ stubs, s.SingleLine := by
    intro s hs
    obtain ⟨r, hr, hstub⟩ := horigin s hs
    exact (singleLine_of_mem_requestsOf hread hr).stub hstub
  have hdeclarable : ∀ s ∈ stubs, s.Declarable := by
    intro s hs
    obtain ⟨r, hr, hstub⟩ := horigin s hs
    exact declarable_of_mem_requestsOf hread hr hstub
  have hexterns : externs = Source.targetDeclarations stubs := by
    have hlines : (Source.render header stubs).splitOn '\n' = Source.lines header stubs :=
      Text.splitOn_ofLines (Source.not_mem_lines hheader hsingle) (List.cons_ne_nil _ _)
    rw [← Source.filter_isExtern_lines header stubs, ← hlines]
  rw [hexterns]
  exact ⟨fun target => Source.mem_map_declaredTarget hdeclarable,
    Source.nodup_map_declaredTarget_iff hdeclarable⟩

/-- Two methods of one type with one target. -/
theorem methods_of_one_type_declare_target_once :
    let text := "export(\"a.B.m\", \"(I)I\") -> f;\nexport(\"a.B.n\", \"(I)I\") -> f;".toList
    let es : List Manifest.Entry := [⟨1, ["a.B.m".toList, "(I)I".toList], [], "f".toList⟩,
      ⟨2, ["a.B.n".toList, "(I)I".toList], [], "f".toList⟩]
    let stubs := ((Session.start "m".toList).run [.exportBatch (Command.requestsOf es)]).returned
    let externs := ((Source.render "m_exports.h".toList stubs).splitOn '\n').filter Source.isExtern
    Manifest.read text = .ok es ∧ stubs.length = 2 ∧
      "f".toList ∈ externs.map Source.declaredTarget ∧
      (externs.map Source.declaredTarget).Nodup := by
  intro text es stubs externs
  have hread : Manifest.read text = .ok es := by decide +kernel
  obtain ⟨htargets, honce⟩ := targets_declared_once_iff "m".toList
    (show '\n' ∉ "m_exports.h".toList by decide) hread [.exportBatch (Command.requestsOf es)]
    (by rw [List.flatMap_singleton]; exact fun r hr => hr) (fun s hs => hs)
  exact ⟨hread, by decide +kernel, (htargets _).2 (by decide +kernel), honce.2 (by decide +kernel)⟩

/-- Two overloads with one target, which is declared with the types of each. -/
theorem overloads_declare_target_twice :
    let text := "export(\"a.B.m\", \"()V\") -> f;\nexport(\"a.B.m\", \"(I)J\") -> f;".toList
    let es : List Manifest.Entry := [⟨1, ["a.B.m".toList, "()V".toList], [], "f".toList⟩,
      ⟨2, ["a.B.m".toList, "(I)J".toList], [], "f".toList⟩]
    let stubs := ((Session.start "m".toList).run [.exportBatch (Command.requestsOf es)]).returned
    let externs := ((Source.render "m_exports.h".toList stubs).splitOn '\n').filter Source.isExtern
    Manifest.read text = .ok es ∧
      externs = ["extern void f(JNIEnv* env, jclass cls);".toList,
        "extern jlong f(JNIEnv* env, jclass cls, jint arg0);".toList] ∧
      ¬ (externs.map Source.declaredTarget).Nodup := by
  intro text es stubs externs
  exact ⟨by decide +kernel, by decide +kernel, by decide +kernel⟩

end NativeLinkage
