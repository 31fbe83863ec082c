import NativeLinkage.Proofs.Request.Resolution

set_option autoImplicit false

namespace NativeLinkage

theorem Text.replace_of_not_mem {old new : Char} {t : Text} (h : old ∉ t) :
    replace old new t = t := by
  rw [replace]
  conv_rhs => rw [← List.map_id t]
  refine List.map_congr_left fun c hc => if_neg ?_
  rintro rfl
  exact h hc

theorem Text.replace_replace {old new : Char} {t : Text} (h : new ∉ t) :
    replace new old (replace old new t) = t := by
  rw [replace, replace, List.map_map]
  conv_rhs => rw [← List.map_id t]
  refine List.map_congr_left fun c hc => ?_
  by_cases hold : c = old
  · simp [hold]
  · have hnew : c ≠ new := fun heq => h (heq ▸ hc)
    simp [hold, hnew]

namespace Request

/-- A request as it is once it has been resolved. -/
structure Canonical (r : Request) : Prop where
  parts : ∀ part ∈ [r.className, r.methodName, r.descriptor, r.target], part ≠ [] ∧ part.Trimmed
  className : '.' ∉ r.className

variable {r r' : Request} {target : Option Text}

theorem trimmed_of_require {field : Field} {value : Option Text} {t : Text}
    (h : require field value = .ok t) : t ≠ [] ∧ t.Trimmed := by
  obtain ⟨hvalue, hne⟩ := require_eq_ok.1 h
  obtain ⟨v, -, rfl⟩ := Option.map_eq_some_iff.1 hvalue
  exact ⟨hne, Text.trimmed_trim v⟩

theorem canonical_of_ofFields {className methodName signature : Option Text}
    (h : ofFields className methodName signature target = .ok r) : r.Canonical := by
  obtain ⟨c, m, s, t, hc, hm, hs, ht, rfl⟩ := ofFields_eq_ok h
  refine ⟨?_, Text.not_mem_replace (by decide) c⟩
  obtain ⟨hne, htrimmed⟩ := trimmed_of_require hc
  have hclass : Text.replace '.' '/' c ≠ [] ∧ (Text.replace '.' '/' c).Trimmed :=
    ⟨fun hnil => hne (List.map_eq_nil_iff.1 hnil), htrimmed.replace (by decide)⟩
  simp only [List.forall_mem_cons]
  exact ⟨hclass, trimmed_of_require hm, trimmed_of_require hs, trimmed_of_require ht,
    List.forall_mem_nil _⟩

theorem ofFields_of_trimmed {c m s t : Text}
    (h : ∀ part ∈ [c, m, s, t], part ≠ [] ∧ part.Trimmed) :
    ofFields (some c) (some m) (some s) (some t) = .ok ⟨Text.replace '.' '/' c, m, s, t⟩ := by
  simp only [List.forall_mem_cons] at h
  obtain ⟨hc, hm, hs, ht, -⟩ := h
  rw [ofFields, require_of_trimmed hc.2 hc.1, require_of_trimmed hm.2 hm.1,
    require_of_trimmed hs.2 hs.1, require_of_trimmed ht.2 ht.1]
  rfl

theorem Canonical.ofFields (h : r.Canonical) :
    Request.ofFields (some r.className) (some r.methodName) (some r.descriptor) (some r.target) =
      .ok r := by
  rw [ofFields_of_trimmed h.parts, Text.replace_of_not_mem h.className]

/-- The class of the path is the class name with dots, cut off again at the dot before the method. -/
theorem Canonical.ofPath (h : r.Canonical) (hm : '.' ∉ r.methodName) :
    Request.ofPath (some r.qualifiedName) (some r.descriptor) (some r.target) = .ok r := by
  have hparts := h.parts
  rw [List.forall_mem_cons] at hparts
  obtain ⟨⟨hne, htrimmed⟩, hrest⟩ := hparts
  have hdotted : Text.replace '/' '.' r.className ≠ [] ∧
      (Text.replace '/' '.' r.className).Trimmed :=
    ⟨fun hnil => hne (List.map_eq_nil_iff.1 hnil), htrimmed.replace (by decide)⟩
  have hmethod := hrest _ List.mem_cons_self
  have hfilled : ¬ (Text.trim (Text.replace '/' '.' r.className) = [] ∨
      Text.trim r.methodName = []) := by
    rw [hdotted.2.trim_eq, hmethod.2.trim_eq]
    exact not_or.2 ⟨hdotted.1, hmethod.1⟩
  rw [qualifiedName, ofPath_dotted hm, if_neg hfilled,
    ofFields_of_trimmed (List.forall_mem_cons.2 ⟨hdotted, hrest⟩),
    Text.replace_replace h.className]

theorem Canonical.eq_of_qualifiedName_eq (h : r.Canonical) (h' : r'.Canonical)
    (hm : '.' ∉ r.methodName) (hm' : '.' ∉ r'.methodName)
    (hname : r.qualifiedName = r'.qualifiedName) (hdescriptor : r.descriptor = r'.descriptor)
    (htarget : r.target = r'.target) : r = r' := by
  have hpath := h.ofPath hm
  rw [hname, hdescriptor, htarget, h'.ofPath hm'] at hpath
  exact (Except.ok.inj hpath).symm

theorem canonical_of_resolve {positional : List Text} {named : List (Text × Text)}
    (h : resolve positional named target = .ok r) : r.Canonical := by
  obtain ⟨_, _, _, hfields, -⟩ := ofFields_of_resolve h
  exact canonical_of_ofFields hfields

theorem methodName_of_resolve {positional : List Text} {named : List (Text × Text)}
    (h : resolve positional named target = .ok r) (hpositional : positional ≠ []) :
    '.' ∉ r.methodName := by
  obtain ⟨_, _, _, hfields, hdot⟩ := ofFields_of_resolve h
  obtain ⟨_, m, _, _, -, hm, -, -, rfl⟩ := ofFields_eq_ok hfields
  obtain ⟨v, hv, rfl⟩ := Option.map_eq_some_iff.1 (require_eq_ok.1 hm).1
  exact fun hmem => hdot hpositional v hv (Text.mem_of_mem_trim hmem)

/-- No part of a resolved request is empty or has blanks at its ends, and its class name is in binary
    form; named fields with these parts resolve to the same request. If the method has no dot, which
    by position it never has, so does the path that is its dotted name, and no other such request
    has the same dotted name, descriptor and target. -/
theorem resolved_request_is_canonical {positional : List Text} {named : List (Text × Text)}
    (h : resolve positional named target = .ok r) :
    (∀ part ∈ [r.className, r.methodName, r.descriptor, r.target], part ≠ [] ∧ part.Trimmed) ∧
    '.' ∉ r.className ∧
    ofFields (some r.className) (some r.methodName) (some r.descriptor) (some r.target) = .ok r ∧
    (positional ≠ [] → '.' ∉ r.methodName) ∧
    ('.' ∉ r.methodName →
      ofPath (some r.qualifiedName) (some r.descriptor) (some r.target) = .ok r ∧
      ∀ (positional' : List Text) (named' : List (Text × Text)) (target' : Option Text)
        (r' : Request), resolve positional' named' target' = .ok r' → '.' ∉ r'.methodName →
          r.qualifiedName = r'.qualifiedName → r.descriptor = r'.descriptor →
          r.target = r'.target → r = r') := by
  have hcanonical := canonical_of_resolve h
  refine ⟨hcanonical.parts, hcanonical.className, hcanonical.ofFields, methodName_of_resolve h,
    fun hm => ⟨hcanonical.ofPath hm, ?_⟩⟩
  intro positional' named' target' r' h' hm'
  exact hcanonical.eq_of_qualifiedName_eq (canonical_of_resolve h') hm hm'

/-- A path with blanks, an empty segment and a slash on either side of its last dot. Named fields can
    put a dot into the name of a method, and then two requests share a dotted name. -/
theorem path_with_slashes_is_canonical :
    let r : Request := ⟨"a// b/C".toList, "m/n".toList, "()V".toList, "f".toList⟩
    let byFields := fun c m : String =>
      resolve [] [("class".toList, c.toList), ("name".toList, m.toList), ("sig".toList, "()V".toList)]
        (some "f".toList)
    resolve [" a/. b.C .m/n\t".toList, "()V ".toList] [] (some " f".toList) = .ok r ∧
      r.qualifiedName = "a.. b.C.m/n".toList ∧
      ofFields (some r.className) (some r.methodName) (some r.descriptor) (some r.target) = .ok r ∧
      ofPath (some r.qualifiedName) (some r.descriptor) (some r.target) = .ok r ∧
      (∀ r', byFields "a.. b/C" " m/n" = .ok r' → r'.methodName = r.methodName →
        r.qualifiedName = r'.qualifiedName → r.descriptor = r'.descriptor →
        r.target = r'.target → r = r') ∧
      byFields "a" "b.m" = .ok ⟨"a".toList, "b.m".toList, "()V".toList, "f".toList⟩ ∧
      byFields "a.b" "m" = .ok ⟨"a/b".toList, "m".toList, "()V".toList, "f".toList⟩ := by
  intro r byFields
  have hresolve :
      resolve [" a/. b.C .m/n\t".toList, "()V ".toList] [] (some " f".toList) = .ok r := by
    decide
  obtain ⟨-, -, hfields, hdot, hdotless⟩ := resolved_request_is_canonical hresolve
  obtain ⟨hpath, hunique⟩ := hdotless (hdot (by decide))
  refine ⟨hresolve, by decide, hfields, hpath, fun r' hr' hm => ?_, by decide, by decide⟩
  exact hunique _ _ _ r' hr' (hm ▸ hdot (by decide))

end Request

end NativeLinkage
