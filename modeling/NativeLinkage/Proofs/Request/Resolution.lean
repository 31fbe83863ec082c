import NativeLinkage.Proofs.Basic
import NativeLinkage.Request

set_option autoImplicit false

namespace NativeLinkage.Request

variable {field : Field} {value : Option Text} {signature target : Option Text} {misuse : Misuse}
  {r : Request}

theorem require_of_ne_nil {v : Text} (h : Text.trim v ≠ []) :
    require field (some v) = .ok (Text.trim v) := by
  rw [require, if_neg h]

theorem require_of_eq_nil {v : Text} (h : Text.trim v = []) :
    require field (some v) = .error (.missing field) := by
  rw [require, if_pos h]

theorem require_congr {v w : Text} (h : Text.trim v = Text.trim w) :
    require field (some v) = require field (some w) := by
  rw [require, require, h]

theorem require_of_trimmed {v : Text} (h : v.Trimmed) (hne : v ≠ []) :
    require field (some v) = .ok v := by
  rw [require_of_ne_nil (h.trim_eq.symm ▸ hne), h.trim_eq]

theorem require_eq_error (h : require field value = .error misuse) : misuse = .missing field := by
  unfold require at h
  split at h
  · exact (Except.error.inj h).symm
  · split at h
    · exact (Except.error.inj h).symm
    · contradiction

theorem ofFields_eq_ok {className methodName : Option Text}
    (h : ofFields className methodName signature target = .ok r) :
    ∃ c m s t, require .className className = .ok c ∧ require .methodName methodName = .ok m ∧
      require .signature signature = .ok s ∧ require .target target = .ok t ∧
      r = ⟨Text.replace '.' '/' c, m, s, t⟩ := by
  obtain ⟨c, hc, h⟩ := exists_of_bind_eq_ok h
  obtain ⟨m, hm, h⟩ := exists_of_bind_eq_ok h
  obtain ⟨s, hs, h⟩ := exists_of_bind_eq_ok h
  obtain ⟨t, ht, h⟩ := exists_of_bind_eq_ok h
  exact ⟨c, m, s, t, hc, hm, hs, ht, (Except.ok.inj h).symm⟩

theorem ofFields_eq_error {className methodName : Option Text}
    (h : ofFields className methodName signature target = .error misuse) :
    require .className className = .error misuse ∨ require .methodName methodName = .error misuse ∨
      require .signature signature = .error misuse ∨ require .target target = .error misuse := by
  rcases exists_of_bind_eq_error h with hc | ⟨c, -, h⟩
  · exact .inl hc
  rcases exists_of_bind_eq_error h with hm | ⟨m, -, h⟩
  · exact .inr (.inl hm)
  rcases exists_of_bind_eq_error h with hs | ⟨s, -, h⟩
  · exact .inr (.inr (.inl hs))
  rcases exists_of_bind_eq_error h with ht | ⟨t, -, h⟩
  · exact .inr (.inr (.inr ht))
  · contradiction

theorem ofFields_congr {c c' m m' : Text} (hc : Text.trim c = Text.trim c')
    (hm : Text.trim m = Text.trim m') :
    ofFields (some c) (some m) signature target =
      ofFields (some c') (some m') signature target := by
  rw [ofFields, ofFields, require_congr hc, require_congr hm]

theorem exists_error_of_blank {c m : Text} (h : Text.trim c = [] ∨ Text.trim m = []) :
    ∃ misuse, ofFields (some c) (some m) signature target = .error misuse := by
  cases hresult : ofFields (some c) (some m) signature target with
  | error misuse => exact ⟨misuse, rfl⟩
  | ok r =>
    obtain ⟨_, _, _, _, hc, hm, -⟩ := ofFields_eq_ok hresult
    rcases h with hblank | hblank
    · rw [require_of_eq_nil hblank] at hc
      contradiction
    · rw [require_of_eq_nil hblank] at hm
      contradiction

theorem ofPath_congr {p p' : Text} (h : Text.trim p = Text.trim p') :
    ofPath (some p) signature target = ofPath (some p') signature target := by
  rw [ofPath, ofPath, require_congr h]

theorem ofPath_of_blank {p : Text} (h : Text.trim p = []) :
    ofPath (some p) signature target = .error (.missing .path) := by
  rw [ofPath, require_of_eq_nil h]
  rfl

theorem ofPath_of_split {p c m : Text} (hsplit : Text.splitLast? '.' (Text.trim p) = some (c, m)) :
    ofPath (some p) signature target =
      if c = [] ∨ m = [] then .error (.notAPath (Text.trim p))
      else ofFields (some c) (some m) signature target := by
  have hne : Text.trim p ≠ [] := by
    rw [(Text.append_of_splitLast? hsplit).1]
    simp
  rw [ofPath, require_of_ne_nil hne]
  simp only [bind, Except.bind, hsplit]
  cases c with
  | nil => rfl
  | cons _ c =>
    cases m with
    | nil => rfl
    | cons _ m => rfl

theorem ofPath_of_not_mem {p : Text} (h : '.' ∉ Text.trim p) (hne : Text.trim p ≠ []) :
    ofPath (some p) signature target = .error (.notAPath (Text.trim p)) := by
  rw [ofPath, require_of_ne_nil hne]
  simp only [bind, Except.bind, Text.splitLast?_eq_none.2 h]
  rfl

/-- The last dot of a path is no blank, so that trimming the path trims one end of each part. -/
theorem ofPath_dotted {c m : Text} (hm : '.' ∉ m) :
    ofPath (some (c ++ '.' :: m)) signature target =
      if Text.trim c = [] ∨ Text.trim m = [] then .error (.notAPath (Text.trim (c ++ '.' :: m)))
      else ofFields (some c) (some m) signature target := by
  have htrim : Text.trim (c ++ '.' :: m) = Text.trimLeft c ++ '.' :: Text.trimRight m :=
    Text.trim_append_cons (by decide) c m
  have hlast : '.' ∉ Text.trimRight m := fun hmem =>
    hm ((List.rdropWhile_prefix Text.isBlank m).subset hmem)
  have hsplit := Text.splitLast?_append (Text.trimLeft c) hlast
  rw [← htrim] at hsplit
  rw [ofPath_of_split hsplit]
  simp only [Text.trimLeft_eq_nil_iff, Text.trimRight_eq_nil_iff]
  rw [ofFields_congr (Text.trim_trimLeft c) (Text.trim_trimRight m)]

/-- Every path is blank, or has no dot, or is cut into two parts that are taken as named fields. -/
theorem ofPath_cases (path : Text) :
    Text.trim path = [] ∨ Text.trim path ≠ [] ∧ '.' ∉ Text.trim path ∨
      ∃ c m, '.' ∉ m ∧ Text.trim path = c ++ '.' :: m ∧ ∀ signature target,
        ofPath (some path) signature target =
          if Text.trim c = [] ∨ Text.trim m = [] then .error (.notAPath (Text.trim path))
          else ofFields (some c) (some m) signature target := by
  by_cases hblank : Text.trim path = []
  · exact .inl hblank
  by_cases hdot : '.' ∈ Text.trim path
  · have hsome : Text.splitLast? '.' (Text.trim path) ≠ none := fun hnone =>
      Text.splitLast?_eq_none.1 hnone hdot
    obtain ⟨⟨c, m⟩, hsplit⟩ := Option.ne_none_iff_exists'.1 hsome
    obtain ⟨hpath, hm⟩ := Text.append_of_splitLast? hsplit
    refine .inr (.inr ⟨c, m, hm, hpath, fun signature target => ?_⟩)
    have hparts : ofPath (some (c ++ '.' :: m)) signature target = _ := ofPath_dotted hm
    rw [← hpath, Text.trim_trim] at hparts
    rw [← hparts]
    exact ofPath_congr (Text.trim_trim path).symm
  · exact .inr (.inl ⟨hblank, hdot⟩)

/-- A path is at fault as a whole, never for one of its two parts. -/
theorem field_of_ofPath_eq_error {path : Option Text}
    (h : ofPath path signature target = .error misuse) :
    ∃ field ∈ [Field.path, .signature, .target], misuse.field? = some field.label := by
  cases path with
  | none =>
    cases h
    exact ⟨.path, by simp, rfl⟩
  | some path =>
    rcases ofPath_cases path with hblank | ⟨hblank, hdot⟩ | ⟨c, m, -, -, hparts⟩
    · rw [ofPath_of_blank hblank] at h
      cases h
      exact ⟨.path, by simp, rfl⟩
    · rw [ofPath_of_not_mem hdot hblank] at h
      cases h
      exact ⟨.path, by simp, rfl⟩
    · rw [hparts] at h
      split at h
      · cases h
        exact ⟨.path, by simp, rfl⟩
      · next hfilled =>
        rw [not_or] at hfilled
        rcases ofFields_eq_error h with hc | hm | hs | ht
        · rw [require_of_ne_nil hfilled.1] at hc
          contradiction
        · rw [require_of_ne_nil hfilled.2] at hm
          contradiction
        · rw [require_eq_error hs]
          exact ⟨.signature, by simp, rfl⟩
        · rw [require_eq_error ht]
          exact ⟨.target, by simp, rfl⟩

theorem ofFields_of_ofPath {path : Option Text} (h : ofPath path signature target = .ok r) :
    ∃ c m, '.' ∉ m ∧ ofFields (some c) (some m) signature target = .ok r := by
  cases path with
  | none => contradiction
  | some path =>
    rcases ofPath_cases path with hblank | ⟨hblank, hdot⟩ | ⟨c, m, hm, -, hparts⟩
    · rw [ofPath_of_blank hblank] at h
      contradiction
    · rw [ofPath_of_not_mem hdot hblank] at h
      contradiction
    · rw [hparts] at h
      split at h
      · contradiction
      · exact ⟨c, m, hm, h⟩

/-- Every request is made of named fields in the end; by position, the method has no dot. -/
theorem ofFields_of_resolve {positional : List Text} {named : List (Text × Text)}
    (h : resolve positional named target = .ok r) :
    ∃ c m s, ofFields c m s target = .ok r ∧ (positional ≠ [] → ∀ t ∈ m, '.' ∉ t) := by
  unfold resolve at h
  split at h
  · contradiction
  · split at h
    · contradiction
    · exact ⟨_, _, _, h, fun hne => absurd rfl hne⟩
  · obtain ⟨c, m, hm, hfields⟩ := ofFields_of_ofPath h
    refine ⟨some c, some m, _, hfields, fun _ t ht => ?_⟩
    cases ht
    exact hm
  · contradiction

/-- A method given by a path with its class comes to what it comes to by named fields: to the same
    request, or to no request. Where neither the class nor the method is blank, the reason is the
    same too. No path is refused for want of a class or of a method. -/
theorem dotted_path_agrees_with_fields {c m : Text} (hm : '.' ∉ m) (s : Text)
    (target : Option Text) :
    let byPath := resolve [c ++ '.' :: m, s] [] target
    let byFields :=
      resolve [] [("class".toList, c), ("name".toList, m), ("sig".toList, s)] target
    ((∃ r, byPath = .ok r ∧ byFields = .ok r) ∨
      ∃ misuse misuse', byPath = .error misuse ∧ byFields = .error misuse') ∧
    (Text.trim c ≠ [] → Text.trim m ≠ [] → byPath = byFields) ∧
    ∀ (path signature target : Option Text) (misuse : Misuse),
      ofPath path signature target = .error misuse →
        misuse.notice ≠ (Misuse.missing .className).notice ∧
        misuse.notice ≠ (Misuse.missing .methodName).notice := by
  intro byPath byFields
  have hpath : byPath = if Text.trim c = [] ∨ Text.trim m = [] then
      .error (.notAPath (Text.trim (c ++ '.' :: m))) else byFields := ofPath_dotted hm
  refine ⟨?_, fun hc hm => ?_, fun path signature target misuse h => ?_⟩
  · by_cases hblank : Text.trim c = [] ∨ Text.trim m = []
    · obtain ⟨misuse, hmisuse⟩ : ∃ misuse, byFields = .error misuse := exists_error_of_blank hblank
      rw [if_pos hblank] at hpath
      exact .inr ⟨_, misuse, hpath, hmisuse⟩
    · rw [if_neg hblank] at hpath
      rw [hpath]
      cases byFields with
      | ok r => exact .inl ⟨r, rfl, rfl⟩
      | error misuse => exact .inr ⟨misuse, misuse, rfl, rfl⟩
  · rw [hpath, if_neg (not_or.2 ⟨hc, hm⟩)]
  · obtain ⟨field, hfield, hlabel⟩ := field_of_ofPath_eq_error h
    have hne : ∀ field ∈ [Field.path, .signature, .target],
        field.label ≠ Field.className.label ∧ field.label ≠ Field.methodName.label := by decide
    refine ⟨fun heq => (hne field hfield).1 ?_, fun heq => (hne field hfield).2 ?_⟩
    · exact Option.some.inj (hlabel.symm.trans (congrArg Notice.field heq))
    · exact Option.some.inj (hlabel.symm.trans (congrArg Notice.field heq))

/-- Blanks around the last dot, and a class that ends with a dot itself; then a blank method, for
    which the two forms blame different fields; and a signature that is blank in both. -/
theorem blanks_around_last_dot_are_trimmed :
    let target := some "f".toList
    let byFields := fun c m s : Text =>
      resolve [] [("class".toList, c), ("name".toList, m), ("sig".toList, s)] target
    resolve [" a.B. . m ".toList, "()".toList] [] target =
        byFields " a.B. ".toList " m ".toList "()".toList ∧
      byFields " a.B. ".toList " m ".toList "()".toList =
        .ok ⟨"a/B/".toList, "m".toList, "()".toList, "f".toList⟩ ∧
      resolve ["a.B. ".toList, "()".toList] [] target = .error (.notAPath "a.B.".toList) ∧
      byFields "a.B".toList " ".toList "()".toList = .error (.missing .methodName) ∧
      resolve ["a.B.m".toList, " ".toList] [] target =
        byFields "a.B".toList "m".toList " ".toList := by
  intro target byFields
  obtain ⟨-, hsame, -⟩ :=
    dotted_path_agrees_with_fields (c := " a.B. ".toList) (m := " m ".toList) (by decide)
      "()".toList target
  obtain ⟨-, hrefused, -⟩ :=
    dotted_path_agrees_with_fields (c := "a.B".toList) (m := "m".toList) (by decide)
      " ".toList target
  exact ⟨hsame (by decide) (by decide), by decide, by decide, by decide,
    hrefused (by decide) (by decide)⟩

end NativeLinkage.Request
