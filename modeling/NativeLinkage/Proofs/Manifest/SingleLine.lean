import NativeLinkage.Command.Run
import NativeLinkage.Proofs.Manifest.Language
import NativeLinkage.Proofs.Request.Resolution

set_option autoImplicit false

namespace NativeLinkage

namespace Manifest

theorem Spells.wellFormed {t : Text} {tokens : List Token} (h : Spells t tokens) :
    ∀ token ∈ tokens, token.WellFormed := by
  induction h with
  | finish => exact List.forall_mem_nil _
  | token hwell _ _ ih => exact List.forall_mem_cons.2 ⟨hwell, ih⟩

theorem mem_tokens_of_argument {s : Statement} {a : Argument} {token : Token}
    (ha : a ∈ s.arguments) (h : token ∈ a.tokens) : token ∈ s.tokens := by
  obtain ⟨arguments, target⟩ := s
  refine List.mem_cons_of_mem _ (List.mem_cons_of_mem _ (List.mem_append_left _ ?_))
  cases arguments with
  | nil => contradiction
  | cons first rest =>
    rcases List.mem_cons.1 ha with rfl | hrest
    · exact List.mem_append_left _ h
    · exact List.mem_append_right _
        (List.mem_flatMap.2 ⟨a, hrest, List.mem_cons_of_mem _ h⟩)

theorem mem_tokens_target (s : Statement) : Token.word s.target ∈ s.tokens := by
  simp [Statement.tokens, Statement.closingTokens]

theorem not_mem_of_wellFormed {pieces : List Piece} (h : (Token.literal pieces).WellFormed) :
    '\n' ∉ pieces.map Piece.char := by
  intro hmem
  obtain ⟨piece, hpiece, hchar⟩ := List.mem_map.1 hmem
  have hwell := h piece hpiece
  cases piece with
  | plain c => exact hwell.2.2 hchar
  | escaped c => exact hwell hchar

theorem writable_entry {s : Statement} (h : ∀ token ∈ s.tokens, token.WellFormed) (line : Nat) :
    (s.entry line).Writable := by
  refine ⟨?_, ?_, h _ (mem_tokens_target s)⟩
  · intro t ht
    obtain ⟨a, ha, hvalue⟩ := List.mem_filterMap.1 ht
    cases a with
    | value pieces =>
      cases hvalue
      exact not_mem_of_wellFormed (h _ (mem_tokens_of_argument ha (by simp [Argument.tokens])))
    | field name pieces => contradiction
  · intro field hfield
    obtain ⟨a, ha, hnamed⟩ := List.mem_filterMap.1 hfield
    cases a with
    | value pieces => contradiction
    | field name pieces =>
      cases hnamed
      exact ⟨h (.word name) (mem_tokens_of_argument ha (by simp [Argument.tokens])),
        not_mem_of_wellFormed (h _ (mem_tokens_of_argument ha (by simp [Argument.tokens])))⟩

/-- Every entry that is read could have been written. -/
theorem writable_of_read {t : Text} {es : List Entry} (h : read t = .ok es) :
    ∀ e ∈ es, e.Writable := by
  obtain ⟨ss, hss⟩ := writes_of_read h
  obtain ⟨found, hfound, hentries⟩ := read_of_writes hss
  obtain rfl : es = found := Except.ok.inj (h.symm.trans hfound)
  have hwell := hss.wellFormed
  clear h hss hfound
  induction hentries with
  | nil => exact List.forall_mem_nil _
  | @cons s e ss es hentry _ ih =>
    rw [List.flatMap_cons, List.forall_mem_append] at hwell
    refine List.forall_mem_cons.2 ⟨?_, ih hwell.2⟩
    rw [hentry]
    exact writable_entry hwell.1 _

theorem IsWord.not_mem {t : Text} (h : IsWord t) {c : Char} (hstart : isWordStart c = false)
    (hchar : isWordChar c = false) : c ∉ t := by
  cases t with
  | nil => contradiction
  | cons first rest =>
    intro hmem
    rcases List.mem_cons.1 hmem with rfl | hrest
    · rw [h.1] at hstart
      contradiction
    · rw [h.2 c hrest] at hchar
      contradiction

theorem not_mem_of_isWord {t : Text} (h : IsWord t) : '\n' ∉ t :=
  h.not_mem (by decide) (by decide +kernel)

end Manifest

structure Request.SingleLine (r : Request) : Prop where
  className : '\n' ∉ r.className
  methodName : '\n' ∉ r.methodName
  descriptor : '\n' ∉ r.descriptor
  target : '\n' ∉ r.target

namespace Request

theorem not_mem_of_require {field : Field} {value : Option Text} {t : Text}
    (hvalue : ∀ v ∈ value, '\n' ∉ v) (h : require field value = .ok t) : '\n' ∉ t := by
  obtain ⟨v, hv, rfl⟩ := Option.map_eq_some_iff.1 (require_eq_ok.1 h).1
  exact fun hmem => hvalue v hv (Text.mem_of_mem_trim hmem)

theorem singleLine_of_ofFields {className methodName signature target : Option Text}
    (hclass : ∀ v ∈ className, '\n' ∉ v) (hmethod : ∀ v ∈ methodName, '\n' ∉ v)
    (hsignature : ∀ v ∈ signature, '\n' ∉ v) (htarget : ∀ v ∈ target, '\n' ∉ v) {r : Request}
    (h : ofFields className methodName signature target = .ok r) : r.SingleLine := by
  obtain ⟨c, m, s, t, hc, hm, hs, ht, rfl⟩ := ofFields_eq_ok h
  refine ⟨?_, not_mem_of_require hmethod hm, not_mem_of_require hsignature hs,
    not_mem_of_require htarget ht⟩
  intro hmem
  obtain ⟨x, hx, hreplaced⟩ := List.mem_map.1 hmem
  split at hreplaced
  · contradiction
  · exact not_mem_of_require hclass hc (hreplaced ▸ hx)

theorem singleLine_of_ofPath {path signature target : Option Text}
    (hpath : ∀ v ∈ path, '\n' ∉ v) (hsignature : ∀ v ∈ signature, '\n' ∉ v)
    (htarget : ∀ v ∈ target, '\n' ∉ v) {r : Request} (h : ofPath path signature target = .ok r) :
    r.SingleLine := by
  obtain ⟨p, hp, h⟩ := exists_of_bind_eq_ok h
  split at h
  · next c className m methodName hsplit =>
    have hline := not_mem_of_require hpath hp
    rw [(Text.append_of_splitLast? hsplit).1, List.mem_append, not_or] at hline
    refine singleLine_of_ofFields ?_ ?_ hsignature htarget h
    · rintro _ ⟨⟩
      exact hline.1
    · rintro _ ⟨⟩
      exact fun hmem => hline.2 (List.mem_cons_of_mem _ hmem)
  · contradiction

end Request

theorem Manifest.Entry.Writable.singleLine {e : Entry} (he : e.Writable) {r : Request}
    (h : e.request = .ok r) : r.SingleLine := by
  have htarget : ∀ v ∈ some e.target, '\n' ∉ v := by
    rintro _ ⟨⟩
    exact not_mem_of_isWord he.target
  have hfield (label : Text) : ∀ v ∈ e.named.lookup label, '\n' ∉ v := by
    intro v hv
    obtain ⟨before, after, hnamed, -⟩ := List.lookup_eq_some_iff.1 hv
    exact (he.named (label, v) (hnamed ▸ List.mem_append_right _ List.mem_cons_self)).2
  unfold Entry.request at h
  split at h
  · contradiction
  · unfold Request.resolve at h
    split at h
    · contradiction
    · split at h
      · contradiction
      · exact Request.singleLine_of_ofFields (hfield _) (hfield _) (hfield _) htarget h
    · next path signature hpositional _ =>
      have hboth := he.positional
      rw [hpositional] at hboth
      refine Request.singleLine_of_ofPath ?_ ?_ htarget h
      · rintro _ ⟨⟩
        exact hboth _ List.mem_cons_self
      · rintro _ ⟨⟩
        exact hboth _ (List.mem_cons_of_mem _ List.mem_cons_self)
    · contradiction

theorem singleLine_of_mem_requestsOf {t : Text} {es : List Manifest.Entry}
    (h : Manifest.read t = .ok es) {r : Request} (hr : r ∈ Command.requestsOf es) :
    r.SingleLine := by
  obtain ⟨e, he, hrequest⟩ := List.mem_filterMap.1 hr
  cases hcase : e.request with
  | error m =>
    rw [hcase] at hrequest
    contradiction
  | ok found =>
    rw [hcase] at hrequest
    cases hrequest
    exact (Manifest.writable_of_read h e he).singleLine hcase

end NativeLinkage
