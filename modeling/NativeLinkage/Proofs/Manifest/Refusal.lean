import NativeLinkage.Proofs.Basic
import NativeLinkage.Proofs.Manifest.Acceptance

set_option autoImplicit false

namespace NativeLinkage.Manifest

def Grammatical (tokens : List Token) : Prop :=
  ∃ ss : List Statement, tokens = ss.flatMap Statement.tokens

/-- Some manifest begins with these tokens. -/
def Viable (tokens : List Token) : Prop := ∃ more, Grammatical (tokens ++ more)

namespace Awaiting

/-- The tokens are taken one after the other and lead from one state to another. -/
inductive Takes : Awaiting → List Placed → Awaiting → Prop
  | nil (state : Awaiting) : Takes state [] state
  | next {state after last : Awaiting} {p : Placed} {ps : List Placed}
    (hmove : state.move p = .next after) (hrest : Takes after ps last) : Takes state (p :: ps) last
  | complete {state last : Awaiting} {p : Placed} {ps : List Placed} {entry : Entry}
    (hmove : state.move p = .complete entry) (hrest : Takes statement ps last) :
    Takes state (p :: ps) last

section
variable {state last after : Awaiting} {ps qs : List Placed} {ending : Ending}

theorem Takes.append (h : Takes state ps last) (hrest : Takes last qs after) :
    Takes state (ps ++ qs) after := by
  induction h with
  | nil => exact hrest
  | next hmove _ ih => exact .next hmove (ih hrest)
  | complete hmove _ ih => exact .complete hmove (ih hrest)

theorem Takes.remainder {tokens : List Token} (h : Takes state ps last)
    (hlast : last.Remainder tokens) : state.Remainder (ps.map Placed.token ++ tokens) := by
  induction h with
  | nil => exact hlast
  | next hmove _ ih => exact remainder_of_next hmove (ih hlast)
  | complete hmove _ ih => exact remainder_of_complete hmove (ih hlast)

theorem Takes.read_eq_error {m : Misuse} (h : Takes state ps last)
    (hlast : last.read ending qs = .error m) : state.read ending (ps ++ qs) = .error m := by
  induction h with
  | nil => exact hlast
  | next hmove _ ih =>
    rw [List.cons_append, read, hmove]
    exact ih hlast
  | complete hmove _ ih =>
    rw [List.cons_append, read, hmove]
    dsimp only
    rw [ih hlast]
    rfl

theorem exists_takes_of_read {es : List Entry} (h : state.read ending (ps ++ qs) = .ok es) :
    ∃ last, Takes state ps last := by
  induction ps generalizing state es with
  | nil => exact ⟨state, .nil state⟩
  | cons p ps ih =>
    rw [List.cons_append, read] at h
    split at h
    · next after hmove =>
      obtain ⟨last, hlast⟩ := ih h
      exact ⟨last, .next hmove hlast⟩
    · next entry hmove =>
      obtain ⟨later, hlater, -⟩ := exists_of_map_eq_ok h
      obtain ⟨last, hlast⟩ := ih hlater
      exact ⟨last, .complete hmove hlast⟩
    · contradiction

/-- Within a statement the text may not end. -/
theorem finish_of_ne (h : state ≠ statement) (line : Nat) :
    state.finish (.finish line) = .error (.malformedManifest line (state.defect none)) := by
  cases state with
  | statement => contradiction
  | _ => rfl

theorem exists_takes_of_read_error {m : Misuse} (h : state.read ending ps = .error m) :
    ∃ taken rest last, ps = taken ++ rest ∧ Takes state taken last ∧
      ((∃ p more, rest = p :: more ∧ last.move p = .refuse ∧
        m = .malformedManifest p.line (last.defect (some p.token))) ∨
      rest = [] ∧ last.finish ending = .error m) := by
  induction ps generalizing state with
  | nil => exact ⟨[], [], state, rfl, .nil state, .inr ⟨rfl, h⟩⟩
  | cons p ps ih =>
    rw [read] at h
    split at h
    · next after hmove =>
      obtain ⟨taken, rest, last, rfl, htakes, hrest⟩ := ih h
      exact ⟨p :: taken, rest, last, rfl, .next hmove htakes, hrest⟩
    · next entry hmove =>
      cases hlater : statement.read ending ps with
      | ok es =>
        rw [hlater] at h
        contradiction
      | error found =>
        rw [hlater] at h
        obtain ⟨taken, rest, last, rfl, htakes, hrest⟩ := ih (hlater.trans h)
        exact ⟨p :: taken, rest, last, rfl, .complete hmove htakes, hrest⟩
    · next hmove =>
      cases h
      exact ⟨[], p :: ps, state, rfl, .nil state, .inl ⟨p, ps, rfl, hmove, rfl⟩⟩

end

/-- From every state a manifest can be completed. -/
theorem exists_remainder (state : Awaiting) : ∃ tokens, state.Remainder tokens := by
  cases state with
  | statement => exact ⟨_, [], rfl⟩
  | opening | argumentOrClosing | commaOrClosing => exact ⟨_, [], ['f'], [], rfl⟩
  | argument => exact ⟨_, .value [], [], ['f'], [], rfl⟩
  | equals | value => exact ⟨_, [], [], ['f'], [], rfl⟩
  | arrow | target => exact ⟨_, ['f'], [], rfl⟩
  | semicolon => exact ⟨_, [], rfl⟩

section
variable {last : Awaiting} {ps : List Placed}

theorem viable_of_takes (h : Takes statement ps last) : Viable (ps.map Placed.token) := by
  obtain ⟨more, hmore⟩ := exists_remainder last
  exact ⟨more, h.remainder hmore⟩

theorem exists_read_of_viable (h : Viable (ps.map Placed.token)) :
    ∃ qs es, statement.read (.finish 0) (ps ++ qs) = .ok es := by
  obtain ⟨more, ss, hss⟩ := h
  have htokens : (ps ++ more.map (Placed.mk · 0)).map Placed.token =
      ss.flatMap Statement.tokens := by
    rw [List.map_append, List.map_map, ← hss]
    exact congrArg _ (List.map_id _)
  obtain ⟨es, hread, -⟩ := @read_statements ss 0 _ htokens
  exact ⟨_, es, hread⟩

theorem exists_takes_of_viable (h : Viable (ps.map Placed.token)) :
    ∃ last, Takes statement ps last := by
  obtain ⟨qs, es, hread⟩ := exists_read_of_viable h
  exact exists_takes_of_read hread

/-- After tokens that are taken, those tokens are refused with which no manifest goes on. -/
theorem move_eq_refuse_iff (h : Takes statement ps last) {p : Placed} :
    last.move p = .refuse ↔ ¬ Viable ((ps ++ [p]).map Placed.token) := by
  constructor
  · intro hmove hviable
    obtain ⟨qs, es, hread⟩ := exists_read_of_viable hviable
    have herror : last.read (.finish 0) (p :: qs) =
        .error (.malformedManifest p.line (last.defect (some p.token))) := by
      rw [read, hmove]
    rw [List.append_assoc, List.singleton_append, h.read_eq_error herror] at hread
    contradiction
  · intro hviable
    cases hmove : last.move p with
    | refuse => rfl
    | next after => exact absurd (viable_of_takes (h.append (.next hmove (.nil _)))) hviable
    | complete entry => exact absurd (viable_of_takes (h.append (.complete hmove (.nil _)))) hviable

/-- After tokens that are taken, the text may end exactly if they make a manifest. -/
theorem eq_statement_iff (h : Takes statement ps last) :
    last = statement ↔ Grammatical (ps.map Placed.token) := by
  constructor
  · rintro rfl
    have hremainder : statement.Remainder (ps.map Placed.token ++ []) := h.remainder ⟨[], rfl⟩
    rwa [List.append_nil] at hremainder
  · rintro ⟨ss, hss⟩
    obtain ⟨es, hread, -⟩ := @read_statements ss 0 ps hss
    by_contra hstate
    have hend : last.read (.finish 0) [] = _ := finish_of_ne hstate 0
    have hwhole := h.read_eq_error hend
    rw [List.append_nil, hread] at hwhole
    contradiction

end

end Awaiting

end NativeLinkage.Manifest
