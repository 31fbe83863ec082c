import Mathlib.Data.Char
import Mathlib.Data.List.Lex
import NativeLinkage.Manifest.Statement
import NativeLinkage.Proofs.Basic

set_option autoImplicit false

namespace NativeLinkage

namespace Request

section
variable {names names' : List Text} {name : Text}

theorem least?_eq_some_iff :
    least? names = some name ↔ name ∈ names ∧ ∀ other ∈ names, name ≤ other := by
  have hmin : least? names = names.min? := by
    cases names with
    | nil => rfl
    | cons first rest =>
      have hstep : (fun a b : Text => if b < a then b else a) = min := by
        funext a b
        by_cases h : b < a
        · rw [if_pos h, min_eq_right h.le]
        · rw [if_neg h, min_eq_left (not_lt.1 h)]
      rw [least?, List.min?_cons', hstep]
  rw [hmin, List.min?_eq_some_iff]

theorem least?_of_perm (h : names.Perm names') : least? names = least? names' := by
  refine Option.ext fun name => ?_
  simp only [least?_eq_some_iff, h.mem_iff]

end

variable {named named' : List (Text × Text)}

theorem unknownField?_of_perm (h : named.Perm named') :
    unknownField? named = unknownField? named' :=
  least?_of_perm ((h.map Prod.fst).filter _)

/-- Unknown fields, mixed forms and missing fields are found alike in every order. -/
theorem resolve_of_perm (hperm : named.Perm named') (h : (named.map Prod.fst).Nodup)
    (positional : List Text) (target : Option Text) :
    resolve positional named target = resolve positional named' target := by
  cases named with
  | nil => rw [hperm.nil_eq]
  | cons field fields =>
    cases named' with
    | nil => exact absurd hperm.eq_nil (List.cons_ne_nil _ _)
    | cons field' fields' =>
      cases positional with
      | cons => rfl
      | nil =>
        rw [resolve, resolve, unknownField?_of_perm hperm]
        simp only [Text.lookup_of_perm hperm h]

end Request

namespace Manifest

/-- Going through the names, this is the first that is met again. -/
def FirstRepeated (names : List Text) (name : Text) : Prop :=
  ∃ before after, names = before ++ name :: after ∧ before.Nodup ∧ name ∈ before

theorem exists_split_of_repeated? {seen names : List Text} {name : Text}
    (h : repeated? seen names = some name) :
    ∃ before after, names = before ++ name :: after ∧ before.Nodup ∧
      (∀ other ∈ before, other ∉ seen) ∧ (name ∈ before ∨ name ∈ seen) := by
  induction names generalizing seen with
  | nil => contradiction
  | cons first names ih =>
    rw [repeated?] at h
    split at h
    · next hseen =>
      cases h
      exact ⟨[], names, rfl, List.nodup_nil, List.forall_mem_nil _, .inr hseen⟩
    · next hseen =>
      obtain ⟨before, after, rfl, hnodup, hfresh, hname⟩ := ih h
      have hfirst : first ∉ before := fun hmem => hfresh first hmem List.mem_cons_self
      refine ⟨first :: before, after, rfl, List.nodup_cons.2 ⟨hfirst, hnodup⟩,
        List.forall_mem_cons.2 ⟨hseen, fun other hmem => ?_⟩, ?_⟩
      · exact fun hother => hfresh other hmem (List.mem_cons_of_mem _ hother)
      · rcases hname with hmem | hmem
        · exact .inl (List.mem_cons_of_mem _ hmem)
        · rcases List.mem_cons.1 hmem with rfl | hmem
          · exact .inl List.mem_cons_self
          · exact .inr hmem

theorem firstRepeated_of_repeated? {names : List Text} {name : Text}
    (h : repeated? [] names = some name) : FirstRepeated names name := by
  obtain ⟨before, after, hnames, hnodup, -, hname⟩ := exists_split_of_repeated? h
  exact ⟨before, after, hnames, hnodup, hname.resolve_right List.not_mem_nil⟩

namespace Draft

def request (d : Draft) (target : Option Text) : Except Misuse Request :=
  match repeated? [] (d.named.map Prod.fst) with
  | some name => .error (.duplicateField d.line name)
  | none => Request.resolve d.positional d.named target

theorem request_entry (d : Draft) (target : Text) :
    (d.entry target).request = d.request (some target) := rfl

variable {d : Draft}

theorem request_of_nodup (h : (d.named.map Prod.fst).Nodup) (target : Option Text) :
    d.request target = Request.resolve d.positional d.named target := by
  have hnone : repeated? [] (d.named.map Prod.fst) = none :=
    repeated?_eq_none.2 ⟨h, fun _ _ => List.not_mem_nil⟩
  rw [request, hnone]

theorem request_of_not_nodup (h : ¬ (d.named.map Prod.fst).Nodup) :
    ∃ name, FirstRepeated (d.named.map Prod.fst) name ∧
      ∀ target, d.request target = .error (.duplicateField d.line name) := by
  have hsome : repeated? [] (d.named.map Prod.fst) ≠ none := fun hnone =>
    h (repeated?_eq_none.1 hnone).1
  obtain ⟨name, hname⟩ := Option.ne_none_iff_exists'.1 hsome
  refine ⟨name, firstRepeated_of_repeated? hname, fun target => ?_⟩
  rw [request, hname]

end Draft

/-- Fields with distinct names may be written in any order: the statement asks for the same request,
    or is refused for the same misuse. If a name is given twice it is refused in every order, and
    the field that is named is the first that is met again in that order. -/
theorem fields_in_another_order (d : Draft) {named : List (Text × Text)} (h : d.named.Perm named) :
    let reordered := { d with named := named }
    (∀ target, (reordered.entry target).request = reordered.request (some target)) ∧
    ((d.named.map Prod.fst).Nodup → ∀ target, reordered.request target = d.request target) ∧
    (¬ (d.named.map Prod.fst).Nodup → ∃ name, FirstRepeated (named.map Prod.fst) name ∧
      (Misuse.duplicateField d.line name).field? = some name ∧
      ∀ target, reordered.request target = .error (.duplicateField d.line name)) := by
  intro reordered
  have hnodup : (d.named.map Prod.fst).Nodup ↔ (named.map Prod.fst).Nodup :=
    (h.map Prod.fst).nodup_iff
  refine ⟨reordered.request_entry, fun hd target => ?_, fun hd => ?_⟩
  · rw [Draft.request_of_nodup (hnodup.1 hd), Draft.request_of_nodup hd]
    exact (Request.resolve_of_perm h hd d.positional target).symm
  · obtain ⟨name, hname, hrequest⟩ := reordered.request_of_not_nodup (mt hnodup.2 hd)
    exact ⟨name, hname, rfl, hrequest⟩

/-- Two unknown names, of which the lesser is reported from both ends; and two names that are each
    given twice, of which each is met again first in one order. -/
theorem unknown_and_repeated_fields_in_another_order :
    let field (name value : String) : Text × Text := (name.toList, value.toList)
    let unknown : Draft :=
      ⟨1, [], [field "sig" "()", field "zz" "", field "class" "A", field "aa" ""]⟩
    let twice : Draft :=
      ⟨1, [], [field "name" "m", field "class" "A", field "class" "B", field "name" "n"]⟩
    let backwards := { unknown with named := unknown.named.reverse }
    let paired := [field "name" "m", field "name" "n", field "class" "A", field "class" "B"]
    (∀ target, backwards.request target = unknown.request target) ∧
      unknown.request none = .error (.unknownField "aa".toList) ∧
      twice.request none = .error (.duplicateField 1 "class".toList) ∧
      twice.named.Perm paired ∧
      (∃ name, FirstRepeated (paired.map Prod.fst) name ∧
        (Misuse.duplicateField 1 name).field? = some name ∧
        ∀ target, { twice with named := paired }.request target =
          .error (.duplicateField 1 name)) ∧
      { twice with named := paired }.request none = .error (.duplicateField 1 "name".toList) := by
  intro field unknown twice backwards paired
  have hperm : twice.named.Perm paired := by decide
  obtain ⟨-, hsame, -⟩ := fields_in_another_order unknown (List.reverse_perm unknown.named).symm
  obtain ⟨-, -, hrefused⟩ := fields_in_another_order twice hperm
  exact ⟨hsame (by decide), by decide, by decide, hperm, hrefused (by decide), by decide⟩

end Manifest

end NativeLinkage
