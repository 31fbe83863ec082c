import Mathlib.Data.List.DropRight
import NativeLinkage.Text

set_option autoImplicit false

namespace NativeLinkage

section
variable {ε α β : Type} {x : Except ε α}

theorem exists_of_map_eq_ok {f : α → β} {b : β} (h : x.map f = .ok b) :
    ∃ a, x = .ok a ∧ f a = b := by
  cases x with
  | error e => contradiction
  | ok a => exact ⟨a, rfl, Except.ok.inj h⟩

theorem exists_of_bind_eq_ok {f : α → Except ε β} {b : β} (h : x >>= f = .ok b) :
    ∃ a, x = .ok a ∧ f a = .ok b := by
  cases x with
  | error e => contradiction
  | ok a => exact ⟨a, rfl, h⟩

theorem exists_of_bind_eq_error {f : α → Except ε β} {e : ε} (h : x >>= f = .error e) :
    x = .error e ∨ ∃ a, x = .ok a ∧ f a = .error e := by
  cases x with
  | error found => exact .inl (congrArg Except.error (Except.error.inj h))
  | ok a => exact .inr ⟨a, rfl, h⟩

end

namespace Text

section
variable {α : Type} {entries entries' : List (Text × α)} {label : Text} {value : α}

theorem lookup_eq_some_iff_mem (h : (entries.map Prod.fst).Nodup) :
    entries.lookup label = some value ↔ (label, value) ∈ entries := by
  induction entries with
  | nil => simp
  | cons entry entries ih =>
    obtain ⟨first, held⟩ := entry
    rw [List.map_cons, List.nodup_cons] at h
    rw [List.lookup_cons, List.mem_cons, Prod.mk.injEq]
    by_cases hfirst : label = first
    · subst hfirst
      have hlater : (label, value) ∉ entries := fun hmem => h.1 (List.mem_map.2 ⟨_, hmem, rfl⟩)
      simp [hlater, eq_comm]
    · rw [beq_false_of_ne hfirst]
      simp only [hfirst, false_and, false_or]
      exact ih h.2

theorem lookup_of_perm (hperm : entries.Perm entries') (h : (entries.map Prod.fst).Nodup)
    (label : Text) : entries.lookup label = entries'.lookup label := by
  have h' : (entries'.map Prod.fst).Nodup := (hperm.map Prod.fst).nodup_iff.1 h
  refine Option.ext fun value => ?_
  rw [lookup_eq_some_iff_mem h, lookup_eq_some_iff_mem h', hperm.mem_iff]

end

structure Trimmed (t : Text) : Prop where
  head : ∀ c ∈ t.head?, isBlank c = false
  last : ∀ c ∈ t.getLast?, isBlank c = false

variable {c : Char} {t : Text}

theorem trimLeft_eq_nil : trimLeft t = [] ↔ ∀ c ∈ t, isBlank c = true := List.dropWhile_eq_nil_iff

theorem trimRight_eq_nil : trimRight t = [] ↔ ∀ c ∈ t, isBlank c = true :=
  List.rdropWhile_eq_nil_iff

theorem trimRight_reverse (t : Text) : trimRight t.reverse = (trimLeft t).reverse := by
  rw [trimRight, List.reverse_reverse, trimLeft]

theorem head_trimLeft (t : Text) : ∀ c ∈ (trimLeft t).head?, isBlank c = false := by
  intro c hc
  have hfirst := List.head?_dropWhile_not isBlank t
  rw [← trimLeft, Option.mem_def.1 hc] at hfirst
  exact hfirst

theorem last_trimRight (t : Text) : ∀ c ∈ (trimRight t).getLast?, isBlank c = false := by
  have hfirst := head_trimLeft t.reverse
  rwa [← List.getLast?_reverse, ← trimRight_reverse, List.reverse_reverse] at hfirst

theorem trimLeft_of_head (h : ∀ c ∈ t.head?, isBlank c = false) : trimLeft t = t := by
  cases t with
  | nil => rfl
  | cons c t => exact List.dropWhile_cons_of_neg (Bool.eq_false_iff.1 (h c rfl))

theorem trimRight_of_last (h : ∀ c ∈ t.getLast?, isBlank c = false) : trimRight t = t := by
  rw [← List.head?_reverse] at h
  rw [← List.reverse_reverse t, trimRight_reverse, trimLeft_of_head h]

theorem trimLeft_append_cons (hc : isBlank c = false) (s t : Text) :
    trimLeft (s ++ c :: t) = trimLeft s ++ c :: t := by
  induction s with
  | nil => exact trimLeft_of_head (by rintro _ ⟨⟩; exact hc)
  | cons d s ih =>
    cases hd : isBlank d with
    | false => simp [trimLeft, hd]
    | true => simpa [trimLeft, hd] using ih

theorem trimRight_append_cons (hc : isBlank c = false) (s t : Text) :
    trimRight (s ++ c :: t) = s ++ c :: trimRight t := by
  have hmirror := congrArg List.reverse (trimLeft_append_cons hc t.reverse s.reverse)
  rw [← trimRight_reverse] at hmirror
  simpa [trimRight, trimLeft] using hmirror

theorem trim_eq_nil : trim t = [] ↔ ∀ c ∈ t, isBlank c = true := by
  rw [trim, trimRight_eq_nil, ← trimLeft_eq_nil (t := t)]
  refine ⟨fun h => ?_, fun h => ?_⟩
  · cases hfront : trimLeft t with
    | nil => rfl
    | cons c rest =>
      have hc : isBlank c = true := h c (by rw [hfront]; exact List.mem_cons_self)
      rw [head_trimLeft t c (by rw [hfront]; rfl)] at hc
      contradiction
  · rw [h]
    exact List.forall_mem_nil _

theorem trim_append_cons (hc : isBlank c = false) (s t : Text) :
    trim (s ++ c :: t) = trimLeft s ++ c :: trimRight t := by
  rw [trim, trimLeft_append_cons hc, trimRight_append_cons hc]

theorem exists_of_trim_ne_nil (h : trim t ≠ []) :
    ∃ before c after, isBlank c = false ∧ t = before ++ c :: after := by
  simp only [ne_eq, trim_eq_nil, not_forall] at h
  obtain ⟨c, hmem, hc⟩ := h
  obtain ⟨before, after, ht⟩ := List.append_of_mem hmem
  exact ⟨before, c, after, Bool.eq_false_iff.2 hc, ht⟩

theorem trimLeft_eq_nil_iff : trimLeft t = [] ↔ trim t = [] := by
  rw [trimLeft_eq_nil, trim_eq_nil]

theorem trimRight_eq_nil_iff : trimRight t = [] ↔ trim t = [] := by
  rw [trimRight_eq_nil, trim_eq_nil]

theorem mem_of_mem_trim (h : c ∈ trim t) : c ∈ t := by
  have hleft : c ∈ trimLeft t := (List.rdropWhile_prefix isBlank (trimLeft t)).subset h
  exact (List.dropWhile_sublist _).subset hleft

theorem Trimmed.trim_eq (h : Trimmed t) : trim t = t := by
  rw [trim, trimLeft_of_head h.head, trimRight_of_last h.last]

theorem trimmed_trim (t : Text) : Trimmed (trim t) := by
  refine ⟨fun d hd => ?_, last_trimRight (trimLeft t)⟩
  by_cases hnil : trim t = []
  · rw [hnil] at hd
    contradiction
  · obtain ⟨before, c, after, hc, rfl⟩ := exists_of_trim_ne_nil hnil
    apply head_trimLeft (before ++ c :: after)
    rw [trim_append_cons hc] at hd
    rw [trimLeft_append_cons hc]
    simpa [List.head?_append] using hd

theorem trim_trim (t : Text) : trim (trim t) = trim t := (trimmed_trim t).trim_eq

theorem trim_trimLeft (t : Text) : trim (trimLeft t) = trim t := by
  rw [trim, trimLeft_of_head (head_trimLeft t), trim]

theorem trim_trimRight (t : Text) : trim (trimRight t) = trim t := by
  by_cases hnil : trim t = []
  · rw [trimRight_eq_nil_iff.2 hnil, hnil]
    rfl
  · obtain ⟨before, c, after, hc, rfl⟩ := exists_of_trim_ne_nil hnil
    have htwice : trimRight (trimRight after) = trimRight after := List.rdropWhile_idempotent _ _
    rw [trimRight_append_cons hc, trim_append_cons hc, trim_append_cons hc, htwice]

theorem Trimmed.replace {old new : Char} (h : Trimmed t) (hnew : isBlank new = false) :
    Trimmed (replace old new t) := by
  have hreplaced {d : Char} (hd : isBlank d = false) :
      isBlank (if d = old then new else d) = false := by
    split
    · exact hnew
    · exact hd
  refine ⟨fun c hc => ?_, fun c hc => ?_⟩
  · rw [Text.replace, List.head?_map] at hc
    obtain ⟨d, hd, rfl⟩ := Option.map_eq_some_iff.1 hc
    exact hreplaced (h.head d hd)
  · rw [Text.replace, List.getLast?_map] at hc
    obtain ⟨d, hd, rfl⟩ := Option.map_eq_some_iff.1 hc
    exact hreplaced (h.last d hd)

end Text

end NativeLinkage
