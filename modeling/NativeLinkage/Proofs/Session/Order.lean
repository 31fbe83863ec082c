import Mathlib.Data.List.Perm.Basic
import NativeLinkage.Proofs.Session.Batch

set_option autoImplicit false

namespace NativeLinkage

/-- Both descriptors are well formed, and both methods have the same symbol. -/
def Request.Clashes (r r' : Request) : Prop :=
  ∃ s s', r.stub = .ok s ∧ r'.stub = .ok s' ∧ s.symbol = s'.symbol

instance (r r' : Request) : Decidable (r.Clashes r') :=
  decidable_of_iff (∃ s ∈ r.stub.toOption, ∃ s' ∈ r'.stub.toOption, s.symbol = s'.symbol) <| by
    unfold Request.Clashes
    cases r.stub <;> cases r'.stub <;> simp [Except.toOption]

theorem Request.Clashes.symm {r r' : Request} (h : r.Clashes r') : r'.Clashes r := by
  obtain ⟨s, s', hs, hs', hsymbol⟩ := h
  exact ⟨s', s, hs', hs, hsymbol.symm⟩

namespace ExportTable

variable {t : ExportTable} {rs ss : List Request} {r r' : Request} {symbol : Text}

/-- A request takes its symbol, or finds it taken. -/
theorem mem_symbols_after :
    symbol ∈ (t.after r).symbols ↔
      symbol ∈ t.symbols ∨ ∃ s, r.stub = .ok s ∧ s.symbol = symbol := by
  cases h : t.outcome r with
  | ok stub =>
    have hstub := (outcome_eq_ok_iff.1 h).1
    rw [after_of_ok h, symbols_insert, List.mem_append, List.mem_singleton, hstub]
    simp [eq_comm]
  | error failure =>
    rw [after_of_error h]
    rcases outcome_eq_error_iff.1 h with ⟨fault, hfault, -⟩ | ⟨stub, first, hstub, hfirst, -⟩
    · simp [hfault]
    · have htaken : stub.symbol ∈ t.symbols := by
        by_contra hfree
        rw [exporter?_eq_none_iff.2 hfree] at hfirst
        contradiction
      rw [hstub]
      constructor
      · exact .inl
      · rintro (hmem | ⟨s, hs, rfl⟩)
        · exact hmem
        · cases hs
          exact htaken

theorem mem_symbols_afterAll :
    symbol ∈ (t.afterAll rs).symbols ↔
      symbol ∈ t.symbols ∨ ∃ r ∈ rs, ∃ s, r.stub = .ok s ∧ s.symbol = symbol := by
  induction rs generalizing t with
  | nil => simp [afterAll]
  | cons r rs ih =>
    change symbol ∈ ((t.after r).afterAll rs).symbols ↔ _
    rw [ih, mem_symbols_after, or_assoc]
    simp only [List.mem_cons, exists_eq_or_imp]

theorem nodup_symbols_batch (t : ExportTable) (rs : List Request) :
    ((t.batch rs).stubs.map Stub.symbol).Nodup ∧
      ∀ s ∈ (t.batch rs).stubs, s.symbol ∉ t.symbols := by
  induction rs generalizing t with
  | nil => exact ⟨List.nodup_nil, List.forall_mem_nil _⟩
  | cons r rs ih =>
    obtain ⟨hnodup, hfresh⟩ := ih (t.after r)
    have hkept : ∀ s ∈ ((t.after r).batch rs).stubs, s.symbol ∉ t.symbols :=
      fun s hs hmem => hfresh s hs (mem_symbols_after.2 (.inl hmem))
    rw [batch, outcomes, Batch.ofOutcomes, ← batch]
    cases h : t.outcome r with
    | error failure => exact ⟨hnodup, hkept⟩
    | ok stub =>
      obtain ⟨hstub, hfree⟩ := outcome_eq_ok_iff.1 h
      refine ⟨List.nodup_cons.2 ⟨?_, hnodup⟩, List.forall_mem_cons.2 ⟨?_, hkept⟩⟩
      · intro hmem
        obtain ⟨s, hs, hsymbol⟩ := List.mem_map.1 hmem
        exact hfresh s hs (mem_symbols_after.2 (.inr ⟨stub, hstub, hsymbol.symm⟩))
      · exact exporter?_eq_none_iff.1 hfree

theorem mem_symbols_batch :
    symbol ∈ (t.batch rs).stubs.map Stub.symbol ↔
      symbol ∉ t.symbols ∧ ∃ r ∈ rs, ∃ s, r.stub = .ok s ∧ s.symbol = symbol := by
  have hall : symbol ∈ (t.afterAll rs).symbols ↔ _ := mem_symbols_afterAll
  rw [symbols_afterAll, List.mem_append] at hall
  constructor
  · intro hmem
    obtain ⟨s, hs, rfl⟩ := List.mem_map.1 hmem
    have hfree := (nodup_symbols_batch t rs).2 s hs
    exact ⟨hfree, (hall.1 (.inr hmem)).resolve_left hfree⟩
  · rintro ⟨hfree, hbuilt⟩
    exact (hall.2 (.inr hbuilt)).resolve_left hfree

theorem symbols_batch_of_perm (h : rs.Perm ss) :
    ((t.batch rs).stubs.map Stub.symbol).Perm ((t.batch ss).stubs.map Stub.symbol) := by
  rw [List.perm_ext_iff_of_nodup (nodup_symbols_batch t rs).1 (nodup_symbols_batch t ss).1]
  intro symbol
  simp only [mem_symbols_batch, h.mem_iff]

theorem length_stubs_add_length_failures (t : ExportTable) (rs : List Request) :
    (t.batch rs).stubs.length + (t.batch rs).failures.length = rs.length := by
  rw [batch, Batch.length_ofOutcomes, ← List.length_map Prod.fst, outcomes_map_fst]

theorem exporter?_insert_of_ne {taken : Text} (h : symbol ≠ taken) (name : Text) :
    (t.insert taken name).exporter? symbol = t.exporter? symbol := by
  rw [exporter?, insert, List.lookup_append, List.lookup_cons, beq_false_of_ne h, List.lookup_nil,
    Option.or_none]
  rfl

theorem outcome_after_of_not_clashes (h : ¬ r.Clashes r') :
    (t.after r).outcome r' = t.outcome r' := by
  cases hr : t.outcome r with
  | error failure => rw [after_of_error hr]
  | ok stub =>
    rw [after_of_ok hr, outcome, outcome]
    cases hr' : r'.stub with
    | error fault => rfl
    | ok stub' =>
      have hne : stub'.symbol ≠ stub.symbol := fun hsymbol =>
        h ⟨stub, stub', (outcome_eq_ok_iff.1 hr).1, hr', hsymbol.symm⟩
      simp only [exporter?_insert_of_ne hne]

/-- Requests that do not clash are exported as if each of them were the only one. -/
theorem outcomes_eq_map (h : rs.Pairwise fun r r' => ¬ r.Clashes r') :
    t.outcomes rs = rs.map fun r => (r, t.outcome r) := by
  induction rs generalizing t with
  | nil => rfl
  | cons r rs ih =>
    obtain ⟨hfirst, hrest⟩ := List.pairwise_cons.1 h
    rw [outcomes, ih hrest, List.map_cons]
    congr 1
    refine List.map_congr_left fun r' hr' => ?_
    rw [outcome_after_of_not_clashes (hfirst r' hr')]

theorem pairwise_not_clashes_of_perm (hperm : rs.Perm ss)
    (h : rs.Pairwise fun r r' => ¬ r.Clashes r') : ss.Pairwise fun r r' => ¬ r.Clashes r' :=
  (hperm.pairwise_iff fun hab hba => hab hba.symm).1 h

theorem outcomes_of_perm (hperm : rs.Perm ss) (h : rs.Pairwise fun r r' => ¬ r.Clashes r') :
    (t.outcomes rs).Perm (t.outcomes ss) := by
  rw [outcomes_eq_map h, outcomes_eq_map (pairwise_not_clashes_of_perm hperm h)]
  exact hperm.map _

/-- A batch in another order: the same symbols are taken, the stubs have the same symbols, and as
    many requests fail. If no two requests clash, the stubs and the failures are the same too. -/
theorem batch_in_another_order (t : ExportTable) {rs ss : List Request} (h : rs.Perm ss) :
    (t.afterAll rs).symbols.Perm (t.afterAll ss).symbols ∧
    ((t.batch rs).stubs.map Stub.symbol).Perm ((t.batch ss).stubs.map Stub.symbol) ∧
    (t.batch rs).failures.length = (t.batch ss).failures.length ∧
    ((rs.Pairwise fun r r' => ¬ r.Clashes r') →
      (t.batch rs).stubs.Perm (t.batch ss).stubs ∧
      (t.batch rs).failures.Perm (t.batch ss).failures) := by
  have hsymbols := symbols_batch_of_perm (t := t) h
  refine ⟨?_, hsymbols, ?_, ?_⟩
  · rw [symbols_afterAll, symbols_afterAll]
    exact hsymbols.append_left _
  · have hstubs := hsymbols.length_eq
    rw [List.length_map, List.length_map] at hstubs
    have hrs := length_stubs_add_length_failures t rs
    have hss := length_stubs_add_length_failures t ss
    have hlength := h.length_eq
    omega
  · intro hclash
    have houtcomes := outcomes_of_perm (t := t) h hclash
    simp only [batch, stubs_ofOutcomes, failures_ofOutcomes]
    exact ⟨houtcomes.filterMap _, houtcomes.filterMap _⟩

/-- Two requests clash and a third is malformed. Backwards the other one of the two is exported, but
    under the same symbol, and again two requests fail; without it the stubs are the same. -/
theorem reversed_batch_takes_same_symbols :
    let first : Request := ⟨"a/B".toList, "n".toList, "()".toList, "f".toList⟩
    let malformed : Request := ⟨"a/B".toList, "m".toList, "(*".toList, "f".toList⟩
    let second : Request := ⟨"a/B".toList, "n".toList, "()I".toList, "g".toList⟩
    let other : Request := ⟨"a/B".toList, "n".toList, "(I)".toList, "g".toList⟩
    let all := [first, malformed, second, other]
    let apart := [first, malformed, other]
    ((empty.batch all).stubs.map Stub.symbol).Perm
        ((empty.batch all.reverse).stubs.map Stub.symbol) ∧
      (empty.batch all).failures.length = 2 ∧ (empty.batch all.reverse).failures.length = 2 ∧
      ¬ (empty.batch all).stubs.Perm (empty.batch all.reverse).stubs ∧
      (empty.batch apart).stubs.length = 2 ∧
      (empty.batch apart).stubs.Perm (empty.batch apart.reverse).stubs ∧
      (empty.batch apart).failures.Perm (empty.batch apart.reverse).failures := by
  intro first malformed second other all apart
  obtain ⟨-, hsymbols, hfailures, -⟩ :=
    batch_in_another_order empty (List.reverse_perm all).symm
  obtain ⟨-, -, -, hsame⟩ := batch_in_another_order empty (List.reverse_perm apart).symm
  have htwo : (empty.batch all).failures.length = 2 := by decide +kernel
  have hapart : apart.Pairwise fun r r' => ¬ r.Clashes r' := by decide +kernel
  obtain ⟨hstubs, hfaults⟩ := hsame hapart
  refine ⟨hsymbols, htwo, hfailures ▸ htwo, ?_, ?_, hstubs, hfaults⟩
  · decide +kernel
  · decide +kernel

end ExportTable

end NativeLinkage
