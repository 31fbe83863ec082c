import NativeLinkage.Proofs.Basic
import NativeLinkage.Proofs.Descriptor.Inversion
import NativeLinkage.Session

set_option autoImplicit false

namespace NativeLinkage

namespace ExportTable

theorem outcome_eq_ok_iff {t : ExportTable} {r : Request} {stub : Stub} :
    t.outcome r = .ok stub ↔ r.stub = .ok stub ∧ t.exporter? stub.symbol = none := by
  unfold outcome
  cases hstub : r.stub with
  | error fault => simp
  | ok built =>
    cases htaken : t.exporter? built.symbol with
    | some first =>
      simp only [htaken, reduceCtorEq, Except.ok.injEq, false_iff, not_and]
      rintro rfl
      rw [htaken]
      exact Option.some_ne_none first
    | none =>
      simp only [htaken, Except.ok.injEq]
      constructor
      · rintro rfl
        exact ⟨rfl, htaken⟩
      · exact fun h => h.1

theorem outcome_eq_error_iff {t : ExportTable} {r : Request} {failure : Failure} :
    t.outcome r = .error failure ↔
      (∃ fault, r.stub = .error fault ∧ failure = .malformed fault) ∨
      ∃ stub first, r.stub = .ok stub ∧ t.exporter? stub.symbol = some first ∧
        failure = .misuse (.alreadyExported r.qualifiedName stub.symbol first) := by
  unfold outcome
  cases hstub : r.stub with
  | error fault => simp [eq_comm]
  | ok built =>
    cases htaken : t.exporter? built.symbol with
    | some first => simp [htaken, eq_comm]
    | none => simp [htaken]

theorem after_of_error {t : ExportTable} {r : Request} {failure : Failure}
    (h : t.outcome r = .error failure) : t.after r = t := by
  rw [after, h, record]

theorem after_of_ok {t : ExportTable} {r : Request} {stub : Stub} (h : t.outcome r = .ok stub) :
    t.after r = t.insert stub.symbol stub.qualifiedName := by
  rw [after, h, record, Request.qualifiedName_of_stub (outcome_eq_ok_iff.1 h).1]

theorem exporter?_eq_none_iff {t : ExportTable} {symbol : Text} :
    t.exporter? symbol = none ↔ symbol ∉ t.symbols := by
  rw [exporter?, List.lookup_eq_none_iff, symbols, List.mem_map]
  constructor
  · rintro h ⟨entry, hentry, rfl⟩
    have := h entry hentry
    simp at this
  · intro h entry hentry
    simp only [bne_iff_ne, ne_eq]
    rintro rfl
    exact h ⟨entry, hentry, rfl⟩

theorem exporter?_eq_some_iff {t : ExportTable} (h : t.symbols.Nodup) {symbol name : Text} :
    t.exporter? symbol = some name ↔ (symbol, name) ∈ t.entries :=
  Text.lookup_eq_some_iff_mem h

theorem mem_failures_batch {t : ExportTable} {rs : List Request} {r : Request} {failure : Failure}
    (h : (r, failure) ∈ (t.batch rs).failures) :
    ∃ before after, rs = before ++ r :: after ∧
      (t.afterAll before).outcome r = .error failure := by
  induction rs generalizing t with
  | nil => cases h
  | cons first rs ih =>
    rw [batch, outcomes, Batch.ofOutcomes, ← batch] at h
    have hlater (hmem : (r, failure) ∈ ((t.after first).batch rs).failures) :
        ∃ before after, first :: rs = before ++ r :: after ∧
          (t.afterAll before).outcome r = .error failure := by
      obtain ⟨before, after, rfl, hfailure⟩ := ih hmem
      exact ⟨first :: before, after, rfl, hfailure⟩
    cases hfirst : t.outcome first with
    | ok stub =>
      rw [hfirst] at h
      exact hlater h
    | error failure' =>
      rw [hfirst] at h
      rcases List.mem_cons.1 h with heq | hmem
      · cases heq
        exact ⟨[], rs, rfl, hfirst⟩
      · exact hlater hmem

end ExportTable

namespace Session

structure Consistent (s : Session) : Prop where
  nodup : (s.returned.map Stub.symbol).Nodup
  entries : s.table.entries = s.returned.map fun stub => (stub.symbol, stub.qualifiedName)

theorem consistent_start (baseName : Text) : (start baseName).Consistent :=
  ⟨List.nodup_nil, rfl⟩

theorem after_exportOne_of_error {s : Session} {r : Request} {failure : Failure}
    (h : s.table.outcome r = .error failure) : s.after (.exportOne r) = s := by
  simp [after, tableAfter, product, Product.stubs, h, ExportTable.after_of_error h]

theorem after_exportOne_of_ok {s : Session} {r : Request} {stub : Stub}
    (h : s.table.outcome r = .ok stub) :
    s.after (.exportOne r) =
      ⟨s.baseName, s.table.insert stub.symbol stub.qualifiedName, s.returned ++ [stub]⟩ := by
  simp [after, tableAfter, product, Product.stubs, h, ExportTable.after_of_ok h]

theorem after_header (s : Session) (selection : Selection) : s.after (.header selection) = s := by
  simp [after, tableAfter, product, Product.stubs]

theorem after_source (s : Session) (name : Text) (selection : Selection) :
    s.after (.source name selection) = s := by
  simp [after, tableAfter, product, Product.stubs]

theorem after_exportBatch_cons (s : Session) (r : Request) (rs : List Request) :
    s.after (.exportBatch (r :: rs)) = (s.after (.exportOne r)).after (.exportBatch rs) := by
  cases h : s.table.outcome r with
  | error failure =>
    simp [after, tableAfter, product, Product.stubs, h, ExportTable.batch, ExportTable.outcomes,
      ExportTable.afterAll, Batch.ofOutcomes, Batch.add]
  | ok stub =>
    simp [after, tableAfter, product, Product.stubs, h, ExportTable.batch, ExportTable.outcomes,
      ExportTable.afterAll, Batch.ofOutcomes, Batch.add]

theorem after_exportBatch (s : Session) (rs : List Request) :
    s.after (.exportBatch rs) = s.run (rs.map .exportOne) := by
  induction rs generalizing s with
  | nil =>
    simp [after, tableAfter, product, Product.stubs, run, ExportTable.batch, ExportTable.outcomes,
      ExportTable.afterAll, Batch.ofOutcomes, Batch.empty]
  | cons r rs ih =>
    rw [after_exportBatch_cons, ih]
    rfl

/-- What holds of the start of a run, and after each single export if it held before, holds at
    the end of the run. -/
theorem run_induction {p : Session → Prop}
    (hone : ∀ s r, p s → p (s.after (.exportOne r))) {s : Session} (h : p s)
    (actions : List Action) : p (s.run actions) := by
  have hones (rs : List Request) (s : Session) (h : p s) : p (s.run (rs.map .exportOne)) := by
    induction rs generalizing s with
    | nil => exact h
    | cons r rs ih => exact ih _ (hone s r h)
  induction actions generalizing s with
  | nil => exact h
  | cons a actions ih =>
    apply ih
    cases a with
    | exportOne r => exact hone s r h
    | exportBatch rs =>
      rw [after_exportBatch]
      exact hones rs s h
    | header selection => rwa [after_header]
    | source name selection => rwa [after_source]

theorem Consistent.symbols {s : Session} (h : s.Consistent) :
    s.table.symbols = s.returned.map Stub.symbol := by
  rw [ExportTable.symbols, h.entries, List.map_map]
  rfl

theorem Consistent.exporter?_eq_some_iff {s : Session} (h : s.Consistent) {symbol name : Text} :
    s.table.exporter? symbol = some name ↔
      ∃ stub ∈ s.returned, stub.symbol = symbol ∧ stub.qualifiedName = name := by
  have hnodup : s.table.symbols.Nodup := by
    rw [h.symbols]
    exact h.nodup
  rw [ExportTable.exporter?_eq_some_iff hnodup, h.entries, List.mem_map]
  simp only [Prod.mk.injEq]

theorem Consistent.after_exportOne {s : Session} (h : s.Consistent) (r : Request) :
    (s.after (.exportOne r)).Consistent := by
  cases hout : s.table.outcome r with
  | error failure => rwa [after_exportOne_of_error hout]
  | ok stub =>
    have hfree := (ExportTable.outcome_eq_ok_iff.1 hout).2
    rw [ExportTable.exporter?_eq_none_iff, h.symbols] at hfree
    rw [after_exportOne_of_ok hout]
    constructor
    · rw [List.map_append, List.nodup_append]
      refine ⟨h.nodup, List.pairwise_singleton _ _, ?_⟩
      intro symbol hsymbol other hother heq
      rw [List.map_singleton, List.mem_singleton] at hother
      exact hfree (hother ▸ heq ▸ hsymbol)
    · rw [ExportTable.insert, h.entries, List.map_append]
      rfl

theorem consistent_run (baseName : Text) (actions : List Action) :
    ((start baseName).run actions).Consistent :=
  run_induction (fun _ r h => h.after_exportOne r) (consistent_start baseName) actions

theorem returned_prefix_run (s : Session) (actions : List Action) :
    s.returned <+: (s.run actions).returned := by
  apply run_induction (p := fun later => s.returned <+: later.returned)
  · intro later r h
    exact h.trans (List.prefix_append _ _)
  · exact List.prefix_rfl

theorem exporter?_run {s : Session} (h : s.Consistent) (actions : List Action)
    {symbol name : Text} (hname : s.table.exporter? symbol = some name) :
    (s.run actions).table.exporter? symbol = some name := by
  have hlater : (s.run actions).Consistent := run_induction (fun _ r h => h.after_exportOne r) h _
  obtain ⟨stub, hstub, hsymbol, hqualified⟩ := h.exporter?_eq_some_iff.1 hname
  have hkept := (s.returned_prefix_run actions).subset hstub
  exact hlater.exporter?_eq_some_iff.2 ⟨stub, hkept, hsymbol, hqualified⟩

theorem table_after_run_map_exportOne (s : Session) (rs : List Request) :
    (s.run (rs.map .exportOne)).table = s.table.afterAll rs := by
  rw [← after_exportBatch]
  rfl

/-- At any point of any run: the returned stubs have different symbols, which the table maps to
    their methods; what the table says of a symbol stays; a batch acts as its requests one after
    the other; and a failure, of a malformed descriptor or of a taken symbol, changes nothing and
    in the second case names the method of the stub that has the symbol. -/
theorem table_lists_returned_stubs (baseName : Text) (actions : List Action) :
    let s := (start baseName).run actions
    (s.returned.map Stub.symbol).Nodup ∧
    s.table.symbols = s.returned.map Stub.symbol ∧
    (∀ symbol name, s.table.exporter? symbol = some name ↔
      ∃ stub ∈ s.returned, stub.symbol = symbol ∧ stub.qualifiedName = name) ∧
    (∀ (more : List Action) (symbol name : Text), s.table.exporter? symbol = some name →
      (s.run more).table.exporter? symbol = some name) ∧
    (∀ rs : List Request, s.after (.exportBatch rs) = s.run (rs.map .exportOne) ∧
      ∀ r failure, (r, failure) ∈ (s.table.batch rs).failures →
        ∃ before after, rs = before ++ r :: after ∧
          (s.run (before.map .exportOne)).table.outcome r = .error failure) ∧
    ∀ (r : Request) (failure : Failure), s.table.outcome r = .error failure →
      s.after (.exportOne r) = s ∧
      ((∃ fault, MethodType.read r.descriptor = .error fault ∧ failure = .malformed fault) ∨
        ∃ stub, r.stub = .ok stub ∧ ∃ first ∈ s.returned, first.symbol = stub.symbol ∧
          failure = .misuse
            (.alreadyExported r.qualifiedName stub.symbol first.qualifiedName)) := by
  intro s
  have hs : s.Consistent := consistent_run baseName actions
  refine ⟨hs.nodup, hs.symbols, fun symbol name => hs.exporter?_eq_some_iff,
    fun more symbol name hname => exporter?_run hs more hname, fun rs => ⟨?_, ?_⟩, ?_⟩
  · exact s.after_exportBatch rs
  · intro r failure h
    obtain ⟨before, after, hrs, hfailure⟩ := ExportTable.mem_failures_batch h
    refine ⟨before, after, hrs, ?_⟩
    rwa [table_after_run_map_exportOne]
  · intro r failure h
    refine ⟨after_exportOne_of_error h, ?_⟩
    rcases ExportTable.outcome_eq_error_iff.1 h with
      ⟨fault, hfault, rfl⟩ | ⟨stub, name, hstub, hname, rfl⟩
    · exact .inl ⟨fault, Request.stub_eq_error_iff.1 hfault, rfl⟩
    · obtain ⟨first, hfirst, hsymbol, rfl⟩ := hs.exporter?_eq_some_iff.1 hname
      exact .inr ⟨stub, hstub, first, hfirst, hsymbol, rfl⟩

/-- The second of two methods with one symbol is refused, alone and in a batch, and what the first
    one entered is still there after it. -/
theorem second_export_of_symbol_refused :
    let r : Request := ⟨"a/B".toList, "m".toList, "()".toList, "f".toList⟩
    let r' : Request := ⟨"a/B".toList, "m".toList, "()I".toList, "g".toList⟩
    let failure : Failure := .misuse (.alreadyExported "a.B.m".toList "Java_a_B_m__".toList
      "a.B.m".toList)
    let s := (start []).run [.exportBatch [r]]
    s.table.outcome r' = .error failure ∧ s.after (.exportOne r') = s ∧
      (∃ before after, [r'] = before ++ r' :: after ∧
        (s.run (before.map .exportOne)).table.outcome r' = .error failure) ∧
      (s.run [.exportOne r']).table.exporter? "Java_a_B_m__".toList = some "a.B.m".toList := by
  intro r r' failure s
  have hr : r.stub = .ok (r.stubOfType ⟨[], none⟩) :=
    Request.stub_eq_ok_iff.2 ⟨_, MethodType.read_eq_ok_iff.2 (.inr (by decide)), rfl⟩
  have hr' : r'.stub = .ok (r'.stubOfType ⟨[], some (.base .int)⟩) :=
    Request.stub_eq_ok_iff.2 ⟨_, MethodType.read_eq_ok_iff.2 (.inl (by decide)), rfl⟩
  have htable : s.table = ⟨[("Java_a_B_m__".toList, "a.B.m".toList)]⟩ := by
    change ExportTable.empty.after r = _
    rw [ExportTable.after_of_ok (ExportTable.outcome_eq_ok_iff.2 ⟨hr, rfl⟩)]
    decide
  have houtcome : s.table.outcome r' = .error failure := by
    rw [htable]
    exact ExportTable.outcome_eq_error_iff.2
      (.inr ⟨_, "a.B.m".toList, hr', by decide, by decide⟩)
  have hmem : (r', failure) ∈ (s.table.batch [r']).failures := by
    rw [ExportTable.batch, ExportTable.outcomes, houtcome]
    exact List.mem_cons_self
  have htaken : s.table.exporter? "Java_a_B_m__".toList = some "a.B.m".toList := by
    rw [htable]
    decide
  obtain ⟨-, -, -, hkept, hbatch, hfailed⟩ := table_lists_returned_stubs [] [.exportBatch [r]]
  exact ⟨houtcome, (hfailed r' failure houtcome).1, (hbatch [r']).2 r' failure hmem,
    hkept [.exportOne r'] _ _ htaken⟩

end Session

end NativeLinkage
