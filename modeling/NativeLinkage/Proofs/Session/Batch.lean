import NativeLinkage.Proofs.Descriptor.Construction
import NativeLinkage.Proofs.Session.Table

set_option autoImplicit false

namespace NativeLinkage
open Descriptor

namespace ExportTable

/-- The outcome of a request whose types are built by checked construction. A description that is
    refused leaves no outcome at all. -/
def attempt (t : ExportTable) (r : Request) : Except TypeSpec Outcome :=
  (buildMethod r.descriptor).map fun reading =>
    match reading with
    | .fault reason spot _ => .error (.malformed (Fault.at r.descriptor reason spot))
    | .ok type _ =>
      match t.exporter? (r.symbol type) with
      | some first => .error (.misuse (.alreadyExported r.qualifiedName (r.symbol type) first))
      | none => .ok (r.stubOfType type)

/-- The outcomes of a batch, unless a refused description ends it early. Nothing else could: the
    encoding that mangling goes by refuses no code point, not even a surrogate that stands alone, so
    that a symbol needs no outcome of its own. -/
def attempts : ExportTable → List Request → Except TypeSpec (List (Request × Outcome))
  | _, [] => .ok []
  | t, r :: rs => do
    let outcome ← t.attempt r
    let rest ← attempts (t.record r outcome) rs
    return (r, outcome) :: rest

theorem attempt_eq (t : ExportTable) (r : Request) : t.attempt r = .ok (t.outcome r) := by
  rw [attempt, buildMethod_eq, outcome, Request.stub, MethodType.read]
  cases readMethod r.descriptor with
  | ok type rest => rfl
  | fault reason spot rest => rfl

theorem attempts_eq (t : ExportTable) (rs : List Request) :
    t.attempts rs = .ok (t.outcomes rs) := by
  induction rs generalizing t with
  | nil => rfl
  | cons r rs ih =>
    rw [attempts, attempt_eq]
    change (attempts (t.after r) rs).bind _ = _
    rw [ih]
    rfl

def stub? : Request × Outcome → Option Stub
  | (_, .ok stub) => some stub
  | (_, .error _) => none

def failure? : Request × Outcome → Option (Request × Failure)
  | (_, .ok _) => none
  | (r, .error failure) => some (r, failure)

theorem stubs_ofOutcomes (outcomes : List (Request × Outcome)) :
    (Batch.ofOutcomes outcomes).stubs = outcomes.filterMap stub? := by
  induction outcomes with
  | nil => rfl
  | cons first outcomes ih =>
    obtain ⟨r, outcome⟩ := first
    cases outcome with
    | error failure => exact ih
    | ok stub => exact congrArg (stub :: ·) ih

theorem failures_ofOutcomes (outcomes : List (Request × Outcome)) :
    (Batch.ofOutcomes outcomes).failures = outcomes.filterMap failure? := by
  induction outcomes with
  | nil => rfl
  | cons first outcomes ih =>
    obtain ⟨r, outcome⟩ := first
    cases outcome with
    | error failure => exact congrArg ((r, failure) :: ·) ih
    | ok stub => exact ih

theorem stubs_batch_append (t : ExportTable) (rs ss : List Request) :
    (t.batch (rs ++ ss)).stubs = (t.batch rs).stubs ++ ((t.afterAll rs).batch ss).stubs := by
  simp only [batch, stubs_ofOutcomes, outcomes_append, List.filterMap_append]

theorem failures_batch_append (t : ExportTable) (rs ss : List Request) :
    (t.batch (rs ++ ss)).failures =
      (t.batch rs).failures ++ ((t.afterAll rs).batch ss).failures := by
  simp only [batch, failures_ofOutcomes, outcomes_append, List.filterMap_append]

theorem symbols_after (t : ExportTable) (r : Request) :
    (t.after r).symbols = t.symbols ++ (t.batch [r]).stubs.map Stub.symbol := by
  rw [batch, stubs_ofOutcomes, outcomes]
  cases h : t.outcome r with
  | error failure =>
    rw [after_of_error h]
    exact (List.append_nil _).symm
  | ok stub =>
    rw [after_of_ok h, symbols_insert]
    rfl

theorem symbols_afterAll (t : ExportTable) (rs : List Request) :
    (t.afterAll rs).symbols = t.symbols ++ (t.batch rs).stubs.map Stub.symbol := by
  induction rs generalizing t with
  | nil => exact (List.append_nil _).symm
  | cons r rs ih =>
    change ((t.after r).afterAll rs).symbols = _
    rw [ih, symbols_after, List.append_assoc, ← List.map_append]
    exact congrArg (fun stubs => _ ++ stubs.map Stub.symbol) (stubs_batch_append t [r] rs).symm

theorem outcomes_take (t : ExportTable) (rs : List Request) (i : Nat) :
    t.outcomes (rs.take i) = (t.outcomes rs).take i := by
  induction rs generalizing t i with
  | nil => simp [outcomes]
  | cons r rs ih =>
    cases i with
    | zero => rfl
    | succ i => rw [List.take_succ_cons, outcomes, outcomes, List.take_succ_cons, ih]

theorem getElem?_outcomes (t : ExportTable) (rs : List Request) (i : Nat) :
    (t.outcomes rs)[i]? = rs[i]?.map fun r => (r, (t.afterAll (rs.take i)).outcome r) := by
  induction rs generalizing t i with
  | nil => rfl
  | cons r rs ih =>
    cases i with
    | zero => rfl
    | succ i => exact ih (t.after r) i

/-- The symbol is not free for request `i` of the batch: it is in the table, or an earlier request
    of the batch has taken it. -/
def TakenBefore (t : ExportTable) (rs : List Request) (i : Nat) (symbol : Text) : Prop :=
  symbol ∈ t.symbols ∨
    ∃ j < i, ∃ r stub, (t.outcomes rs)[j]? = some (r, .ok stub) ∧ stub.symbol = symbol

theorem takenBefore_iff {t : ExportTable} {rs : List Request} {i : Nat} {symbol : Text} :
    t.TakenBefore rs i symbol ↔ symbol ∈ (t.afterAll (rs.take i)).symbols := by
  rw [TakenBefore, symbols_afterAll, batch, stubs_ofOutcomes, outcomes_take, List.mem_append]
  apply or_congr_right
  constructor
  · rintro ⟨j, hj, r, stub, hget, rfl⟩
    have hmem : (r, .ok stub) ∈ (t.outcomes rs).take i :=
      List.mem_iff_getElem?.2 ⟨j, by rw [List.getElem?_take_of_lt hj, hget]⟩
    exact List.mem_map_of_mem (List.mem_filterMap.2 ⟨_, hmem, rfl⟩)
  · intro hmem
    obtain ⟨stub, hstub, rfl⟩ := List.mem_map.1 hmem
    obtain ⟨⟨r, outcome⟩, htake, hok⟩ := List.mem_filterMap.1 hstub
    obtain ⟨j, hget⟩ := List.mem_iff_getElem?.1 htake
    have hj : j < i := by
      have := (List.getElem?_eq_some_iff.1 hget).1
      rw [List.length_take] at this
      omega
    rw [List.getElem?_take_of_lt hj] at hget
    cases outcome with
    | error failure => contradiction
    | ok found =>
      cases hok
      exact ⟨j, hj, r, stub, hget, rfl⟩

theorem exporter?_eq_none_iff_not_takenBefore {t : ExportTable} {rs : List Request} {i : Nat}
    {symbol : Text} :
    (t.afterAll (rs.take i)).exporter? symbol = none ↔ ¬ t.TakenBefore rs i symbol := by
  rw [exporter?_eq_none_iff, takenBefore_iff]

section
variable {t : ExportTable} {rs : List Request} {i : Nat} {r : Request} {outcome : Outcome}

theorem outcome_of_getElem? (h : (t.outcomes rs)[i]? = some (r, outcome)) :
    (t.afterAll (rs.take i)).outcome r = outcome := by
  rw [getElem?_outcomes] at h
  obtain ⟨found, -, heq⟩ := Option.map_eq_some_iff.1 h
  cases heq
  rfl

theorem eq_ok_iff_of_getElem? (h : (t.outcomes rs)[i]? = some (r, outcome)) {stub : Stub} :
    outcome = .ok stub ↔ r.stub = .ok stub ∧ ¬ t.TakenBefore rs i stub.symbol := by
  rw [← outcome_of_getElem? h, outcome_eq_ok_iff, exporter?_eq_none_iff_not_takenBefore]

theorem eq_error_iff_of_getElem? (h : (t.outcomes rs)[i]? = some (r, outcome))
    {failure : Failure} :
    outcome = .error failure ↔
      (∃ fault, MethodType.read r.descriptor = .error fault ∧ failure = .malformed fault) ∨
      ∃ stub first, r.stub = .ok stub ∧ t.TakenBefore rs i stub.symbol ∧
        (t.afterAll (rs.take i)).exporter? stub.symbol = some first ∧
        failure = .misuse (.alreadyExported r.qualifiedName stub.symbol first) := by
  rw [← outcome_of_getElem? h, outcome_eq_error_iff]
  simp only [Request.stub_eq_error_iff]
  apply or_congr_right
  constructor
  · rintro ⟨stub, first, hstub, hfirst, rfl⟩
    refine ⟨stub, first, hstub, ?_, hfirst, rfl⟩
    by_contra hfree
    rw [exporter?_eq_none_iff_not_takenBefore.2 hfree] at hfirst
    contradiction
  · rintro ⟨stub, first, hstub, -, hfirst, rfl⟩
    exact ⟨stub, first, hstub, hfirst, rfl⟩

end

theorem exists_request_of_mem_stubs {t : ExportTable} {rs : List Request} {stub : Stub}
    (h : stub ∈ (t.batch rs).stubs) : ∃ r ∈ rs, r.stub = .ok stub := by
  rw [batch, stubs_ofOutcomes] at h
  obtain ⟨⟨r, outcome⟩, hmem, hstub⟩ := List.mem_filterMap.1 h
  cases outcome with
  | error failure => contradiction
  | ok found =>
    cases hstub
    obtain ⟨i, hget⟩ := List.mem_iff_getElem?.1 hmem
    have hr : r ∈ (t.outcomes rs).map Prod.fst := List.mem_map_of_mem hmem
    rw [outcomes_map_fst] at hr
    exact ⟨r, hr, ((eq_ok_iff_of_getElem? hget).1 rfl).1⟩

/-- A batch always ends, since no description of a type is ever refused on the way. Every request
    is in the stubs or in the failures, both in the order of the requests. It fails exactly if its
    descriptor is malformed or its symbol is taken before it, and succeeds with the stub that it
    has on its own. A batch can be cut in two anywhere. -/
theorem batch_isolates_failures (t : ExportTable) (rs : List Request) :
    t.attempts rs = .ok (t.outcomes rs) ∧
    (t.outcomes rs).map Prod.fst = rs ∧
    (t.batch rs).stubs = (t.outcomes rs).filterMap stub? ∧
    (t.batch rs).failures = (t.outcomes rs).filterMap failure? ∧
    (∀ (i : Nat) (r : Request) (outcome : Outcome), (t.outcomes rs)[i]? = some (r, outcome) →
      (∀ stub, outcome = .ok stub ↔ r.stub = .ok stub ∧ ¬ t.TakenBefore rs i stub.symbol) ∧
      ∀ failure, outcome = .error failure ↔
        (∃ fault, MethodType.read r.descriptor = .error fault ∧ failure = .malformed fault) ∨
        ∃ stub misuse, r.stub = .ok stub ∧ t.TakenBefore rs i stub.symbol ∧
          failure = .misuse misuse ∧ misuse.field? = some "name".toList ∧
          ∃ first, (t.afterAll (rs.take i)).exporter? stub.symbol = some first ∧
            misuse = .alreadyExported r.qualifiedName stub.symbol first) ∧
    ∀ ss : List Request,
      (t.batch (rs ++ ss)).stubs = (t.batch rs).stubs ++ ((t.afterAll rs).batch ss).stubs ∧
      (t.batch (rs ++ ss)).failures =
        (t.batch rs).failures ++ ((t.afterAll rs).batch ss).failures ∧
      t.afterAll (rs ++ ss) = (t.afterAll rs).afterAll ss := by
  refine ⟨t.attempts_eq rs, t.outcomes_map_fst rs, stubs_ofOutcomes _, failures_ofOutcomes _, ?_,
    fun ss => ⟨t.stubs_batch_append rs ss, t.failures_batch_append rs ss, t.afterAll_append rs ss⟩⟩
  intro i r outcome hget
  refine ⟨fun stub => eq_ok_iff_of_getElem? hget, fun failure => ?_⟩
  rw [eq_error_iff_of_getElem? hget]
  apply or_congr_right
  constructor
  · rintro ⟨stub, first, hstub, htaken, hfirst, rfl⟩
    exact ⟨stub, _, hstub, htaken, rfl, rfl, first, hfirst, rfl⟩
  · rintro ⟨stub, misuse, hstub, htaken, rfl, -, first, hfirst, rfl⟩
    exact ⟨stub, first, hstub, htaken, hfirst, rfl⟩

/-- Of two requests of a batch for one symbol the first succeeds and the second fails, whatever
    failed before them. -/
theorem second_request_of_batch_for_symbol_fails :
    let first : Request := ⟨"a/B".toList, "n".toList, "()".toList, "f".toList⟩
    let second : Request := ⟨"a/B".toList, "n".toList, "()I".toList, "g".toList⟩
    let rs := [⟨"a/B".toList, "m".toList, "()".toList, "f".toList⟩,
      ⟨"a/B".toList, "n".toList, "(*".toList, "f".toList⟩, first, second]
    let t : ExportTable := ⟨[("Java_a_B_m__".toList, "a.B.m".toList)]⟩
    (t.outcomes rs)[2]? = some (first, .ok (first.stubOfType ⟨[], none⟩)) ∧
      ¬ t.TakenBefore rs 2 "Java_a_B_n__".toList ∧
      (t.outcomes rs)[3]? = some (second, .error (.misuse (.alreadyExported "a.B.n".toList
        "Java_a_B_n__".toList "a.B.n".toList))) ∧
      ∃ stub, second.stub = .ok stub ∧ t.TakenBefore rs 3 stub.symbol := by
  intro first second rs t
  obtain ⟨-, -, -, -, hrequest, -⟩ := batch_isolates_failures t rs
  have hfirst : (t.outcomes rs)[2]? = some (first, .ok (first.stubOfType ⟨[], none⟩)) := by
    decide +kernel
  have hsecond : (t.outcomes rs)[3]? = some (second, .error (.misuse (.alreadyExported
    "a.B.n".toList "Java_a_B_n__".toList "a.B.n".toList))) := by decide +kernel
  refine ⟨hfirst, (((hrequest 2 _ _ hfirst).1 _).1 rfl).2, hsecond, ?_⟩
  rcases ((hrequest 3 _ _ hsecond).2 _).1 rfl with
    ⟨fault, -, heq⟩ | ⟨stub, misuse, hstub, htaken, -⟩
  · contradiction
  · exact ⟨stub, hstub, htaken⟩

end ExportTable

namespace Session

def Action.requests : Action → List Request
  | exportOne r => [r]
  | exportBatch rs => rs
  | header _ | source .. => []

theorem exists_request_of_mem_product {s : Session} {a : Action} {stub : Stub}
    (h : stub ∈ (s.product a).stubs) : ∃ r ∈ a.requests, r.stub = .ok stub := by
  cases a with
  | exportOne r =>
    rw [product] at h
    cases hout : s.table.outcome r with
    | error failure =>
      rw [hout] at h
      contradiction
    | ok found =>
      rw [hout] at h
      obtain rfl := List.mem_singleton.1 h
      exact ⟨r, List.mem_cons_self, (ExportTable.outcome_eq_ok_iff.1 hout).1⟩
  | exportBatch rs => exact ExportTable.exists_request_of_mem_stubs h
  | header selection => contradiction
  | source name selection => contradiction

theorem exists_request_of_mem_returned {s : Session} {actions : List Action} {stub : Stub}
    (h : stub ∈ (s.run actions).returned) :
    stub ∈ s.returned ∨ ∃ r ∈ actions.flatMap Action.requests, r.stub = .ok stub := by
  induction actions generalizing s with
  | nil => exact .inl h
  | cons a actions ih =>
    rcases ih h with hfirst | ⟨r, hr, hstub⟩
    · rcases List.mem_append.1 hfirst with hold | hnew
      · exact .inl hold
      · obtain ⟨r, hr, hstub⟩ := exists_request_of_mem_product hnew
        exact .inr ⟨r, List.mem_flatMap.2 ⟨a, List.mem_cons_self, hr⟩, hstub⟩
    · obtain ⟨other, hother, hmem⟩ := List.mem_flatMap.1 hr
      exact .inr ⟨r, List.mem_flatMap.2 ⟨other, List.mem_cons_of_mem _ hother, hmem⟩, hstub⟩

end Session

end NativeLinkage
