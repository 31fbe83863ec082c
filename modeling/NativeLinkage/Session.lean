import NativeLinkage.Descriptor.TypeSpec
import NativeLinkage.Stub

set_option autoImplicit false

namespace NativeLinkage

/-- The exported symbols in the order of export, each with the method that exports it. -/
structure ExportTable where
  entries : List (Text × Text)
  deriving DecidableEq, Repr

namespace ExportTable

def empty : ExportTable := ⟨[]⟩

def exporter? (t : ExportTable) (symbol : Text) : Option Text := t.entries.lookup symbol

def symbols (t : ExportTable) : List Text := t.entries.map Prod.fst

def insert (t : ExportTable) (symbol qualifiedName : Text) : ExportTable :=
  ⟨t.entries ++ [(symbol, qualifiedName)]⟩

@[simp] theorem symbols_insert (t : ExportTable) (symbol qualifiedName : Text) :
    (t.insert symbol qualifiedName).symbols = t.symbols ++ [symbol] := by
  simp [symbols, insert]

abbrev Outcome := Except Failure Stub

def outcome (t : ExportTable) (r : Request) : Outcome :=
  match r.stub with
  | .error fault => .error (.malformed fault)
  | .ok stub =>
    match t.exporter? stub.symbol with
    | some first => .error (.misuse (.alreadyExported r.qualifiedName stub.symbol first))
    | none => .ok stub

def record (t : ExportTable) (r : Request) : Outcome → ExportTable
  | .ok stub => t.insert stub.symbol r.qualifiedName
  | .error _ => t

def after (t : ExportTable) (r : Request) : ExportTable := t.record r (t.outcome r)

def outcomes : ExportTable → List Request → List (Request × Outcome)
  | _, [] => []
  | t, r :: rs => (r, t.outcome r) :: outcomes (t.after r) rs

def afterAll (t : ExportTable) (rs : List Request) : ExportTable := rs.foldl after t

theorem outcomes_append (t : ExportTable) (rs ss : List Request) :
    t.outcomes (rs ++ ss) = t.outcomes rs ++ (t.afterAll rs).outcomes ss := by
  induction rs generalizing t with
  | nil => rfl
  | cons r rs ih => simp [outcomes, afterAll, ih]

theorem afterAll_append (t : ExportTable) (rs ss : List Request) :
    t.afterAll (rs ++ ss) = (t.afterAll rs).afterAll ss := by
  simp [afterAll]

theorem outcomes_map_fst (t : ExportTable) (rs : List Request) :
    (t.outcomes rs).map Prod.fst = rs := by
  induction rs generalizing t with
  | nil => rfl
  | cons r rs ih => simp [outcomes, ih]

end ExportTable

structure Batch where
  stubs : List Stub
  failures : List (Request × Failure)
  deriving DecidableEq, Repr

namespace Batch

def empty : Batch := ⟨[], []⟩

def add (b : Batch) (r : Request) : ExportTable.Outcome → Batch
  | .ok stub => { b with stubs := stub :: b.stubs }
  | .error failure => { b with failures := (r, failure) :: b.failures }

def ofOutcomes : List (Request × ExportTable.Outcome) → Batch
  | [] => empty
  | (r, outcome) :: rest => (ofOutcomes rest).add r outcome

theorem length_ofOutcomes (outcomes : List (Request × ExportTable.Outcome)) :
    (ofOutcomes outcomes).stubs.length + (ofOutcomes outcomes).failures.length =
      outcomes.length := by
  induction outcomes with
  | nil => rfl
  | cons first outcomes ih =>
    obtain ⟨r, outcome⟩ := first
    cases outcome <;> simp only [ofOutcomes, add, List.length_cons] <;> omega

end Batch

def ExportTable.batch (t : ExportTable) (rs : List Request) : Batch :=
  Batch.ofOutcomes (t.outcomes rs)

inductive Level
  | debug
  | info
  | error
  deriving DecidableEq, Repr

def Level.label : Level → Text
  | debug => "DEBUG".toList
  | info => "INFO".toList
  | error => "ERROR".toList

inductive Reporter
  | command
  | request
  | descriptor
  | exporter
  deriving DecidableEq, Repr

def Reporter.label : Reporter → Text
  | command => "jniexport.cli".toList
  | request => "jniexport.request".toList
  | descriptor => "jniexport.parser".toList
  | exporter => "jniexport.export_generator".toList

inductive Event
  | resolved (request : Request)
  | parsed (descriptor : Text) (type : MethodType)
  | built (stub : Stub)
  | exported (qualifiedName symbol : Text)
  | exportFailed (qualifiedName : Text) (failure : Failure)
  | manifestRejected (path : Text) (misuse : Misuse)
  | entryRejected (path : Text) (line : Nat) (misuse : Misuse)
  deriving DecidableEq, Repr

namespace Event

def level : Event → Level
  | resolved _ | parsed .. | built _ => .debug
  | exported .. => .info
  | exportFailed .. | manifestRejected .. | entryRejected .. => .error

def reporter : Event → Reporter
  | resolved _ => .request
  | parsed .. => .descriptor
  | built _ | exported .. | exportFailed .. => .exporter
  | manifestRejected .. | entryRejected .. => .command

def arrow : Text := " -> ".toList

def message : Event → Text
  | resolved r => "Resolved ".toList ++ r.qualifiedName ++ r.descriptor ++ arrow ++ r.target
  | parsed descriptor type => "Parsed ".toList ++ descriptor ++ arrow ++ type.shown
  | built s =>
    s.qualifiedName ++ ": ".toList ++ s.symbol ++ '(' :: s.paramList ++ ')' :: arrow ++
      s.nativeReturn
  | exported qualifiedName symbol =>
    "Exported ".toList ++ qualifiedName ++ " as ".toList ++ symbol
  | exportFailed qualifiedName failure =>
    "Failed to export ".toList ++ qualifiedName ++ ": ".toList ++ failure.message
  | manifestRejected path misuse => path ++ ": ".toList ++ misuse.message
  | entryRejected path line misuse =>
    path ++ ':' :: Text.decimal line ++ ": ".toList ++ misuse.message

def line (e : Event) : Text := e.level.label ++ ' ' :: e.message

def reportedLine (e : Event) : Text :=
  e.level.label ++ ' ' :: e.reporter.label ++ ": ".toList ++ e.message

end Event

namespace Request

/-- The stub is built before its symbol is looked up, whether or not the symbol is free. -/
def buildEvents (r : Request) : List Event :=
  match MethodType.read r.descriptor with
  | .error _ => []
  | .ok type => [.parsed r.descriptor type, .built (r.stubOfType type)]

def exportEvents (r : Request) : ExportTable.Outcome → List Event
  | .error _ => r.buildEvents
  | .ok stub => r.buildEvents ++ [.exported r.qualifiedName stub.symbol]

def batchEvents (r : Request) : ExportTable.Outcome → List Event
  | .error failure => r.buildEvents ++ [.exportFailed r.qualifiedName failure]
  | .ok stub => r.exportEvents (.ok stub)

end Request

def ExportTable.batchEvents (t : ExportTable) (rs : List Request) : List Event :=
  (t.outcomes rs).flatMap fun (r, outcome) => r.batchEvents outcome

structure Session where
  baseName : Text
  table : ExportTable
  returned : List Stub
  deriving DecidableEq, Repr

namespace Session

def start (baseName : Text) : Session := ⟨baseName, .empty, []⟩

inductive Selection
  | given (stubs : List Stub)
  | picked (places : List Int)
  | all
  deriving DecidableEq, Repr

/-- A negative place counts from the end. -/
def Selection.stubAt? (returned : List Stub) : Int → Option Stub
  | .ofNat i => returned[i]?
  | .negSucc i => returned.reverse[i]?

def Selection.stubs (returned : List Stub) : Selection → List Stub
  | given stubs => stubs
  | picked places => places.filterMap (stubAt? returned)
  | all => returned

inductive Action
  | exportOne (request : Request)
  | exportBatch (requests : List Request)
  | header (selection : Selection)
  | source (headerName : Text) (selection : Selection)
  deriving DecidableEq, Repr

inductive Product
  | outcome (outcome : ExportTable.Outcome)
  | batch (batch : Batch)
  | text (text : Text)

def Product.stubs : Product → List Stub
  | outcome (.ok stub) => [stub]
  | outcome (.error _) => []
  | batch b => b.stubs
  | text _ => []

def product (s : Session) : Action → Product
  | .exportOne r => .outcome (s.table.outcome r)
  | .exportBatch rs => .batch (s.table.batch rs)
  | .header selection => .text (Header.render s.baseName (selection.stubs s.returned))
  | .source name selection => .text (Source.render name (selection.stubs s.returned))

def tableAfter (s : Session) : Action → ExportTable
  | .exportOne r => s.table.after r
  | .exportBatch rs => s.table.afterAll rs
  | .header _ | .source .. => s.table

def after (s : Session) (a : Action) : Session :=
  { s with table := s.tableAfter a, returned := s.returned ++ (s.product a).stubs }

def events (s : Session) : Action → List Event
  | .exportOne r => r.exportEvents (s.table.outcome r)
  | .exportBatch rs => s.table.batchEvents rs
  | .header _ | .source .. => []

def run (s : Session) (actions : List Action) : Session := actions.foldl after s

end Session

end NativeLinkage
