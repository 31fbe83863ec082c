import NativeLinkage.Command.Job
import NativeLinkage.Manifest.Statement
import NativeLinkage.Session

set_option autoImplicit false

namespace NativeLinkage

namespace Command
open Unicode

def requestsOf (entries : List Manifest.Entry) : List Request :=
  entries.filterMap fun e => e.request.toOption

def refusedCount (entries : List Manifest.Entry) : Nat :=
  entries.countP fun e => !e.request.toBool

def entryEvent (path : Text) (e : Manifest.Entry) : Event :=
  match e.request with
  | .ok r => .resolved r
  | .error m => .entryRejected path e.line m

structure Production where
  stubs : List Stub
  failed : Nat
  events : List Event
  deriving DecidableEq, Repr

def Production.ofEntries (path : Text) (entries : List Manifest.Entry) : Production :=
  let requests := requestsOf entries
  let batch := ExportTable.empty.batch requests
  ⟨batch.stubs, refusedCount entries + batch.failures.length,
    entries.map (entryEvent path) ++ ExportTable.empty.batchEvents requests⟩

def Production.status (p : Production) : Nat := if p.failed = 0 then 0 else 1

/-- The line that ends the output, without the time that the run took. -/
def Production.summary (p : Production) : Text :=
  "Generated ".toList ++ Text.decimal p.stubs.length ++ " export(s), ".toList ++
    Text.decimal p.failed ++ " failed".toList

namespace Job

def headerName (job : Job) : Text := job.baseName ++ "_exports.h".toList

def sourceName (job : Job) : Text := job.baseName ++ "_exports.c".toList

def files (job : Job) (directory : PathName) (stubs : List Stub) : List (PathName × Text) :=
  [(directory.child job.headerName, Header.render job.baseName stubs ++ ['\n']),
    (directory.child job.sourceName, Source.render job.headerName stubs ++ ['\n'])]

def decode (content : Octets) : Except Utf8.Fault Text :=
  (Utf8.decode content).map Text.normalizeLineEnds

def production (job : Job) (manifest : Text) : Except Misuse Production :=
  (Manifest.read manifest).map (Production.ofEntries job.manifest.text)

end Job

def generatedLine (path : PathName) : Text := "Generated: ".toList ++ path.text

inductive Ending
  | status (n : Nat)
  | refused (r : Refusal)
  | unusableFile (f : FileFault)
  | undecodable (f : Utf8.Fault)
  | noOutputDir
  deriving DecidableEq, Repr

structure Report where
  ending : Ending
  output : List Text
  events : List Event
  tree : FileTree
  deriving DecidableEq, Repr

def shownEvents (verbose : Bool) (events : List Event) : List Text :=
  (events.filter fun e => verbose || e.level ≠ .debug).map Event.reportedLine

def noOutputDirMessage : Text :=
  "expected str, bytes or os.PathLike object, not list".toList

def refusalLine (c : Complaint) : Text := "generate_exports.py: error: ".toList ++ c.message

/-- The tree with the files written up to the first that cannot be, the paths of those written,
    and the fault if there is one. -/
def writeFiles (tree : FileTree) :
    List (PathName × Text) → FileTree × List PathName × Option FileFault
  | [] => (tree, [], none)
  | (path, text) :: rest =>
    match tree.write path (Utf8.encode text) with
    | .error f => (tree, [], some f)
    | .ok tree =>
      let (tree, written, fault) := writeFiles tree rest
      (tree, path :: written, fault)

namespace Job

def deliverTo (job : Job) (directory : PathName) (p : Production) (tree : FileTree) : Report :=
  match tree.ensureDirectory directory with
  | .error f => ⟨.unusableFile f, [], p.events, tree⟩
  | .ok tree =>
    match writeFiles tree (job.files directory p.stubs) with
    | (tree, written, some f) => ⟨.unusableFile f, written.map generatedLine, p.events, tree⟩
    | (tree, written, none) =>
      ⟨.status p.status, written.map generatedLine ++ [p.summary], p.events, tree⟩

def deliver (job : Job) (p : Production) (tree : FileTree) : Report :=
  match job.outputDir with
  | none => ⟨.noOutputDir, [], p.events, tree⟩
  | some directory => job.deliverTo directory p tree

def runOn (job : Job) (tree : FileTree) (manifest : Text) : Report :=
  match job.production manifest with
  | .error m => ⟨.status 1, [], [.manifestRejected job.manifest.text m], tree⟩
  | .ok p => job.deliver p tree

def run (job : Job) (tree : FileTree) : Report :=
  match tree.read job.manifest with
  | .error f => ⟨.unusableFile f, [], [], tree⟩
  | .ok content =>
    match decode content with
    | .error f => ⟨.undecodable f, [], [], tree⟩
    | .ok manifest => job.runOn tree manifest

end Job

def errorLines (job : Except Refusal Job) (r : Report) : List Text :=
  match job with
  | .error (.complaint c) => [refusalLine c]
  | .error .help => []
  | .ok job => shownEvents job.verbose r.events

def run (args : List Text) (tree : FileTree) : Report :=
  match Job.ofArguments args with
  | .error r => ⟨.refused r, [], [], tree⟩
  | .ok job => job.run tree

end Command

end NativeLinkage
