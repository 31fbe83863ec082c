import NativeLinkage.Command.Run

set_option autoImplicit false

namespace NativeLinkage.Command

def milliseconds (nanoseconds : Nat) : Text :=
  let hundredths := nanoseconds / 10000
  let decimals := Text.decimal (hundredths % 100)
  Text.decimal (hundredths / 100) ++
    '.' :: (if hundredths % 100 < 10 then '0' :: decimals else decimals)

/-- Where a run comes to its end, the summary is the last line, and goes on with the time. -/
def Report.timedOutput (r : Report) (nanoseconds : Nat) : List Text :=
  match r.ending, r.output.getLast? with
  | .status _, some summary =>
    r.output.dropLast ++ [summary ++ " in ".toList ++ milliseconds nanoseconds ++ " ms".toList]
  | _, _ => r.output

def Ending.stoppedBy : Ending → List Text
  | .status _ | .refused _ => []
  | .unusableFile f => [f.message]
  | .undecodable f => [f.message]
  | .noOutputDir => [noOutputDirMessage]

def Ending.exitCode : Ending → UInt32
  | .status n => UInt32.ofNat n
  | .refused .help => 0
  | .refused (.complaint _) => 2
  | .unusableFile _ | .undecodable _ | .noOutputDir => 1

/-- A tree with one file and the directories that lead to it. -/
def FileTree.holding (p : PathName) (content : Octets) : Except FileFault FileTree := do
  let tree ← FileTree.empty.ensureDirectory { p with parts := p.parts.dropLast }
  tree.write p content

def Location.pathName (l : Location) : PathName :=
  ⟨if l.rooted then ['/'] else [], List.replicate l.above "..".toList ++ l.names⟩

def readFromDisk (job : Job) : IO FileTree := do
  let content ← IO.FS.readBinFile (String.ofList job.manifest.text)
  match FileTree.holding job.manifest content.toList with
  | .ok tree => return tree
  | .error f => throw (IO.userError (String.ofList f.message))

def writeToDisk (before after : FileTree) : IO Unit :=
  after.nodes.forM fun (l, node) => do
    let path := String.ofList l.pathName.text
    if before.node? l ≠ some node then
      match node with
      | .directory => IO.FS.createDirAll path
      | .file content => IO.FS.writeBinFile path ⟨content.toArray⟩

end NativeLinkage.Command

open NativeLinkage NativeLinkage.Command

/-- The command is run on a tree that holds the manifest alone, and what it changes there is then
    changed on disk. Asked for help it only ends, without the text that explains the switches. -/
def main (args : List String) : IO UInt32 := do
  let started ← IO.monoNanosNow
  let words := args.map String.toList
  let job := Job.ofArguments words
  let tree ← match job with
    | .ok job => readFromDisk job
    | .error _ => pure .empty
  let report := run words tree
  (errorLines job report ++ report.ending.stoppedBy).forM fun t => IO.eprintln (String.ofList t)
  writeToDisk tree report.tree
  let elapsed := (← IO.monoNanosNow) - started
  (report.timedOutput elapsed).forM fun t => IO.println (String.ofList t)
  return report.ending.exitCode
