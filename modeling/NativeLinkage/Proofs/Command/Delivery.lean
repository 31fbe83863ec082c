import NativeLinkage.Proofs.Command.Isolation

set_option autoImplicit false

namespace NativeLinkage.Command
open Unicode

namespace Location

def afterParts (l : Location) (parts : List Text) : Location := parts.foldl step l

/-- The places that are passed on the way, the last one included. -/
def passes (l : Location) : List Text → List Location
  | [] => []
  | part :: parts => l.step part :: (l.step part).passes parts

end Location

namespace PathName

/-- Where the path name leads if all directories on the way are there. -/
def place (p : PathName) : Location := (Location.start p).afterParts p.parts

def passes (p : PathName) : List Location := (Location.start p).passes p.parts

end PathName

namespace FileTree

section
variable {t : FileTree} {l : Location} {parts : List Text}

end

def Opens (t : FileTree) (places : List Location) (made : FileTree) : Prop :=
  ∀ l, made.node? l = if l ∈ places then some .directory else t.node? l

section
variable {t made : FileTree} {places : List Location} {p : PathName}

theorem Opens.directory (h : t.Opens places made) :
    ∀ place ∈ places, made.node? place = some .directory :=
  fun place hplace => (h place).trans (if_pos hplace)

theorem Opens.trans {more : List Location} {last : FileTree} (h : t.Opens places made)
    (hlast : made.Opens (places ++ more) last) : t.Opens (places ++ more) last := by
  intro l
  rw [hlast l, h l]
  by_cases hplace : l ∈ places
  · simp [hplace]
  · simp [hplace]

end

/-- The directory is there or can be made, and files with these names can be written in it. -/
structure Writable (t : FileTree) (directory : PathName) (names : List Text) : Prop where
  no_file : ∀ place ∈ directory.passes, ∀ content, t.node? place ≠ some (.file content)
  no_directory : ∀ name ∈ names, t.node? (directory.child name).place ≠ some .directory
  not_passed : ∀ name ∈ names, (directory.child name).place ∉ directory.passes

end FileTree

namespace Job

variable {job : Job} {directory : PathName} {t : FileTree}

end Job

end NativeLinkage.Command
