import NativeLinkage.Command.FileTree
import NativeLinkage.Command.Word

set_option autoImplicit false

namespace NativeLinkage

namespace Identifier

def isWordChar (c : Char) : Bool := c.isAlphanum || c == '_'

def isValid : Text → Bool
  | [] => false
  | c :: rest => !c.isDigit && isWordChar c && rest.all isWordChar

def guarded : Text → Text
  | [] => ['_']
  | c :: rest => if c.isDigit then '_' :: c :: rest else c :: rest

def ofText (t : Text) : Text := guarded (t.map fun c => if isWordChar c then c else '_')

theorem isValid_guarded {t : Text} (h : t.all isWordChar = true) : isValid (guarded t) = true := by
  cases t with
  | nil => rfl
  | cons c rest =>
    by_cases hc : c.isDigit = true
    · simp only [guarded, hc, if_true, isValid, h]
      rfl
    · simp only [List.all_cons, Bool.and_eq_true] at h
      simp [guarded, isValid, hc, h]

theorem isValid_ofText (t : Text) : isValid (ofText t) = true := by
  apply isValid_guarded
  rw [List.all_map, List.all_eq_true]
  intro c _
  by_cases hc : isWordChar c = true
  · simp [hc]
  · simp only [Function.comp_apply, hc]
    rfl

end Identifier

namespace Command

/-- The values of the switches, with their defaults. The output directory is missing where a switch
    for it was given without a value. -/
structure Settings where
  manifest : Option Text := none
  outputDir : Option Text := some "generated".toList
  baseName : Text := []
  verbose : Bool := false
  deriving DecidableEq, Repr

inductive Refusal
  | help
  | complaint (c : Complaint)
  deriving DecidableEq, Repr

abbrev Assignment := Switch × Option Text

def Settings.assign (s : Settings) : Assignment → Except Refusal Settings
  | (.help, _) => .error .help
  | (.verbose, _) => .ok { s with verbose := true }
  | (.manifest, value) => .ok { s with manifest := value }
  | (.outputDir, value) => .ok { s with outputDir := value }
  | (.baseName, value) => .ok { s with baseName := value.getD [] }

structure Expansion where
  assignments : List Assignment
  awaiting : Option Switch
  deriving DecidableEq, Repr

def Expansion.cons (a : Assignment) (e : Expansion) : Expansion :=
  { e with assignments := a :: e.assignments }

def expandBare (s : Switch) : Expansion :=
  if s.takesValue then ⟨[], some s⟩ else ⟨[(s, none)], none⟩

/-- A divider is no value, even where it is attached to a switch. -/
def attachedValue (text : Text) : Option Text :=
  if text = Word.dividerText then none else some text

/-- Flags of one letter may share a word, and the last switch of it may have a value. An equals
    sign is met here only inside the attached text, where it is text like any other. -/
def expandAttached (s : Switch) (short : Bool) (text : Text) : Except Complaint Expansion :=
  if s.takesValue then .ok ⟨[(s, attachedValue text)], none⟩
  else match text with
    | [] => .error (.valueIgnored s [])
    | c :: rest =>
      match short, Switch.named? ['-', c] with
      | true, some next =>
        if rest = [] then .ok ((expandBare next).cons (s, none))
        else (expandAttached next true rest).map (·.cons (s, none))
      | _, _ => .error (.valueIgnored s (c :: rest))

def expand (s : Switch) (short : Bool) : Option Text → Except Complaint Expansion
  | none => .ok (expandBare s)
  | some attached => expandAttached s short attached

structure Progress where
  settings : Settings := {}
  positional : Option Text := none
  extras : List Text := []
  deriving DecidableEq, Repr

namespace Progress

def addExtra (p : Progress) (t : Text) : Progress := { p with extras := p.extras ++ [t] }

def addPlain (p : Progress) (t : Text) : Progress :=
  match p.positional with
  | none => { p with positional := some t }
  | some _ => p.addExtra t

def assignAll (p : Progress) (assignments : List Assignment) : Except Refusal Progress := do
  return { p with settings := ← assignments.foldlM Settings.assign p.settings }

/-- The words after the last switch. A divider is dropped only beside the word that is wanted. -/
def finish (p : Progress) (words : List Word) : Progress :=
  match p.positional, words with
  | none, .divider :: .plain t :: rest | none, .plain t :: .divider :: rest
  | none, .plain t :: rest =>
    { p with positional := some t, extras := p.extras ++ rest.map Word.text }
  | none, .divider :: rest | _, rest => { p with extras := p.extras ++ rest.map Word.text }

/-- Since only plain words follow a divider, it is met here only where no switch is left. -/
def read (p : Progress) (words : List Word) : Except Refusal Progress :=
  if words.any Word.isSwitchLike then
    match words with
    | [] => .ok p
    | .plain t :: rest => read (p.addPlain t) rest
    | .divider :: rest => read p rest
    | .unknown t :: rest => read (p.addExtra t) rest
    | .switch s short attached :: rest =>
      match expand s short attached with
      | .error c => .error (.complaint c)
      | .ok e =>
        match e.awaiting, rest with
        | none, rest => do read (← p.assignAll e.assignments) rest
        | some s, .plain value :: rest => do
          read (← p.assignAll (e.assignments ++ [(s, some value)])) rest
        | some s, _ => .error (.complaint (.valueMissing s))
  else .ok (p.finish words)
termination_by words.length

end Progress

structure Job where
  manifest : PathName
  outputDir : Option PathName
  baseName : Text
  verbose : Bool
  deriving DecidableEq, Repr

namespace Job

def nonempty? : Option Text → Option Text
  | some (c :: t) => some (c :: t)
  | _ => none

def ofSettings (manifest : Text) (s : Settings) : Job :=
  let path := PathName.ofText manifest
  let name := if s.baseName = [] then path.stem else s.baseName
  ⟨path, s.outputDir.map PathName.ofText, Identifier.ofText name, s.verbose⟩

def ofProgress (p : Progress) : Except Refusal Job :=
  if p.extras ≠ [] then .error (.complaint (.unrecognized p.extras))
  else match nonempty? p.positional, nonempty? p.settings.manifest with
    | some manifest, _ | none, some manifest => .ok (ofSettings manifest p.settings)
    | none, none => .error (.complaint .noManifest)

def ofArguments (args : List Text) : Except Refusal Job := do
  match Word.classifyAll args with
  | .error c => throw (.complaint c)
  | .ok words => ofProgress (← Progress.read {} words)

end Job

end Command

end NativeLinkage
