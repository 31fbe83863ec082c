import NativeLinkage.Text

set_option autoImplicit false

namespace NativeLinkage

namespace Command

inductive Switch
  | help
  | manifest
  | outputDir
  | baseName
  | verbose
  deriving DecidableEq, Repr

namespace Switch

def takesValue : Switch → Bool
  | manifest | outputDir | baseName => true
  | help | verbose => false

def spellings : List (Text × Switch) :=
  [("-h".toList, help), ("--help".toList, help), ("--manifest".toList, manifest),
    ("--output-dir".toList, outputDir), ("-o".toList, outputDir),
    ("--namespace".toList, baseName), ("-n".toList, baseName),
    ("--verbose".toList, verbose), ("-v".toList, verbose)]

def named? (t : Text) : Option Switch := spellings.lookup t

def label (s : Switch) : Text :=
  List.intercalate ['/'] ((spellings.filter fun entry => entry.2 = s).map Prod.fst)

end Switch

inductive Complaint
  | ambiguous (word : Text) (candidates : List Text)
  | valueMissing (s : Switch)
  | valueIgnored (s : Switch) (value : Text)
  | unrecognized (words : List Text)
  | noManifest
  deriving DecidableEq, Repr

namespace Complaint

def about (s : Switch) (text : Text) : Text :=
  "argument ".toList ++ s.label ++ ": ".toList ++ text

def message : Complaint → Text
  | ambiguous word candidates =>
    "ambiguous option: ".toList ++ word ++ " could match ".toList ++
      List.intercalate ", ".toList candidates
  | valueMissing s => about s "expected one argument".toList
  | valueIgnored s value => about s ("ignored explicit argument ".toList ++ Text.quoted value)
  | unrecognized words => "unrecognized arguments: ".toList ++ List.intercalate [' '] words
  | noManifest => "manifest file is required (positional or --manifest)".toList

end Complaint

/-- To a switch, text may be attached within its word, directly or after an equals sign. -/
inductive Word
  | plain (t : Text)
  | divider
  | switch (s : Switch) (short : Bool) (attached : Option Text)
  | unknown (t : Text)
  deriving DecidableEq, Repr

namespace Word

def dividerText : Text := "--".toList

/-- The word as it was written. Only words that are no switch are ever repeated to the user. -/
def text : Word → Text
  | plain t | unknown t => t
  | divider => dividerText
  | switch .. => []

def isSwitchLike : Word → Bool
  | switch .. | unknown _ => true
  | plain _ | divider => false

def isShort : Text → Bool
  | ['-', c] => c != '-'
  | _ => false

def splitEquals (t : Text) : Text × Option Text :=
  match t.dropWhile (· ≠ '=') with
  | [] => (t, none)
  | _ :: value => (t.takeWhile (· ≠ '='), some value)

/-- A number may begin with a dash; one line feed after it does not matter. -/
def isNegativeNumber : Text → Bool
  | '-' :: rest =>
    let body := if rest.getLast? = some '\n' then rest.dropLast else rest
    let digits (t : Text) : Bool := !t.isEmpty && t.all Unicode.isDecimalDigit
    digits body ||
      match body.dropWhile Unicode.isDecimalDigit with
      | '.' :: fraction => digits fraction
      | _ => false
  | _ => false

def candidates (t : Text) : List (Text × Switch × Option Text) :=
  if dividerText.isPrefixOf t then
    let (stem, attached) := splitEquals t
    (Switch.spellings.filter fun (spelling, _) => stem.isPrefixOf spelling).map
      fun (spelling, s) => (spelling, s, attached)
  else
    (Switch.spellings.filter fun (spelling, _) => spelling = t.take 2).map
      fun (spelling, s) => (spelling, s, some (t.drop 2))

def unmatched (t : Text) : Word :=
  if isNegativeNumber t || t.contains ' ' then plain t else unknown t

def abbreviated (t : Text) : Except Complaint Word :=
  match candidates t with
  | [] => .ok (unmatched t)
  | [(spelling, s, attached)] => .ok (switch s (isShort spelling) attached)
  | several => .error (.ambiguous t (several.map Prod.fst))

def classifyDashed (t : Text) : Except Complaint Word :=
  match Switch.named? t with
  | some s => .ok (switch s (isShort t) none)
  | none =>
    if t = ['-'] then .ok (plain t)
    else
      let (stem, attached) := splitEquals t
      match attached, Switch.named? stem with
      | some value, some s => .ok (switch s (isShort stem) (some value))
      | _, _ => abbreviated t

def classify : Text → Except Complaint Word
  | '-' :: rest => classifyDashed ('-' :: rest)
  | t => .ok (plain t)

def classifyAll : List Text → Except Complaint (List Word)
  | [] => .ok []
  | t :: ts =>
    if t = dividerText then .ok (divider :: ts.map plain)
    else do return (← classify t) :: (← classifyAll ts)

end Word

end Command

end NativeLinkage
