import NativeLinkage.Request

set_option autoImplicit false

namespace NativeLinkage

namespace Manifest

structure Entry where
  line : Nat
  positional : List Text
  named : List (Text × Text)
  target : Text
  deriving DecidableEq, Repr

/-- The first name that has occurred before, among `seen` or earlier in the list. -/
def repeated? (seen : List Text) : List Text → Option Text
  | [] => none
  | name :: names => if name ∈ seen then some name else repeated? (name :: seen) names

/-- A name that is given twice is refused before the request is resolved. -/
def Entry.request (e : Entry) : Except Misuse Request :=
  match repeated? [] (e.named.map Prod.fst) with
  | some name => .error (.duplicateField e.line name)
  | none => Request.resolve e.positional e.named (some e.target)

theorem repeated?_eq_none {seen names : List Text} :
    repeated? seen names = none ↔ names.Nodup ∧ ∀ name ∈ names, name ∉ seen := by
  induction names generalizing seen with
  | nil => simp [repeated?]
  | cons name names ih =>
    by_cases h : name ∈ seen
    · simp [repeated?, h]
    · simp only [repeated?, h, if_false, ih, List.nodup_cons, List.mem_cons]
      constructor
      · rintro ⟨hn, hs⟩
        refine ⟨⟨fun hm => hs name hm (.inl rfl), hn⟩, ?_⟩
        rintro other (rfl | hm)
        · exact h
        · exact fun hc => hs other hm (.inr hc)
      · rintro ⟨⟨hnot, hn⟩, hs⟩
        refine ⟨hn, fun other hm hc => ?_⟩
        rcases hc with rfl | hc
        · exact hnot hm
        · exact hs other (.inr hm) hc

structure Draft where
  line : Nat
  positional : List Text
  named : List (Text × Text)
  deriving DecidableEq, Repr

def Draft.start (line : Nat) : Draft := ⟨line, [], []⟩

def Draft.addValue (d : Draft) (pieces : List Piece) : Draft :=
  { d with positional := d.positional ++ [pieces.map Piece.char] }

def Draft.addField (d : Draft) (name : Text) (pieces : List Piece) : Draft :=
  { d with named := d.named ++ [(name, pieces.map Piece.char)] }

def Draft.entry (d : Draft) (target : Text) : Entry := ⟨d.line, d.positional, d.named, target⟩

inductive Awaiting
  | statement
  | opening (d : Draft)
  | argumentOrClosing (d : Draft)
  | argument (d : Draft)
  | equals (d : Draft) (name : Text)
  | value (d : Draft) (name : Text)
  | commaOrClosing (d : Draft)
  | arrow (d : Draft)
  | target (d : Draft)
  | semicolon (e : Entry)
  deriving DecidableEq, Repr

inductive Move
  | next (state : Awaiting)
  | complete (entry : Entry)
  | refuse
  deriving DecidableEq, Repr

namespace Awaiting

def argumentMove (d : Draft) : Token → Move
  | .literal pieces => .next (.commaOrClosing (d.addValue pieces))
  | .word name => .next (.equals d name)
  | _ => .refuse

def move (state : Awaiting) (p : Placed) : Move :=
  match state, p.token with
  | statement, token => if token = Token.keyword then .next (.opening (.start p.line)) else .refuse
  | opening d, .opening => .next (.argumentOrClosing d)
  | argumentOrClosing d, .closing => .next (.arrow d)
  | argumentOrClosing d, token => argumentMove d token
  | argument d, token => argumentMove d token
  | equals d name, .equals => .next (.value d name)
  | value d name, .literal pieces => .next (.commaOrClosing (d.addField name pieces))
  | commaOrClosing d, .comma => .next (.argument d)
  | commaOrClosing d, .closing => .next (.arrow d)
  | arrow d, .arrow => .next (.target d)
  | target d, .word name => .next (.semicolon (d.entry name))
  | semicolon e, .semicolon => .complete e
  | _, _ => .refuse

def defect (state : Awaiting) (got : Option Token) : Defect :=
  match state with
  | statement => .expected .keyword got
  | opening _ => .expected .opening got
  | argumentOrClosing _ | argument _ => .unexpected got
  | equals .. => .expected .equals got
  | value _ name => .valueNotLiteral name
  | commaOrClosing _ => .expected .closing got
  | arrow _ => .expected .arrow got
  | target _ => .noFunctionName
  | semicolon _ => .expected .semicolon got

/-- Only between statements may the text end. -/
def finish (state : Awaiting) : Ending → Except Misuse (List Entry)
  | .stray line c => .error (.malformedManifest line (.stray c))
  | .finish line =>
    match state with
    | statement => .ok []
    | state => .error (.malformedManifest line (state.defect none))

def read (state : Awaiting) (ending : Ending) : List Placed → Except Misuse (List Entry)
  | [] => state.finish ending
  | p :: rest =>
    match state.move p with
    | .next state => read state ending rest
    | .complete entry => (read .statement ending rest).map (entry :: ·)
    | .refuse => .error (.malformedManifest p.line (state.defect (some p.token)))

end Awaiting

def read (t : Text) : Except Misuse (List Entry) :=
  let s := scan 1 t
  Awaiting.statement.read s.ending s.tokens

def requests (t : Text) : Except Misuse (List Request) := do
  (← read t).mapM Entry.request

end Manifest

end NativeLinkage
