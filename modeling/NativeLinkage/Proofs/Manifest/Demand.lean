import NativeLinkage.Manifest.Statement

set_option autoImplicit false

/-!
Reading on demand. A reader that looks one token ahead takes its tokens from a supply, which scans
the text only as far as it is asked to and hands out the end of the text once. Asking it again
afterwards would be a fault of another kind than a defect of the text; the reader never does.
-/
namespace NativeLinkage.Manifest

/-- What is left to hand out: the tokens of a text that begins on some line, or nothing after its
    end. -/
inductive Supply
  | remaining (line : Nat) (t : Text)
  | spent
  deriving DecidableEq, Repr

inductive Halt
  | exhausted
  | misuse (m : Misuse)
  deriving DecidableEq, Repr

namespace Supply

/-- What is handed out: a token, or `none` for the end of the text, with its line. -/
abbrev Handed := Option Token × Nat

def pullText (line : Nat) (t : Text) : Except Halt (Handed × Supply) :=
  match t with
  | [] => .ok ((none, line), .spent)
  | c :: t =>
    match _h : lexeme c t with
    | .skipped lines rest => pullText (line + lines) rest
    | .token token rest => .ok ((some token, line), .remaining line rest)
    | .stray c => .error (.misuse (.malformedManifest line (.stray c)))
termination_by t.length
decreasing_by
  have := length_rest_lexeme c t
  simp_all only [Lexeme.rest, List.length_cons]
  omega

def pull : Supply → Except Halt (Handed × Supply)
  | remaining line t => pullText line t
  | spent => .error .exhausted

def size : Supply → Nat
  | remaining _ t => t.length + 1
  | spent => 0

theorem size_of_pullText {line : Nat} {t : Text} {handed : Handed} {rest : Supply}
    (h : pullText line t = .ok (handed, rest)) : rest.size ≤ t.length := by
  fun_induction pullText line t with
  | case1 line => cases h; exact Nat.zero_le _
  | case2 line c t lines rest hlexeme ih =>
    have hrest := length_rest_lexeme c t
    rw [hlexeme] at hrest
    exact Nat.le_trans (ih h) (Nat.le_succ_of_le hrest)
  | case3 line c t token rest hlexeme =>
    have hrest := length_rest_lexeme c t
    rw [hlexeme] at hrest
    cases h
    exact Nat.succ_le_succ hrest
  | case4 => contradiction

theorem size_of_pull {s rest : Supply} {handed : Handed} (h : s.pull = .ok (handed, rest)) :
    rest.size < s.size := by
  cases s with
  | remaining line t => exact Nat.lt_succ_of_le (size_of_pullText h)
  | spent => contradiction

end Supply

/-- The entries that follow in a state. Each token is asked for when the one before it has been
    taken, and the end is met before anything else is asked for. -/
def Awaiting.demand (state : Awaiting) (supply : Supply) : Except Halt (List Entry) :=
  match _h : supply.pull with
  | .error halt => .error halt
  | .ok ((none, line), _) => (state.finish (.finish line)).mapError .misuse
  | .ok ((some token, line), rest) =>
    match state.move ⟨token, line⟩ with
    | .next after => after.demand rest
    | .complete entry => (statement.demand rest).map (entry :: ·)
    | .refuse => .error (.misuse (.malformedManifest line (state.defect (some token))))
termination_by supply.size
decreasing_by all_goals exact Supply.size_of_pull _h

section
variable {state : Awaiting} {supply rest : Supply} {line : Nat}

theorem Awaiting.demand_of_error {halt : Halt} (h : supply.pull = .error halt) :
    state.demand supply = .error halt := by
  rw [demand]
  split <;> simp_all

theorem Awaiting.demand_of_end (h : supply.pull = .ok ((none, line), rest)) :
    state.demand supply = (state.finish (.finish line)).mapError .misuse := by
  rw [demand]
  split <;> simp_all

theorem Awaiting.demand_of_token {token : Token}
    (h : supply.pull = .ok ((some token, line), rest)) :
    state.demand supply =
      match state.move ⟨token, line⟩ with
      | .next after => after.demand rest
      | .complete entry => (statement.demand rest).map (entry :: ·)
      | .refuse => .error (.misuse (.malformedManifest line (state.defect (some token)))) := by
  rw [demand]
  split <;> simp_all

end

namespace Supply

inductive Hands : Scan → Except Halt (Handed × Supply) → Prop
  | token (p : Placed) (rest : Text) :
    Hands ((scan p.line rest).cons p) (.ok ((some p.token, p.line), .remaining p.line rest))
  | finish (line : Nat) : Hands ⟨[], .finish line⟩ (.ok ((none, line), .spent))
  | stray (line : Nat) (c : Char) :
    Hands ⟨[], .stray line c⟩ (.error (.misuse (.malformedManifest line (.stray c))))

theorem hands_pullText (line : Nat) (t : Text) : Hands (scan line t) (pullText line t) := by
  fun_induction pullText line t with
  | case1 line =>
    rw [scan_nil]
    exact .finish line
  | case2 line c t lines rest hlexeme ih =>
    rw [scan_of_skipped hlexeme]
    exact ih
  | case3 line c t token rest hlexeme =>
    rw [scan_of_token hlexeme]
    exact .token ⟨token, line⟩ rest
  | case4 line c t stray hlexeme =>
    rw [scan_of_stray hlexeme]
    exact .stray line stray

end Supply

theorem Awaiting.demand_remaining (state : Awaiting) (line : Nat) (t : Text) :
    state.demand (.remaining line t) =
      (state.read (scan line t).ending (scan line t).tokens).mapError .misuse := by
  generalize hps : (scan line t).tokens = ps
  induction ps generalizing state line t with
  | nil =>
    have hhands : Supply.Hands (scan line t) (Supply.remaining line t).pull :=
      Supply.hands_pullText line t
    generalize scan line t = s at hps hhands ⊢
    generalize hpull : (Supply.remaining line t).pull = handed at hhands
    cases hhands with
    | token p rest => contradiction
    | finish last => exact demand_of_end hpull
    | stray last c => exact demand_of_error hpull
  | cons p ps ih =>
    have hhands : Supply.Hands (scan line t) (Supply.remaining line t).pull :=
      Supply.hands_pullText line t
    generalize scan line t = s at hps hhands ⊢
    generalize hpull : (Supply.remaining line t).pull = handed at hhands
    cases hhands with
    | finish last => contradiction
    | stray last c => contradiction
    | token first rest =>
      obtain ⟨rfl, hrest⟩ := List.cons.inj hps
      rw [demand_of_token hpull, read]
      cases state.move first with
      | next after => exact ih after first.line rest hrest
      | complete entry =>
        have hending : ((scan first.line rest).cons first).ending = (scan first.line rest).ending :=
          rfl
        dsimp only
        rw [ih statement first.line rest hrest, hending]
        cases statement.read (scan first.line rest).ending ps <;> rfl
      | refuse => rfl

/-- On demand a manifest is read as it is when all its tokens are scanned first. In particular the
    supply is never asked for anything after the end. -/
theorem demand_eq_read (t : Text) :
    Awaiting.statement.demand (.remaining 1 t) = (read t).mapError .misuse :=
  Awaiting.statement.demand_remaining 1 t

end NativeLinkage.Manifest
