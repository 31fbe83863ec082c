import NativeLinkage.Descriptor.FieldType

set_option autoImplicit false

namespace NativeLinkage

namespace Descriptor

inductive Reason
  | unexpectedEnd
  | unexpectedChar (c : Char)
  | unterminatedClassName
  | emptyClassName
  | noOpening (got : Option Char)
  | unterminatedArguments
  | trailing (rest : Text)
  | invalidUtf8
  deriving DecidableEq, Repr

def Reason.message : Reason → Text
  | unexpectedEnd => "Unexpected end of descriptor".toList
  | unexpectedChar c => "Unexpected char ".toList ++ Text.inQuotes [c]
  | unterminatedClassName => "Unterminated class name".toList
  | emptyClassName => "Empty class name".toList
  | noOpening none => "Expected '(', got end of descriptor".toList
  | noOpening (some c) => "Expected '(', got ".toList ++ Text.inQuotes [c]
  | unterminatedArguments => "Unterminated argument list".toList
  | trailing rest => "Unexpected trailing ".toList ++ Text.inQuotes rest
  | invalidUtf8 => "Invalid UTF-8".toList

structure Fault where
  descriptor : Text
  position : Nat
  reason : Reason
  deriving DecidableEq, Repr

def Fault.message (f : Fault) : Text :=
  f.reason.message ++ " at pos ".toList ++ Text.decimal f.position ++ " in ".toList ++
    Text.inQuotes f.descriptor

inductive Reading (α : Type)
  | ok (value : α) (rest : Text)
  | fault (reason : Reason) (spot rest : Text)
  deriving DecidableEq, Repr

namespace Reading

variable {α β : Type}

def rest : Reading α → Text
  | ok _ rest => rest
  | fault _ _ rest => rest

def map (f : α → β) : Reading α → Reading β
  | ok value rest => ok (f value) rest
  | fault reason spot rest => fault reason spot rest

def bind : Reading α → (α → Text → Reading β) → Reading β
  | ok value rest, next => next value rest
  | fault reason spot rest, _ => fault reason spot rest

theorem map_eq_ok {f : α → β} {x : Reading α} {b : β} {rest : Text} :
    x.map f = ok b rest ↔ ∃ a, x = ok a rest ∧ f a = b := by
  constructor
  · intro h
    cases x with
    | ok value mid => cases h; exact ⟨value, rfl, rfl⟩
    | fault reason spot mid => contradiction
  · rintro ⟨a, rfl, rfl⟩
    rfl

theorem bind_eq_ok {x : Reading α} {f : α → Text → Reading β} {b : β} {rest : Text} :
    x.bind f = ok b rest ↔ ∃ a mid, x = ok a mid ∧ f a mid = ok b rest := by
  constructor
  · intro h
    cases x with
    | ok value mid => exact ⟨value, mid, rfl, h⟩
    | fault reason spot mid => contradiction
  · rintro ⟨a, mid, rfl, h⟩
    exact h

theorem map_eq_fault {f : α → β} {x : Reading α} {reason : Reason} {spot rest : Text} :
    x.map f = fault reason spot rest ↔ x = fault reason spot rest := by
  cases x with
  | ok value mid => simp [map]
  | fault found place mid => simp [map]

theorem bind_eq_fault {x : Reading α} {f : α → Text → Reading β} {reason : Reason}
    {spot rest : Text} :
    x.bind f = fault reason spot rest ↔
      x = fault reason spot rest ∨ ∃ a mid, x = ok a mid ∧ f a mid = fault reason spot rest := by
  constructor
  · intro h
    cases x with
    | ok value mid => exact .inr ⟨value, mid, rfl, h⟩
    | fault found place mid => cases h; exact .inl rfl
  · rintro (rfl | ⟨a, mid, rfl, h⟩)
    · rfl
    · exact h

end Reading

/-- The class name after its opening letter; `spot` is the text from that letter on. -/
def readClassName (spot rest : Text) : Reading FieldType :=
  match rest.dropWhile (· ≠ ';') with
  | [] => .fault .unterminatedClassName spot rest
  | _ :: after =>
    match ClassName.ofText? (rest.takeWhile (· ≠ ';')) with
    | some name => .ok (.object name) after
    | none => .fault .emptyClassName spot rest

def readLeaf : Text → Reading FieldType
  | [] => .fault .unexpectedEnd [] []
  | c :: rest =>
    if c = 'L' then readClassName (c :: rest) rest
    else match BaseType.ofCode? c with
      | some b => .ok (.base b) rest
      | none => .fault (.unexpectedChar c) (c :: rest) (c :: rest)

def readType : Text → Reading FieldType
  | '[' :: rest => (readType rest).map .array
  | leaf => readLeaf leaf

theorem readType_bracket (t : Text) : readType ('[' :: t) = (readType t).map .array := rfl

theorem readType_of_ne {c : Char} (h : c ≠ '[') (t : Text) :
    readType (c :: t) = readLeaf (c :: t) := by
  unfold readType
  split
  · simp_all
  · rfl

theorem readClassName_eq_ok {spot t rest : Text} {type : FieldType}
    (h : readClassName spot t = .ok type rest) : 'L' :: t = type.descriptor ++ rest := by
  unfold readClassName at h
  split at h
  · contradiction
  · next c after hdrop =>
    split at h
    · next name hname =>
      cases h
      have hc : c = ';' := by
        have hne : t.dropWhile (fun x => decide (x ≠ ';')) ≠ [] := by
          rw [hdrop]
          exact List.cons_ne_nil _ _
        have hhead := List.head_dropWhile_not (fun x => decide (x ≠ ';')) hne
        simpa only [hdrop, List.head_cons, decide_eq_false_iff_not, Decidable.not_not] using hhead
      have hsplit := List.takeWhile_append_dropWhile (p := fun x => decide (x ≠ ';')) (l := t)
      rw [hdrop, ClassName.ofText?_eq_some.1 hname, hc] at hsplit
      simp [FieldType.descriptor, ← hsplit]
    · contradiction

theorem readLeaf_eq_ok {t rest : Text} {type : FieldType} (h : readLeaf t = .ok type rest) :
    t = type.descriptor ++ rest := by
  cases t with
  | nil => simp [readLeaf] at h
  | cons c t =>
    rw [readLeaf] at h
    split at h
    · next hc => exact hc ▸ readClassName_eq_ok h
    · split at h
      · next b hb =>
        cases h
        simp [FieldType.descriptor, BaseType.code_of_ofCode? hb]
      · contradiction

theorem readType_eq_ok {t rest : Text} {type : FieldType} (h : readType t = .ok type rest) :
    t = type.descriptor ++ rest := by
  induction t generalizing type with
  | nil => exact readLeaf_eq_ok h
  | cons c t ih =>
    by_cases hc : c = '['
    · subst hc
      rw [readType_bracket, Reading.map_eq_ok] at h
      obtain ⟨component, hcomponent, rfl⟩ := h
      simp [FieldType.descriptor, ← ih hcomponent]
    · rw [readType_of_ne hc] at h
      exact readLeaf_eq_ok h

theorem length_lt_of_readType {t rest : Text} {type : FieldType}
    (h : readType t = .ok type rest) : rest.length < t.length := by
  rw [readType_eq_ok h, List.length_append]
  have := List.length_pos_iff.2 type.descriptor_ne_nil
  omega

def expectEnd : Text → Reading Unit
  | [] => .ok () []
  | rest => .fault (.trailing rest) rest rest

def readField (t : Text) : Reading FieldType :=
  (readType t).bind fun type rest => (expectEnd rest).map fun _ => type

def readOpening : Text → Reading Unit
  | '(' :: rest => .ok () rest
  | t => .fault (.noOpening t.head?) t t

def readParams (t : Text) : Reading (List FieldType) :=
  match t with
  | [] => .fault .unterminatedArguments [] []
  | ')' :: rest => .ok [] rest
  | t =>
    match _h : readType t with
    | .ok type rest => (readParams rest).map (type :: ·)
    | .fault reason spot rest => .fault reason spot rest
termination_by t.length
decreasing_by exact length_lt_of_readType _h

/-- Void is spelled by its letter or left out. -/
def readResult : Text → Reading (Option FieldType)
  | [] => .ok none []
  | 'V' :: rest => .ok none rest
  | t => (readType t).map some

def readMethod (t : Text) : Reading MethodType :=
  (readOpening t).bind fun _ afterOpening =>
  (readParams afterOpening).bind fun params afterParams =>
  (readResult afterParams).bind fun result rest =>
  (expectEnd rest).map fun _ => ⟨params, result⟩

theorem expectEnd_eq_ok {t rest : Text} : expectEnd t = .ok () rest ↔ t = [] ∧ rest = [] := by
  cases t <;> simp [expectEnd, eq_comm]

theorem readField_eq_ok {t rest : Text} {type : FieldType} (h : readField t = .ok type rest) :
    t = type.descriptor ∧ rest = [] := by
  obtain ⟨read, mid, htype, hend⟩ := Reading.bind_eq_ok.1 h
  obtain ⟨_, hmid, rfl⟩ := Reading.map_eq_ok.1 hend
  obtain ⟨rfl, rfl⟩ := expectEnd_eq_ok.1 hmid
  exact ⟨by simpa using readType_eq_ok htype, rfl⟩

theorem readParams_closing (t : Text) : readParams (')' :: t) = .ok [] t := by
  rw [readParams]

theorem readParams_eq_ok {t rest : Text} {params : List FieldType}
    (h : readParams t = .ok params rest) :
    t = params.flatMap FieldType.descriptor ++ ')' :: rest := by
  fun_induction readParams t generalizing params rest with
  | case1 => contradiction
  | case2 after => cases h; rfl
  | case3 t _ _ type after htype ih =>
    obtain ⟨tail, htail, rfl⟩ := Reading.map_eq_ok.1 h
    rw [readType_eq_ok htype, ih htail, List.flatMap_cons, List.append_assoc]
  | case4 => contradiction

def Fault.at (descriptor : Text) (reason : Reason) (spot : Text) : Fault :=
  ⟨descriptor, descriptor.length - spot.length, reason⟩

def Reading.result {α : Type} (descriptor : Text) : Reading α → Except Fault (α × Text)
  | .ok value rest => .ok (value, rest)
  | .fault reason spot _ => .error (Fault.at descriptor reason spot)

end Descriptor

open Descriptor

def FieldType.read (descriptor : Text) : Except Fault (FieldType × Text) :=
  (readType descriptor).result descriptor

def FieldType.readWhole (descriptor : Text) : Except Fault FieldType :=
  ((readField descriptor).result descriptor).map Prod.fst

def MethodType.read (descriptor : Text) : Except Fault MethodType :=
  ((readMethod descriptor).result descriptor).map Prod.fst

namespace Descriptor

/-- A reader stays where its last reading stopped, also when that reading failed. -/
structure Reader where
  descriptor : Text
  rest : Text
  deriving DecidableEq, Repr

namespace Reader

def start (descriptor : Text) : Reader := ⟨descriptor, descriptor⟩

def position (r : Reader) : Nat := r.descriptor.length - r.rest.length

inductive Call
  | type
  | field
  | method
  deriving DecidableEq, Repr

inductive Item
  | type (type : FieldType)
  | method (type : MethodType)
  deriving DecidableEq, Repr

def reading (t : Text) : Call → Reading Item
  | .type => (readType t).map .type
  | .field => (readField t).map .type
  | .method => (readMethod t).map .method

def call (r : Reader) (c : Call) : Except Fault Item × Reader :=
  let reading := reading r.rest c
  ((reading.result r.descriptor).map Prod.fst, { r with rest := reading.rest })

end Reader

end Descriptor

end NativeLinkage
