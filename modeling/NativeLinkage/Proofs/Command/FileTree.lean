import Mathlib.Data.List.Basic
import NativeLinkage.Command.Run

set_option autoImplicit false

namespace NativeLinkage.Command

namespace FileTree

section
variable {nodes : List (Location × Node)} {l l' : Location} {n : Node}

theorem lookup_replace_of_ne (h : l' ≠ l) :
    (nodes.map fun entry => if entry.1 = l then (l, n) else entry).lookup l' = nodes.lookup l' := by
  induction nodes with
  | nil => rfl
  | cons entry nodes ih =>
    obtain ⟨place, node⟩ := entry
    rw [List.map_cons]
    by_cases hplace : place = l
    · subst hplace
      rw [if_pos rfl, List.lookup_cons, List.lookup_cons, beq_false_of_ne h, ih]
    · rw [if_neg hplace, List.lookup_cons, List.lookup_cons, ih]

theorem lookup_replace_self (h : nodes.any (·.1 = l) = true) :
    (nodes.map fun entry => if entry.1 = l then (l, n) else entry).lookup l = some n := by
  induction nodes with
  | nil => contradiction
  | cons entry nodes ih =>
    obtain ⟨place, node⟩ := entry
    rw [List.map_cons]
    by_cases hplace : place = l
    · rw [if_pos hplace, List.lookup_cons_self]
    · rw [if_neg hplace, List.lookup_cons, beq_false_of_ne (Ne.symm hplace)]
      rw [List.any_cons, decide_eq_false hplace, Bool.false_or] at h
      exact ih h

theorem lookup_concat_self (h : nodes.any (·.1 = l) = false) :
    (nodes ++ [(l, n)]).lookup l = some n := by
  have hnone : nodes.lookup l = none := by
    rw [List.lookup_eq_none_iff]
    intro entry hentry
    have hne := List.any_eq_false.1 h entry hentry
    rw [bne_iff_ne]
    intro heq
    exact hne (decide_eq_true heq.symm)
  rw [List.lookup_append, hnone, List.lookup_cons_self]
  rfl

theorem lookup_concat_of_ne (h : l' ≠ l) :
    (nodes ++ [(l, n)]).lookup l' = nodes.lookup l' := by
  rw [List.lookup_append, List.lookup_cons, beq_false_of_ne h, List.lookup_nil, Option.or_none]

end

theorem node?_put (t : FileTree) (l l' : Location) (n : Node) :
    (t.put l n).node? l' =
      if l'.names = [] then some .directory else if l' = l then some n else t.node? l' := by
  unfold node?
  by_cases hnames : l'.names = []
  · rw [if_pos hnames, if_pos hnames]
  · rw [if_neg hnames, if_neg hnames, if_neg hnames, put]
    by_cases hl : l' = l
    · subst hl
      rw [if_pos rfl]
      split
      · next hmem => exact lookup_replace_self hmem
      · next hmem => exact lookup_concat_self (Bool.eq_false_iff.2 hmem)
    · rw [if_neg hl]
      split
      · exact lookup_replace_of_ne hl
      · exact lookup_concat_of_ne hl

def DirectoriesIn (t u : FileTree) : Prop :=
  ∀ l, t.node? l = some .directory → u.node? l = some .directory

theorem DirectoriesIn.walk {t u : FileTree} (h : t.DirectoriesIn u) {l place : Location}
    {parts : List Text} (hwalk : t.walk l parts = .ok place) : u.walk l parts = .ok place := by
  induction parts generalizing l with
  | nil => exact hwalk
  | cons part parts ih =>
    rw [FileTree.walk] at hwalk ⊢
    split at hwalk
    · contradiction
    · contradiction
    · next hnode =>
      rw [h _ hnode]
      exact ih hwalk

theorem DirectoriesIn.locate {t u : FileTree} (h : t.DirectoriesIn u) {p : PathName}
    {place : Location} (hlocate : t.locate p = .ok place) : u.locate p = .ok place := by
  unfold FileTree.locate at hlocate ⊢
  cases hwalk : t.walk (.start p) p.parts.dropLast with
  | error e =>
    rw [hwalk] at hlocate
    contradiction
  | ok l =>
    rw [hwalk] at hlocate
    rw [h.walk hwalk]
    exact hlocate

theorem read_eq_ok_iff {t : FileTree} {p : PathName} {content : Octets} :
    t.read p = .ok content ↔ ∃ l, t.locate p = .ok l ∧ t.node? l = some (.file content) := by
  unfold read
  cases t.locate p with
  | error e => simp
  | ok l =>
    cases hnode : t.node? l with
    | none => simp [hnode]
    | some node => cases node <;> simp [hnode]

end FileTree

def Node.isDirectory : Node → Bool
  | directory => true
  | file _ => false

namespace FileTree

/-- The trees have the same directories and the same files, whatever these hold. -/
def SameShape (t u : FileTree) : Prop :=
  ∀ l, (t.node? l).map Node.isDirectory = (u.node? l).map Node.isDirectory

/-- Both operations fail with one error, or leave trees of the same shape. -/
inductive Alike {ε : Type} : Except ε FileTree → Except ε FileTree → Prop
  | ok {t u : FileTree} (h : t.SameShape u) : Alike (.ok t) (.ok u)
  | error (e : ε) : Alike (.error e) (.error e)

theorem SameShape.node?_cases {t u : FileTree} (h : t.SameShape u) (l : Location) :
    (t.node? l = none ∧ u.node? l = none) ∨
    (t.node? l = some .directory ∧ u.node? l = some .directory) ∨
    ∃ content content', t.node? l = some (.file content) ∧ u.node? l = some (.file content') := by
  have hl := h l
  cases ht : t.node? l with
  | none =>
    rw [ht] at hl
    exact .inl ⟨rfl, Option.map_eq_none_iff.1 hl.symm⟩
  | some n =>
    rw [ht] at hl
    obtain ⟨m, hm, hkind⟩ := Option.map_eq_some_iff.1 hl.symm
    cases n with
    | directory =>
      cases m with
      | directory => exact .inr (.inl ⟨rfl, hm⟩)
      | file content' => contradiction
    | file content =>
      cases m with
      | directory => contradiction
      | file content' => exact .inr (.inr ⟨content, content', rfl, hm⟩)

theorem SameShape.walk {t u : FileTree} (h : t.SameShape u) (l : Location) (parts : List Text) :
    t.walk l parts = u.walk l parts := by
  induction parts generalizing l with
  | nil => rfl
  | cons part parts ih =>
    rw [FileTree.walk, FileTree.walk]
    rcases h.node?_cases (l.step part) with ⟨ht, hu⟩ | ⟨ht, hu⟩ | ⟨content, content', ht, hu⟩
    · rw [ht, hu]
    · rw [ht, hu]
      exact ih _
    · rw [ht, hu]

theorem SameShape.locate {t u : FileTree} (h : t.SameShape u) (p : PathName) :
    t.locate p = u.locate p := by
  rw [FileTree.locate, FileTree.locate, h.walk]

theorem SameShape.isDirectory {t u : FileTree} (h : t.SameShape u) (p : PathName) :
    t.isDirectory p = u.isDirectory p := by
  rw [FileTree.isDirectory, FileTree.isDirectory, h.locate]
  cases u.locate p with
  | error e => rfl
  | ok l =>
    dsimp only
    rcases h.node?_cases l with ⟨ht, hu⟩ | ⟨ht, hu⟩ | ⟨content, content', ht, hu⟩
    · rw [ht, hu]
    · rw [ht, hu]
    · rw [ht, hu]
      rfl

theorem SameShape.put {t u : FileTree} (h : t.SameShape u) (l : Location) {n m : Node}
    (hkind : n.isDirectory = m.isDirectory) : (t.put l n).SameShape (u.put l m) := by
  intro l'
  rw [node?_put, node?_put]
  by_cases hnames : l'.names = []
  · rw [if_pos hnames, if_pos hnames]
  · by_cases hl : l' = l
    · rw [if_neg hnames, if_neg hnames, if_pos hl, if_pos hl, Option.map_some, Option.map_some,
        hkind]
    · rw [if_neg hnames, if_neg hnames, if_neg hl, if_neg hl]
      exact h l'

theorem SameShape.put_file {t u : FileTree} (h : t.SameShape u) (l : Location)
    (content content' : Octets) : (t.put l (.file content)).SameShape (u.put l (.file content')) :=
  h.put l rfl

theorem SameShape.write {t u : FileTree} (h : t.SameShape u) (p : PathName)
    (content content' : Octets) : Alike (t.write p content) (u.write p content') := by
  rw [FileTree.write, FileTree.write, h.locate]
  cases u.locate p with
  | error e => exact .error _
  | ok l =>
    dsimp only
    rcases h.node?_cases l with ⟨ht, hu⟩ | ⟨ht, hu⟩ | ⟨_, _, ht, hu⟩
    · rw [ht, hu]
      exact .ok (h.put_file l _ _)
    · rw [ht, hu]
      exact .error _
    · rw [ht, hu]
      exact .ok (h.put_file l _ _)

theorem makeDirectory_of_locate {t : FileTree} {p : PathName} {l : Location}
    (h : t.locate p = .ok l) :
    t.makeDirectory p =
      match t.node? l with
      | some _ => .error .alreadyExists
      | none => .ok (t.put l .directory) := by
  rw [makeDirectory, h]
  rfl

theorem SameShape.makeDirectory {t u : FileTree} (h : t.SameShape u) (p : PathName) :
    Alike (t.makeDirectory p) (u.makeDirectory p) := by
  have hlocate := h.locate p
  cases hplace : u.locate p with
  | error e =>
    rw [hplace] at hlocate
    rw [FileTree.makeDirectory, FileTree.makeDirectory, hlocate, hplace]
    exact .error e
  | ok l =>
    rw [makeDirectory_of_locate (hlocate.trans hplace), makeDirectory_of_locate hplace]
    rcases h.node?_cases l with ⟨ht, hu⟩ | ⟨ht, hu⟩ | ⟨_, _, ht, hu⟩
    · rw [ht, hu]
      exact .ok (h.put l rfl)
    · rw [ht, hu]
      exact .error _
    · rw [ht, hu]
      exact .error _

theorem SameShape.tolerate {t u : FileTree} (h : t.SameShape u) (p : PathName) (e : FileError) :
    Alike (t.tolerate p e) (u.tolerate p e) := by
  rw [FileTree.tolerate, FileTree.tolerate, h.isDirectory]
  split
  · exact .ok h
  · exact .error _

theorem SameShape.ensureReversed {t u : FileTree} (h : t.SameShape u) (anchor : Text)
    (parts : List Text) :
    Alike (t.ensureReversed anchor parts) (u.ensureReversed anchor parts) := by
  induction parts with
  | nil => exact .ok h
  | cons part parts ih =>
    have hmake := h.makeDirectory ⟨anchor, (part :: parts).reverse⟩
    rw [FileTree.ensureReversed, FileTree.ensureReversed]
    generalize t.makeDirectory _ = made at hmake ⊢
    generalize u.makeDirectory _ = made' at hmake ⊢
    cases hmake with
    | ok hshape => exact .ok hshape
    | error e =>
      cases e with
      | notFound =>
        dsimp only
        generalize t.ensureReversed anchor parts = parent at ih ⊢
        generalize u.ensureReversed anchor parts = parent' at ih ⊢
        cases ih with
        | error f => exact .error f
        | @ok parent parent' hparent =>
          have hagain := hparent.makeDirectory ⟨anchor, (part :: parts).reverse⟩
          dsimp only
          generalize parent.makeDirectory _ = made at hagain ⊢
          generalize parent'.makeDirectory _ = made' at hagain ⊢
          cases hagain with
          | ok hshape => exact .ok hshape
          | error e => exact hparent.tolerate _ e
      | alreadyExists | notDirectory | isDirectory => exact h.tolerate _ _

theorem SameShape.ensureDirectory {t u : FileTree} (h : t.SameShape u) (p : PathName) :
    Alike (t.ensureDirectory p) (u.ensureDirectory p) :=
  h.ensureReversed p.anchor p.parts.reverse

theorem Alike.ok_left {ε : Type} {x y : Except ε FileTree} {t : FileTree} (h : Alike x y)
    (hx : x = .ok t) : ∃ u, y = .ok u ∧ t.SameShape u := by
  cases h with
  | ok hshape =>
    cases hx
    exact ⟨_, rfl, hshape⟩
  | error e => contradiction

end FileTree

def PathName.Apart (p q : PathName) : Prop :=
  ∀ (t : FileTree) (l : Location), t.locate p = .ok l → t.locate q ≠ .ok l

section
variable {t u : FileTree} {files : List (PathName × Text)} {written : List PathName}

theorem writeFiles_cons_eq_none_iff {path : PathName} {text : Text} :
    writeFiles t ((path, text) :: files) = (u, written, none) ↔
      ∃ mid rest, t.write path (Unicode.Utf8.encode text) = .ok mid ∧
        writeFiles mid files = (u, rest, none) ∧ written = path :: rest := by
  rw [writeFiles]
  cases t.write path (Unicode.Utf8.encode text) with
  | error f => simp
  | ok mid =>
    constructor
    · intro h
      cases hfiles : writeFiles mid files with
      | mk last result =>
        obtain ⟨rest, fault⟩ := result
        simp only [hfiles, Prod.mk.injEq] at h
        obtain ⟨rfl, rfl, rfl⟩ := h
        exact ⟨mid, rest, rfl, hfiles, rfl⟩
    · rintro ⟨_, rest, hmid, hfiles, rfl⟩
      cases hmid
      simp only [hfiles]

theorem FileTree.SameShape.writeFiles {t' : FileTree} (hshape : t.SameShape t')
    (h : writeFiles t files = (u, written, none)) :
    ∃ u', Command.writeFiles t' files = (u', written, none) := by
  induction files generalizing t t' written with
  | nil =>
    cases h
    exact ⟨t', rfl⟩
  | cons file files ih =>
    obtain ⟨mid, rest, hwrite, hrest, rfl⟩ := writeFiles_cons_eq_none_iff.1 h
    obtain ⟨mid', hwrite', hmid⟩ := (hshape.write _ _ _).ok_left hwrite
    obtain ⟨u', hu'⟩ := ih hmid hrest
    exact ⟨u', writeFiles_cons_eq_none_iff.2 ⟨mid', rest, hwrite', hu', rfl⟩⟩

end

end NativeLinkage.Command
