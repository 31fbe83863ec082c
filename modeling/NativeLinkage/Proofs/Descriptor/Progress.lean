import NativeLinkage.Proofs.Descriptor.Components

set_option autoImplicit false

namespace NativeLinkage.Descriptor

section
variable {α β : Type} {t : Text}

/-- What is left stands at the end of the given text, and so does the text from the place of a
    fault, at which, or behind which, reading stopped. -/
def Reading.StaysIn (t : Text) : Reading α → Prop
  | ok _ rest => rest <:+ t
  | fault _ spot rest => rest <:+ spot ∧ spot <:+ t

namespace Reading.StaysIn

theorem rest_suffix {x : Reading α} (h : x.StaysIn t) : x.rest <:+ t := by
  cases x with
  | ok value rest => exact h
  | fault reason spot rest => exact h.1.trans h.2

theorem of_suffix {x : Reading α} {part : Text} (h : x.StaysIn part) (hpart : part <:+ t) :
    x.StaysIn t := by
  cases x with
  | ok value rest => exact List.IsSuffix.trans h hpart
  | fault reason spot rest => exact ⟨h.1, h.2.trans hpart⟩

theorem map {x : Reading α} (h : x.StaysIn t) (f : α → β) : (x.map f).StaysIn t := by
  cases x with
  | ok value rest => exact h
  | fault reason spot rest => exact h

theorem bind {x : Reading α} {f : α → Text → Reading β} (h : x.StaysIn t)
    (hf : ∀ value rest, (f value rest).StaysIn rest) : (x.bind f).StaysIn t := by
  cases x with
  | ok value rest => exact (hf value rest).of_suffix h
  | fault reason spot rest => exact h

end Reading.StaysIn

theorem staysIn_fault (reason : Reason) (t : Text) :
    (Reading.fault reason t t : Reading α).StaysIn t :=
  ⟨List.suffix_rfl, List.suffix_rfl⟩

end

/-- A fault of a class name is placed at its letter, one character before what is left. -/
theorem staysIn_readClassName (t : Text) : (readClassName ('L' :: t) t).StaysIn ('L' :: t) := by
  have hfault (reason : Reason) :
      (Reading.fault reason ('L' :: t) t : Reading FieldType).StaysIn ('L' :: t) :=
    ⟨List.suffix_cons 'L' t, List.suffix_rfl⟩
  unfold readClassName
  split
  · exact hfault _
  · next c after hdrop =>
    have hafter : c :: after <:+ t := hdrop ▸ List.dropWhile_suffix _
    split
    · exact ((List.suffix_cons c after).trans hafter).trans (List.suffix_cons 'L' t)
    · exact hfault _

theorem staysIn_readLeaf (t : Text) : (readLeaf t).StaysIn t := by
  cases t with
  | nil => exact staysIn_fault _ _
  | cons c t =>
    rw [readLeaf]
    split
    · next hc =>
      subst hc
      exact staysIn_readClassName t
    · split
      · exact List.suffix_cons c t
      · exact staysIn_fault _ _

theorem staysIn_readType (t : Text) : (readType t).StaysIn t := by
  induction t with
  | nil => exact staysIn_readLeaf []
  | cons c t ih =>
    by_cases hc : c = '['
    · subst hc
      rw [readType_bracket]
      exact (ih.map _).of_suffix (List.suffix_cons '[' t)
    · rw [readType_of_ne hc]
      exact staysIn_readLeaf (c :: t)

theorem staysIn_expectEnd (t : Text) : (expectEnd t).StaysIn t := by
  cases t with
  | nil => exact List.suffix_rfl
  | cons c t => exact staysIn_fault _ _

theorem staysIn_readField (t : Text) : (readField t).StaysIn t :=
  (staysIn_readType t).bind fun _ rest => (staysIn_expectEnd rest).map _

theorem staysIn_readOpening (t : Text) : (readOpening t).StaysIn t := by
  unfold readOpening
  split
  · exact List.suffix_cons '(' _
  · exact staysIn_fault _ _

theorem staysIn_readParams (t : Text) : (readParams t).StaysIn t := by
  fun_induction readParams t with
  | case1 => exact staysIn_fault _ _
  | case2 rest => exact List.suffix_cons ')' rest
  | case3 t _ _ type rest htype ih =>
    have hrest := staysIn_readType t
    rw [htype] at hrest
    exact (ih.map _).of_suffix hrest
  | case4 t _ _ reason spot rest htype =>
    have hfault := staysIn_readType t
    rwa [htype] at hfault

theorem staysIn_readResult (t : Text) : (readResult t).StaysIn t := by
  unfold readResult
  split
  · exact List.suffix_rfl
  · exact List.suffix_cons 'V' _
  · exact (staysIn_readType t).map _

theorem staysIn_readMethod (t : Text) : (readMethod t).StaysIn t :=
  (staysIn_readOpening t).bind fun _ afterOpening =>
  (staysIn_readParams afterOpening).bind fun _ afterParams =>
  (staysIn_readResult afterParams).bind fun _ rest => (staysIn_expectEnd rest).map _

namespace Reader

theorem staysIn_reading (t : Text) (c : Call) : (reading t c).StaysIn t := by
  cases c with
  | type => exact (staysIn_readType t).map _
  | field => exact (staysIn_readField t).map _
  | method => exact (staysIn_readMethod t).map _

/-- What a call asks for stands where the reader is: a type at the front of the text, or a field or
    a method that takes up all of it. -/
def Finds (t : Text) : Call → Item → Prop
  | .type, .type type => type.descriptor <+: t
  | .field, .type type => t = type.descriptor
  | .method, .method m => m.Spelling t
  | _, _ => False

theorem exists_reading_eq_ok_iff {t : Text} {c : Call} {item : Item} :
    (∃ rest, reading t c = .ok item rest) ↔ Finds t c item := by
  constructor
  · rintro ⟨rest, h⟩
    cases c with
    | type =>
      obtain ⟨type, htype, rfl⟩ := Reading.map_eq_ok.1 h
      exact ⟨rest, (readType_eq_ok htype).symm⟩
    | field =>
      obtain ⟨type, htype, rfl⟩ := Reading.map_eq_ok.1 h
      exact (readField_eq_ok htype).1
    | method =>
      obtain ⟨m, hm, rfl⟩ := Reading.map_eq_ok.1 h
      exact (readMethod_eq_ok_iff.1 hm).1
  · intro h
    cases c with
    | type =>
      cases item with
      | type type =>
        obtain ⟨rest, rfl⟩ := h
        exact ⟨rest, by rw [reading, readType_append]; rfl⟩
      | method m => contradiction
    | field =>
      cases item with
      | type type =>
        obtain rfl := h
        exact ⟨[], by rw [reading, readField_descriptor]; rfl⟩
      | method m => contradiction
    | method =>
      cases item with
      | type type => contradiction
      | method m => exact ⟨[], by rw [reading, readMethod_eq_ok_iff.2 ⟨h, rfl⟩]; rfl⟩

theorem call_eq_ok_iff (r : Reader) (c : Call) (item : Item) :
    (r.call c).1 = .ok item ↔ Finds r.rest c item := by
  rw [← exists_reading_eq_ok_iff, call]
  cases hread : reading r.rest c with
  | ok found rest => simp [Reading.result, Except.map]
  | fault reason spot rest => simp [Reading.result, Except.map]

def Consistent (r : Reader) : Prop := r.rest <:+ r.descriptor

def run (r : Reader) (calls : List Call) : Reader := calls.foldl (fun r c => (r.call c).2) r

theorem run_append (r : Reader) (calls more : List Call) :
    r.run (calls ++ more) = (r.run calls).run more :=
  List.foldl_append

theorem rest_call_suffix (r : Reader) (c : Call) : (r.call c).2.rest <:+ r.rest :=
  (staysIn_reading r.rest c).rest_suffix

theorem consistent_start (d : Text) : (start d).Consistent := List.suffix_rfl

theorem descriptor_run (r : Reader) (calls : List Call) :
    (r.run calls).descriptor = r.descriptor := by
  induction calls generalizing r with
  | nil => rfl
  | cons c calls ih => exact ih (r.call c).2

theorem rest_run_suffix (r : Reader) (calls : List Call) : (r.run calls).rest <:+ r.rest := by
  induction calls generalizing r with
  | nil => exact List.suffix_rfl
  | cons c calls ih => exact (ih (r.call c).2).trans (r.rest_call_suffix c)

theorem Consistent.run {r : Reader} (h : r.Consistent) (calls : List Call) :
    (r.run calls).Consistent := by
  rw [Consistent, r.descriptor_run calls]
  exact (r.rest_run_suffix calls).trans h

theorem position_le_length (r : Reader) : r.position ≤ r.descriptor.length := Nat.sub_le _ _

theorem position_append (taken rest : Text) : position ⟨taken ++ rest, rest⟩ = taken.length := by
  simp [position]

theorem Consistent.exists_taken {r : Reader} (h : r.Consistent) :
    ∃ taken rest, r = ⟨taken ++ rest, rest⟩ := by
  obtain ⟨d, rest⟩ := r
  obtain ⟨taken, htaken⟩ := h
  exact ⟨taken, rest, congrArg (Reader.mk · rest) htaken.symm⟩

theorem Consistent.drop_position {r : Reader} (h : r.Consistent) :
    r.descriptor.drop r.position = r.rest := by
  obtain ⟨taken, rest, rfl⟩ := h.exists_taken
  rw [position_append, List.drop_left]

theorem position_le_run (r : Reader) (calls : List Call) :
    r.position ≤ (r.run calls).position := by
  have hlength := (r.rest_run_suffix calls).length_le
  rw [position, position, r.descriptor_run calls]
  omega

/-- What a call on a reader of `d` gives that moves it from position `p` to position `q`. -/
inductive Gives (d : Text) (p q : Nat) : Call → Except Fault Item → Prop
  | type {t : FieldType} (hmoves : p < q) (htaken : t.descriptor = (d.take q).drop p) :
    Gives d p q .type (.ok (.type t))
  | field {t : FieldType} (hend : q = d.length) (htaken : t.descriptor = d.drop p) :
    Gives d p q .field (.ok (.type t))
  | method {m : MethodType} (hend : q = d.length) (htaken : m.Spelling (d.drop p)) :
    Gives d p q .method (.ok (.method m))
  | fault {c : Call} {f : Fault} (hdescriptor : f.descriptor = d) (hbegan : p ≤ f.position)
    (hstopped : f.position ≤ q) : Gives d p q c (.error f)

theorem gives_of_reading_eq_ok (taken : Text) {t rest : Text} {c : Call} {item : Item}
    (h : reading t c = .ok item rest) :
    Gives (taken ++ t) taken.length ((taken ++ t).length - rest.length) c (.ok item) := by
  cases c with
  | type =>
    obtain ⟨type, htype, rfl⟩ := Reading.map_eq_ok.1 h
    obtain rfl := readType_eq_ok htype
    have hpositive := List.length_pos_iff.2 type.descriptor_ne_nil
    have hstop : (taken ++ (type.descriptor ++ rest)).length - rest.length =
        taken.length + type.descriptor.length := by
      simp only [List.length_append]
      omega
    rw [hstop]
    refine .type (by omega) ?_
    rw [List.take_length_add_append, List.take_left, List.drop_left]
  | field =>
    obtain ⟨type, htype, rfl⟩ := Reading.map_eq_ok.1 h
    obtain ⟨rfl, rfl⟩ := readField_eq_ok htype
    exact .field rfl List.drop_left.symm
  | method =>
    obtain ⟨m, hm, rfl⟩ := Reading.map_eq_ok.1 h
    obtain ⟨hspelling, rfl⟩ := readMethod_eq_ok_iff.1 hm
    exact .method rfl (by rwa [List.drop_left])

theorem gives_of_reading_eq_fault (taken : Text) {t spot rest : Text} {c : Call}
    {reason : Reason} (h : reading t c = .fault reason spot rest) :
    Gives (taken ++ t) taken.length ((taken ++ t).length - rest.length) c
      (.error (Fault.at (taken ++ t) reason spot)) := by
  have hstays := staysIn_reading t c
  rw [h] at hstays
  have hrest := hstays.1.length_le
  have hspot := hstays.2.length_le
  have hlength : (taken ++ t).length = taken.length + t.length := List.length_append
  refine .fault rfl ?_ ?_
  · change taken.length ≤ (taken ++ t).length - spot.length
    omega
  · change (taken ++ t).length - spot.length ≤ (taken ++ t).length - rest.length
    omega

theorem Consistent.gives {r : Reader} (h : r.Consistent) (c : Call) :
    Gives r.descriptor r.position (r.call c).2.position c (r.call c).1 := by
  obtain ⟨taken, t, rfl⟩ := h.exists_taken
  rw [position_append]
  cases hread : reading t c with
  | ok item rest =>
    have hgives := gives_of_reading_eq_ok taken hread
    rw [call, position, hread]
    exact hgives
  | fault reason spot rest =>
    have hgives := gives_of_reading_eq_fault taken hread
    rw [call, position, hread]
    exact hgives

end Reader

/-- After any calls a reader is at a place of its descriptor, which further calls never move back.
    The next call succeeds exactly if what it asks for stands at this place, and refuses no
    description that it cuts out. Either it takes a type, which moves it by the length of the
    descriptor of this type, or a field or method up to the end of the descriptor, or it fails with
    a fault placed between where it began and where it stopped. -/
theorem reader_stays_in_descriptor (d : Text) (calls : List Reader.Call) :
    let r := (Reader.start d).run calls
    (r.descriptor = d ∧ r.position ≤ d.length ∧ d.drop r.position = r.rest) ∧
    (∀ more, r.position ≤ ((Reader.start d).run (calls ++ more)).position) ∧
    ∀ c, Reader.building r.rest c = .ok (Reader.reading r.rest c) ∧
      (∀ item, (r.call c).1 = .ok item ↔ Reader.Finds (d.drop r.position) c item) ∧
      Reader.Gives d r.position (r.call c).2.position c (r.call c).1 := by
  intro r
  have hdescriptor : r.descriptor = d := (Reader.start d).descriptor_run calls
  have hconsistent : r.Consistent := (Reader.consistent_start d).run calls
  have hdrop : d.drop r.position = r.rest := hdescriptor ▸ hconsistent.drop_position
  refine ⟨⟨hdescriptor, ?_, hdrop⟩, fun more => ?_, fun c => ⟨Reader.building_eq r.rest c, ?_, ?_⟩⟩
  · have hposition := r.position_le_length
    rwa [hdescriptor] at hposition
  · rw [Reader.run_append]
    exact r.position_le_run more
  · rw [hdrop]
    exact r.call_eq_ok_iff c
  · have hgives := hconsistent.gives c
    rwa [hdescriptor] at hgives

/-- A class that is not ended stops a reader behind its letter, where the next call begins. -/
example :
    let r := (Reader.start "[LI".toList).run [.type]
    r.position = 2 ∧ (r.call .type).1 = .ok (.type (.base .int)) ∧
      (Reader.start "[LI".toList).call .type =
        (.error ⟨"[LI".toList, 1, .unterminatedClassName⟩, r) := by
  decide

end NativeLinkage.Descriptor
