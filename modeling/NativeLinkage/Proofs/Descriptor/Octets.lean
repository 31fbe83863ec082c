import NativeLinkage.Descriptor.Octets
import NativeLinkage.Proofs.Descriptor.Inversion
import NativeLinkage.Proofs.Unicode.Utf8

set_option autoImplicit false

namespace NativeLinkage.Descriptor
open Unicode

theorem textOfOctets_encode (t : Text) : textOfOctets (Utf8.encode t) = .ok t := by
  rw [textOfOctets, Utf8.decode_encode]
  rfl

theorem encode_of_textOfOctets {octets : Octets} {t : Text} (h : textOfOctets octets = .ok t) :
    Utf8.encode t = octets := by
  apply Utf8.decode_eq_ok_iff.1
  rw [textOfOctets] at h
  cases hdecode : Utf8.decode octets with
  | ok found =>
    rw [hdecode] at h
    exact congrArg Except.ok (Except.ok.inj h)
  | error f =>
    rw [hdecode] at h
    contradiction

theorem textOfOctets_of_not_wellFormed {octets : Octets} (h : ¬ Utf8.WellFormed octets) :
    ∃ f, Utf8.decode octets = .error f ∧
      textOfOctets octets = .error ⟨Text.quotedOctets octets, f.start, .invalidUtf8⟩ := by
  obtain ⟨f, hf⟩ := Utf8.exists_fault_iff.2 h
  refine ⟨f, hf, ?_⟩
  rw [textOfOctets, hf]
  rfl

section
variable {octets : Octets}

theorem readTypeOctets_of_text {t : Text} (h : textOfOctets octets = .ok t) :
    readTypeOctets octets = (FieldType.read t).map (Prod.map id Utf8.encode) := by
  rw [readTypeOctets, h]
  change (FieldType.read t).bind _ = _
  cases FieldType.read t <;> rfl

theorem readMethodOctets_of_text {t : Text} (h : textOfOctets octets = .ok t) :
    readMethodOctets octets = MethodType.read t := by
  rw [readMethodOctets, h]
  rfl

theorem readTypeOctets_of_fault {fault : Fault} (h : textOfOctets octets = .error fault) :
    readTypeOctets octets = .error fault := by
  rw [readTypeOctets, h]
  rfl

theorem readMethodOctets_of_fault {fault : Fault} (h : textOfOctets octets = .error fault) :
    readMethodOctets octets = .error fault := by
  rw [readMethodOctets, h]
  rfl

theorem encode_descriptor_append {type : FieldType} {rest : Octets}
    (h : readTypeOctets octets = .ok (type, rest)) :
    Utf8.encode type.descriptor ++ rest = octets := by
  cases htext : textOfOctets octets with
  | error fault =>
    rw [readTypeOctets_of_fault htext] at h
    contradiction
  | ok t =>
    rw [readTypeOctets_of_text htext] at h
    cases hread : FieldType.read t with
    | error fault =>
      rw [hread] at h
      contradiction
    | ok found =>
      rw [hread] at h
      cases h
      have hsplit : t = found.1.descriptor ++ found.2 := FieldType.read_eq_ok_iff.1 hread
      rw [← encode_of_textOfOctets htext, hsplit, Utf8.encode_append]
      rfl

end

/-- The encoding of a text is read as the text itself: as the same type, with what is left of the
    text encoded, or with the same fault. Octets of which a type was taken are its descriptor,
    encoded, and what is left. Ill-formed octets are refused at the end of their longest well-formed
    beginning. -/
theorem octets_are_read_as_their_text :
    (∀ t : Text,
      readTypeOctets (Utf8.encode t) = (FieldType.read t).map (Prod.map id Utf8.encode) ∧
      readMethodOctets (Utf8.encode t) = MethodType.read t) ∧
    (∀ (octets : Octets) (type : FieldType) (rest : Octets),
      readTypeOctets octets = .ok (type, rest) → Utf8.encode type.descriptor ++ rest = octets) ∧
    ∀ octets : Octets, ¬ Utf8.WellFormed octets → ∃ fault,
      readTypeOctets octets = .error fault ∧ readMethodOctets octets = .error fault ∧
      fault.reason.message = "Invalid UTF-8".toList ∧
      IsGreatest {n | ∃ front, front <+: octets ∧ Utf8.WellFormed front ∧ front.length = n}
        fault.position := by
  refine ⟨fun t => ?_, fun octets type rest => encode_descriptor_append, fun octets hill => ?_⟩
  · have htext := textOfOctets_encode t
    exact ⟨readTypeOctets_of_text htext, readMethodOctets_of_text htext⟩
  · obtain ⟨f, hf, htext⟩ := textOfOctets_of_not_wellFormed hill
    exact ⟨_, readTypeOctets_of_fault htext, readMethodOctets_of_fault htext, rfl,
      Utf8.start_isGreatest hf⟩

/-- A name of two octets, and a surrogate after a type. -/
theorem surrogate_octets_are_refused :
    let name : ClassName := ⟨"é".toList, by decide, by decide⟩
    let surrogate : Octets := [0x49, 0xed, 0xa0, 0x80]
    readTypeOctets [0x4c, 0xc3, 0xa9, 0x3b, 0x49] = .ok (.object name, [0x49]) ∧
      Utf8.encode (FieldType.object name).descriptor ++ [0x49] = [0x4c, 0xc3, 0xa9, 0x3b, 0x49] ∧
      ¬ Utf8.WellFormed surrogate ∧ ∃ fault,
        readTypeOctets surrogate = .error fault ∧ readMethodOctets surrogate = .error fault ∧
        fault.position = 1 ∧
        IsGreatest {n | ∃ front, front <+: surrogate ∧ Utf8.WellFormed front ∧ front.length = n}
          1 := by
  intro name surrogate
  obtain ⟨-, htaken, hrefused⟩ := octets_are_read_as_their_text
  have hread : FieldType.read "Lé;I".toList = .ok (.object name, ['I']) :=
    FieldType.read_eq_ok_iff.2 (by decide)
  have hname : readTypeOctets [0x4c, 0xc3, 0xa9, 0x3b, 0x49] = .ok (.object name, [0x49]) := by
    have htext := textOfOctets_encode "Lé;I".toList
    rw [show Utf8.encode "Lé;I".toList = [0x4c, 0xc3, 0xa9, 0x3b, 0x49] by decide] at htext
    rw [readTypeOctets_of_text htext, hread]
    rfl
  have hill : ¬ Utf8.WellFormed surrogate := Utf8.exists_fault_iff.1 ⟨_, rfl⟩
  obtain ⟨fault, htype, hmethod, -, hposition⟩ := hrefused surrogate hill
  have hone : readTypeOctets surrogate =
      .error ⟨Text.quotedOctets surrogate, 1, .invalidUtf8⟩ := rfl
  obtain rfl := Except.error.inj (hone.symm.trans htype)
  exact ⟨hname, htaken _ _ _ hname, hill, _, htype, hmethod, rfl, hposition⟩

end NativeLinkage.Descriptor
