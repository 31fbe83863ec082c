import Mathlib.Order.Bounds.Defs
import NativeLinkage.Unicode.Encoding

set_option autoImplicit false

/-!
Decoding against encoding. Octets are well formed if they encode some text; decoding finds that text,
and otherwise stops at the end of the longest beginning that is well formed. The octets after the
first of a sequence carry six bits each, so that a sequence that has begun stands for the characters
whose leading bits it has read.
-/
namespace NativeLinkage.Unicode.Utf8

def WellFormed (octets : Octets) : Prop := ∃ t, encode t = octets

def place : Nat → Nat
  | 0 => 1
  | k + 1 => 0x40 * place k

/-- The octet of the sequence for the code point `n` that has `k` octets after it, if it is not the
    first. -/
def continuation (n k : Nat) : UInt8 := UInt8.ofNat (0x80 + n / place k % 0x40)

def continuations (n : Nat) : Nat → Octets
  | 0 => []
  | k + 1 => continuation n k :: continuations n k

@[simp] theorem length_continuations (n k : Nat) : (continuations n k).length = k := by
  induction k with
  | zero => rfl
  | succ k ih => rw [continuations, List.length_cons, ih]

theorem toNat_ofNat {n : Nat} (h : n < 0x100) : (UInt8.ofNat n).toNat = n := by
  rw [UInt8.toNat_ofNat', Nat.mod_eq_of_lt h]

theorem eq_ofNat {b : UInt8} {n : Nat} (h : b.toNat = n) : b = UInt8.ofNat n := by
  rw [← h, UInt8.ofNat_toNat]

theorem toNat_continuation (n k : Nat) : (continuation n k).toNat = 0x80 + n / place k % 0x40 :=
  toNat_ofNat (by omega)

theorem div_place_succ (n k : Nat) : n / place (k + 1) = n / place k / 0x40 := by
  rw [place, Nat.mul_comm, Nat.div_div_eq_div_mul]

section
variable {c : Char}

theorem encodeChar_one (h : c.toNat < 0x80) : encodeChar c = [UInt8.ofNat c.toNat] := by
  rw [encodeChar, if_pos h]

theorem encodeChar_two (hlow : 0x80 ≤ c.toNat) (h : c.toNat < 0x800) :
    encodeChar c = UInt8.ofNat (0xc0 + c.toNat / 0x40) :: continuations c.toNat 1 := by
  rw [encodeChar, if_neg (by omega), if_pos h]
  simp [continuations, continuation, place]

theorem encodeChar_three (hlow : 0x800 ≤ c.toNat) (h : c.toNat < 0x10000) :
    encodeChar c = UInt8.ofNat (0xe0 + c.toNat / 0x1000) :: continuations c.toNat 2 := by
  rw [encodeChar, if_neg (by omega), if_neg (by omega), if_pos h]
  simp [continuations, continuation, place]

theorem encodeChar_four (hlow : 0x10000 ≤ c.toNat) :
    encodeChar c = UInt8.ofNat (0xf0 + c.toNat / 0x40000) :: continuations c.toNat 3 := by
  rw [encodeChar, if_neg (by omega), if_neg (by omega), if_neg (by omega)]
  simp [continuations, continuation, place]

end

section
variable {b : UInt8} {p : Pending} {start : Nat} {rest : Octets}

theorem decodeFrom_ascii (h : b.toNat < 0x80) :
    decodeFrom start none (b :: rest) =
      (decodeFrom (start + 1) none rest).map (Char.ofNat b.toNat :: ·) := by
  rw [decodeFrom, if_pos h]

theorem decodeFrom_lead (h : 0x80 ≤ b.toNat) (hlead : Pending.ofLead? b = some p) :
    decodeFrom start none (b :: rest) = decodeFrom start (some p) rest := by
  rw [decodeFrom, if_neg (by omega), hlead]

theorem decodeFrom_stray (h : 0x80 ≤ b.toNat) (hlead : Pending.ofLead? b = none) :
    decodeFrom start none (b :: rest) = .error ⟨start, [b], .invalidStart⟩ := by
  rw [decodeFrom, if_neg (by omega), hlead]

theorem decodeFrom_last (h : p.admits b = true) (hmore : p.more = 0) :
    decodeFrom start (some p) (b :: rest) =
      (decodeFrom (start + p.octets.length + 1) none rest).map (Char.ofNat (p.bitsWith b) :: ·) := by
  rw [decodeFrom, if_pos h, hmore]

theorem decodeFrom_push {more : Nat} (h : p.admits b = true) (hmore : p.more = more + 1) :
    decodeFrom start (some p) (b :: rest) = decodeFrom start (some (p.push b more)) rest := by
  rw [decodeFrom, if_pos h, hmore]

theorem decodeFrom_refused (h : p.admits b = false) :
    decodeFrom start (some p) (b :: rest) =
      .error ⟨start, p.octets, .invalidContinuation⟩ := by
  rw [decodeFrom, if_neg (Bool.eq_false_iff.1 h)]

theorem Pending.admits_iff : p.admits b = true ↔ p.low ≤ b.toNat ∧ b.toNat ≤ p.high := by
  rw [admits, Bool.and_eq_true, decide_eq_true_iff, decide_eq_true_iff]

end

/-- The bits that were read and the bounds of the next octet fit the code point `n`. -/
structure Pending.Fits (p : Pending) (n : Nat) : Prop where
  bits : n / place (p.more + 1) = p.bits
  next : p.admits (continuation n p.more) = true

/-- What fits a sequence that has begun is encoded by it and the continuations. -/
structure Pending.Sound (p : Pending) : Prop where
  low : 0x80 ≤ p.low
  high : p.high ≤ 0xbf
  encodes : ∀ n, p.Fits n → ∃ c : Char, c.toNat = n ∧
    encodeChar c = p.octets ++ continuations n (p.more + 1)

namespace Pending

def two (b : UInt8) : Pending := ⟨[b], b.toNat - 0xc0, 0x80, 0xbf, 0⟩

/-- A sequence of three octets that begins with `b`; the bounds exclude overlong forms and
    surrogates. -/
def three (b : UInt8) : Pending :=
  ⟨[b], b.toNat - 0xe0, if b.toNat = 0xe0 then 0xa0 else 0x80,
    if b.toNat = 0xed then 0x9f else 0xbf, 1⟩

def four (b : UInt8) : Pending :=
  ⟨[b], b.toNat - 0xf0, if b.toNat = 0xf0 then 0x90 else 0x80,
    if b.toNat = 0xf4 then 0x8f else 0xbf, 2⟩

variable {b : UInt8}

theorem ofLead?_two (hlow : 0xc2 ≤ b.toNat) (hhigh : b.toNat < 0xe0) :
    ofLead? b = some (two b) := by
  rw [ofLead?, if_neg (by omega), if_pos hhigh, two]

theorem ofLead?_three (hlow : 0xe0 ≤ b.toNat) (hhigh : b.toNat < 0xf0) :
    ofLead? b = some (three b) := by
  rw [ofLead?, if_neg (by omega), if_neg (by omega)]
  by_cases hfirst : b.toNat = 0xe0
  · simp [three, hfirst]
  by_cases hsurrogate : b.toNat = 0xed
  · simp [three, hsurrogate]
  · simp [three, hfirst, hsurrogate, hhigh]

theorem ofLead?_four (hlow : 0xf0 ≤ b.toNat) (hhigh : b.toNat < 0xf5) :
    ofLead? b = some (four b) := by
  rw [ofLead?, if_neg (by omega), if_neg (by omega), if_neg (by omega), if_neg (by omega),
    if_neg (by omega)]
  by_cases hfirst : b.toNat = 0xf0
  · simp [four, hfirst]
  by_cases hlast : b.toNat = 0xf4
  · simp [four, hlast]
  · have hmiddle : b.toNat < 0xf4 := by omega
    simp [four, hfirst, hlast, hmiddle]

theorem ofLead?_eq_none (h : b.toNat < 0xc2 ∨ 0xf5 ≤ b.toNat) : ofLead? b = none := by
  rw [ofLead?]
  rcases h with h | h
  · rw [if_pos h]
  · rw [if_neg (by omega), if_neg (by omega), if_neg (by omega), if_neg (by omega),
      if_neg (by omega), if_neg (by omega), if_neg (by omega), if_neg (by omega)]

theorem fits_two {n : Nat} (hb : b.toNat = 0xc0 + n / 0x40) : (two b).Fits n := by
  refine ⟨?_, ?_⟩
  · simp only [two, hb, place]
    omega
  · simp only [two, admits_iff, toNat_continuation]
    omega

theorem fits_three {n : Nat} (hb : b.toNat = 0xe0 + n / 0x1000) (hlow : 0x800 ≤ n)
    (hsurrogate : n < 0xd800 ∨ 0xdfff < n) : (three b).Fits n := by
  refine ⟨?_, ?_⟩
  · simp only [three, hb, place]
    omega
  · simp only [three, admits_iff, toNat_continuation, hb, place]
    constructor <;> split <;> omega

theorem fits_four {n : Nat} (hb : b.toNat = 0xf0 + n / 0x40000) (hlow : 0x10000 ≤ n)
    (hhigh : n < 0x110000) : (four b).Fits n := by
  refine ⟨?_, ?_⟩
  · simp only [four, hb, place]
    omega
  · simp only [four, admits_iff, toNat_continuation, hb, place]
    constructor <;> split <;> omega

theorem sound_two (hlow : 0xc2 ≤ b.toNat) (hhigh : b.toNat < 0xe0) : (two b).Sound := by
  refine ⟨Nat.le_refl _, Nat.le_refl _, fun n hn => ?_⟩
  have hbits := hn.bits
  simp only [two, place] at hbits
  obtain ⟨c, rfl⟩ := exists_char (n := n) (by omega)
  refine ⟨c, rfl, ?_⟩
  rw [encodeChar_two (by omega) (by omega), ← eq_ofNat (b := b) (by omega)]
  rfl

theorem sound_three (hlow : 0xe0 ≤ b.toNat) (hhigh : b.toNat < 0xf0) : (three b).Sound := by
  refine ⟨?_, ?_, fun n hn => ?_⟩
  · simp only [three]
    split <;> omega
  · simp only [three]
    split <;> omega
  · have hbits := hn.bits
    have hnext := admits_iff.1 hn.next
    simp only [three, toNat_continuation, place] at hbits hnext
    have hrange : 0x800 ≤ n ∧ (n < 0xd800 ∨ 0xdfff < n ∧ n < 0x10000) := by
      obtain ⟨hnextLow, hnextHigh⟩ := hnext
      split at hnextLow <;> split at hnextHigh <;> omega
    obtain ⟨c, rfl⟩ := exists_char (n := n) (by omega)
    refine ⟨c, rfl, ?_⟩
    rw [encodeChar_three (by omega) (by omega), ← eq_ofNat (b := b) (by omega)]
    rfl

theorem sound_four (hlow : 0xf0 ≤ b.toNat) (hhigh : b.toNat < 0xf5) : (four b).Sound := by
  refine ⟨?_, ?_, fun n hn => ?_⟩
  · simp only [four]
    split <;> omega
  · simp only [four]
    split <;> omega
  · have hbits := hn.bits
    have hnext := admits_iff.1 hn.next
    simp only [four, toNat_continuation, place] at hbits hnext
    have hrange : 0x10000 ≤ n ∧ n < 0x110000 := by
      obtain ⟨hnextLow, hnextHigh⟩ := hnext
      split at hnextLow <;> split at hnextHigh <;> omega
    obtain ⟨c, rfl⟩ := exists_char (n := n) (by omega)
    refine ⟨c, rfl, ?_⟩
    rw [encodeChar_four (by omega), ← eq_ofNat (b := b) (by omega)]
    rfl

theorem sound_of_ofLead? {p : Pending} (h : ofLead? b = some p) : p.Sound ∧ p.octets = [b] := by
  by_cases hlead : b.toNat < 0xc2 ∨ 0xf5 ≤ b.toNat
  · rw [ofLead?_eq_none hlead] at h
    contradiction
  by_cases htwo : b.toNat < 0xe0
  · rw [ofLead?_two (by omega) htwo] at h
    cases h
    exact ⟨sound_two (by omega) htwo, rfl⟩
  by_cases hthree : b.toNat < 0xf0
  · rw [ofLead?_three (by omega) hthree] at h
    cases h
    exact ⟨sound_three (by omega) hthree, rfl⟩
  · rw [ofLead?_four (by omega) (by omega)] at h
    cases h
    exact ⟨sound_four (by omega) (by omega), rfl⟩

end Pending

theorem exists_lead {c : Char} (h : 0x80 ≤ c.toNat) :
    ∃ b p, Pending.ofLead? b = some p ∧ 0x80 ≤ b.toNat ∧ p.octets = [b] ∧ p.Fits c.toNat ∧
      encodeChar c = b :: continuations c.toNat (p.more + 1) := by
  have hvalid := toNat_valid c
  by_cases htwo : c.toNat < 0x800
  · have hb := toNat_ofNat (n := 0xc0 + c.toNat / 0x40) (by omega)
    exact ⟨_, _, Pending.ofLead?_two (by omega) (by omega), by omega, rfl, Pending.fits_two hb,
      encodeChar_two h htwo⟩
  by_cases hthree : c.toNat < 0x10000
  · have hb := toNat_ofNat (n := 0xe0 + c.toNat / 0x1000) (by omega)
    exact ⟨_, _, Pending.ofLead?_three (by omega) (by omega), by omega, rfl,
      Pending.fits_three hb (by omega) (by omega), encodeChar_three (by omega) hthree⟩
  · have hb := toNat_ofNat (n := 0xf0 + c.toNat / 0x40000) (by omega)
    exact ⟨_, _, Pending.ofLead?_four (by omega) (by omega), by omega, rfl,
      Pending.fits_four hb (by omega) (by omega), encodeChar_four (by omega)⟩

section
variable {p : Pending} {b : UInt8} {n : Nat}

theorem Pending.fits_push_iff {more : Nat} (hmore : p.more = more + 1) (hb : 0x80 ≤ b.toNat)
    (hb' : b.toNat ≤ 0xbf) (h : p.admits b = true) :
    (p.push b more).Fits n ↔ p.Fits n ∧ continuation n p.more = b := by
  have hdiv := div_place_succ n (more + 1)
  have hcontinuation := toNat_continuation n p.more
  rw [hmore] at hcontinuation
  constructor
  · rintro ⟨hbits, -⟩
    change n / place (more + 1) = p.bits * 0x40 + (b.toNat - 0x80) at hbits
    have hnext : continuation n p.more = b := by
      rw [← UInt8.toNat_inj, hmore]
      omega
    refine ⟨⟨?_, hnext ▸ h⟩, hnext⟩
    rw [hmore]
    omega
  · rintro ⟨⟨hbits, -⟩, rfl⟩
    rw [hmore] at hbits ⊢
    refine ⟨?_, ?_⟩
    · change n / place (more + 1) = p.bits * 0x40 + ((continuation n (more + 1)).toNat - 0x80)
      omega
    · rw [admits_iff, toNat_continuation]
      change 0x80 ≤ 0x80 + n / place more % 0x40 ∧ 0x80 + n / place more % 0x40 ≤ 0xbf
      omega

theorem Pending.bitsWith_eq_iff (hmore : p.more = 0) (hb : 0x80 ≤ b.toNat) (hb' : b.toNat ≤ 0xbf)
    (h : p.admits b = true) :
    p.bitsWith b = n ↔ p.Fits n ∧ continuation n p.more = b := by
  have hcontinuation := toNat_continuation n 0
  rw [place, Nat.div_one] at hcontinuation
  have hbitsWith : p.bitsWith b = p.bits * 0x40 + (b.toNat - 0x80) := rfl
  constructor
  · intro hn
    have hnext : continuation n p.more = b := by
      rw [← UInt8.toNat_inj, hmore]
      omega
    refine ⟨⟨?_, hnext ▸ h⟩, hnext⟩
    rw [hmore]
    change n / 0x40 = p.bits
    omega
  · rintro ⟨⟨hbits, -⟩, hnext⟩
    rw [hmore] at hbits hnext
    change n / 0x40 = p.bits at hbits
    rw [hnext] at hcontinuation
    omega

theorem decodeFrom_continuations {c : Char} (h : p.Fits c.toNat) (start : Nat) (rest : Octets) :
    decodeFrom start (some p) (continuations c.toNat (p.more + 1) ++ rest) =
      (decodeFrom (start + p.octets.length + (p.more + 1)) none rest).map (c :: ·) := by
  generalize hcount : p.more = k
  have hnext := h.next
  have hbounds := toNat_continuation c.toNat p.more
  induction k generalizing p with
  | zero =>
    have hchar := (Pending.bitsWith_eq_iff hcount (by omega) (by omega) hnext).2 ⟨h, rfl⟩
    rw [hcount] at hnext hchar
    rw [continuations, continuations, List.cons_append, decodeFrom_last hnext hcount, hchar,
      Char.ofNat_toNat]
    rfl
  | succ k ih =>
    have hfits := (Pending.fits_push_iff hcount (by omega) (by omega) hnext).2 ⟨h, rfl⟩
    have hlength :
        start + (p.octets.length + 1) + (k + 1) = start + p.octets.length + (k + 1 + 1) := by
      omega
    rw [hcount] at hnext hfits
    rw [continuations, List.cons_append, decodeFrom_push hnext hcount,
      ih hfits rfl hfits.next (toNat_continuation _ _), Pending.push, List.length_append,
      List.length_singleton, hlength]

theorem Pending.Sound.bounds (hp : p.Sound) (h : p.admits b = true) :
    0x80 ≤ b.toNat ∧ b.toNat ≤ 0xbf := by
  obtain ⟨hlow, hhigh⟩ := admits_iff.1 h
  exact ⟨Nat.le_trans hp.low hlow, Nat.le_trans hhigh hp.high⟩

theorem Pending.Sound.push (hp : p.Sound) {more : Nat} (hmore : p.more = more + 1)
    (h : p.admits b = true) : (p.push b more).Sound := by
  obtain ⟨hlow, hhigh⟩ := hp.bounds h
  refine ⟨Nat.le_refl _, Nat.le_refl _, fun n hn => ?_⟩
  obtain ⟨hfits, hnext⟩ := (fits_push_iff hmore hlow hhigh h).1 hn
  obtain ⟨c, hc, hencode⟩ := hp.encodes n hfits
  refine ⟨c, hc, ?_⟩
  rw [hencode, continuations, hnext, hmore, Pending.push, List.append_assoc, List.singleton_append]

theorem exists_char_of_sound (hp : p.Sound) (start : Nat) (octets : Octets) :
    (∃ c rest, p.octets ++ octets = encodeChar c ++ rest) ∨
      ∃ f, decodeFrom start (some p) octets = .error f ∧ f.start = start := by
  induction octets generalizing p with
  | nil => exact .inr ⟨_, by rw [decodeFrom], rfl⟩
  | cons b octets ih =>
    cases h : p.admits b with
    | false => exact .inr ⟨_, decodeFrom_refused h, rfl⟩
    | true =>
      cases hmore : p.more with
      | zero =>
        obtain ⟨hlow, hhigh⟩ := hp.bounds h
        obtain ⟨hfits, hnext⟩ := (Pending.bitsWith_eq_iff hmore hlow hhigh h).1 rfl
        obtain ⟨c, -, hencode⟩ := hp.encodes _ hfits
        refine .inl ⟨c, octets, ?_⟩
        rw [hencode, continuations, hnext, hmore, continuations, List.append_assoc,
          List.singleton_append]
      | succ more =>
        rw [decodeFrom_push h hmore]
        have hpush := ih (hp.push hmore h)
        rwa [Pending.push, List.append_assoc, List.singleton_append] at hpush

end

theorem decodeFrom_encodeChar_append (start : Nat) (c : Char) (rest : Octets) :
    decodeFrom start none (encodeChar c ++ rest) =
      (decodeFrom (start + (encodeChar c).length) none rest).map (c :: ·) := by
  by_cases h : c.toNat < 0x80
  · have hb : (UInt8.ofNat c.toNat).toNat = c.toNat := toNat_ofNat (by omega)
    rw [encodeChar_one h, List.singleton_append, decodeFrom_ascii (by omega), hb, Char.ofNat_toNat,
      List.length_singleton]
  · obtain ⟨b, p, hlead, hb, hoctets, hfits, hencode⟩ := exists_lead (c := c) (by omega)
    rw [hencode, List.cons_append, decodeFrom_lead hb hlead, decodeFrom_continuations hfits, hoctets,
      List.length_singleton, List.length_cons, length_continuations]
    congr 2
    omega

theorem decodeFrom_encode_append (start : Nat) (t : Text) (rest : Octets) :
    decodeFrom start none (encode t ++ rest) =
      (decodeFrom (start + (encode t).length) none rest).map (t ++ ·) := by
  induction t generalizing start with
  | nil =>
    rw [encode_nil, List.nil_append, List.length_nil, Nat.add_zero]
    cases decodeFrom start none rest <;> rfl
  | cons c t ih =>
    have hcons : encode (c :: t) = encodeChar c ++ encode t := List.flatMap_cons
    rw [hcons, List.append_assoc, decodeFrom_encodeChar_append, ih, List.length_append,
      Nat.add_assoc]
    cases decodeFrom (start + ((encodeChar c).length + (encode t).length)) none rest <;> rfl

theorem decode_encode (t : Text) : decode (encode t) = .ok t := by
  have h := decodeFrom_encode_append 0 t []
  rw [List.append_nil, decodeFrom] at h
  rw [decode, h]
  exact congrArg Except.ok (List.append_nil t)

/-- Octets begin with a character, or are faulty where they begin. -/
theorem exists_char_or_fault (start : Nat) (octets : Octets) :
    octets = [] ∨ (∃ c rest, octets = encodeChar c ++ rest) ∨
      ∃ f, decodeFrom start none octets = .error f ∧ f.start = start := by
  cases octets with
  | nil => exact .inl rfl
  | cons b rest =>
    right
    by_cases hascii : b.toNat < 0x80
    · obtain ⟨c, hc⟩ := exists_char (n := b.toNat) (by omega)
      refine .inl ⟨c, rest, ?_⟩
      rw [encodeChar_one (by omega), ← eq_ofNat hc.symm, List.singleton_append]
    · cases hlead : Pending.ofLead? b with
      | none => exact .inr ⟨_, decodeFrom_stray (by omega) hlead, rfl⟩
      | some p =>
        obtain ⟨hp, hoctets⟩ := Pending.sound_of_ofLead? hlead
        rw [decodeFrom_lead (by omega) hlead]
        have hchar := exists_char_of_sound hp start rest
        rwa [hoctets, List.singleton_append] at hchar

theorem exists_encode_append (start : Nat) (octets : Octets) :
    ∃ t rest, octets = encode t ++ rest ∧
      (rest = [] ∨ ∃ f, decodeFrom start none octets = .error f ∧
        f.start = start + (encode t).length) := by
  induction hlength : octets.length using Nat.strongRecOn generalizing start octets with
  | _ n ih =>
    rcases exists_char_or_fault start octets with rfl | ⟨c, rest, rfl⟩ | ⟨f, hf, hstart⟩
    · exact ⟨[], [], rfl, .inl rfl⟩
    · have hshorter : rest.length < n := by
        have := List.length_pos_iff.2 (encodeChar_ne_nil c)
        rw [List.length_append] at hlength
        omega
      obtain ⟨t, after, rfl, hafter⟩ := ih _ hshorter (start + (encodeChar c).length) rest rfl
      refine ⟨c :: t, after, (List.append_assoc _ _ _).symm, hafter.imp_right ?_⟩
      rintro ⟨f, hf, hstart⟩
      refine ⟨f, ?_, ?_⟩
      · rw [decodeFrom_encodeChar_append, hf]
        rfl
      · have hcons : (encode (c :: t)).length = (encodeChar c).length + (encode t).length :=
          List.length_append
        rw [hstart, hcons, Nat.add_assoc]
    · exact ⟨[], octets, rfl, .inr ⟨f, hf, hstart⟩⟩

theorem start_le_of_decodeFrom {start : Nat} {octets : Octets} {f : Fault}
    (h : decodeFrom start none octets = .error f) : start ≤ f.start := by
  obtain ⟨t, rest, rfl, rfl | ⟨found, hfound, hstart⟩⟩ := exists_encode_append start octets
  · rw [decodeFrom_encode_append, decodeFrom] at h
    contradiction
  · obtain rfl : found = f := Except.error.inj (hfound.symm.trans h)
    omega

theorem decode_eq_ok_iff {octets : Octets} {t : Text} :
    decode octets = .ok t ↔ encode t = octets := by
  constructor
  · intro h
    obtain ⟨found, rest, rfl, rfl | ⟨f, hf, -⟩⟩ := exists_encode_append 0 octets
    · rw [List.append_nil, decode_encode] at h
      rw [List.append_nil, Except.ok.inj h]
    · rw [decode, hf] at h
      contradiction
  · rintro rfl
    exact decode_encode t

theorem exists_fault_iff {octets : Octets} :
    (∃ f, decode octets = .error f) ↔ ¬ WellFormed octets := by
  constructor
  · rintro ⟨f, hf⟩ ⟨t, ht⟩
    rw [decode_eq_ok_iff.2 ht] at hf
    contradiction
  · intro hill
    cases h : decode octets with
    | ok t => exact absurd ⟨t, decode_eq_ok_iff.1 h⟩ hill
    | error f => exact ⟨f, rfl⟩

/-- A fault is at the end of the longest beginning that is well formed: what follows a longer one
    could only be at fault later. -/
theorem start_isGreatest {octets : Octets} {f : Fault} (h : decode octets = .error f) :
    IsGreatest {n | ∃ front, front <+: octets ∧ WellFormed front ∧ front.length = n} f.start := by
  constructor
  · obtain ⟨t, rest, rfl, rfl | ⟨found, hfound, hstart⟩⟩ := exists_encode_append 0 octets
    · rw [List.append_nil, decode_encode] at h
      contradiction
    · obtain rfl : found = f := Except.error.inj (hfound.symm.trans h)
      exact ⟨encode t, List.prefix_append _ _, ⟨t, rfl⟩, by omega⟩
  · rintro _ ⟨_, ⟨rest, rfl⟩, ⟨t, rfl⟩, rfl⟩
    rw [decode, decodeFrom_encode_append] at h
    cases hrest : decodeFrom (0 + (encode t).length) none rest with
    | ok after =>
      rw [hrest] at h
      contradiction
    | error found =>
      rw [hrest] at h
      obtain rfl := Except.error.inj h
      have := start_le_of_decodeFrom hrest
      omega

end NativeLinkage.Unicode.Utf8
