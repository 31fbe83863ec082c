import NativeLinkage.Text

set_option autoImplicit false

namespace NativeLinkage

namespace Unicode

theorem toNat_valid (c : Char) :
    c.toNat < 0xd800 ∨ 0xdfff < c.toNat ∧ c.toNat < 0x110000 := by
  have h := c.valid
  simp only [UInt32.isValidChar, Nat.isValidChar] at h
  simpa only [Char.toNat] using h

theorem exists_char {n : Nat} (h : n < 0xd800 ∨ 0xdfff < n ∧ n < 0x110000) :
    ∃ c : Char, c.toNat = n :=
  ⟨Char.ofNatAux n h, rfl⟩

/-- A character, or a surrogate that stands alone. -/
inductive CodePoint
  | scalar (c : Char)
  | surrogate (offset : Fin 0x800)
  deriving DecidableEq, Repr

namespace CodePoint

def toNat : CodePoint → Nat
  | scalar c => c.toNat
  | surrogate offset => 0xd800 + offset.val

def ofNat? (n : Nat) : Option CodePoint :=
  if h : 0xd800 ≤ n ∧ n < 0xe000 then some (surrogate ⟨n - 0xd800, by omega⟩)
  else if h : n.isValidChar then some (scalar (Char.ofNatAux n h))
  else none

end CodePoint

/-- The UTF-16 units of the code point `n`. -/
def units (n : Nat) : List Nat :=
  if n < 0x10000 then [n]
  else [0xd800 + (n - 0x10000) / 0x400, 0xdc00 + (n - 0x10000) % 0x400]

theorem units_of_lt {n : Nat} (h : n < 0x10000) : units n = [n] := by
  simp [units, h]

theorem units_lt {n u : Nat} (hn : n < 0x110000) (h : u ∈ units n) : u < 0x10000 := by
  unfold units at h
  split at h
  · simp only [List.mem_singleton] at h
    omega
  · simp only [List.mem_cons, List.not_mem_nil, or_false] at h
    omega

example : units 0x1f600 = [0xd83d, 0xde00] := by decide

end Unicode

namespace Unicode.Utf8

def encodeChar (c : Char) : Octets :=
  let n := c.toNat
  if n < 0x80 then [UInt8.ofNat n]
  else if n < 0x800 then [UInt8.ofNat (0xc0 + n / 0x40), UInt8.ofNat (0x80 + n % 0x40)]
  else if n < 0x10000 then
    [UInt8.ofNat (0xe0 + n / 0x1000), UInt8.ofNat (0x80 + n / 0x40 % 0x40),
      UInt8.ofNat (0x80 + n % 0x40)]
  else
    [UInt8.ofNat (0xf0 + n / 0x40000), UInt8.ofNat (0x80 + n / 0x1000 % 0x40),
      UInt8.ofNat (0x80 + n / 0x40 % 0x40), UInt8.ofNat (0x80 + n % 0x40)]

def encode (t : Text) : Octets := t.flatMap encodeChar

@[simp] theorem encode_nil : encode [] = [] := rfl

@[simp] theorem encode_append (s t : Text) : encode (s ++ t) = encode s ++ encode t := by
  simp [encode]

theorem encodeChar_ne_nil (c : Char) : encodeChar c ≠ [] := by
  unfold encodeChar
  dsimp only
  split
  · simp
  · split
    · simp
    · split <;> simp

inductive Defect
  | invalidStart
  | invalidContinuation
  | unexpectedEnd
  deriving DecidableEq, Repr

/-- The first ill-formed sequence: where it starts, and the octets of it that were read as a
    sequence before the defect showed. -/
structure Fault where
  start : Nat
  octets : Octets
  defect : Defect
  deriving DecidableEq, Repr

/-- A sequence that has begun: its octets, the bits they carry, the bounds of the next octet, and
    the number of octets after that one. -/
structure Pending where
  octets : Octets
  bits : Nat
  low : Nat
  high : Nat
  more : Nat

/-- The bounds of the second octet exclude overlong forms, surrogates and code points that are
    too large. -/
def Pending.ofLead? (b : UInt8) : Option Pending :=
  let n := b.toNat
  if n < 0xc2 then none
  else if n < 0xe0 then some ⟨[b], n - 0xc0, 0x80, 0xbf, 0⟩
  else if n = 0xe0 then some ⟨[b], 0x0, 0xa0, 0xbf, 1⟩
  else if n = 0xed then some ⟨[b], 0xd, 0x80, 0x9f, 1⟩
  else if n < 0xf0 then some ⟨[b], n - 0xe0, 0x80, 0xbf, 1⟩
  else if n = 0xf0 then some ⟨[b], 0x0, 0x90, 0xbf, 2⟩
  else if n < 0xf4 then some ⟨[b], n - 0xf0, 0x80, 0xbf, 2⟩
  else if n = 0xf4 then some ⟨[b], 0x4, 0x80, 0x8f, 2⟩
  else none

def Pending.admits (p : Pending) (b : UInt8) : Bool := p.low ≤ b.toNat && b.toNat ≤ p.high

def Pending.bitsWith (p : Pending) (b : UInt8) : Nat := p.bits * 0x40 + (b.toNat - 0x80)

def Pending.push (p : Pending) (b : UInt8) (more : Nat) : Pending :=
  ⟨p.octets ++ [b], p.bitsWith b, 0x80, 0xbf, more⟩

def decodeFrom : Nat → Option Pending → Octets → Except Fault Text
  | _, none, [] => .ok []
  | start, some p, [] => .error ⟨start, p.octets, .unexpectedEnd⟩
  | start, none, b :: rest =>
    if b.toNat < 0x80 then (decodeFrom (start + 1) none rest).map (Char.ofNat b.toNat :: ·)
    else match Pending.ofLead? b with
      | none => .error ⟨start, [b], .invalidStart⟩
      | some p => decodeFrom start (some p) rest
  | start, some p, b :: rest =>
    if p.admits b then
      match p.more with
      | 0 => (decodeFrom (start + p.octets.length + 1) none rest).map (Char.ofNat (p.bitsWith b) :: ·)
      | more + 1 => decodeFrom start (some (p.push b more)) rest
    else .error ⟨start, p.octets, .invalidContinuation⟩

def decode (octets : Octets) : Except Fault Text := decodeFrom 0 none octets

example : decode [0x49, 0xc3, 0xa9] = .ok ['I', 'é'] := rfl
example : decode [0x49, 0xe2, 0x82] = .error ⟨1, [0xe2, 0x82], .unexpectedEnd⟩ := rfl
example : decode [0xed, 0xa0, 0x80] = .error ⟨0, [0xed], .invalidContinuation⟩ := rfl

def Defect.message : Defect → Text
  | .invalidStart => "invalid start byte".toList
  | .invalidContinuation => "invalid continuation byte".toList
  | .unexpectedEnd => "unexpected end of data".toList

def Fault.place (f : Fault) : Text :=
  match f.octets with
  | [b] => "byte 0x".toList ++ Text.hex 2 b.toNat ++ " in position ".toList ++ Text.decimal f.start
  | octets =>
    "bytes in position ".toList ++ Text.decimal f.start ++ '-' ::
      Text.decimal (f.start + octets.length - 1)

def Fault.message (f : Fault) : Text :=
  "'utf-8' codec can't decode ".toList ++ f.place ++ ": ".toList ++ f.defect.message

end Unicode.Utf8

end NativeLinkage
