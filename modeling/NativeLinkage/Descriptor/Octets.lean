import NativeLinkage.Descriptor.Reader
import NativeLinkage.Unicode.Encoding

set_option autoImplicit false

namespace NativeLinkage

namespace Text

/-- Octets beyond ASCII are numbers, whatever character they would be. -/
def quotedOctet (quote : Char) (b : UInt8) : Text :=
  if b.toNat < 0x80 then quotedChar quote (Char.ofNat b.toNat) else numericEscape b.toNat

def quotedOctets (octets : Octets) : Text :=
  let holds (c : Char) := octets.contains (UInt8.ofNat c.toNat)
  let quote := quoteMark (holds singleQuote) (holds doubleQuote)
  'b' :: quote :: octets.flatMap (quotedOctet quote) ++ [quote]

example : quotedOctets [0x49, 0xff] = "b'I\\xff'".toList := by decide

end Text

namespace Descriptor
open Unicode

/-- Positions in the text count code points; only the fault of ill-formed octets counts octets. -/
def textOfOctets (octets : Octets) : Except Fault Text :=
  (Utf8.decode octets).mapError fun f => ⟨Text.quotedOctets octets, f.start, .invalidUtf8⟩

/-- The rest is encoded again, so that it continues the octets that were taken. -/
def readTypeOctets (octets : Octets) : Except Fault (FieldType × Octets) := do
  let descriptor ← textOfOctets octets
  let (type, rest) ← FieldType.read descriptor
  return (type, Utf8.encode rest)

def readFieldOctets (octets : Octets) : Except Fault FieldType := do
  FieldType.readWhole (← textOfOctets octets)

def readMethodOctets (octets : Octets) : Except Fault MethodType := do
  MethodType.read (← textOfOctets octets)

end Descriptor

end NativeLinkage
