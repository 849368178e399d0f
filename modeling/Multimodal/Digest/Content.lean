import Multimodal.Digest.Blake3
import Multimodal.Hexadecimal

/-! # Content hashes

* `ContentHash`: the 32 bytes that stand for some content; `ofBytes` and `ofText` hash it.
* `ContentHash.hex`, `ContentHash.short`: its written forms; `ContentHash.ofHex?` reads one.
* `littleEndian`: the bytes of a natural number, least significant first.
-/

namespace Multimodal

/-- The lowest `width` bytes of a number, least significant first. -/
def littleEndian : Nat → Nat → List UInt8
  | 0, _ => []
  | width + 1, n => n.toUInt8 :: littleEndian width (n / 256)

@[simp] theorem length_littleEndian (width n : Nat) : (littleEndian width n).length = width := by
  induction width generalizing n with
  | zero => rfl
  | succ width ih => simp [littleEndian, ih]

/-- The UTF-8 bytes of a text. -/
def utf8Bytes (s : String) : List UInt8 := s.toUTF8.toList

/-- The hash of some content. -/
structure ContentHash where
  bytes : Vector UInt8 32
  deriving DecidableEq, Repr

namespace ContentHash

/-- The hash whose bytes are all zero. -/
def zero : ContentHash := ⟨Vector.replicate 32 0⟩

/-- The hash of a byte string. -/
def ofBytes (bytes : List UInt8) : ContentHash := ⟨Blake3.hash bytes⟩

/-- The hash of the UTF-8 bytes of a text. -/
def ofText (s : String) : ContentHash := ofBytes (utf8Bytes s)

/-- The bytes as a list. -/
def toList (h : ContentHash) : List UInt8 := h.bytes.toList

@[simp] theorem length_toList (h : ContentHash) : h.toList.length = 32 := by simp [toList]

/-- All 64 hexadecimal digits. -/
def hex (h : ContentHash) : String := String.ofList (h.toList.flatMap hexOfByte)

/-- The hash that 64 hexadecimal digits stand for. -/
def ofHex? (s : String) : Option ContentHash := do
  let bytes ← hexBytes? s.toList
  if h : bytes.toArray.size = 32 then some ⟨⟨bytes.toArray, h⟩⟩ else none

/-- The first 16 hexadecimal digits. -/
def short (h : ContentHash) : String := String.ofList ((h.toList.take 8).flatMap hexOfByte)

end ContentHash

end Multimodal
