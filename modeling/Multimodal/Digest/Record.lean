import Multimodal.Digest.Content

/-! # Hashed records

A record is a kind and some fields.  Every field is written with a fixed width or after its length,
so that neighbouring fields cannot be confused, and the kind comes first, so that records of
different kinds cannot be.

* `Field`, `Record`: what is hashed.
* `Record.bytes`: the bytes it is hashed as.
-/

namespace Multimodal

/-- One field of a record. -/
inductive Field
  | word (n : UInt32)
  | signed (n : Int32)
  | long (n : UInt64)
  | flag (b : Bool)
  | text (s : String)
  | words (ns : List UInt32)
  deriving DecidableEq, Repr

/-- A kind with the fields that belong to it. -/
structure Record where
  kind : String
  fields : List Field
  deriving DecidableEq, Repr

/-- The bytes of a text, after their number. -/
def textBytes (s : String) : List UInt8 :=
  littleEndian 8 (utf8Bytes s).length ++ utf8Bytes s

/-- The bytes of a field. -/
def Field.bytes : Field → List UInt8
  | word n => littleEndian 4 n.toNat
  | signed n => littleEndian 4 n.toUInt32.toNat
  | long n => littleEndian 8 n.toNat
  | flag b => [if b then 1 else 0]
  | text s => textBytes s
  | words ns => littleEndian 8 ns.length ++ ns.flatMap fun n => littleEndian 4 n.toNat

/-- The bytes of a record. -/
def Record.bytes (r : Record) : List UInt8 :=
  textBytes r.kind ++ r.fields.flatMap Field.bytes

/-- The hash of a record. -/
def Record.hash (r : Record) : ContentHash := ContentHash.ofBytes r.bytes

end Multimodal
