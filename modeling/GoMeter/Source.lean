import GoMeter.Text.Infix
import GoMeter.Text.Utf8

/-!
# Source text as bytes

A source is a byte string. Every position in it is a byte offset; a row counts the line feeds before
an offset and a column the bytes since the last of them.

* `Source.text`: the text between two offsets.
* `Source.row`, `Source.column`: where an offset stands.
* `Source.contains`: whether some bytes occur in the source.
-/

namespace GoMeter

/-- The bytes of a source file. -/
structure Source where
  bytes : Array UInt8
  deriving Inhabited

namespace Source

/-- The bytes of a text in UTF-8. -/
def ofString (s : String) : Source := ⟨s.toUTF8.data⟩

/-- The number of bytes. -/
def size (src : Source) : Nat := src.bytes.size

/-- The bytes from `start` up to `stop`; none if `stop` is not after `start`. -/
def slice (src : Source) (start stop : Nat) : List UInt8 :=
  (src.bytes.extract start stop).toList

/-- The text from `start` up to `stop`. -/
def text (src : Source) (start stop : Nat) : String :=
  Utf8.decode (src.slice start stop)

/-- The byte that ends a line. -/
def lineFeed : UInt8 := 10

/-- The byte that may precede a line feed. -/
def carriageReturn : UInt8 := 13

/-- The number of line feeds before `offset`. -/
def row (src : Source) (offset : Nat) : Nat :=
  (src.slice 0 offset).count lineFeed

/-- The number of bytes between `offset` and the last line feed before it, or the start. -/
def column (src : Source) (offset : Nat) : Nat :=
  offset - (src.slice 0 offset).length +
    ((src.slice 0 offset).reverse.takeWhile (· != lineFeed)).length

/-- Whether the bytes of `needle` occur in the source as a run. -/
def contains (src : Source) (needle : String) : Bool :=
  occursIn needle.toUTF8.data.toList src.bytes.toList

/-- The first offset from `offset` on whose byte is not a carriage return. -/
def skipReturns (src : Source) (offset : Nat) : Nat :=
  offset + ((src.slice offset src.size).takeWhile (· == carriageReturn)).length

end Source

end GoMeter
