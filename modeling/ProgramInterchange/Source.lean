/-!
# Places in source text

Positions, ranges and locations, and the comments around a declaration. A program tree and its record
share these types.
-/

namespace ProgramInterchange

/-- Line and column, both from zero. -/
structure Position where
  line : UInt32
  column : UInt32
  deriving DecidableEq, Repr, Inhabited

/-- From `start` to before `stop`. -/
structure Range where
  start : Position
  stop : Position
  deriving DecidableEq, Repr, Inhabited

/-- Where a declaration stands: its offset in the file, and the range of its name from there. -/
structure Location where
  offset : Position
  range : Range
  deriving DecidableEq, Repr

structure Comments where
  opening : List String
  closing : List String
  deriving DecidableEq, Repr, Inhabited

/-- Positions in reading order. -/
def Position.compare (a b : Position) : Ordering :=
  (Ord.compare a.line.toNat b.line.toNat).then (Ord.compare a.column.toNat b.column.toNat)

end ProgramInterchange
