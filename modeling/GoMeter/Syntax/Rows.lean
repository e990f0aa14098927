import GoMeter.Syntax.Node

/-!
# Trees listed row by row

A tree may be handed over as a listing in pre-order, each row a label with its depth. The parent of a
row is the nearest earlier row that is one level up. Reading the listing from its end, the rows that
are deeper than the current one and directly follow it are its subtree.
-/

namespace GoMeter

/-- One row of a listing. -/
structure Row where
  depth : Nat
  label : Label

namespace Row

/-- Puts a row in front of the trees read so far: those that are deeper become its children. -/
def graft (row : Row) (pending : List (Nat × Node)) : List (Nat × Node) :=
  let deeper := pending.takeWhile fun p => row.depth < p.1
  let later := pending.dropWhile fun p => row.depth < p.1
  (row.depth, .mk row.label (deeper.map Prod.snd)) :: later

/-- The tree of a listing, with the first row as its root. -/
def tree? (rows : List Row) : Option Node :=
  (rows.foldr graft []).head?.map Prod.snd

end Row

end GoMeter
