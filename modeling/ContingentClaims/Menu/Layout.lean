import ContingentClaims.Menu.Catalog

/-!
# Geometry of the menu

The columns of a menu stand side by side, one for each expanded depth, with one
row for each entry. Coordinates are binary64 numbers.
-/

namespace ContingentClaims

/-- The size of the cells of a menu. -/
structure MenuLayout where
  columnWidth : Float := 160.0
  rowHeight : Float := 28.0

namespace MenuLayout

/-- The top left corner of the entry at a row of a column. -/
def position
    (layout : MenuLayout)
    (depth index : Nat) : Float × Float :=
  (Float.ofNat depth * layout.columnWidth, Float.ofNat index * layout.rowHeight)

/-- The cell number of a coordinate: rounded down, zero for a coordinate that is
no number, and the greatest 64-bit word for one that is too large. -/
def cell (coordinate size : Float) : Nat :=
  (coordinate / size).floor.toUInt64.toNat

/-- The column and the entry at a point. -/
def hitTest?
    (layout : MenuLayout)
    (columns : List (List MenuEntry))
    (x y : Float) : Option (Nat × MenuEntry) :=
  if x < 0.0 || y < 0.0 || layout.columnWidth ≤ 0.0 || layout.rowHeight ≤ 0.0 then
    none
  else do
    let depth := cell x layout.columnWidth
    let column <- columns[depth]?
    let entry <- column[cell y layout.rowHeight]?
    return (depth, entry)

end MenuLayout
end ContingentClaims
