import Scrobbler.Text.Width

/-!
Grids of text: cells in columns, with a ruled line above and below each row. A column is as wide as
its widest line, and a row as tall as its tallest cell.
-/

namespace Scrobbler.Grid

/-- The lines of a cell; there is always at least one. -/
def lines : List Char → List (List Char)
  | [] => [[]]
  | c :: rest =>
      if c = '\n' then [] :: lines rest
      else
        match lines rest with
        | [] => [[c]]
        | line :: others => (c :: line) :: others

/-- The width of a cell. -/
def cellWidth (cell : List (List Char)) : Nat :=
  (cell.map Text.width).foldl max 0

/-- The widths of the columns that two rows need together. -/
def widen : List Nat → List Nat → List Nat
  | a :: as, b :: bs => max a b :: widen as bs
  | [], bs => bs
  | as, [] => as

/-- The widths of the columns. -/
def columnWidths (rows : List (List (List (List Char)))) : List Nat :=
  rows.foldl (fun widths row => widen widths (row.map cellWidth)) []

/-- A ruled line. -/
def rule (widths : List Nat) : List Char :=
  '+' :: widths.flatMap fun width => List.replicate (width + 2) '-' ++ ['+']

/-- Text in a cell, with one space of padding at each side. -/
def padCell (width : Nat) (line : List Char) : List Char :=
  ' ' :: line ++ List.replicate (width - Text.width line) ' ' ++ [' ']

/-- One line of a row. -/
def rowLine (widths : List Nat) (cells : List (List (List Char))) (index : Nat) : List Char :=
  '|' :: (widths.zip cells).flatMap fun (width, cell) => padCell width (cell.getD index []) ++ ['|']

/-- The lines of a row. -/
def rowLines (widths : List Nat) (cells : List (List (List Char))) : List (List Char) :=
  let height := (cells.map List.length).foldl max 0
  (List.range height).map (rowLine widths cells)

/-- The lines of a grid. -/
def render (header : List String) (rows : List (List String)) : List String :=
  let cells := (header :: rows).map (·.map fun text => lines text.toList)
  let widths := columnWidths cells
  let body := cells.flatMap fun row => rowLines widths row ++ [rule widths]
  (rule widths :: body).map String.ofList

end Scrobbler.Grid
