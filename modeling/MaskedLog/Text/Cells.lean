/-!
# Tables of double-byte cells

The East Asian codecs read a character from two bytes, a lead byte and a trail
byte, by looking up the *cell* they name in a table. A table covers a
rectangle of lead and trail bytes, row after row, and a cell may be empty.

Tables are written compactly, one text per row. A character from U+0080 on is
one cell holding that character; `!c` is one cell holding the ASCII character
`c`; `+n` is `n` cells holding the `n` characters that follow the last cell's,
one code point apart; `_n` is `n` empty cells. A row shorter than the table is
wide ends in empty cells.

* `expandCells` — the cells of a row's text, U+0000 marking an empty cell.
* `Grid`, `Grid.ofRows`, `Grid.get?` — a table and the cell of two bytes.

## References

The double-byte codecs of Python, with which Starlette decodes form fields in
the charset a form names (`multipart_summary` in `bodylog/content.py`).
-/

namespace MaskedLog.Text

/-- What the characters after a mark of a row's text add: a literal ASCII cell
(`!`), cells that follow the last (`+`), or empty cells (`_`), the count read
so far from the digits. -/
inductive CellMark where
  | literal
  | follow (count : Nat)
  | skip (count : Nat)
  deriving Repr, DecidableEq

/-- The cells a finished mark adds after `cells`, whose last cell holds the
code point `last`; with the code point of the new last cell. -/
def CellMark.close (cells : Array Char) (last : Nat) : Option CellMark → Array Char × Nat
  | some (.follow n) =>
    ((List.range n).foldl (fun acc i => acc.push (Char.ofNat (last + 1 + i))) cells, last + n)
  | some (.skip n) => (cells ++ Array.replicate n '\x00', last)
  | _ => (cells, last)

/-- The state after the character `c` when no count is being read: a mark
begins, or `c` is a cell. -/
def startCell (c : Char) (cells : Array Char) (last : Nat) : Array Char × Nat × Option CellMark :=
  if c = '!' then (cells, last, some .literal)
  else if c = '+' then (cells, last, some (.follow 0))
  else if c = '_' then (cells, last, some (.skip 0))
  else (cells.push c, c.toNat, none)

/-- The mark after the character `c`, if `c` is a digit of its count. -/
def CellMark.count : CellMark → Char → Option CellMark
  | .follow n, c => if c.isDigit then some (.follow (10 * n + (c.toNat - 48))) else none
  | .skip n, c => if c.isDigit then some (.skip (10 * n + (c.toNat - 48))) else none
  | .literal, _ => none

/-- Read the characters of a row's text after `cells`, with the code point
`last` of the last cell and the mark being read. -/
def expandFrom : List Char → Array Char → Nat → Option CellMark → Array Char
  | [], cells, last, mark => (CellMark.close cells last mark).1
  | c :: cs, cells, _, some .literal => expandFrom cs (cells.push c) c.toNat none
  | c :: cs, cells, last, mark =>
    match mark.bind (·.count c) with
    | some m => expandFrom cs cells last (some m)
    | none =>
      let (cells, last) := CellMark.close cells last mark
      let (cells, last, mark) := startCell c cells last
      expandFrom cs cells last mark

/-- The cells of a row's text, U+0000 marking an empty cell. -/
def expandCells (text : String) : Array Char := expandFrom text.toList #[] 0 none

/-- The first `width` cells of a row, filled up with empty cells. -/
def fitRow (width : Nat) (row : Array Char) : Array Char :=
  (row.extract 0 width) ++ Array.replicate (width - row.size) '\x00'

/-- A table of cells: the first lead and trail bytes it covers, the number of
trail bytes in a row, and the cells row after row, U+0000 marking an empty
cell. -/
structure Grid where
  leadLo : Nat
  trailLo : Nat
  width : Nat
  cells : Array Char

/-- The table of the rows' texts, the first row for the lead byte `leadLo`. -/
def Grid.ofRows (leadLo trailLo width : Nat) (rows : List String) : Grid :=
  ⟨leadLo, trailLo, width, rows.foldl (fun acc r => acc ++ fitRow width (expandCells r)) #[]⟩

/-- The character in the cell of a lead and a trail byte, if the table covers
the cell and it is not empty. -/
def Grid.get? (g : Grid) (lead trail : Nat) : Option Char :=
  if lead < g.leadLo || trail < g.trailLo || g.trailLo + g.width ≤ trail then none
  else
    let c := g.cells.getD ((lead - g.leadLo) * g.width + (trail - g.trailLo)) '\x00'
    if c = '\x00' then none else some c

end MaskedLog.Text
