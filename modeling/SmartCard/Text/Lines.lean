/-!
# Lines

A text is cut into lines at its line feeds. A carriage return right before a line feed belongs to
the end of the line, and what stands behind the last line feed is a line if it is not empty.
-/

set_option autoImplicit false
set_option relaxedAutoImplicit false

namespace SmartCard.Text

/-- A line without the carriage return at its end, if it has one there. -/
def withoutReturn (line : String) : String :=
  if line.toList.getLast? = some '\r' then String.ofList line.toList.dropLast else line

/-- The lines of a text. -/
def lines (text : String) : List String :=
  let pieces := text.splitOn "\n"
  pieces.dropLast.map withoutReturn ++ pieces.getLast?.toList.filter fun piece ↦ piece ≠ ""

end SmartCard.Text
