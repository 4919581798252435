/-!
# Lines

The records of a log file (`SPEC_FULL.md` §10.1) and the printed calls of a route plan (§10.5) stand
on lines.

* `lines`: the lines of a text, each without its end.
-/

namespace SplitTunnel.Text

/-- `line` without the carriage return at its end. -/
def withoutReturn (line : List Char) : List Char :=
  if line.getLast? = some '\r' then line.dropLast else line

/-- The lines of `text`. The last one may lack its end; of the others, an end may begin with a
carriage return. -/
def lines (text : List Char) : List (List Char) :=
  let parts := text.splitOn '\n'
  parts.dropLast.map withoutReturn ++ parts.getLast?.toList.filter (!·.isEmpty)

end SplitTunnel.Text
