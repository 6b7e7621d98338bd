/-!
# Lines

A line ends before a newline, and a return that stands right before the newline is part of the line
end. A text that is written out has a line end behind it.
-/

namespace RadioGossip

namespace Text

/-- The first line of a text that is written out. -/
def firstLine (text : String) : String :=
  let line := text.toList.takeWhile (· ≠ '\n')
  String.ofList (if line.getLast? = some '\r' then line.dropLast else line)

end Text

end RadioGossip
