/-!
# Slashes

An address is written without slashes at its end, so that a path can follow it.
-/

namespace TeamCalendar.Text

/-- Drops the slashes at the end of a text. -/
def dropEndSlashes (s : String) : String :=
  String.ofList ((s.toList.reverse.dropWhile (· = '/')).reverse)

end TeamCalendar.Text
