import Switchyard.Text.Split

/-!
# Paths and prefixes

How a request path is cut into segments, and how patterns are put under a prefix. Repeated slashes
count as one; a slash at the end is kept as a last, empty segment.
-/

namespace Switchyard

/-- The segments of a request path. The root has none. -/
def splitPath (path : String) : List String :=
  let segments := (Text.pieces '/' path.toList).filter (· ≠ [])
  let last := if segments ≠ [] && path.toList.getLast? == some '/' then [""] else []
  segments.map String.ofList ++ last

/-- A pattern under a prefix. A bare slash stands for the prefix itself. -/
def nestUnder (stem pattern : String) : String :=
  if stem = "" then pattern
  else if pattern = "" ∨ pattern = "/" then stem
  else
    String.ofList
      (Text.dropEndWhile (· == '/') stem.toList ++ '/' :: pattern.toList.dropWhile (· == '/'))

end Switchyard
