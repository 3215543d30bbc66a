/-
A place in the text of an equation, and how a message points at it.
-/
import Reckon.Text

namespace Reckon

/-- The part of `source` from offset `start` up to `stop`. -/
structure Excerpt where
  source : Text
  start : Int
  stop : Int
deriving DecidableEq

namespace Excerpt

/-- The characters of the part. -/
def snippet (e : Excerpt) : Text := e.source.slice e.start e.stop

/-- The source with a row of carets under the part, both lines indented by two. -/
def display (e : Excerpt) : Text :=
  [' ', ' '] ++ e.source ++ ['\n', ' ', ' '] ++ List.replicate e.start.toNat ' ' ++
    List.replicate (max 1 (e.stop - e.start)).toNat '^'

end Excerpt
end Reckon
