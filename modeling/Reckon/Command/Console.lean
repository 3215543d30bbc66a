/-
What commands print on.

Commands hand over text with markup in it, and tables of such text.  What a console makes of
markup is its own affair.  Text that may hold anything is escaped before it becomes a part of
the markup, and the console says how that is done, too.
-/
import Reckon.Text

namespace Reckon.Command

/-- A column: its heading, and whether its cells stand at the right side. -/
structure Column where
  heading : Text
  atRight : Bool

/-- A table: its title, its columns, and the cells of its rows, all of them with markup. -/
structure Table where
  title : Text
  columns : List Column
  rows : List (List Text)

/-- A console: how it keeps text from being read as markup, and all that it puts out for a line and for
a table. -/
structure Console where
  escape : Text → Text
  print : Text → Text
  table : Table → Text

end Reckon.Command
