/-! What stands in front of the lines that are typed in. -/

namespace Guion.Editor.Prompt

/-- In front of every line. -/
def left : String := "lpp"

/-- At the right end of every line. -/
def right : String := ""

/-- Behind the left part on the first line of an input. -/
def indicator : String := " >> "

/-- In front of the further lines of an input. -/
def continuation : String := "  .. "

/-- While the history is searched for a term, without success if the search is `failing`. -/
def search (failing : Bool) (term : String) : String :=
  let state := if failing then "failing " else ""
  s!"({state}reverse-search: {term}) "

end Guion.Editor.Prompt
