/-!
The lines of a text. There are two line structures: the pieces between line feeds, which are what is
assembled, and the lines that a report shows. They differ only at the end of the text, where a
report shows no piece behind a final line feed and keeps a final carriage return.
-/

namespace StackMachine.Text

/-- The piece without one carriage return at its end. -/
def dropReturn (piece : List Char) : List Char :=
  if piece.getLast? = some '\r' then piece.dropLast else piece

@[simp] theorem dropReturn_nil : dropReturn [] = [] :=
  rfl

@[simp] theorem dropReturn_append_return (piece : List Char) :
    dropReturn (piece ++ ['\r']) = piece := by
  simp [dropReturn]

theorem dropReturn_of_not_mem {piece : List Char} (h : '\r' ∉ piece) :
    dropReturn piece = piece := by
  rw [dropReturn, if_neg]
  exact fun hr => h (List.mem_of_getLast? hr)

/-- The lines of a source text as they are assembled. -/
def sourceLines (text : List Char) : List (List Char) :=
  (text.splitOn '\n').map dropReturn

/-- The lines of a text as a report shows them. -/
def shownLines (text : List Char) : List (List Char) :=
  let pieces := text.splitOn '\n'
  pieces.dropLast.map dropReturn ++ pieces.getLast?.toList.filter (· ≠ [])

example : sourceLines "a\r\nb\r".toList = [['a'], ['b']] := by cbv
example : shownLines "a\r\nb\r".toList = [['a'], ['b', '\r']] := by cbv
example : sourceLines "a\n".toList = [['a'], []] := by cbv
example : shownLines "a\n".toList = [['a']] := by cbv

/-- The rows, each ended by a line feed. -/
def unlines (rows : List String) : String :=
  String.join (rows.map (· ++ "\n"))

end StackMachine.Text
