/-!
# Lines of a text

A line ends with a line feed, and one carriage return right before the line feed belongs to the
end. What follows the last line feed is a line, kept whole, unless it is empty.

A text may also come in chunks of any size; `linesOfChunks` then holds back the line that has begun.

The definitions do not look into the units of the text, so they serve bytes and characters alike.
-/

namespace LinkVetting.Text

/-- A line without the one carriage return at its end. -/
def dropReturn [BEq α] (carriageReturn : α) (line : List α) : List α :=
  if line.getLast? == some carriageReturn then line.dropLast else line

/-- The lines of a text whose current line began with `begun`, last unit first. -/
def linesFrom [BEq α] (lineFeed carriageReturn : α) (begun : List α) : List α → List (List α)
  | [] => if begun.isEmpty then [] else [begun.reverse]
  | unit :: later =>
    if unit == lineFeed then
      dropReturn carriageReturn begun.reverse :: linesFrom lineFeed carriageReturn [] later
    else linesFrom lineFeed carriageReturn (unit :: begun) later

def lines [BEq α] (lineFeed carriageReturn : α) (text : List α) : List (List α) :=
  linesFrom lineFeed carriageReturn [] text

/-- The lines that a chunk ends, and the line that has begun after it, last unit first. -/
def feed [BEq α] (lineFeed carriageReturn : α) (begun : List α) :
    List α → List (List α) × List α
  | [] => ([], begun)
  | unit :: later =>
    if unit == lineFeed then
      let (ended, begun') := feed lineFeed carriageReturn [] later
      (dropReturn carriageReturn begun.reverse :: ended, begun')
    else feed lineFeed carriageReturn (unit :: begun) later

/-- The lines of a text that comes in chunks; `begun` is the line that has begun before them, last
unit first. -/
def linesOfChunks [BEq α] (lineFeed carriageReturn : α) (begun : List α) :
    List (List α) → List (List α)
  | [] => if begun.isEmpty then [] else [begun.reverse]
  | chunk :: later =>
    let (ended, begun) := feed lineFeed carriageReturn begun chunk
    ended ++ linesOfChunks lineFeed carriageReturn begun later

@[simp]
theorem lines_nil [BEq α] (lineFeed carriageReturn : α) :
    lines lineFeed carriageReturn [] = [] := rfl

end LinkVetting.Text
