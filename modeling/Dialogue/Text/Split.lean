/-!
# Splitting text

Text is split at characters that pass a test; between two of them stands a part,
possibly an empty one.
-/

namespace Dialogue.Text

/-- The parts between separators, at least one. -/
def split (isSeparator : Char → Bool) : List Char → List (List Char)
  | [] => [[]]
  | char :: chars =>
      if isSeparator char then [] :: split isSeparator chars
      else
        match split isSeparator chars with
        | [] => [[char]]
        | part :: parts => (char :: part) :: parts

/-- What precedes the last separator, if there is one, and what follows it. -/
def cutLast (isSeparator : Char → Bool) (chars : List Char) : Option (List Char) × List Char :=
  match chars.reverse.span (!isSeparator ·) with
  | (after, []) => (none, after.reverse)
  | (after, _ :: before) => (some before.reverse, after.reverse)

end Dialogue.Text
