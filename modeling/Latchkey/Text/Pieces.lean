/-
Lists of characters cut into pieces at a separator. There is always at least one piece, which may be
empty.
-/
namespace Latchkey.Text

/-- The pieces of a list between separators. -/
def splitAt (sep : Char) : List Char → List (List Char)
  | [] => [[]]
  | c :: rest =>
    if c = sep then [] :: splitAt sep rest
    else
      match splitAt sep rest with
      | [] => [[c]]
      | piece :: pieces => (c :: piece) :: pieces

end Latchkey.Text
