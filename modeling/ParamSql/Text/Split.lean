/-!
# Splitting a text

The part of a text before a separator and the part after it.
-/

namespace ParamSql.Text

/-- What comes before the first character with a property, and what comes after that character, if
there is one. The character itself belongs to neither. -/
def splitAt? (p : Char → Bool) (cs : List Char) : List Char × Option (List Char) :=
  match cs.dropWhile (!p ·) with
  | [] => (cs, none)
  | _ :: rest => (cs.takeWhile (!p ·), some rest)

end ParamSql.Text
