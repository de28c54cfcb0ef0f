/-!
# Cutting a text at separators

`splitWhere` cuts a text at every separator and drops the separators, so a text has one more piece
than separators and no piece holds one.
-/

namespace TexCompletion.Text

/-- The pieces of a text between the characters that satisfy `p`. -/
def splitWhere (p : Char → Bool) : List Char → List (List Char)
  | [] => [[]]
  | c :: cs =>
    if p c then [] :: splitWhere p cs
    else match splitWhere p cs with
      | [] => [[c]]
      | piece :: pieces => (c :: piece) :: pieces

end TexCompletion.Text
