/-!
# Keywords

A keyword is a word of ASCII characters that a header starts with or consists of. The case of its
letters does not matter; no other letter has a second form here.
-/

namespace TriggerScript.Text

/-- Whether two characters are the same ASCII letter in any case, or the same character. -/
def sameLetter (a b : Char) : Bool := a.toLower == b.toLower

def sameLetters : List Char → List Char → Bool
  | [], [] => true
  | a :: as, b :: bs => sameLetter a b && sameLetters as bs
  | _, _ => false

/-- Whether a text is the keyword. -/
def isKeyword (keyword text : String) : Bool := sameLetters keyword.toList text.toList

/-- What follows the keyword at the start of a text. -/
def afterKeywordChars? : List Char → List Char → Option (List Char)
  | [], rest => some rest
  | k :: ks, c :: cs => if sameLetter k c then afterKeywordChars? ks cs else none
  | _ :: _, [] => none

/-- What follows the keyword in a text that starts with it. -/
def afterKeyword? (keyword text : String) : Option String :=
  (afterKeywordChars? keyword.toList text.toList).map String.ofList

end TriggerScript.Text
