import Questionnaire.Text.Case
import Questionnaire.Text.LetterRanges

/-! # Letters and digits

Letters are what the alphabets of all scripts consist of, and digits are all signs for numbers. -/

namespace Questionnaire.Text

/-- The character is a letter or a digit of any script. -/
def isLetterOrDigit (c : Char) : Bool := inRanges letterRanges c.toNat

end Questionnaire.Text
