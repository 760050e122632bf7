import Questionnaire.Text.CaseRanges

/-! # Lower case

`lower` maps every character to its lower case. Two characters need more than the table: the capital
I with a dot becomes two characters, and a capital sigma at the end of a word becomes the
final sigma. A sigma ends a word when a character with a case precedes it and none follows,
characters that case ignores being passed over in both directions. -/

namespace Questionnaire.Text

/-- The code point lies in one of the closed ranges. -/
def inRanges (ranges : List (Nat × Nat)) (n : Nat) : Bool :=
  ranges.any fun (first, last) => first ≤ n && n ≤ last

/-- The run lists the code point. -/
def LowerRun.holds (run : LowerRun) (n : Nat) : Bool :=
  run.first ≤ n && n ≤ run.last && (n - run.first) % run.step == 0

/-- The lower case of a character that has another character for it. -/
def lowerChar (c : Char) : Char :=
  match lowerRuns.find? (·.holds c.toNat) with
  | some run => Char.ofNat ((c.toNat : Int) + run.distance).toNat
  | none => c

/-- The first character that case does not ignore has a case. -/
def startsCased : List Char → Bool
  | [] => false
  | c :: cs =>
    if inRanges caseIgnorableRanges c.toNat then startsCased cs else inRanges casedRanges c.toNat

/-- The lower case of a text; `before` holds the characters that precede it, the last one first. -/
def lowerChars (before : List Char) : List Char → List Char
  | [] => []
  | c :: cs =>
    let lowered :=
      if c = 'Σ' then if startsCased before && !startsCased cs then ['ς'] else ['σ']
      else if c = 'İ' then ['i', '\u0307']
      else [lowerChar c]
    lowered ++ lowerChars (c :: before) cs

/-- The lower case of a string. -/
def lower (s : String) : String := String.ofList (lowerChars [] s.toList)

end Questionnaire.Text
