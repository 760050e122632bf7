import Questionnaire.Answers
import Std.Data.TreeMap

/-! # Option labels

The texts of options by option id, for a whole form: of options that share an id the last one
counts. An id that no option carries is its own label. -/

namespace Questionnaire

/-- Option texts by option id. -/
structure Labels where
  texts : Std.TreeMap String String

namespace Labels

/-- The labels of some options. -/
def ofChoices (choices : List Choice) : Labels :=
  ⟨choices.foldl (fun texts c => texts.insert c.id.text c.text) ∅⟩

/-- The labels of all options of a form. -/
def ofForm (form : Form) : Labels := ofChoices form.allOptions

/-- The label of an id, or the id itself. -/
def label (labels : Labels) (id : String) : String := labels.texts[id]?.getD id

/-- The label of an answer; null has an empty one. -/
def labelOf (labels : Labels) (value : Json) : String := (value.key?.map labels.label).getD ""

/-- An option carries the id. -/
def contains (labels : Labels) (id : String) : Bool := labels.texts.contains id

/-- The number of option ids. -/
def size (labels : Labels) : Nat := labels.texts.size

end Labels

end Questionnaire
