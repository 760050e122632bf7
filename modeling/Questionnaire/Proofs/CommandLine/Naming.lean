import Questionnaire.CommandLine.Naming
import Questionnaire.Proofs.Files.Path

/-! # Names of documents

Whatever a template shows becomes one ordinary name with the ending of a format
(`OutputFormat.isDocumentName_nameFrom`): it holds no slash of either kind, and the ending makes it
too long to be one of the names that lead nowhere or out of a folder. The ending of a known format
is the only part that a further naming takes off (`bareName_append_ending`), so a name that was made
for one format is as good as the text behind it when another format is wanted
(`OutputFormat.fileName_nameFrom`). -/

namespace Questionnaire

theorem Template.slashless_plainName (text : String) :
    '/' ∉ (plainName text).toList ∧ '\\' ∉ (plainName text).toList := by
  have hchar (c : Char) :
      (if c = '/' ∨ c = '\\' then '_' else c) ≠ '/' ∧
        (if c = '/' ∨ c = '\\' then '_' else c) ≠ '\\' := by
    split
    · decide
    · rename_i hslash
      exact not_or.mp hslash
  simp only [plainName, String.toList_ofList, List.mem_map, not_exists, not_and]
  exact ⟨fun c _ => (hchar c).1, fun c _ => (hchar c).2⟩

namespace CommandLine

/-! ### Endings -/

theorem dropEnding?_append (stem ending : List Char) :
    dropEnding? ending (stem ++ ending) = some stem := by
  simp [dropEnding?]

theorem append_of_dropEnding? {ending text stem : List Char}
    (h : dropEnding? ending text = some stem) : stem ++ ending = text := by
  unfold dropEnding? at h
  split at h
  · rename_i hending
    obtain ⟨front, rfl⟩ := List.isSuffixOf_iff_suffix.mp hending
    simpa [eq_comm] using h
  · cases h

/-- A text that ends like a JSON document does not end like a Markdown document. -/
theorem dropEnding?_markdown_append_json (stem : List Char) :
    dropEnding? OutputFormat.markdown.ending (stem ++ OutputFormat.json.ending) = none := by
  have hending : ¬ OutputFormat.markdown.ending <:+ stem ++ OutputFormat.json.ending := by
    rintro ⟨front, h⟩
    have := congrArg List.getLast? h
    simp [OutputFormat.ending] at this
  simpa [dropEnding?] using hending

theorem bareName_append_ending (format : OutputFormat) (stem : List Char) :
    bareName (stem ++ format.ending) = stem := by
  cases format with
  | markdown => simp [bareName, OutputFormat.ending, dropEnding?_append]
  | json =>
    have hmarkdown := dropEnding?_markdown_append_json stem
    simp only [OutputFormat.ending] at hmarkdown ⊢
    simp [bareName, hmarkdown, dropEnding?_append]

/-- Nothing but an ending is taken off. -/
theorem bareName_isPrefix (name : List Char) : bareName name <+: name := by
  fun_cases bareName name with
  | case1 stem hstem => exact ⟨_, append_of_dropEnding? hstem⟩
  | case2 =>
    cases hstem : dropEnding? ['.', 'j', 's', 'o', 'n'] name with
    | none => exact List.prefix_rfl
    | some stem => exact ⟨_, append_of_dropEnding? hstem⟩

namespace OutputFormat

theorem ending_spec (format : OutputFormat) :
    2 < format.ending.length ∧ '/' ∉ format.ending ∧ '\\' ∉ format.ending := by
  cases format <;> decide

/-! ### Names -/

/-- The name of a document, from what the template of its name shows. -/
def nameFrom (format : OutputFormat) (rendered : String) : String :=
  format.fileName (Template.plainName rendered)

/-- The name is one ordinary part of a path, with the ending of a format. -/
structure IsDocumentName (format : OutputFormat) (name : String) : Prop where
  ne_empty : name ≠ ""
  ne_here : name ≠ "."
  ne_outward : name ≠ ".."
  slashless : '/' ∉ name.toList
  backslashless : '\\' ∉ name.toList
  ending_isSuffix : format.ending <:+ name.toList

variable (format : OutputFormat)

theorem toList_fileName (name : String) :
    (format.fileName name).toList = bareName name.toList ++ format.ending :=
  String.toList_ofList

theorem fileName_fileName (other : OutputFormat) (name : String) :
    other.fileName (format.fileName name) = other.fileName name := by
  rw [fileName, toList_fileName, bareName_append_ending, fileName]

/-- **A name for one format becomes that for another.** -/
theorem fileName_nameFrom (other : OutputFormat) (rendered : String) :
    other.fileName (format.nameFrom rendered) = other.nameFrom rendered :=
  format.fileName_fileName other (Template.plainName rendered)

theorem not_mem_nameFrom {c : Char} {rendered : String}
    (hname : c ∉ (Template.plainName rendered).toList) (hending : c ∉ format.ending) :
    c ∉ (format.nameFrom rendered).toList := by
  rw [nameFrom, toList_fileName, List.mem_append, not_or]
  exact ⟨fun hc => hname ((bareName_isPrefix _).subset hc), hending⟩

theorem isName_nameFrom (rendered : String) : Path.IsName (format.nameFrom rendered) := by
  refine Path.isName_of_length ?_ ?_
  · exact format.not_mem_nameFrom (Template.slashless_plainName rendered).1 format.ending_spec.2.1
  · have := format.ending_spec.1
    rw [nameFrom, toList_fileName, List.length_append]
    omega

/-- **Whatever a template shows gives an ordinary name.** -/
theorem isDocumentName_nameFrom (rendered : String) :
    format.IsDocumentName (format.nameFrom rendered) := by
  have hname := format.isName_nameFrom rendered
  obtain ⟨hempty, hhere⟩ : format.nameFrom rendered ≠ "" ∧ format.nameFrom rendered ≠ "." := by
    simpa [Path.isIdle] using hname.not_idle
  refine ⟨hempty, hhere, hname.not_outward, hname.slashless, ?_, ?_⟩
  · exact format.not_mem_nameFrom (Template.slashless_plainName rendered).2 format.ending_spec.2.2
  · exact ⟨_, (format.toList_fileName _).symm⟩

example : markdown.nameFrom "../../etc/passwd" = ".._.._etc_passwd.md" := by decide +kernel

example : [markdown.nameFrom "", markdown.nameFrom "..", markdown.nameFrom ".json",
    json.nameFrom "a.md.json"] = [".md", "...md", ".md", "a.md.json"] := by decide +kernel

end OutputFormat

theorem documentName?_eq (format : OutputFormat) (template : String) (form : Form) :
    documentName? format template form =
      (Template.render? template (Template.formData form)).map format.nameFrom := by
  rw [documentName?, Template.outputFilename?, Option.map_map]
  rfl

end CommandLine

end Questionnaire
