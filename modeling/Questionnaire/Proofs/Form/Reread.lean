import Questionnaire.Proofs.Json.Reread
import Questionnaire.Service.Config

/-! # Forms that are read back

A form is handed to the service as text, twice wrapped: its JSON text is a string of the
configuration, which is JSON text itself. Every form comes back as it was from both
(`Form.ofText_compact`, `Service.loadForm_configText`), whatever its texts hold and whichever of its
references are set: the records are decoded field by field from what they are written as. -/

namespace Questionnaire

open Decode

/-! ### Levels -/

namespace Decode.Source

/-- So many more levels of lists and maps can be opened. -/
def HasRoom : Nat → Source → Prop
  | 0, _ => True
  | n + 1, source => ∃ inner, source.enter = .ok inner ∧ HasRoom n inner

theorem HasRoom.mono {m n : Nat} (hle : m ≤ n) {source : Source} (h : HasRoom n source) :
    HasRoom m source := by
  induction m generalizing n source with
  | zero => trivial
  | succ m ih =>
    obtain ⟨n, rfl⟩ : ∃ k, n = k + 1 := ⟨n - 1, by omega⟩
    obtain ⟨inner, henter, hinner⟩ := h
    exact ⟨inner, henter, ih (by omega) hinner⟩

theorem hasRoom_limited (encoding : Encoding) (n : Nat) : HasRoom n ⟨encoding, some n⟩ := by
  induction n with
  | zero => trivial
  | succ n ih => exact ⟨_, rfl, ih⟩

theorem hasRoom_unlimited (encoding : Encoding) (n : Nat) : HasRoom n ⟨encoding, none⟩ := by
  induction n with
  | zero => trivial
  | succ n ih => exact ⟨_, rfl, ih⟩

end Decode.Source

/-! ### Numbers and lists -/

theorem integerRange_toInt (n : Int64) : Number.IntegerRange n.toInt := by
  have hlow := Int64.le_toInt n
  have hhigh := Int64.toInt_lt n
  exact ⟨hlow, by omega⟩

theorem orderToJson_eq (n : Int64) :
    orderToJson n = .num (.integer n.toInt (integerRange_toInt n)) := by
  unfold orderToJson
  rw [Number.ofInt?_of_range (integerRange_toInt n)]
  rfl

theorem ofJson_orderToJson (n : Int64) : Wire.ofJson (orderToJson n) = .integer n.toInt := by
  rw [orderToJson_eq]
  rfl

theorem plain_orderToJson (n : Int64) {levels : Nat} : (orderToJson n).Plain levels := by
  rw [orderToJson_eq]
  exact .integer _ _

theorem int64_toInt (source : Source) (n : Int64) : int64 source (.integer n.toInt) = .ok n := by
  have hrange : -(1 <<< 63) ≤ n.toInt ∧ n.toInt ≤ 1 <<< 63 - 1 := by
    have hlow := Int64.le_toInt n
    have hhigh := Int64.toInt_lt n
    omega
  unfold int64 integer
  simp only [if_pos hrange]
  exact congrArg Except.ok (Int64.ofInt_toInt n)

section Lists
variable {α : Type} {decoder : Decoder α} {encode : α → Json}

theorem items_ofItems {source : Source} {xs : List α}
    (h : ∀ x ∈ xs, decoder source (.ofJson (encode x)) = .ok x) :
    items decoder source true (Wire.ofItems (xs.map encode)) = .ok xs := by
  induction xs with
  | nil => rfl
  | cons x xs ih =>
    rw [List.map_cons, Wire.ofItems, items, h x (by simp),
      ih fun y hy => h y (List.mem_cons_of_mem _ hy)]
    rfl

/-- A list is decoded when each of its elements is, one level further in. -/
theorem list_ofItems {n : Nat}
    (h : ∀ {inner : Source}, inner.HasRoom n → ∀ x, decoder inner (.ofJson (encode x)) = .ok x)
    {source : Source} (hroom : source.HasRoom (n + 1)) (xs : List α) :
    list decoder source (.list (Wire.ofItems (xs.map encode)) true) = .ok xs := by
  obtain ⟨inner, henter, hinner⟩ := hroom
  unfold list
  simp only [Wire.unwrapped, henter]
  exact items_ofItems fun x _ => h hinner x

end Lists

/-! ### Words and references -/

theorem decode_label (source : Source) (kind : QuestionKind) :
    QuestionKind.decode source (.text kind.label) = .ok kind := by
  obtain ⟨encoding, levels⟩ := source
  cases encoding <;> cases kind <;> rfl

theorem decode_action (source : Source) (action : RuleAction) :
    RuleAction.decode source (.text action.label) = .ok action := by
  cases action <;> rfl

theorem decode_reference (source : Source) (id : Option ItemId) :
    nullable ItemId.decode source (.ofJson (ItemId.nullableToJson id)) = .ok id := by
  cases id <;> rfl

/-! ### Records -/

section Records
variable {source : Source}

attribute [local simp] Shape.decode Shape.readEntries Shape.readEntry Shape.slot? Slot.of
  Wire.unwrapped Wire.ofJson Wire.ofMembers optionalMember ofJson_orderToJson
  int64_toInt ItemId.toJson ItemId.decode string Decode.text Decode.bool nullable need
  bind Except.bind pure Except.pure Functor.map Except.map

theorem Choice.decode_toJson (hroom : source.HasRoom 1) (c : Choice) :
    Choice.decode source (.ofJson c.toJson) = .ok c := by
  obtain ⟨inner, henter, -⟩ := hroom
  obtain ⟨⟨id⟩, text, value, orderIndex⟩ := c
  cases value <;> simp [Choice.decode, Choice.shape, Choice.toJson, henter]

theorem Question.decode_toJson (hroom : source.HasRoom 3) (q : Question) :
    Question.decode source (.ofJson q.toJson) = .ok q := by
  obtain ⟨inner, henter, hinner⟩ := hroom
  have hchoices := list_ofItems Choice.decode_toJson hinner
  obtain ⟨⟨id⟩, text, kind, parentId, orderIndex, required, allowMultiple, description,
    placeholder, options⟩ := q
  by_cases hoptions : options = []
  · subst hoptions
    cases parentId <;> cases description <;> cases placeholder <;>
      simp [Question.decode, Question.shape, Question.toJson, decode_label, henter]
  · have hempty : options.isEmpty = false := by simpa using hoptions
    cases parentId <;> cases description <;> cases placeholder <;>
      simp [Question.decode, Question.shape, Question.toJson, decode_label, henter, hchoices,
        hempty]

theorem Rule.decode_toJson (hroom : source.HasRoom 1) (r : Rule) :
    Rule.decode source (.ofJson r.toJson) = .ok r := by
  obtain ⟨inner, henter, -⟩ := hroom
  obtain ⟨⟨id⟩, target, trigger, option, action⟩ := r
  simp [Rule.decode, Rule.shape, Rule.toJson, decode_reference, decode_action, henter, -nullable]

/-- **A form is decoded from what it is written as.** -/
theorem Form.decode_toJson (hroom : source.HasRoom 5) (f : Form) :
    Form.decode source (.ofJson f.toJson) = .ok f := by
  obtain ⟨inner, henter, hinner⟩ := hroom
  have hquestions := list_ofItems Question.decode_toJson hinner
  have hrules := list_ofItems Rule.decode_toJson (hinner.mono (by decide))
  obtain ⟨⟨id⟩, title, description, questions, rules⟩ := f
  by_cases hempty : rules = []
  · subst hempty
    cases description <;> simp [Form.decode, Form.shape, Form.toJson, henter, hquestions]
  · have hempty : rules.isEmpty = false := by simpa using hempty
    cases description <;>
      simp [Form.decode, Form.shape, Form.toJson, henter, hquestions, hrules, hempty]

end Records

/-! ### The form as text -/

section Plain
variable {levels : Nat}

theorem plain_optionalMember {key : String} {text : Option String} {member : String × Json}
    (h : member ∈ optionalMember key text) : member.2.Plain levels := by
  cases text with
  | none => cases h
  | some s =>
    rw [List.mem_singleton.mp h]
    exact .str s

theorem length_optionalMember (key : String) (text : Option String) :
    (optionalMember key text).length ≤ 1 := by
  cases text <;> simp [optionalMember]

theorem plain_nullableToJson (id : Option ItemId) : (ItemId.nullableToJson id).Plain levels := by
  cases id with
  | none => exact .null
  | some id => exact .str id.text

theorem Choice.plain_toJson (c : Choice) : c.toJson.Plain 1 := by
  refine .obj ?_ fun member hmem => ?_
  · have hvalue := length_optionalMember "value" c.value
    simp only [List.length_append, List.length_cons, List.length_nil]
    omega
  · simp only [List.mem_append, List.mem_cons, List.not_mem_nil, or_false] at hmem
    rcases hmem with ((rfl | rfl) | hmem) | rfl
    · exact .str _
    · exact .str _
    · exact plain_optionalMember hmem
    · exact plain_orderToJson _

theorem Question.plain_toJson (q : Question) : q.toJson.Plain 3 := by
  refine .obj ?_ fun member hmem => ?_
  · have hparent := length_optionalMember "parentId" (q.parentId.map (·.text))
    have hdescription := length_optionalMember "description" q.description
    have hplaceholder := length_optionalMember "placeholder" q.placeholder
    simp only [List.length_append, List.length_cons, List.length_nil]
    split <;> simp only [List.length_cons, List.length_nil] <;> omega
  · simp only [List.mem_append, List.mem_cons, List.not_mem_nil, or_false] at hmem
    rcases hmem with (((((rfl | rfl | rfl) | hmem) | (rfl | rfl | rfl)) | hmem) | hmem) | hmem
    · exact .str _
    · exact .str _
    · exact .str _
    · exact plain_optionalMember hmem
    · exact plain_orderToJson _
    · exact .bool _
    · exact .bool _
    · exact plain_optionalMember hmem
    · exact plain_optionalMember hmem
    · split at hmem
      · cases hmem
      · rw [List.mem_singleton.mp hmem]
        exact .arr_map Choice.plain_toJson q.options

theorem Rule.plain_toJson (r : Rule) : r.toJson.Plain (levels + 1) := by
  refine .obj (by simp) fun member hmem => ?_
  simp only [List.mem_cons, List.not_mem_nil, or_false] at hmem
  rcases hmem with rfl | rfl | rfl | rfl | rfl
  · exact .str _
  · exact plain_nullableToJson _
  · exact plain_nullableToJson _
  · exact plain_nullableToJson _
  · exact .str _

theorem Form.plain_toJson (f : Form) : f.toJson.Plain 5 := by
  refine .obj ?_ fun member hmem => ?_
  · have hdescription := length_optionalMember "description" f.description
    simp only [List.length_append, List.length_cons, List.length_nil]
    split <;> simp only [List.length_cons, List.length_nil] <;> omega
  · simp only [List.mem_append, List.mem_cons, List.not_mem_nil, or_false] at hmem
    rcases hmem with (((rfl | rfl) | hmem) | rfl) | hmem
    · exact .str _
    · exact .str _
    · exact plain_optionalMember hmem
    · exact .arr_map Question.plain_toJson f.questions
    · split at hmem
      · cases hmem
      · rw [List.mem_singleton.mp hmem]
        exact .arr_map Rule.plain_toJson f.rules

end Plain

theorem Form.survives_toJson (f : Form) : f.toJson.Survives :=
  f.plain_toJson.all Number.survives_integer

/-- **A form comes back from its text as it was.** -/
theorem Form.ofText_compact (f : Form) : Form.ofText f.toJson.compact = .ok f := by
  have hread := f.decode_toJson ((Source.hasRoom_limited .jsonText 127).mono (by decide))
  unfold Form.ofText Decode.ofText
  rw [Wire.ofJsonText_of_survives f.survives_toJson]
  simp only [Source.jsonText, Source.textLevels, hread]
  rfl

namespace Service

theorem isAllBlank_compact_object (pairs : List (String × Json)) :
    Text.isAllBlank (Json.object pairs).compact = false := by
  unfold Text.isAllBlank Json.compact Json.object
  rw [String.toList_ofList, Json.compactChars]
  rfl

theorem Config.ofText_configText (f : Form) :
    Config.ofText (configText f) = .ok ⟨some f.toJson.compact, none⟩ := by
  have hfits : (Json.object [("form_spec_json", .str f.toJson.compact)]).Fits Number.Survives 1 :=
    .object fun pair hpair => by rw [List.mem_singleton.mp hpair]; exact .str _
  have hdecode : Config.shape.decode .jsonText
      (.ofJson (Json.object [("form_spec_json", .str f.toJson.compact)])) =
        .ok ⟨some f.toJson.compact, none⟩ := rfl
  unfold Config.ofText configText
  rw [isAllBlank_compact_object]
  simp only [Bool.false_eq_true, if_false]
  unfold Decode.ofText
  rw [Wire.ofJsonText_of_survives hfits.numbers]
  simp only [hdecode]
  rfl

/-- **The service has the form that its configuration was written for.** -/
theorem loadForm_configText (f : Form) : loadForm f.id.text (configText f) = .ok f := by
  have hform : Config.form ⟨some f.toJson.compact, none⟩ = .ok f := by
    unfold Config.form
    simp only [Form.ofText_compact]
    rfl
  unfold loadForm
  rw [Config.ofText_configText]
  simp only [bind, Except.bind, hform]
  exact if_pos trivial

end Service

end Questionnaire
