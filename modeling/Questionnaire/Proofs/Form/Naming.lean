import Questionnaire.Proofs.Document.Labels
import Questionnaire.Proofs.Json.Reread

/-! # Options and the values that name them

The id of an option is read by one decoder, and an answer that names the option by another, which
keeps the value and takes its key later. They agree on texts and numbers: data that both of them
accept has the id as the key of its value (`key?_of_declaredBy`), whichever encoding it comes from
and whether an integer, a double or a text stands in it. So a value selects the very option that it
declares, and is labelled and checked as such (`declared_option_is_selected`). -/

namespace Questionnaire

open Decode

/-! ### The key of a declared id -/

/-- A value that can name an option: a text that is not empty, or a number. -/
inductive Json.NamesOption : Json → Prop
  | str {s : String} (h : s ≠ "") : NamesOption (.str s)
  | num (n : Number) : NamesOption (.num n)

/-- **The value declares the id**: data that is the value where any value is wanted is the id where
an id is wanted. -/
def ItemId.DeclaredBy (id : ItemId) (v : Json) : Prop :=
  ∃ (w : Wire) (source asId : Source), json source w = .ok v ∧ ItemId.decode asId w = .ok id

variable {v : Json} {id : ItemId}

theorem Json.NamesOption.isBlank_eq_false (h : v.NamesOption) : v.isBlank = false := by
  cases h with
  | str h => simpa [Json.isBlank] using h
  | num n => rfl

/-- A value in memory declares its key. -/
theorem decode_ofJson (h : v.NamesOption) {key : String} (hkey : v.key? = some key)
    (source : Source) : ItemId.decode source (.ofJson v) = .ok ⟨key⟩ := by
  cases h with
  | str h => cases hkey; rfl
  | num n =>
    cases hkey
    cases n with
    | integer n range => exact if_pos range
    | double x => rfl

/-- Data of any other kind is no id. -/
theorem bind_notAnId_ne (read : Except Refusal Json) :
    (read >>= fun _ => (.error .notAnId : Except Refusal ItemId)) ≠ .ok id := by
  intro h
  cases read <;> cases h

/-- **The value that declares an id has it as its key.** -/
theorem key?_of_declaredBy (h : id.DeclaredBy v) (hv : v.NamesOption) :
    v.key? = some id.text := by
  obtain ⟨w, source, asId, hjson, hid⟩ := h
  cases w with
  | text s =>
    cases hjson
    cases hid
    rfl
  | integer n =>
    rw [ItemId.decode] at hid
    split at hid
    · next range =>
      cases hid
      rw [json, Number.ofInt?_of_range range] at hjson
      cases hjson
      rfl
    · cases hid
  | double x =>
    cases hid
    cases hjson
    cases x with
    | finite x => rfl
    | infinite negative => cases hv
    | notANumber => cases hv
  | bytes bytes => cases hjson
  | _ => exact absurd hid (bind_notAnId_ne _)

/-! ### Answers that name an option -/

/-- The answer is the value, or a list that holds it. -/
def Json.Carries (a v : Json) : Prop := a = v ∨ ∃ items, a = .arr items ∧ v ∈ items

theorem Json.Carries.isBlank_eq_false {a : Json} (h : a.Carries v) (hv : v.NamesOption) :
    a.isBlank = false := by
  rcases h with rfl | ⟨items, rfl, hmem⟩
  · exact hv.isBlank_eq_false
  · exact List.isEmpty_eq_false_iff.mpr (List.ne_nil_of_mem hmem)

/-- The key of a value is among those of an answer that holds it. -/
theorem Json.Carries.mem_keysOf {a : Json} {key : String} (h : a.Carries v) (hv : v.NamesOption)
    (hkey : v.key? = some key) : key ∈ Answers.keysOf a := by
  rcases h with rfl | ⟨items, rfl, hmem⟩
  · cases hv <;> exact Option.mem_toList.mpr hkey
  · exact List.mem_filterMap.mpr ⟨v, hmem, hkey⟩

theorem selects_of_carries {answers : Answers} {q option : ItemId} {a : Json}
    (hanswer : answers.get? q = some a) (h : a.Carries v) (hv : v.NamesOption)
    (hoption : option.DeclaredBy v) : answers.selects q option = true := by
  have hgiven : answers.given? q = some a := by
    rw [Answers.given?, hanswer, Option.filter_some, h.isBlank_eq_false hv]
    rfl
  rw [Answers.selects, hgiven]
  exact List.contains_iff_mem.mpr (h.mem_keysOf hv (key?_of_declaredBy hoption hv))

/-! ### The check of such an answer -/

variable {q : Question}

theorem checkSelected_of_offers (hv : v.NamesOption) {key : String} (hkey : v.key? = some key)
    (hoffers : q.offers key = true) : q.checkSelected v = none := by
  cases hv with
  | str h =>
    cases hkey
    exact checkSelected_str hoffers
  | num n =>
    cases hkey
    rw [checkSelected_num, if_pos hoffers]

/-! ### The option of a value -/

theorem contains_of_labelOf {form : Form} {key : String} {c : Choice} (h : LabelOf form key c) :
    (Labels.ofForm form).contains key = true := by
  unfold Labels.contains Labels.ofForm Labels.ofChoices
  rw [Std.TreeMap.contains_eq_isSome_getElem?,
    getElem?_foldl_insert (fun c : Choice => c.id.text) (·.text), labelOf_iff.mp h]
  rfl

/-- **A value selects the option that it declares.** Let a multiple choice question have an option
whose id was read from a text that is not empty, or from a number. Then every answer that is this
value, or a list with it, selects every option id that was read from the value, in whatever
encoding. The labels of the form have the value's key, and the value reads as the text of an option
with that id. The check accepts the value, and reports it as unknown in no answer that carries
it. -/
theorem declared_option_is_selected {form : Form} {q : Question} {c : Choice} {v a : Json}
    (hq : q ∈ form.questions) (hkind : q.kind = .multipleChoice) (hc : c ∈ q.options)
    (hv : v.NamesOption) (hid : c.id.DeclaredBy v) (ha : a.Carries v) :
    v.key? = some c.id.text ∧
      (∀ source, ItemId.decode source (.ofJson v) = .ok c.id) ∧
      (∀ (answers : Answers) (option : ItemId), answers.get? q.id = some a →
        option.DeclaredBy v → answers.selects q.id option = true) ∧
      (Labels.ofForm form).contains c.id.text = true ∧
      (∃ o ∈ form.allOptions, o.id = c.id ∧ (Labels.ofForm form).labelOf v = o.text) ∧
      q.check v = none ∧ q.check a ≠ some (.unknownOption c.id.text) := by
  have hkey : v.key? = some c.id.text := key?_of_declaredBy hid hv
  have hoffers : q.offers c.id.text = true := Question.offers_iff.mpr ⟨c, hc, rfl⟩
  obtain ⟨o, ho⟩ := exists_labelOf hq hoffers
  refine ⟨hkey, decode_ofJson hv hkey, ?_, contains_of_labelOf ho, ⟨o, ?_, ?_, ?_⟩, ?_, ?_⟩
  · exact fun answers option hanswer hoption => selects_of_carries hanswer ha hv hoption
  · obtain ⟨before, after, hsplit, -⟩ := ho.last
    rw [hsplit]
    exact List.mem_append_right _ List.mem_cons_self
  · exact ItemId.ext ho.id_eq
  · rw [Labels.labelOf, hkey, Option.map_some, Option.getD_some, label_of_labelOf ho]
  · have hselected := checkSelected_of_offers hv hkey hoffers
    rw [check_choice hkind]
    cases hv <;> exact hselected
  · intro hunknown
    rw [offers_eq_false_of_check hkind hunknown] at hoffers
    cases hoffers

/-- The double just above the signed integers, as a value. -/
def aboveIntegers : Json := .num (.double ⟨false, 1 <<< 52, 11, by decide⟩)

/-- The option that this value declares. -/
def largestOption : Choice := ⟨⟨"9223372036854775807"⟩, "Largest", none, 1⟩

/-- A question that offers the option. -/
def boundQuestion : Question where
  id := ⟨"bound"⟩
  text := "Bound"
  kind := .multipleChoice
  parentId := none
  orderIndex := 0
  required := true
  allowMultiple := true
  description := none
  placeholder := none
  options := [⟨⟨"0"⟩, "None", none, 0⟩, largestOption]

/-- A form of this question only. -/
def boundForm : Form := ⟨⟨"bounds"⟩, "Bounds", none, [boundQuestion], []⟩

theorem declaredBy_aboveIntegers : largestOption.id.DeclaredBy aboveIntegers :=
  ⟨.ofJson aboveIntegers, .jsonText, .jsonText, rfl, rfl⟩

/-- The value stands in a list behind null and another option. -/
theorem declared_option_is_selected_above :
    aboveIntegers.key? = some largestOption.id.text ∧
      (∀ source, ItemId.decode source (.ofJson aboveIntegers) = .ok largestOption.id) ∧
      (∀ (answers : Answers) (option : ItemId),
        answers.get? ⟨"bound"⟩ = some (.arr [.null, .str "0", aboveIntegers]) →
        option.DeclaredBy aboveIntegers → answers.selects ⟨"bound"⟩ option = true) ∧
      (Labels.ofForm boundForm).contains largestOption.id.text = true ∧
      (∃ o ∈ boundForm.allOptions, o.id = largestOption.id ∧
        (Labels.ofForm boundForm).labelOf aboveIntegers = o.text) ∧
      boundQuestion.check aboveIntegers = none ∧
      boundQuestion.check (.arr [.null, .str "0", aboveIntegers]) ≠
        some (.unknownOption largestOption.id.text) := by
  have hq : boundQuestion ∈ boundForm.questions := List.mem_singleton_self _
  have hc : largestOption ∈ boundQuestion.options := by simp [boundQuestion]
  have hv : aboveIntegers.NamesOption := .num _
  have ha : (Json.arr [.null, .str "0", aboveIntegers]).Carries aboveIntegers :=
    .inr ⟨_, rfl, by simp⟩
  exact declared_option_is_selected hq rfl hc hv declaredBy_aboveIntegers ha

end Questionnaire
