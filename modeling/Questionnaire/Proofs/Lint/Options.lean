import Questionnaire.Proofs.Lint.Findings
import Questionnaire.Visibility.Rules

/-! # Findings about options

Lint takes an option to belong to one question, the last one of the form that offers it
(`lastOffering?`, `optionOwners_eq`). A rule that waits for an option is reported unless that
question is its trigger (`has_option_finding_iff`). So no rule is passed over whose trigger does not
offer the option it waits for; but one whose trigger offers it is reported all the same where a
question further down offers an option of that id too (`option_findings_tell_last_owner`). Such a
rule works as its author means it to (`working_rule_is_reported`). -/

namespace Questionnaire

variable {form : Form} {r : Rule}

/-- The finding is about the option that a rule waits for. -/
def Finding.isOption : Finding → Bool
  | .unknownOption _ _ | .optionMismatch _ _ _ _ => true
  | _ => false

/-- Lint finds a fault with the option that the rule waits for. -/
def Form.HasOptionFinding (form : Form) (r : Rule) : Prop :=
  ∃ f ∈ form.lint, f.rule? = some r ∧ f.isOption = true

namespace Form

/-! ### Who owns an option -/

/-- The last question that offers an option. -/
def lastOffering? (form : Form) (option : String) : Option Question :=
  form.questions.reverse.find? fun q => q.offers option

/-- What a map holds after the options of one more question have been put in. -/
theorem getElem?_foldl_options (q : Question) (key : String) (map : Std.TreeMap String String) :
    (q.options.foldl (fun map c => map.insert c.id.text q.id.text) map)[key]? =
      if q.offers key then some q.id.text else map[key]? := by
  rw [getElem?_foldl_insert (fun c : Choice => c.id.text) fun _ => q.id.text]
  cases hfind : q.options.reverse.find? fun c => c.id.text == key with
  | some c =>
    have hmem : c ∈ q.options := List.mem_reverse.mp (List.mem_of_find?_eq_some hfind)
    have hoffers : q.offers key = true := List.any_eq_true.mpr ⟨c, hmem, by
      simpa using List.find?_some hfind⟩
    rw [if_pos hoffers]
    rfl
  | none =>
    have hoffers : q.offers key = false := by
      rw [Question.offers, List.any_eq_false]
      exact fun c hc => List.find?_eq_none.mp hfind c (List.mem_reverse.mpr hc)
    rw [hoffers]
    rfl

/-- **An option belongs to the last question that offers it.** -/
theorem optionOwners_eq (form : Form) (key : String) :
    form.optionOwners[key]? = (form.lastOffering? key).map (·.id.text) := by
  have hfill : ∀ (questions : List Question) (map : Std.TreeMap String String),
      (questions.foldl (fun map q =>
          q.options.foldl (fun map c => map.insert c.id.text q.id.text) map) map)[key]? =
        ((questions.reverse.find? fun q => q.offers key).map (·.id.text)).or map[key]? := by
    intro questions
    induction questions with
    | nil => exact fun map => rfl
    | cons q questions ih =>
      intro map
      rw [List.foldl_cons, ih, List.reverse_cons, List.find?_append, getElem?_foldl_options]
      cases questions.reverse.find? fun q => q.offers key with
      | some later => rfl
      | none => by_cases hoffers : q.offers key = true <;> simp [hoffers]
  rw [optionOwners, hfill, Std.TreeMap.getElem?_emptyc, Option.or_none]
  rfl

theorem mem_of_lastOffering? {key : String} {q : Question} (h : form.lastOffering? key = some q) :
    q ∈ form.questions ∧ q.offers key = true :=
  ⟨List.mem_reverse.mp (List.mem_of_find?_eq_some h), by simpa using List.find?_some h⟩

theorem lastOffering?_eq_none_iff {key : String} :
    form.lastOffering? key = none ↔ ∀ q ∈ form.questions, q.offers key = false := by
  simp [lastOffering?]

/-- Behind a question that offers an option, the last one further down that offers it too. -/
theorem lastOffering?_of_offers {key : String} {before after : List Question} {q : Question}
    (hsplit : form.questions = before ++ q :: after) (hoffers : q.offers key = true) :
    form.lastOffering? key = some ((after.reverse.find? fun q => q.offers key).getD q) := by
  unfold lastOffering?
  rw [hsplit, List.reverse_append, List.reverse_cons, List.append_assoc, List.find?_append]
  cases after.reverse.find? fun q => q.offers key with
  | some later => rfl
  | none => simp [hoffers]

/-- No question further down has the id of a question. -/
theorem DistinctIds.ne_of_split (hids : form.DistinctIds) {before after : List Question}
    {q later : Question} (hsplit : form.questions = before ++ q :: after) (hlater : later ∈ after) :
    later.id ≠ q.id := by
  rw [DistinctIds, hsplit, List.map_append, List.map_cons, List.nodup_append] at hids
  obtain ⟨-, hnodup, -⟩ := hids
  intro hid
  exact (List.nodup_cons.mp hnodup).1 (List.mem_map.mpr ⟨later, hlater, hid⟩)

/-! ### When the option of a rule is reported -/

section Reported
variable {target trigger option : ItemId}

/-- What lint says of the option of a rule. -/
theorem eq_of_option_finding (parts : r.Names target trigger option) {f : Finding}
    (hfault : Fault form r f) (hoption : f.isOption = true) :
    (form.lastOffering? option.text = none ∧ f = .unknownOption r option) ∨
      ∃ owner, form.lastOffering? option.text = some owner ∧ owner.id ≠ trigger ∧
        f = .optionMismatch r option owner.id.text trigger := by
  cases hfault with
  | unknownOption parts' h =>
    obtain rfl := Option.some.inj (parts.option.symm.trans parts'.option)
    exact .inl ⟨lastOffering?_eq_none_iff.mpr h, rfl⟩
  | @optionMismatch _ _ _ owner parts' h hne =>
    obtain rfl := Option.some.inj (parts.option.symm.trans parts'.option)
    obtain rfl := Option.some.inj (parts.trigger.symm.trans parts'.trigger)
    rw [optionOwners_eq, Option.map_eq_some_iff] at h
    obtain ⟨q, hq, rfl⟩ := h
    exact .inr ⟨q, hq, fun hid => hne (congrArg ItemId.text hid), rfl⟩
  | _ => cases hoption

/-- **The option of a rule is reported unless it belongs to the trigger.** -/
theorem has_option_finding_iff (hr : r ∈ form.rules) (parts : r.Names target trigger option) :
    form.HasOptionFinding r ↔
      ∀ owner, form.lastOffering? option.text = some owner → owner.id ≠ trigger := by
  constructor
  · rintro ⟨f, hf, hrule, hoption⟩ owner howner
    obtain ⟨-, hfault⟩ := (mem_lint_iff hrule).mp hf
    rcases eq_of_option_finding parts hfault hoption with ⟨hnone, -⟩ | ⟨owner', howner', hne, -⟩
    · rw [hnone] at howner
      cases howner
    · rw [howner'] at howner
      obtain rfl := Option.some.inj howner
      exact hne
  · intro h
    cases howner : form.lastOffering? option.text with
    | none =>
      have hfault : Fault form r (.unknownOption r option) :=
        .unknownOption parts (lastOffering?_eq_none_iff.mp howner)
      exact ⟨_, (mem_lint_iff rfl).mpr ⟨hr, hfault⟩, rfl, rfl⟩
    | some owner =>
      have hlookup : form.optionOwners[option.text]? = some owner.id.text := by
        rw [optionOwners_eq, howner]
        rfl
      have hfault : Fault form r (.optionMismatch r option owner.id.text trigger) :=
        .optionMismatch parts hlookup fun hid => h owner howner (ItemId.ext hid)
      exact ⟨_, (mem_lint_iff rfl).mpr ⟨hr, hfault⟩, rfl, rfl⟩

end Reported

end Form

/-- **Lint passes over no option that the trigger of a rule does not offer, but reports one that it
offers where a question further down offers it too**, and for no other reason. -/
theorem option_findings_tell_last_owner (form : Form) (hids : form.DistinctIds) (r : Rule)
    (hr : r ∈ form.rules) (target trigger option : ItemId)
    (parts : r.Names target trigger option) :
    ((∀ q ∈ form.questions, q.id = trigger → q.offers option.text = false) →
      form.HasOptionFinding r) ∧
    ∀ before q after, form.questions = before ++ q :: after → q.id = trigger →
      q.offers option.text = true →
        (form.HasOptionFinding r ↔ ∃ later ∈ after, later.offers option.text = true) := by
  have hreported := Form.has_option_finding_iff hr parts
  refine ⟨fun hnone => ?_, fun before q after hsplit hid hoffers => ?_⟩
  · rw [hreported]
    intro owner howner hid
    obtain ⟨hmem, hoffers⟩ := Form.mem_of_lastOffering? howner
    rw [hnone owner hmem hid] at hoffers
    cases hoffers
  · rw [hreported, Form.lastOffering?_of_offers hsplit hoffers]
    cases hlater : after.reverse.find? fun q => q.offers option.text with
    | none =>
      have hafter : ∀ later ∈ after, later.offers option.text = false := by simpa using hlater
      constructor
      · exact fun h => absurd hid (h q rfl)
      · rintro ⟨later, hmem, hoffersLater⟩
        rw [hafter later hmem] at hoffersLater
        cases hoffersLater
    | some later =>
      have hmem : later ∈ after := List.mem_reverse.mp (List.mem_of_find?_eq_some hlater)
      have hne : later.id ≠ trigger := hid ▸ hids.ne_of_split hsplit hmem
      constructor
      · exact fun _ => ⟨later, hmem, by simpa using List.find?_some hlater⟩
      · rintro - owner howner
        obtain rfl := Option.some.inj howner
        exact hne

/-! ### Options of one id -/

/-- The answers to a question that is asked with yes or no. -/
def yesOrNo : List Choice := [⟨⟨"1"⟩, "Yes", none, 0⟩, ⟨⟨"0"⟩, "No", none, 1⟩]

/-- The number of packs is asked of a smoker. -/
def packsRule : Rule := ⟨⟨"r"⟩, some ⟨"packs"⟩, some ⟨"smoker"⟩, some ⟨"1"⟩, .makeVisible⟩

/-- The make of the car is asked of a driver. -/
def carRule : Rule := ⟨⟨"s"⟩, some ⟨"car"⟩, some ⟨"driver"⟩, some ⟨"1"⟩, .makeVisible⟩

/-- A form in which two questions are asked with yes or no. -/
def habitsForm : Form :=
  ⟨⟨"f"⟩, "Habits", none,
    [⟨⟨"smoker"⟩, "Smoker", .multipleChoice, none, 0, true, false, none, none, yesOrNo⟩,
      ⟨⟨"driver"⟩, "Driver", .multipleChoice, none, 1, true, false, none, none, yesOrNo⟩,
      ⟨⟨"packs"⟩, "Packs a day", .number, none, 2, true, false, none, none, []⟩,
      ⟨⟨"car"⟩, "Make of the car", .freeText, none, 3, true, false, none, none, []⟩],
    [packsRule, carRule]⟩

/-- Of the two rules lint reports the one whose trigger comes first. -/
theorem option_findings_tell_last_owner_habits :
    habitsForm.DistinctIds ∧ packsRule ∈ habitsForm.rules ∧ carRule ∈ habitsForm.rules ∧
      habitsForm.HasOptionFinding packsRule ∧ ¬ habitsForm.HasOptionFinding carRule := by
  have hids : habitsForm.DistinctIds := by decide
  have hpacks : packsRule ∈ habitsForm.rules := by decide
  have hcar : carRule ∈ habitsForm.rules := by decide
  obtain ⟨-, hsmoker⟩ := option_findings_tell_last_owner habitsForm hids packsRule hpacks
    ⟨"packs"⟩ ⟨"smoker"⟩ ⟨"1"⟩ ⟨rfl, rfl, rfl⟩
  obtain ⟨-, hdriver⟩ := option_findings_tell_last_owner habitsForm hids carRule hcar
    ⟨"car"⟩ ⟨"driver"⟩ ⟨"1"⟩ ⟨rfl, rfl, rfl⟩
  refine ⟨hids, hpacks, hcar, ?_, ?_⟩
  · exact (hsmoker [] _ _ rfl rfl (by decide)).mpr (by decide)
  · exact mt (hdriver [_] _ _ rfl rfl (by decide)).mp (by decide)

/-- **Lint reports a rule that works.** The smoker question offers the option, the answer shows the
number of packs, and lint takes the option for one of the driver question only. -/
theorem working_rule_is_reported :
    habitsForm.DistinctIds ∧
      packsRule.Names ⟨"packs"⟩ ⟨"smoker"⟩ ⟨"1"⟩ ∧
      (∃ q ∈ habitsForm.questions, q.id = ⟨"smoker"⟩ ∧ q.offers "1" = true) ∧
      .optionMismatch packsRule ⟨"1"⟩ "driver" ⟨"smoker"⟩ ∈ habitsForm.lint ∧
      ∃ q ∈ habitsForm.questions, q.id = ⟨"packs"⟩ ∧
        isVisible q habitsForm.rules ⟨[("smoker", .str "1")]⟩ = true ∧
        isVisible q habitsForm.rules ⟨[]⟩ = false := by
  refine ⟨by decide, ⟨rfl, rfl, rfl⟩, by decide, ?_, by decide⟩
  refine (Form.mem_lint_iff rfl).mpr ⟨by decide, .optionMismatch ⟨rfl, rfl, rfl⟩ ?_ (by decide)⟩
  rw [Form.optionOwners_eq]
  rfl

end Questionnaire
