import Questionnaire.Proofs.Interview.Exchange
import Questionnaire.Proofs.Json.Depth
import Questionnaire.Proofs.Visibility.Answering
import Questionnaire.Service.Session

/-! # A session of patches

A session hands the answers of each report back as text, and a text that cannot be read holds no
answers. What one step does is `sessionStep_eq`, what the replies of a whole session tell
`session_reply`: they tell of `carried` answers, which are all that was `gathered` as long as the
text of the answers can be read (`carried_eq_gathered`). That fails for answers that nest as deep as
can be read, since the object that holds them is one level more: such an answer is accepted, and the
next one takes all others away (`deep_answer_loses_all`). -/

namespace Questionnaire

namespace Answers

/-- **Answers arrive as they are** when they nest no deeper than is read. -/
theorem sent_of_depth_le {answers : Answers} {levels : Nat}
    (h : answers.toJson.Fits Number.Survives levels)
    (hdepth : answers.toJson.depth ≤ Decode.Source.textLevels) : answers.sent = answers := by
  unfold sent Service.readAnswers
  rw [Json.ofText_compact_of_survives h.numbers (h.tidy.of_depth_le hdepth)]
  rfl

/-- **None arrive** of those that nest deeper. -/
theorem sent_of_lt_depth {answers : Answers}
    (hdepth : Decode.Source.textLevels < answers.toJson.depth) : answers.sent = .empty := by
  unfold sent Service.readAnswers
  cases hread : Json.ofText answers.toJson.compact with
  | error e => rfl
  | ok value =>
    have hle := Json.depth_le_of_ofText_compact hread
    omega

theorem insert_comm (answers : Answers) {id id' : ItemId} (h : id ≠ id') (value value' : Json) :
    (answers.insert id value).insert id' value' = (answers.insert id' value').insert id value := by
  have htext : id.text ≠ id'.text := fun heq => h (ItemId.ext heq)
  unfold insert
  rw [Members.insert_comm htext]

end Answers

namespace Service

variable {formId config : String} {form : Form}

/-! ### One patch -/

/-- The value that a patch gives: its text is JSON, and its id names a question of the form. -/
def Patch.value? (patch : Patch) (form : Form) : Option Json :=
  if form.hasQuestion patch.questionId then (Json.ofText patch.value).toOption else none

/-- The answers with the value that the patch gives, if it gives any. -/
def Patch.record (form : Form) (answers : Answers) (patch : Patch) : Answers :=
  match patch.value? form with
  | some value => answers.insert ⟨patch.questionId⟩ value
  | none => answers

/-- The answers that there are after the patch: what it gives is put to those that can be read back,
and answers that nest too deeply cannot. -/
def Patch.carry (form : Form) (answers : Answers) (patch : Patch) : Answers :=
  match patch.value? form with
  | some value =>
    (if answers.toJson.depth ≤ Decode.Source.textLevels then answers else .empty).insert
      ⟨patch.questionId⟩ value
  | none => answers

section Gives
variable {patch : Patch} {value : Json}

theorem Patch.record_of_value? (h : patch.value? form = some value) (answers : Answers) :
    patch.record form answers = answers.insert ⟨patch.questionId⟩ value := by
  unfold record
  rw [h]

theorem Patch.record_of_none (h : patch.value? form = none) (answers : Answers) :
    patch.record form answers = answers := by
  unfold record
  rw [h]

theorem Patch.carry_of_value? (h : patch.value? form = some value) (answers : Answers) :
    patch.carry form answers =
      (if answers.toJson.depth ≤ Decode.Source.textLevels then answers else .empty).insert
        ⟨patch.questionId⟩ value := by
  unfold carry
  rw [h]

theorem Patch.carry_of_none (h : patch.value? form = none) (answers : Answers) :
    patch.carry form answers = answers := by
  unfold carry
  rw [h]

end Gives

/-- **The reply tells of the answers** when the patch gives a value, and of a failure otherwise. -/
def Patch.Replies (form : Form) (patch : Patch) (answers : Answers) : Reply Json → Prop
  | .ok report => (patch.value? form).isSome ∧ report = patchReport form answers
  | .error _ => patch.value? form = none

theorem answersAfter_patchReport (form : Form) (answers : Answers) :
    answersAfter (patchReport form answers) = answers.toJson.compact := by
  unfold answersAfter
  rw [field_patchReport]
  rfl

section Step
variable {patch : Patch}

theorem submitPatch_of_value (hload : loadForm formId config = .ok form) {value : Json}
    (h : patch.value? form = some value) (answers : String) :
    submitPatch formId config answers patch.questionId patch.value =
      .ok (patchReport form ((readAnswers answers).insert ⟨patch.questionId⟩ value)) := by
  unfold Patch.value? at h
  split at h
  · next hquestion =>
    obtain ⟨q, hfind⟩ := findQuestion_of_hasQuestion hquestion
    rw [submitPatch_eq hload, hfind, eq_ok_of_toOption h]
    rfl
  · cases h

theorem submitPatch_of_none (hload : loadForm formId config = .ok form)
    (h : patch.value? form = none) (answers : String) :
    ∃ e, submitPatch formId config answers patch.questionId patch.value = .error e := by
  rw [submitPatch_eq hload]
  unfold Patch.value? at h
  split at h
  · cases hfind : findQuestion form patch.questionId with
    | error e => exact ⟨e, rfl⟩
    | ok q =>
      cases hread : Json.ofText patch.value with
      | error e => exact ⟨_, rfl⟩
      | ok read => rw [hread] at h; cases h
  · next hquestion =>
    obtain ⟨e, hfind⟩ := findQuestion_of_not_hasQuestion (Bool.eq_false_iff.mpr hquestion)
    rw [hfind]
    exact ⟨e, rfl⟩

/-- **One step of a session.** -/
theorem sessionStep_eq (hload : loadForm formId config = .ok form) {answers : Answers}
    {levels : Nat} (hfits : answers.toJson.Fits Number.Survives levels) (patch : Patch) :
    ∃ reply, sessionStep formId config answers.toJson.compact patch =
        (reply, (patch.carry form answers).toJson.compact) ∧
      patch.Replies form (patch.carry form answers) reply := by
  unfold sessionStep
  cases hvalue : patch.value? form with
  | none =>
    obtain ⟨e, herror⟩ := submitPatch_of_none hload hvalue answers.toJson.compact
    simp only [herror, Patch.carry_of_none hvalue]
    exact ⟨_, rfl, hvalue⟩
  | some value =>
    have hread : readAnswers answers.toJson.compact =
        if answers.toJson.depth ≤ Decode.Source.textLevels then answers else .empty := by
      split
      · next hdepth => exact Answers.sent_of_depth_le hfits hdepth
      · next hdepth => exact Answers.sent_of_lt_depth (Nat.lt_of_not_le hdepth)
    have hreply := submitPatch_of_value hload hvalue answers.toJson.compact
    rw [hread] at hreply
    simp only [hreply, answersAfter_patchReport, Patch.carry_of_value? hvalue]
    exact ⟨_, rfl, by rw [hvalue]; rfl, rfl⟩

theorem tidy_of_value? {value : Json} (h : patch.value? form = some value) :
    value.Tidy Decode.Source.textLevels := by
  unfold Patch.value? at h
  split at h
  · cases hread : Json.ofText patch.value with
    | error e => rw [hread] at h; cases h
    | ok read =>
      rw [hread] at h
      obtain rfl := Option.some.inj h
      exact Json.tidy_of_ofText hread
  · cases h

theorem fits_carry {answers : Answers}
    (hfits : answers.toJson.Fits Number.Survives (Decode.Source.textLevels + 1))
    (hnumbers : ∀ value, patch.value? form = some value → value.Survives) :
    (patch.carry form answers).toJson.Fits Number.Survives (Decode.Source.textLevels + 1) := by
  cases hvalue : patch.value? form with
  | none =>
    rw [Patch.carry_of_none hvalue]
    exact hfits
  | some value =>
    rw [Patch.carry_of_value? hvalue]
    refine Answers.toJson_fits_insert ?_ _ ⟨hnumbers value hvalue, tidy_of_value? hvalue⟩
    split
    · exact hfits
    · exact Answers.fits_empty.mono (by decide)

end Step

/-! ### A whole session -/

/-- The answers that there are after some patches. -/
def carried (form : Form) (patches : List Patch) : Answers :=
  patches.foldl (Patch.carry form) .empty

/-- All that some patches give, of two values for a question the later. -/
def gathered (form : Form) (patches : List Patch) : Answers :=
  patches.foldl (Patch.record form) .empty

/-- **Every reply of a session** tells of the answers that there are after its patch. -/
theorem session_reply (hload : loadForm formId config = .ok form) (patch : Patch)
    (before after : List Patch) {answers : Answers}
    (hfits : answers.toJson.Fits Number.Survives (Decode.Source.textLevels + 1))
    (hnumbers : ∀ p ∈ before, ∀ value, p.value? form = some value → value.Survives) :
    ∃ reply, (session formId config answers.toJson.compact (before ++ patch :: after))[
        before.length]? = some reply ∧
      patch.Replies form ((before ++ [patch]).foldl (Patch.carry form) answers) reply := by
  induction before generalizing answers with
  | nil =>
    obtain ⟨reply, hstep, hreply⟩ := sessionStep_eq hload hfits patch
    refine ⟨reply, ?_, hreply⟩
    rw [List.nil_append, session, hstep]
    rfl
  | cons p before ih =>
    rw [List.forall_mem_cons] at hnumbers
    obtain ⟨first, hstep, -⟩ := sessionStep_eq hload hfits p
    obtain ⟨reply, hget, hreply⟩ := ih (fits_carry hfits hnumbers.1) hnumbers.2
    refine ⟨reply, ?_, hreply⟩
    rw [List.cons_append, session, hstep]
    exact hget

/-! ### What is gathered -/

section Gathered
variable {patches : List Patch}

theorem gathered_append (form : Form) (patches : List Patch) (patch : Patch) :
    gathered form (patches ++ [patch]) = patch.record form (gathered form patches) := by
  unfold gathered
  rw [List.foldl_append]
  rfl

theorem carried_append (form : Form) (patches : List Patch) (patch : Patch) :
    carried form (patches ++ [patch]) = patch.carry form (carried form patches) := by
  unfold carried
  rw [List.foldl_append]
  rfl

/-- **The last value that was given for a question counts.** -/
theorem get?_gathered (form : Form) (patches : List Patch) (id : ItemId) :
    (gathered form patches).get? id = patches.reverse.findSome? fun patch =>
      if patch.questionId = id.text then patch.value? form else none := by
  induction patches using List.reverseRecOn with
  | nil => rfl
  | append_singleton patches patch ih =>
    rw [gathered_append, List.reverse_append, List.reverse_singleton, List.singleton_append,
      List.findSome?_cons, ← ih]
    unfold Patch.record
    by_cases hid : patch.questionId = id.text
    · rw [if_pos hid]
      cases patch.value? form with
      | none => rfl
      | some value =>
        rw [show id = ⟨patch.questionId⟩ from ItemId.ext hid.symm, Answers.get?_insert_self]
    · rw [if_neg hid]
      cases patch.value? form with
      | none => rfl
      | some value =>
        exact Answers.get?_insert_of_ne _ (fun heq => hid (by rw [heq])) _

theorem record_comm {patch patch' : Patch} (h : patch.questionId ≠ patch'.questionId)
    (answers : Answers) :
    patch'.record form (patch.record form answers) =
      patch.record form (patch'.record form answers) := by
  have hid : (⟨patch.questionId⟩ : ItemId) ≠ ⟨patch'.questionId⟩ := fun heq =>
    h (congrArg ItemId.text heq)
  unfold Patch.record
  cases patch.value? form with
  | none => rfl
  | some value =>
    cases patch'.value? form with
    | none => rfl
    | some value' => exact Answers.insert_comm _ hid value value'

/-- **Neighbouring patches for different questions may change places.** -/
theorem gathered_swap {patch patch' : Patch} (h : patch.questionId ≠ patch'.questionId)
    (before after : List Patch) :
    gathered form (before ++ patch' :: patch :: after) =
      gathered form (before ++ patch :: patch' :: after) := by
  unfold gathered
  simp only [List.foldl_append, List.foldl_cons, record_comm h]

/-- What is gathered nests one level deeper than the values in it. -/
theorem depth_gathered {n : Nat}
    (h : ∀ patch ∈ patches, ∀ value, patch.value? form = some value → value.depth ≤ n) :
    (gathered form patches).toJson.depth ≤ n + 1 := by
  unfold Answers.toJson
  rw [Json.depth_obj_le_iff]
  induction patches using List.reverseRecOn with
  | nil =>
    intro member hmem
    cases hmem
  | append_singleton patches patch ih =>
    have hbefore := ih fun p hp => h p (List.mem_append_left _ hp)
    rw [gathered_append]
    cases hvalue : patch.value? form with
    | none =>
      rw [Patch.record_of_none hvalue]
      exact hbefore
    | some value =>
      rw [Patch.record_of_value? hvalue]
      intro member hmem
      rcases Members.mem_insert hmem with rfl | hmem
      · exact h patch (by simp) value hvalue
      · exact hbefore member hmem

/-- **Nothing that was gathered is lost** while no value before the last is as deep as can be
read. -/
theorem carried_eq_gathered
    (h : ∀ patch ∈ patches.dropLast, ∀ value, patch.value? form = some value →
      value.depth < Decode.Source.textLevels) : carried form patches = gathered form patches := by
  induction patches using List.reverseRecOn with
  | nil => rfl
  | append_singleton patches patch ih =>
    rw [List.dropLast_concat] at h
    have hcarried := ih fun p hp => h p (List.dropLast_subset _ hp)
    have hdepth : (gathered form patches).toJson.depth ≤ Decode.Source.textLevels :=
      depth_gathered fun p hp value hvalue => Nat.le_sub_one_of_lt (h p hp value hvalue)
    rw [carried_append, gathered_append, hcarried]
    unfold Patch.carry Patch.record
    rw [if_pos hdepth]

end Gathered

/-- **A session of patches loses no answer** that nests less deeply than can be read. The replies of
a session tell, each in its place, of the answers that are carried up to it; a patch that fails
leaves them as they are. They are all that was gathered, unless a value before the last is as deep
as can be read. Of what was gathered for a question the last counts, and neighbouring patches for
different questions may change places. -/
theorem session_keeps_answers (hload : loadForm formId config = .ok form) (patches : List Patch)
    (hnumbers : ∀ patch ∈ patches, ∀ value, patch.value? form = some value → value.Survives) :
    (∀ before patch after, patches = before ++ patch :: after →
      ∃ reply, (session formId config noAnswers patches)[before.length]? = some reply ∧
        patch.Replies form (carried form (before ++ [patch])) reply ∧
        (patch.value? form = none → carried form (before ++ [patch]) = carried form before)) ∧
    (∀ before after, patches = before ++ after →
      (∀ patch ∈ before.dropLast, ∀ value, patch.value? form = some value →
        value.depth < Decode.Source.textLevels) →
      carried form before = gathered form before) ∧
    (∀ before after, patches = before ++ after → ∀ id, (gathered form before).get? id =
      before.reverse.findSome? fun patch =>
        if patch.questionId = id.text then patch.value? form else none) ∧
    ∀ before patch patch' after, patches = before ++ patch :: patch' :: after →
      patch.questionId ≠ patch'.questionId →
      (∀ p ∈ patches, ∀ value, p.value? form = some value →
        value.depth < Decode.Source.textLevels) →
      carried form (before ++ patch' :: patch :: after) = carried form patches := by
  refine ⟨?_, fun before _ _ h => carried_eq_gathered h,
    fun before _ _ id => get?_gathered form before id, ?_⟩
  · rintro before patch after rfl
    have hstart : Answers.empty.toJson.Fits Number.Survives (Decode.Source.textLevels + 1) :=
      Answers.fits_empty.mono (by decide)
    obtain ⟨reply, hget, hreply⟩ := session_reply hload patch before after hstart
      fun p hp => hnumbers p (List.mem_append_left _ hp)
    refine ⟨reply, hget, hreply, fun hnone => ?_⟩
    rw [carried_append, Patch.carry_of_none hnone]
  · rintro before patch patch' after rfl hne hdepth
    have hswapped : ∀ p ∈ before ++ patch' :: patch :: after, ∀ value,
        p.value? form = some value → value.depth < Decode.Source.textLevels := by
      intro p hp
      refine hdepth p ?_
      simp only [List.mem_append, List.mem_cons] at hp ⊢
      tauto
    rw [carried_eq_gathered fun p hp => hswapped p (List.dropLast_subset _ hp),
      carried_eq_gathered fun p hp => hdepth p (List.dropLast_subset _ hp), gathered_swap hne]

/-- A value that can be read is what its text gives. -/
theorem value?_compact {id : String} (hid : form.hasQuestion id = true) {value : Json}
    (hsurvives : value.Survives) (htidy : value.Tidy Decode.Source.textLevels) :
    Patch.value? ⟨id, value.compact⟩ form = some value := by
  unfold Patch.value?
  rw [if_pos hid]
  simp only [Json.ofText_compact_of_survives hsurvives htidy]
  rfl

/-- Two names and a question that there is not: the second name is carried. -/
theorem session_keeps_answers_bundled :
    loadForm "12" "" = .ok bundledForm ∧
      ∃ reply, (session "12" "" noAnswers
          [⟨"2", (Json.str "Ann").compact⟩, ⟨"404", "1"⟩, ⟨"2", (Json.str "Eve").compact⟩])[2]? =
            some reply ∧
        Patch.Replies bundledForm ⟨"2", (Json.str "Eve").compact⟩ ⟨[("2", .str "Eve")]⟩ reply := by
  have hload : loadForm "12" "" = .ok bundledForm := rfl
  have hname : ∀ s : String, Patch.value? ⟨"2", (Json.str s).compact⟩ bundledForm = some (.str s) :=
    fun s => value?_compact (by decide) (.str s) (.str s)
  have hnone : Patch.value? ⟨"404", "1"⟩ bundledForm = none := if_neg (by decide)
  have hvalues : ∀ patch ∈ [(⟨"2", (Json.str "Ann").compact⟩ : Patch), ⟨"404", "1"⟩,
      ⟨"2", (Json.str "Eve").compact⟩], ∀ value, patch.value? bundledForm = some value →
        ∃ s, value = .str s := by
    intro patch hpatch value hvalue
    simp only [List.mem_cons, List.not_mem_nil, or_false] at hpatch
    rcases hpatch with rfl | rfl | rfl
    · exact ⟨_, Option.some.inj (hvalue.symm.trans (hname _))⟩
    · rw [hnone] at hvalue
      cases hvalue
    · exact ⟨_, Option.some.inj (hvalue.symm.trans (hname _))⟩
  obtain ⟨hreplies, hcarried, -, -⟩ := session_keeps_answers hload
    [⟨"2", (Json.str "Ann").compact⟩, ⟨"404", "1"⟩, ⟨"2", (Json.str "Eve").compact⟩]
    fun patch hpatch value hvalue => by
      obtain ⟨s, rfl⟩ := hvalues patch hpatch value hvalue
      exact .str s
  obtain ⟨reply, hget, hreply, -⟩ := hreplies
    [⟨"2", (Json.str "Ann").compact⟩, ⟨"404", "1"⟩] ⟨"2", (Json.str "Eve").compact⟩ [] rfl
  refine ⟨hload, reply, hget, ?_⟩
  have hall := hcarried _ [] (List.append_nil _).symm fun patch hpatch value hvalue => by
    obtain ⟨s, rfl⟩ := hvalues patch (List.dropLast_subset _ hpatch) value hvalue
    exact Nat.zero_lt_succ _
  have hgathered : gathered bundledForm
      [⟨"2", (Json.str "Ann").compact⟩, ⟨"404", "1"⟩, ⟨"2", (Json.str "Eve").compact⟩] =
        ⟨[("2", .str "Eve")]⟩ := by
    simp only [gathered, List.foldl_cons, List.foldl_nil, Patch.record_of_value? (hname _),
      Patch.record_of_none hnone]
    rfl
  rw [List.cons_append, List.cons_append, List.nil_append, hall, hgathered] at hreply
  exact hreply

/-! ### An answer that is as deep as can be read -/

/-- A null inside so many lists. -/
def nested : Nat → Json
  | 0 => .null
  | n + 1 => .arr [nested n]

theorem fits_nested (n : Nat) : (nested n).Fits Number.Survives n := by
  induction n with
  | zero => exact .null
  | succ n ih =>
    refine .arr fun item hitem => ?_
    rw [List.mem_singleton.mp hitem]
    exact ih

theorem depth_nested (n : Nat) : (nested n).depth = n := by
  induction n with
  | zero => rfl
  | succ n ih => simp [nested, Json.depth, Json.depthItems, ih]

/-- **An answer as deep as can be read takes the others away**: both patches give a value for a
question of the form, and the second reply tells of the second value alone. -/
theorem deep_answer_loses_all :
    (Patch.mk "2" (nested 127).compact).value? bundledForm = some (nested 127) ∧
      (Patch.mk "5" (Json.str "x").compact).value? bundledForm = some (.str "x") ∧
      gathered bundledForm [⟨"2", (nested 127).compact⟩, ⟨"5", (Json.str "x").compact⟩] =
        ⟨[("2", nested 127), ("5", .str "x")]⟩ ∧
      (session "12" "" noAnswers
        [⟨"2", (nested 127).compact⟩, ⟨"5", (Json.str "x").compact⟩])[1]? =
          some (.ok (patchReport bundledForm ⟨[("5", .str "x")]⟩)) := by
  have hdeep : (Patch.mk "2" (nested 127).compact).value? bundledForm = some (nested 127) :=
    value?_compact (by decide) (fits_nested 127).numbers (fits_nested 127).tidy
  have hflat : (Patch.mk "5" (Json.str "x").compact).value? bundledForm = some (.str "x") :=
    value?_compact (by decide) (.str "x") (.str "x")
  have hfirst : Patch.carry bundledForm .empty ⟨"2", (nested 127).compact⟩ =
      ⟨[("2", nested 127)]⟩ := by
    rw [Patch.carry_of_value? hdeep, ite_self]
    rfl
  have hdepth : (Answers.toJson ⟨[("2", nested 127)]⟩).depth = 128 := by
    simp [Answers.toJson, Json.depth, Json.depthMembers, depth_nested]
  have hsecond : Patch.carry bundledForm ⟨[("2", nested 127)]⟩ ⟨"5", (Json.str "x").compact⟩ =
      ⟨[("5", .str "x")]⟩ := by
    rw [Patch.carry_of_value? hflat, if_neg (by rw [hdepth]; decide)]
    rfl
  have hnumbers : ∀ p ∈ [(⟨"2", (nested 127).compact⟩ : Patch)], ∀ value,
      p.value? bundledForm = some value → value.Survives := by
    intro p hp value hvalue
    obtain rfl := List.mem_singleton.mp hp
    obtain rfl := Option.some.inj (hvalue.symm.trans hdeep)
    exact (fits_nested 127).numbers
  have hload : loadForm "12" "" = .ok bundledForm := rfl
  obtain ⟨reply, hget, hreply⟩ := session_reply hload ⟨"5", (Json.str "x").compact⟩
    [⟨"2", (nested 127).compact⟩] [] (Answers.fits_empty.mono (by decide)) hnumbers
  rw [List.singleton_append, List.foldl_cons, List.foldl_cons, hfirst, hsecond,
    List.foldl_nil] at hreply
  refine ⟨hdeep, hflat, ?_, ?_⟩
  · simp only [gathered, List.foldl_cons, List.foldl_nil, Patch.record_of_value? hdeep,
      Patch.record_of_value? hflat]
    rfl
  · cases reply with
    | error e =>
      rw [Patch.Replies, hflat] at hreply
      cases hreply
    | ok report =>
      rw [← hreply.2]
      exact hget

end Service

end Questionnaire
