import Questionnaire.Proofs.CommandLine.Ends
import Questionnaire.Proofs.Interview.Run

/-! # The outcome of an interview

The command that holds an interview answers the state in which the conversation ends
(`outcome_interview`), and the document is made from the answers of that state. What these answers
are worth is said by `interview_is_valid`. It asks that their numbers survive, and
`interview_ends_with_drifted_answers` is an interview in which a number does not. -/

namespace Questionnaire

open Outline Interview

/-! ### The command -/

namespace CommandLine

/-- The outcome of a task in a world. -/
def World.outcome {α : Type} (world : World) (task : Task (StateM World) α) : Except Failure α :=
  (StateT.run (ExceptT.run task) world).1

/-- An interview is a conversation over the lines that are still to be typed. -/
theorem outcome_interview (settings : Settings) (form : Form) (answers : Answers) (world : World) :
    world.outcome (interview settings form answers) =
      interviewOn settings form answers world.lines :=
  (leaves_interview settings form answers world.disk world.lines world rfl rfl).1

theorem outcome_interview_eq_ok {settings : Settings} {form : Form} {answers : Answers}
    {world : World} {start ending : Interview.Session}
    (hstart : (interviewSetting settings form).session answers.toJson [] = .ok start) :
    world.outcome (interview settings form answers) = .ok ending ↔
      (start.converse world.lines).2 = .ok ending := by
  rw [outcome_interview, interviewOn, hstart]
  change (start.converse world.lines).2.mapError Failure.ofFault = .ok ending ↔ _
  cases (start.converse world.lines).2 with
  | error fault => exact ⟨nofun, nofun⟩
  | ok s => exact ⟨fun h => congrArg _ (Except.ok.inj h), fun h => congrArg _ (Except.ok.inj h)⟩

end CommandLine

/-- **An interview gathers faultless answers.** In every form in which no id is repeated an interview
can be opened without answers. Whatever lines are typed, validation finds no errors and no unknown
fields at any point, neither in the answers so far nor in those whose preview is shown, and only
questions that need no answer are skipped. If no question is left to ask at the end and the numbers
in the answers survive, the answers are valid. There is an end if the numbers that are typed
survive. -/
theorem interview_is_valid (form : Form) (hids : form.DistinctIds)
    (settings : CommandLine.Settings) (world : CommandLine.World) :
    ∃ start, (CommandLine.interviewSetting settings form).session Answers.empty.toJson [] =
        .ok start ∧
      (∀ s ∈ start.states world.lines,
        form.Faultless (.ofJson s.answers) ∧
        s.sheet = .ofPreview (form.preview (Service.readAnswers s.answers.compact)) ∧
        form.Faultless (Service.readAnswers s.answers.compact) ∧
        ∀ id ∈ s.skipped, ∃ q ∈ form.questions, q.id.text = id ∧ q.required = false) ∧
      (∀ ending, world.outcome (CommandLine.interview settings form .empty) = .ok ending →
        ending ∈ start.states world.lines ∧
        (ending.asked? = none → ending.answers.Survives →
          (form.validate (.ofJson ending.answers)).valid = true)) ∧
      ((∀ line ∈ world.lines, WritesOnly Number.Survives line) →
        ∃ ending, world.outcome (CommandLine.interview settings form .empty) = .ok ending ∧
          ending.answers.Survives) := by
  obtain ⟨start, hstart⟩ := Setting.exists_session form settings.verbose
    Number.lasting_survives Answers.fits_empty []
  -- any number may be typed for what holds throughout, but an end needs numbers that survive
  have hproceeds : ∀ {p : Number → Prop}, Number.Kept p →
      Proceeds p form settings.verbose start .empty := fun hp =>
    proceeds_of_session hp (sound_empty form) (fun id hid => by cases hid) hstart
  have hstates : ∀ s ∈ start.states world.lines, ∃ answers,
      Proceeds (fun _ => True) form settings.verbose s answers :=
    (hproceeds Number.kept_true).states hids Number.kept_true fun line _ n _ => trivial
  have houtcome : ∀ ending, world.outcome (CommandLine.interview settings form .empty) =
      .ok ending ↔ (start.converse world.lines).2 = .ok ending :=
    fun ending => CommandLine.outcome_interview_eq_ok hstart
  refine ⟨start, hstart, fun s hs => ?_, fun ending hending => ?_, fun hlines => ?_⟩
  · obtain ⟨answers, h⟩ := hstates s hs
    rw [h.text]
    exact ⟨h.sound.faultless hids, h.sheet, (h.sound.sent Number.kept_true).faultless hids,
      h.skipped⟩
  · have hmem := Session.mem_states_of_converse ((houtcome ending).mp hending)
    obtain ⟨answers, h⟩ := hstates ending hmem
    exact ⟨hmem, fun hnone hsurvives => h.valid hids hnone hsurvives⟩
  · have h := hproceeds Number.lasting_survives.toKept
    obtain ⟨ending, hending⟩ := h.exists_ending hids Number.lasting_survives hlines
    obtain ⟨answers, h⟩ := h.states hids Number.lasting_survives.toKept hlines ending
      (Session.mem_states_of_converse hending)
    exact ⟨ending, (houtcome ending).mpr hending, by rw [h.text]; exact h.sound.fits.numbers⟩

/-! ### A threshold -/

/-- The question for an amount. -/
def amountQuestion : Question :=
  ⟨⟨"n"⟩, "Amount", .number, none, 0, true, false, none, none, []⟩

/-- The question for a reason. -/
def reasonQuestion : Question :=
  ⟨⟨"t"⟩, "Why so little", .freeText, none, 1, true, false, none, none, []⟩

/-- A form that asks for an amount, and for a reason if it is one particular small amount. -/
def thresholdForm : Form where
  id := ⟨"f"⟩
  title := "Drift"
  description := none
  questions := [amountQuestion, reasonQuestion]
  rules := [
    ⟨⟨"r"⟩, some ⟨"t"⟩, some ⟨"n"⟩, some ⟨"0.000000000000000000000001"⟩, .makeVisible⟩]

/-- Settings that ask for nothing. -/
def quiet : CommandLine.Settings := ⟨false, none, none, false⟩

/-- A world in which an amount and a reason are typed. -/
def thresholdWorld (line : String) : CommandLine.World := ⟨.empty, [line, "because"], []⟩

/-- The answers with an amount. -/
def amount (n : Number) : Answers := Answers.empty.insert ⟨"n"⟩ (.num n)

section Threshold

variable {x y : Number}

theorem amount_reread (h : x.reread? = some y) : (amount x).reread = amount y := by
  change Answers.ofJson (.obj [("n", .num (x.reread?.getD x))]) = amount y
  rw [h]
  rfl

theorem amount_sent (h : x.reread? = some y) : (amount x).sent = amount y := by
  have hfits : (amount x).Fits Number.Legible :=
    Answers.fits_empty.insert _ ⟨.num (by rw [Number.Legible, h]; rfl), .num x⟩
  rw [Answers.sent_eq_reread hfits, amount_reread h]

/-- A number that survives, or one of two that are read as each other. -/
abbrev Swapped (x y n : Number) : Prop := n.Survives ∨ n = x ∨ n = y

theorem lasting_swapped (hxy : x.reread? = some y) (hyx : y.reread? = some x) :
    Number.Lasting (Swapped x y) where
  survives n h := .inl h
  reread n h := by
    rcases h with h | rfl | rfl
    · rw [h]; exact .inl h
    · rw [hxy]; exact .inr (.inr rfl)
    · rw [hyx]; exact .inr (.inl rfl)
  legible n h := by
    rcases h with h | rfl | rfl
    · exact h.legible
    · rw [Number.Legible, hxy]; rfl
    · rw [Number.Legible, hyx]; rfl

theorem eq_of_mem_threshold {q : Question} (h : q ∈ thresholdForm.questions) :
    q = amountQuestion ∨ q = reasonQuestion := by
  simpa [thresholdForm] using h

theorem sound_amount {p : Number → Prop} (h : p x) : Sound p thresholdForm (amount x) where
  fits := Answers.fits_empty.insert _ ⟨.num h, .num x⟩
  known key hkey := by
    have heq : key = "n" := List.mem_singleton.mp hkey
    rw [heq]
    decide
  passes q hq value hvalue := by
    rcases eq_of_mem_threshold hq with rfl | rfl
    · obtain rfl := Option.some.inj hvalue
      exact .inl ⟨check_num rfl x, .inr ⟨rfl, x, rfl⟩⟩
    · cases hvalue

/-- Without answers, the amount is asked for. -/
theorem exists_next?_empty :
    ∃ sq, (Sheet.ofPreview (thresholdForm.preview .empty)).next? [] = some sq ∧
      Describes sq amountQuestion := by
  cases hnext : (Sheet.ofPreview (thresholdForm.preview .empty)).next? [] with
  | none =>
    have hseen : Seen thresholdForm .empty amountQuestion :=
      (seen_iff_of_top (by decide) rfl).mpr (by decide)
    have hanswered := isAnswered_of_asked_eq_none (by decide) (fun id hid => by cases hid) hnext
      hseen rfl rfl
    cases hanswered
  | some sq =>
    obtain ⟨q, hq, hseen, -, -⟩ := exists_of_asked (by decide) hnext
    rcases eq_of_mem_threshold hseen.mem with rfl | rfl
    · exact ⟨sq, rfl, hq⟩
    · have hvisible := hseen.isVisible
      cases hvisible

/-- With an amount, no question is left to ask if the reason stays hidden. -/
theorem next?_amount (hhidden : isVisible reasonQuestion thresholdForm.rules (amount y) = false)
    (hkey : y.keyText ≠ "") :
    (Sheet.ofPreview (thresholdForm.preview (amount y))).next? [] = none := by
  cases hnext : (Sheet.ofPreview (thresholdForm.preview (amount y))).next? [] with
  | none => rfl
  | some sq =>
    obtain ⟨q, -, hseen, -, hdisplay⟩ := exists_of_asked (by decide) hnext
    rcases eq_of_mem_threshold hseen.mem with rfl | rfl
    · exact absurd hdisplay hkey
    · rw [hseen.isVisible] at hhidden
      cases hhidden

/-- The service is content with an amount. It reads it twice before it hands it back. -/
theorem submit_amount (hxy : x.reread? = some y) (hyx : y.reread? = some x) :
    ∃ report, (Setting.about thresholdForm quiet.verbose).submit Answers.empty.toJson
        amountQuestion.id.text (.num x) = .ok report ∧
      problemsWith report amountQuestion.id.text = [] ∧
      report.field "answers" = (amount x).toJson := by
  have hp := lasting_swapped hxy hyx
  have hknown : thresholdForm.hasQuestion amountQuestion.id.text = true := by decide
  have hvalue : (Json.num x).Fits (Swapped x y) 1 := ⟨.num (.inr (.inl rfl)), .num x⟩
  have hsound : Sound (Swapped x y) thresholdForm (amount y) := sound_amount (.inr (.inr rfl))
  obtain ⟨report, hreport⟩ := Setting.exists_submit thresholdForm quiet.verbose hp hknown
    Answers.fits_empty hvalue
  have heq := Setting.eq_of_submit thresholdForm quiet.verbose hp.toKept hknown
    Answers.fits_empty hvalue hreport
  have hinsert : Answers.empty.sent.insert amountQuestion.id (Json.num x).reread = amount y := by
    rw [Answers.sent_eq Answers.fits_empty, Json.reread, hxy]
    rfl
  rw [hinsert] at heq
  refine ⟨report, hreport, ?_, ?_⟩
  · rw [heq, Service.problemsWith_patchReport, (hsound.faultless (by decide)).errors]
    rfl
  · rw [heq, Service.field_answers_patchReport, amount_reread hyx]

/-- **An amount is asked for and nothing else**, if the reason stays hidden. -/
theorem threshold_run {line : String} (hline : Number.readNumber? (Text.trim line) = some x)
    (hempty : (Text.trim line).isEmpty = false) (hxy : x.reread? = some y) (hyx : y.reread? = some x)
    (hhidden : isVisible reasonQuestion thresholdForm.rules (amount y) = false)
    (hkey : y.keyText ≠ "") :
    ∃ ending, (thresholdWorld line).outcome (CommandLine.interview quiet thresholdForm .empty) =
        .ok ending ∧
      ending.asked? = none ∧ ending.answers = (amount x).toJson := by
  have hp := lasting_swapped hxy hyx
  have hsound : Sound (Swapped x y) thresholdForm (amount x) := sound_amount (.inr (.inl rfl))
  obtain ⟨start, hstart⟩ := Setting.exists_session thresholdForm quiet.verbose hp
    Answers.fits_empty []
  have hstartEq := Setting.eq_of_session thresholdForm quiet.verbose hp.toKept
    Answers.fits_empty hstart
  rw [Answers.sent_eq Answers.fits_empty] at hstartEq
  obtain ⟨sq, hnext, hq⟩ := exists_next?_empty
  have hasked : start.asked? = some sq := by rw [hstartEq]; exact hnext
  have hread : readReply sq line = .ok (.num x) := by
    unfold readReply readTrimmed
    rw [hempty, hq.kind]
    simp only [amountQuestion, hline, Bool.false_eq_true, if_false]
  obtain ⟨report, hsubmit, hnone, htext⟩ := submit_amount hxy hyx
  obtain ⟨next, hsession⟩ := Setting.exists_session thresholdForm quiet.verbose hp hsound.fits []
  have hnextEq := Setting.eq_of_session thresholdForm quiet.verbose hp.toKept hsound.fits hsession
  -- what is shown has been read once more than what is recorded
  rw [amount_sent hxy] at hnextEq
  have hend : next.asked? = none := by
    rw [hnextEq]
    exact next?_amount hhidden hkey
  have htake : start.take sq line = .ok (next, []) := by
    rw [← hq.id] at hsubmit hnone
    have hsubmit' : start.setting.submit start.answers sq.id (.num x) = .ok report := by
      rw [hstartEq]
      exact hsubmit
    refine Session.take_eq_of_nil hread (fun h => by cases h) hsubmit' hnone ?_
    rw [hstartEq, htext]
    exact hsession
  refine ⟨next, (CommandLine.outcome_interview_eq_ok hstart).mpr ?_, hend, by rw [hnextEq]⟩
  rw [thresholdWorld, Session.converse, hasked]
  simp only [htake]
  rw [Session.converse, hend]

/-- The double `4.5`. -/
def fourAndHalf : Number := .double ⟨false, 5066549580791808, -50, by decide⟩

theorem interview_is_valid_threshold :
    thresholdForm.DistinctIds ∧ ∃ ending,
      (thresholdWorld "4.5").outcome (CommandLine.interview quiet thresholdForm .empty) =
        .ok ending ∧ ending.asked? = none ∧ ending.answers.Survives ∧
      (thresholdForm.validate (.ofJson ending.answers)).valid = true := by
  have hsurvives : fourAndHalf.Survives := by decide +kernel
  obtain ⟨start, -, -, hends, -⟩ :=
    interview_is_valid thresholdForm (by decide) quiet (thresholdWorld "4.5")
  obtain ⟨ending, hending, hnone, htext⟩ := threshold_run
    (by decide +kernel : Number.readNumber? (Text.trim "4.5") = some fourAndHalf) (by decide)
    hsurvives hsurvives (by decide +kernel) (by decide +kernel)
  have hanswers : ending.answers.Survives := by
    rw [htext]
    exact (sound_amount hsurvives : Sound Number.Survives _ _).fits.numbers
  exact ⟨by decide, ending, hending, hnone, hanswers, (hends ending hending).2 hnone hanswers⟩

/-- A small amount, and what it is read as. -/
def least : Number := .double ⟨false, 5444517870735015, -132, by decide⟩

/-- The number that the least amount is read as, and which is read as the least amount. -/
def leastReread : Number := .double ⟨false, 5444517870735016, -132, by decide⟩

/-- **The answers need not be valid** if a number in them does not survive: here a number is shown
that hides a question, and its neighbour is recorded, which does not. -/
theorem interview_ends_with_drifted_answers :
    thresholdForm.DistinctIds ∧ ∃ ending,
      (thresholdWorld "1e-24").outcome (CommandLine.interview quiet thresholdForm .empty) =
        .ok ending ∧ ending.asked? = none ∧
      (thresholdForm.validate (.ofJson ending.answers)).valid = false := by
  obtain ⟨ending, hending, hnone, htext⟩ := threshold_run
    (by decide +kernel : Number.readNumber? (Text.trim "1e-24") = some least) (by decide)
    (by decide +kernel : least.reread? = some leastReread) (by decide +kernel) (by decide +kernel)
    (by decide +kernel)
  refine ⟨by decide, ending, hending, hnone, ?_⟩
  have hanswers : Answers.ofJson ending.answers = amount least := by rw [htext]; rfl
  have hseen : Seen thresholdForm (amount least) reasonQuestion :=
    (seen_iff_of_top (by decide) rfl).mpr (by decide +kernel)
  rw [hanswers, Bool.eq_false_iff]
  intro hvalid
  have hanswered := isAnswered_of_valid (by decide) hvalid hseen rfl rfl
  exact absurd hanswered (by decide)

end Threshold

end Questionnaire
