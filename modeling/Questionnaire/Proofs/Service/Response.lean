import Questionnaire.Proofs.Json.Depth
import Questionnaire.Service.Functions
import Questionnaire.Service.Response

/-! # What a host makes of a response

Results and failures come as texts over one channel. A failure is an object with a text under
`error`, so a host tells the two apart if no result has such a member, and if the text of the result
can be read. It cannot when the result nests deeper than is read. What a host then makes of a reply
is `received` (`readResponse_respond`). -/

namespace Questionnaire.Service

/-! ### Failures -/

/-- **The report of a failure is read.** -/
theorem ofText_errorText (e : ServiceError) :
    Json.ofText (errorText e) = .ok (.object [("error", .str e.message)]) := by
  have hfits : (Json.object [("error", .str e.message)]).Fits Number.Survives 1 :=
    .object fun member hmember => by rw [List.mem_singleton.mp hmember]; exact .str _
  exact Json.ofText_compact_of_survives hfits.numbers (hfits.tidy.mono (by decide))

theorem reportedFailure?_error (message : String) :
    reportedFailure? (.object [("error", .str message)]) = some message := by
  unfold reportedFailure?
  rw [Json.field_object]
  simp [Members.lookup, Json.text?]

/-- **A failure is told with its message.** -/
theorem readResponse_error (e : ServiceError) :
    readResponse (respond (.error e)) = .error (.reported e.message) := by
  unfold readResponse respond
  simp only [ofText_errorText, reportedFailure?_error]

theorem readTextResponse_error (e : ServiceError) :
    readTextResponse (respondText (.error e)) = .error (.reported e.message) := by
  unfold readTextResponse respondText
  simp only [ofText_errorText, reportedFailure?_error]

/-! ### Results -/

/-- A reply that a host sees as it is: results as they are, failures by their message. -/
def told {α : Type} : Reply α → Except ResponseFault α := Except.mapError (.reported ·.message)

/-- What a host makes of a reply: of a result that nests deeper than is read, nothing. -/
def received : Reply Json → Except ResponseFault Json
  | .ok v => if v.depth ≤ Decode.Source.textLevels then .ok v else .error .unreadable
  | .error e => .error (.reported e.message)

theorem received_eq_told {reply : Reply Json}
    (h : ∀ v, reply = .ok v → v.depth ≤ Decode.Source.textLevels) :
    received reply = told reply := by
  cases reply with
  | ok v => exact if_pos (h v rfl)
  | error e => rfl

/-- The numbers of the value come back as they were, its members are in order, and it reports no
failure. -/
structure IsResult (v : Json) : Prop where
  fits : ∃ levels, v.Fits Number.Survives levels
  failure : reportedFailure? v = none

/-- **A result is told as it is**, unless it nests deeper than is read. -/
theorem readResponse_ok {v : Json} (h : IsResult v) :
    readResponse (respond (.ok v)) =
      if v.depth ≤ Decode.Source.textLevels then .ok v else .error .unreadable := by
  obtain ⟨levels, hfits⟩ := h.fits
  unfold readResponse respond
  by_cases hdepth : v.depth ≤ Decode.Source.textLevels
  · have hread := Json.ofText_compact_of_survives hfits.numbers (hfits.tidy.of_depth_le hdepth)
    simp only [hread, h.failure, if_pos hdepth]
  · cases hread : Json.ofText v.compact with
    | error e => simp only [if_neg hdepth]
    | ok w => exact absurd (Json.depth_le_of_ofText_compact hread) hdepth

/-- **A host sees a failure where there was one**, and results that it can read. -/
theorem readResponse_respond {reply : Reply Json} (h : ∀ v, reply = .ok v → IsResult v) :
    readResponse (respond reply) = received reply := by
  cases reply with
  | ok v => exact readResponse_ok (h v rfl)
  | error e => exact readResponse_error e

/-! ### Texts -/

/-- No value starts with a capital letter. -/
theorem exists_of_ofText_capital {s : String} {cs : List Char} (h : s.toList = 'F' :: cs) :
    ∃ e, Json.ofText s = .error e := by
  have hbroken : (Wire.ofJsonText s).1 = .broken := by
    unfold Wire.ofJsonText
    rw [h]
    rfl
  refine ⟨Decode.mismatch .broken "any valid JSON value", ?_⟩
  unfold Json.ofText Decode.ofText
  generalize Wire.ofJsonText s = data at hbroken
  obtain ⟨w, ended⟩ := data
  cases hbroken
  rfl

/-- **A text that is no value is told as it is**, and a failure with its message. -/
theorem readTextResponse_respondText {reply : Reply String}
    (h : ∀ s, reply = .ok s → ∃ cs, s.toList = 'F' :: cs) :
    readTextResponse (respondText reply) = told reply := by
  cases reply with
  | ok s =>
    obtain ⟨cs, hcs⟩ := h s rfl
    obtain ⟨e, hread⟩ := exists_of_ofText_capital hcs
    unfold readTextResponse respondText
    simp only [hread]
    rfl
  | error e => exact readTextResponse_error e

end Questionnaire.Service
