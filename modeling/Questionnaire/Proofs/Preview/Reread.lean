import Questionnaire.Interview.Sheet
import Questionnaire.Proofs.Form.Reread

/-! # Previews that are read back

An interviewer reads the sheet off the text of the preview. Every number in that text is an integer,
apart from those in the answers that it repeats. So what integers have in common with the numbers in
the answers holds of all numbers in the text (`Preview.fits_toJson`). -/

namespace Questionnaire

open Interview

/-! ### Parts -/

theorem Number.ofInt?_eq_some {n : Int} {number : Number} (h : Number.ofInt? n = some number) :
    number.Survives := by
  unfold Number.ofInt? at h
  split at h
  · obtain rfl := Option.some.inj h
    exact Number.survives_integer _ _
  · cases h

theorem fits_ofInt? {levels : Nat} (n : Int) :
    (((Number.ofInt? n).map Json.num).getD .null).Fits Number.Survives levels := by
  cases h : Number.ofInt? n with
  | none => exact .null
  | some number => exact ⟨.num (Number.ofInt?_eq_some h), .num _⟩

theorem fits_ofNat {levels : Nat} (n : Nat) : (Json.ofNat n).Fits Number.Survives levels :=
  fits_ofInt? n

-- a number is not to be computed in order to find that two mentions of it are the same
attribute [local irreducible] Json.ofNat

theorem fits_optionalMember {levels : Nat} {key : String} {text : Option String}
    {member : String × Json} (h : member ∈ optionalMember key text) :
    member.2.Fits Number.Survives levels := by
  cases text with
  | none => cases h
  | some s =>
    rw [List.mem_singleton.mp h]
    exact .str s

/-! ### The schema -/

namespace Question

theorem fits_optionValues (q : Question) : q.optionValues.Fits Number.Survives 1 := by
  refine .arr fun value hvalue => ?_
  obtain ⟨c, -, hc⟩ := List.mem_flatMap.mp hvalue
  rcases List.mem_cons.mp hc with rfl | hc
  · exact .str _
  · obtain ⟨number, hnumber, rfl⟩ := List.mem_map.mp hc
    obtain ⟨n, -, hn⟩ := Option.bind_eq_some_iff.mp (Option.mem_toList.mp hnumber)
    exact ⟨.num (Number.ofInt?_eq_some hn), .num _⟩

theorem fits_valueSchema (q : Question) :
    ∀ member ∈ q.valueSchema, member.2.Fits Number.Survives 2 := by
  have hvalues := q.fits_optionValues
  have henum : (Json.object [("enum", q.optionValues)]).Fits Number.Survives 2 :=
    .object fun pair hpair => by rw [List.mem_singleton.mp hpair]; exact hvalues
  have hnames : (Json.arr [.str "number", .str "string"]).Fits Number.Survives 2 :=
    .arr fun item hitem => by
      simp only [List.mem_cons, List.not_mem_nil, or_false] at hitem
      rcases hitem with rfl | rfl <;> exact .str _
  intro member hmember
  unfold valueSchema at hmember
  split at hmember
  · split at hmember
    · simp only [List.mem_cons, List.not_mem_nil, or_false] at hmember
      rcases hmember with rfl | rfl | rfl
      · exact .str _
      · exact henum
      · exact .bool _
    · rw [List.mem_singleton.mp hmember]
      exact hvalues.mono (by omega)
  · simp only [List.mem_cons, List.not_mem_nil, or_false] at hmember
    rcases hmember with rfl | rfl
    · exact hnames
    · exact .str _
  · simp only [List.mem_cons, List.not_mem_nil, or_false] at hmember
    rcases hmember with rfl | rfl <;> exact .str _
  · rw [List.mem_singleton.mp hmember]
    exact .str _
  · rw [List.mem_singleton.mp hmember]
    exact .str _

theorem fits_answerSchema (q : Question) : q.answerSchema.Fits Number.Survives 3 := by
  refine .object fun member hmember => ?_
  simp only [List.mem_append, List.mem_singleton] at hmember
  rcases hmember with (hmember | rfl) | hmember
  · exact q.fits_valueSchema member hmember
  · exact .str _
  · exact fits_optionalMember hmember

end Question

theorem Form.fits_answerSchema (form : Form) (visibility : VisibilityMap) :
    (form.answerSchema visibility).Fits Number.Survives 5 := by
  refine .object fun member hmember => ?_
  simp only [List.mem_cons, List.not_mem_nil, or_false] at hmember
  rcases hmember with rfl | rfl | rfl | rfl | rfl | rfl
  · exact .str _
  · exact .str _
  · exact .str _
  · refine .object fun pair hpair => ?_
    obtain ⟨q, -, rfl⟩ := List.mem_map.mp hpair
    exact q.fits_answerSchema
  · exact (Json.Fits.arr_map fun q _ => .str _ : Json.Fits _ 1 _).mono (by omega)
  · exact .bool _

/-! ### The preview -/

theorem PreviewOption.fits_toJson (o : PreviewOption) : o.toJson.Fits Number.Survives 1 := by
  refine .object fun member hmember => ?_
  simp only [List.mem_cons, List.not_mem_nil, or_false] at hmember
  rcases hmember with rfl | rfl <;> exact .str _

theorem Progress.fits_toJson (p : Progress) : p.toJson.Fits Number.Survives 1 := by
  refine .object fun member hmember => ?_
  simp only [List.mem_cons, List.not_mem_nil, or_false] at hmember
  rcases hmember with rfl | rfl
  · exact fits_ofNat p.answered
  · exact fits_ofNat p.total

variable {p : Number → Prop}

theorem PreviewQuestion.fits_toJson (hp : ∀ n, n.Survives → p n) {levels : Nat}
    (hlevels : 2 ≤ levels) {q : PreviewQuestion}
    (h : ∀ value ∈ q.currentValue, value.Fits p levels) : q.toJson.Fits p (levels + 1) := by
  refine .object fun member hmember => ?_
  simp only [List.mem_append, List.mem_cons, List.not_mem_nil, or_false] at hmember
  rcases hmember with (((rfl | rfl | rfl | rfl | rfl | rfl | rfl) | hmember) | hmember) | hmember
  · exact .str _
  · exact .str _
  · exact .ofText? _
  · exact .str _
  · exact (fits_ofNat q.depth).imp hp
  · exact .bool _
  · exact .bool _
  · exact (fits_optionalMember hmember).imp hp
  · unfold choiceMembers at hmember
    split at hmember
    · simp only [List.mem_cons, List.not_mem_nil, or_false] at hmember
      rcases hmember with rfl | rfl
      · exact .bool _
      · exact ((Json.Fits.arr_map fun o _ => o.fits_toJson).imp hp).mono hlevels
    · cases hmember
  · unfold valueMembers at hmember
    split at hmember
    · next value hvalue =>
      simp only [List.mem_cons, List.not_mem_nil, or_false] at hmember
      rcases hmember with rfl | rfl
      · exact h value hvalue
      · exact .str _
    · cases hmember

/-- **The numbers of a preview** are those of the answers that it repeats, and integers. -/
theorem Preview.fits_toJson (hp : ∀ n, n.Survives → p n) {levels : Nat} (hlevels : 3 ≤ levels)
    {preview : Preview}
    (h : ∀ q ∈ preview.questions, ∀ value ∈ q.currentValue, value.Fits p levels)
    (hschema : preview.schema.Fits p 5) : preview.toJson.Fits p (levels + 3) := by
  refine .object fun member hmember => ?_
  simp only [List.mem_cons, List.not_mem_nil, or_false] at hmember
  rcases hmember with rfl | rfl | rfl | rfl | rfl | rfl | rfl | rfl
  · exact .str _
  · exact .str _
  · exact .str _
  · exact .ofText? _
  · exact (preview.progress.fits_toJson.imp hp).mono (by omega)
  · exact .ofText? _
  · exact Json.Fits.arr_map fun q hq => PreviewQuestion.fits_toJson hp (by omega) (h q hq)
  · exact hschema.mono (by omega)

end Questionnaire
