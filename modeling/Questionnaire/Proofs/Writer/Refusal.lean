import Questionnaire.Proofs.Writer.Groups

/-! # A writer that refuses a call

The calls of a document may also be made as its blocks are come to, with a flag that says whether a
table is open: `Writer.handDocument` is that loop. A refusal may cut short each of its parts, in the
middle of a block or between the end of a table and the spacer behind it. Still the loop makes the
calls that are listed beforehand, one after another, and ends with the first that is refused, on
every writer and from every state (`handDocument_eq`). So the calls accepted before a refusal are
the first ones of those that a writer gets that refuses nothing (`refusal_ends_document`). -/

namespace Questionnaire

variable {σ ε α β : Type}

/-! ### Calls made as the blocks are come to -/

/-- Work that hands calls to a writer. A refusal ends it and leaves the state as it was reached. -/
abbrev Handing (σ ε α : Type) : Type := ExceptT ε (StateM σ) α

namespace Writer

variable (writer : Writer σ ε) (style : StyleSheet)

/-- One call. -/
def hand (call : Call) : Handing σ ε Unit := fun state =>
  match writer.accept state call with
  | .ok state => (.ok (), state)
  | .error reason => (.error reason, state)

/-- A call, if there is one. -/
def handSome : Option Call → Handing σ ε Unit
  | some call => writer.hand call
  | none => pure ()

/-- The begin of a table, unless one is open. -/
def openTable (inTable : Bool) : Handing σ ε Unit :=
  if inTable then pure () else writer.hand .beginTable

/-- The end of a table and the spacer behind it, if one is open. -/
def endTable (inTable : Bool) : Handing σ ε Unit :=
  if inTable then do
    writer.hand .endTable
    writer.hand (.paragraph .spacer (style.run "" style.description))
  else pure ()

/-- The calls of a block. The outcome is whether a table is open after them. -/
def handBlock (inTable : Bool) : Block → Handing σ ε Bool
  | .sectionHeader text depth => do
    -- a section of the top level is not put into the table of another one
    writer.endTable style (inTable && depth == 0)
    writer.openTable (inTable && depth != 0)
    writer.hand (style.headerCall text depth)
    return true
  | .row label value depth => do
    writer.openTable inTable
    writer.hand (style.rowCall label value depth)
    return true
  | .standalone label value answered => do
    writer.endTable style inTable
    writer.hand (.paragraph .questionLabel (style.run label style.standaloneLabel))
    writer.hand (.paragraph .answer (style.run (if answered then value else style.placeholder)
      (style.standaloneAnswer answered)))
    return false

/-- The calls of blocks, of which the first comes with a table open or not. -/
def handBlocks (inTable : Bool) (blocks : List Block) : Handing σ ε Unit := do
  let inTable ← blocks.foldlM (writer.handBlock style) inTable
  writer.endTable style inTable

/-- The calls of a document. -/
def handDocument (document : Document) (footer : Option FooterImage) : Handing σ ε Unit := do
  writer.hand (.paragraph .title (style.run document.title style.title))
  writer.handSome (document.description.map fun text =>
    .paragraph .description (style.run text style.description))
  writer.handBlocks style false document.blocks
  writer.handSome (footer.map .footerImage)

end Writer

/-! ### Work and the calls that it makes -/

/-- A run of calls as the outcome of some work: its refusal, or else what the work comes to. -/
def Written.outcome (written : Written σ ε) (a : α) : Except ε α × σ :=
  match written.refusal with
  | none => (.ok a, written.state)
  | some reason => (.error reason, written.state)

namespace Writer

variable {writer : Writer σ ε} {style : StyleSheet}

/-- Calls behind others are made if none of those is refused. -/
theorem feed_append (state : σ) (front back : List Call) :
    writer.feed state (front ++ back) =
      match writer.feed state front with
      | ⟨state, none⟩ => writer.feed state back
      | ⟨state, some reason⟩ => ⟨state, some reason⟩ := by
  induction front generalizing state with
  | nil => rfl
  | cons call front ih =>
    rw [List.cons_append, feed, feed]
    cases writer.accept state call with
    | ok state => exact ih state
    | error reason => rfl

/-- **The work makes the calls**, one after another until one is refused, and comes to `a`. -/
def Makes (writer : Writer σ ε) (work : Handing σ ε α) (calls : List Call) (a : α) : Prop :=
  ∀ state, work state = (writer.feed state calls).outcome a

theorem Makes.bind {work : Handing σ ε α} {next : α → Handing σ ε β} {calls calls' : List Call}
    {a : α} {b : β} (h : writer.Makes work calls a) (h' : writer.Makes (next a) calls' b) :
    writer.Makes (work >>= next) (calls ++ calls') b := by
  intro state
  change (match work state with | (r, state) => ExceptT.bindCont next r state) = _
  rw [h state, feed_append]
  obtain ⟨state', refusal⟩ := writer.feed state calls
  cases refusal with
  | none => exact h' state'
  | some reason => rfl

/-- Work behind other work. -/
theorem Makes.seq {work : Handing σ ε Unit} {next : Handing σ ε β} {calls calls' : List Call}
    {b : β} (h : writer.Makes work calls ()) (h' : writer.Makes next calls' b) :
    writer.Makes (work >>= fun _ => next) (calls ++ calls') b := h.bind h'

section Work
variable (writer : Writer σ ε) (style : StyleSheet)

theorem makes_pure (a : α) : writer.Makes (pure a) [] a := fun _ => rfl

theorem makes_hand (call : Call) : writer.Makes (writer.hand call) [call] () := by
  intro state
  unfold hand feed
  cases writer.accept state call with
  | ok state => rfl
  | error reason => rfl

theorem makes_handSome (call? : Option Call) :
    writer.Makes (writer.handSome call?) call?.toList () := by
  cases call? with
  | none => exact makes_pure writer ()
  | some call => exact makes_hand writer call

theorem makes_openTable (inTable : Bool) :
    writer.Makes (writer.openTable inTable) (if inTable then [] else [.beginTable]) () := by
  cases inTable with
  | false => exact makes_hand writer .beginTable
  | true => exact makes_pure writer ()

theorem makes_endTable (inTable : Bool) :
    writer.Makes (writer.endTable style inTable) (if inTable then style.closeTable else []) () := by
  cases inTable with
  | false => exact makes_pure writer ()
  | true => exact (makes_hand writer _).seq (makes_hand writer _)

/-- The work on a block makes its calls. -/
theorem makes_handBlock (inTable : Bool) (block : Block) :
    writer.Makes (writer.handBlock style inTable block) (style.blockCalls inTable block).1
      (style.blockCalls inTable block).2 := by
  cases block with
  | sectionHeader text depth =>
    have hwork := (makes_endTable writer style (inTable && depth == 0)).seq
      ((makes_openTable writer (inTable && depth != 0)).seq
        ((makes_hand writer (style.headerCall text depth)).seq (makes_pure writer true)))
    have hcalls : style.blockCalls inTable (.sectionHeader text depth) =
        ((if inTable && depth == 0 then style.closeTable else []) ++
          ((if inTable && depth != 0 then [] else [.beginTable]) ++
            ([style.headerCall text depth] ++ [])), true) := by
      unfold StyleSheet.blockCalls
      cases inTable <;> by_cases hdepth : depth = 0 <;> simp [hdepth]
    rw [hcalls]
    exact hwork
  | row label value depth =>
    have hwork := (makes_openTable writer inTable).seq
      ((makes_hand writer (style.rowCall label value depth)).seq (makes_pure writer true))
    cases inTable with
    | false => exact hwork
    | true => exact hwork
  | standalone label value answered =>
    have hanswer := makes_hand writer (.paragraph .answer
      (style.run (if answered then value else style.placeholder) (style.standaloneAnswer answered)))
    have hwork := (makes_endTable writer style inTable).seq
      ((makes_hand writer (.paragraph .questionLabel (style.run label style.standaloneLabel))).seq
        (hanswer.seq (makes_pure writer false)))
    cases inTable with
    | false => exact hwork
    | true => exact hwork

/-- The loop over the blocks makes the calls that are listed for them. -/
theorem makes_handBlocks (blocks : List Block) : ∀ inTable,
    writer.Makes (writer.handBlocks style inTable blocks) (style.bodyCalls inTable blocks) () := by
  induction blocks with
  | nil => exact makes_endTable writer style
  | cons block blocks ih =>
    intro inTable
    have hstep : writer.handBlocks style inTable (block :: blocks) =
        writer.handBlock style inTable block >>= fun inTable =>
          writer.handBlocks style inTable blocks := by
      simp only [handBlocks, List.foldlM_cons, bind_assoc]
    rw [hstep]
    exact (makes_handBlock writer style inTable block).bind (ih _)

end Work

/-- **The loop comes to what the listed calls come to**, on every writer and from every state. -/
theorem handDocument_eq (writer : Writer σ ε) (document : Document) (style : StyleSheet)
    (footer : Option FooterImage) (state : σ) :
    writer.handDocument style document footer state =
      (writer.write state document style footer).outcome () := by
  have htitle := makes_hand writer (.paragraph .title (style.run document.title style.title))
  have hdescription := makes_handSome writer (document.description.map fun text =>
    .paragraph .description (style.run text style.description))
  have hblocks := makes_handBlocks writer style document.blocks false
  have hfooter := makes_handSome writer (footer.map .footerImage)
  have hwork := htitle.seq (hdescription.seq (hblocks.seq hfooter))
  rw [write, Document.calls, List.append_assoc, List.append_assoc]
  exact hwork state

/-! ### Refusals -/

/-- **A refusal ends a run of calls.** -/
theorem feed_of_refused {state state' : σ} {front back : List Call} {call : Call} {reason : ε}
    (h : writer.feed state front = ⟨state', none⟩)
    (hrefused : writer.accept state' call = .error reason) :
    writer.feed state (front ++ call :: back) = ⟨state', some reason⟩ := by
  rw [feed_append, h]
  simp only [feed, hrefused]

/-- The calls in front of the one that is refused are recorded. -/
theorem feed_recording_of_le {k : Nat} (calls : List Call) : ∀ before : List Call,
    before.length + calls.length ≤ k →
      (recording (some k)).feed before calls = ⟨calls.reverse ++ before, none⟩ := by
  induction calls with
  | nil => exact fun before _ => rfl
  | cons call calls ih =>
    intro before hk
    rw [List.length_cons] at hk
    have haccept : (recording (some k)).accept before call = .ok (call :: before) :=
      if_neg fun hsame => by
        have := Option.some.inj hsame
        omega
    rw [feed, haccept, List.reverse_cons, List.append_assoc]
    exact ih (call :: before) (by rw [List.length_cons]; omega)

theorem feed_recording_some (calls : List Call) (k : Nat) :
    (recording (some k)).feed [] calls =
      if k < calls.length then ⟨(calls.take k).reverse, some ("refused call " ++ toString k)⟩
      else ⟨calls.reverse, none⟩ := by
  by_cases hk : k < calls.length
  · rw [if_pos hk]
    have hlength : (calls.take k).length = k := List.length_take_of_le (Nat.le_of_lt hk)
    have hfront := feed_recording_of_le (calls.take k) [] (k := k) (by simp [hlength])
    have hrefused : (recording (some k)).accept (calls.take k).reverse calls[k] =
        .error ("refused call " ++ toString k) := by
      simp [recording, Nat.min_eq_left (Nat.le_of_lt hk)]
    rw [List.append_nil] at hfront
    have hrun : (recording (some k)).feed [] (calls.take k ++ calls[k] :: calls.drop (k + 1)) =
        ⟨(calls.take k).reverse, some ("refused call " ++ toString k)⟩ :=
      feed_of_refused hfront hrefused
    rwa [← List.drop_eq_getElem_cons hk, List.take_append_drop] at hrun
  · rw [if_neg hk, feed_recording_of_le calls [] (by simp; omega), List.append_nil]

end Writer

/-- **A refusal ends the document at once.** Let `calls` be what a writer gets that refuses nothing.
A writer that refuses one of them by its number gets those in front of it, and the document ends
with that refusal; where there is no call of that number it gets all of them. Whatever else a writer
refuses, the document comes to what these calls come to, made one after another. -/
theorem refusal_ends_document (document : Document) (style : StyleSheet)
    (footer : Option FooterImage) (k : Nat) :
    ∃ calls : List Call,
      (Writer.recording none).handDocument style document footer [] = (.ok (), calls.reverse) ∧
      (Writer.recording (some k)).handDocument style document footer [] =
        (if k < calls.length then
          (.error ("refused call " ++ toString k), (calls.take k).reverse)
        else (.ok (), calls.reverse)) ∧
      ∀ {σ ε : Type} (writer : Writer σ ε) (state : σ),
        writer.handDocument style document footer state =
          (writer.write state document style footer).outcome () ∧
        writer.write state document style footer = writer.feed state calls := by
  refine ⟨document.calls style footer, ?_, ?_, fun writer state => ⟨?_, rfl⟩⟩
  · rw [Writer.handDocument_eq, Writer.write, feed_recording_none, List.append_nil]
    rfl
  · rw [Writer.handDocument_eq, Writer.write, Writer.feed_recording_some]
    split
    · rfl
    · rfl
  · exact Writer.handDocument_eq writer document style footer state

end Questionnaire
