import Questionnaire.Proofs.Batch.Run

/-! # The command for a folder

Unless something keeps the command for the files of answers in a folder from its tasks
(`Batch.Hinders`), all that it does to the disk are the tasks for these files in turn
(`leaves_compileFolder`), and it succeeds just where all of them do (`Batch.outcome_eq_ok`). -/

namespace Questionnaire.CommandLine

/-! ### Parts of the command -/

theorem Ends.tellResults (results : List BatchResult) (disk : Disk) :
    Ends (CommandLine.tellResults results) disk (.ok ()) disk := by
  induction results with
  | nil => exact .pure () disk
  | cons result results ih => exact .bind (.tell (resultOutput result) disk) ih

namespace Batch

theorem lines_inTurn (batch : Batch) (world : World) (inputs : List String) :
    (batch.inTurn world inputs).2.lines = world.lines := by
  induction inputs generalizing world with
  | nil => rfl
  | cons input inputs ih =>
    rw [inTurn_cons]
    exact (ih _).trans (batch.ends_compileFile world.disk input world rfl).2.2

theorem ends_compileEach (batch : Batch) (disk : Disk) (inputs : List String) :
    Ends (ExceptT.lift (batch.compileEach inputs)) disk (.ok (batch.tasksOn disk inputs).1)
      (batch.tasksOn disk inputs).2 := by
  rintro world rfl
  rw [← inTurn_fst, ← disk_inTurn]
  exact ⟨rfl, rfl, batch.lines_inTurn world inputs⟩

/-- What the tasks of a batch come to. -/
def outcome (results : List BatchResult) : Except Failure Unit :=
  if (results.filter hasFailed).length = 0 then .ok ()
  else .error (.batchFailed (results.filter hasFailed).length results.length)

theorem ends_outcome (results : List BatchResult) (disk : Disk) :
    Ends
      (match (results.filter hasFailed).length with
      | 0 => pure ()
      | failed => throw (.batchFailed failed results.length))
      disk (outcome results) disk := by
  unfold outcome
  split
  · rename_i hnone
    rw [if_pos hnone]
    exact .pure () disk
  · rename_i hsome
    rw [if_neg hsome]
    exact .throw _ disk

/-- A batch succeeds if every one of its tasks does. -/
theorem outcome_eq_ok {results : List BatchResult} :
    outcome results = .ok () ↔ ∀ result ∈ results, ∃ path, result.2 = .ok path := by
  have hfailed (result : BatchResult) : ¬ hasFailed result ↔ ∃ path, result.2 = .ok path := by
    unfold hasFailed
    cases result.2 <;> simp
  simp only [← hfailed, ← List.filter_eq_nil_iff, ← List.length_eq_zero_iff, outcome,
    ite_eq_left_iff, reduceCtorEq, imp_false, not_not]

/-! ### The command -/

section Command

variable (settings : Settings) (form folder pattern : String) (destination : Destination)
  (disk : Disk)

/-- What keeps the command for a folder from its tasks, and the failure that tells of it. -/
inductive Hinders : Failure → Prop
  | form {failure : Failure} (hform : formOn disk form = .error failure) : Hinders failure
  | config {failure : Failure} (hconfig : configOn disk settings.configPath = .error failure) :
    Hinders failure
  | pattern {failure : Failure}
    (hpattern : (Glob.ofText pattern).mapError Failure.glob = .error failure) : Hinders failure
  | inputs {tokens : List GlobToken} {failure : Failure}
    (hpattern : Glob.ofText pattern = .ok tokens)
    (hinputs : inputsOn disk folder form tokens = .error failure) : Hinders failure
  | noInputs {tokens : List GlobToken} (hpattern : Glob.ofText pattern = .ok tokens)
    (hinputs : inputsOn disk folder form tokens = .ok []) :
    Hinders (.noAnswersFiles folder pattern)
  | folder {failure : Failure}
    (hfolder : outputFolder settings destination.folder = .error failure) : Hinders failure

/-- What the command for a folder has read before its tasks, and the files that these are for. -/
structure HasRead (parsed : Form) (config : ExportConfig) (tokens : List GlobToken)
    (inputs : List String) (root : String) : Prop where
  pattern : Glob.ofText pattern = .ok tokens
  ne_nil : inputs ≠ []
  inputs : inputsOn disk folder form tokens = .ok inputs
  form : formOn disk form = .ok parsed
  config : configOn disk settings.configPath = .ok config
  folder : outputFolder settings destination.folder = .ok root

/-- The batch of the command for a folder. -/
def of (parsed : Form) (config : ExportConfig) (root : String) : Batch :=
  ⟨settings, parsed, config, footerOn disk config, root, destination.format, destination.force⟩

/-- A disk after the command for a folder: it is as it was, because something hinders the command,
or the tasks have been done in turn. -/
inductive CompilesFolder : Except Failure Unit → Disk → Prop
  | hindered {failure : Failure}
    (h : Hinders settings form folder pattern destination disk failure) :
    CompilesFolder (.error failure) disk
  | done {parsed : Form} {config : ExportConfig} {tokens : List GlobToken} {inputs : List String}
    {root : String}
    (h : HasRead settings form folder pattern destination disk parsed config tokens inputs root) :
    CompilesFolder
      (outcome ((Batch.of settings destination disk parsed config root).tasksOn disk inputs).1)
      ((Batch.of settings destination disk parsed config root).tasksOn disk inputs).2

end Command

end Batch

theorem leaves_compileFolder (settings : Settings) (form folder pattern : String)
    (destination : Destination) (disk : Disk) (lines : List String) :
    Leaves (compileFolder settings form folder pattern destination) disk lines
      (Batch.CompilesFolder settings form folder pattern destination disk) := by
  unfold compileFolder
  refine .find (.loadForm form disk) (fun _ h => .hindered (.form h)) fun parsed hform => ?_
  refine .find (.loadConfig settings disk) (fun _ h => .hindered (.config h))
    fun config hconfig => ?_
  refine .find (.settle _ disk) (fun _ h => .hindered (.pattern h)) fun tokens htokens => ?_
  have hpattern : Glob.ofText pattern = .ok tokens := eq_ok_of_mapError htokens
  refine .find (.answersFiles folder form tokens disk)
    (fun _ h => .hindered (.inputs hpattern h)) fun inputs hinputs => ?_
  dsimp only
  split
  · rename_i hempty
    obtain rfl := List.isEmpty_iff.mp hempty
    exact (Ends.bind_error (.throw _ disk)).leaves lines (.hindered (.noInputs hpattern hinputs))
  rename_i hne
  refine .find (.settle _ disk) (fun _ h => .hindered (.folder h)) fun root hroot => ?_
  refine .find (.usableFooter settings config disk) (fun _ h => by cases h) fun footer hfooter => ?_
  obtain rfl := Except.ok.inj hfooter
  have hread : Batch.HasRead settings form folder pattern destination disk parsed config tokens
      inputs root := ⟨hpattern, by simpa using hne, hinputs, hform, hconfig, hroot⟩
  exact Ends.leaves (.bind (Batch.ends_compileEach _ disk inputs) (.bind (.tellResults _ _)
    (Batch.ends_outcome _ _))) lines (.done hread)

end Questionnaire.CommandLine
