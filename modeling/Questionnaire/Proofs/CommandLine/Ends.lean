import Questionnaire.CommandLine.Fill
import Questionnaire.CommandLine.World
import Questionnaire.Proofs.Files.Disk

/-! # What commands do to a disk

`Ends` says how a task ends on a disk, whatever has been told before and is still to be typed, with
a rule for each way to build a task. What a task reads off the disk is said without the task: the
form, the answers and the export settings that files hold (`formOn`, `answersOn`, `configOn`). Where
the result of a task hangs on what is typed, as that of an interview does (`leaves_interview`),
`Leaves` says what is known of the result and of the disk after it. -/

namespace Questionnaire.CommandLine

variable {α β : Type} {disk after : Disk}

/-! ### How a task ends -/

/-- In every world with a disk, a task ends with a result and leaves another disk, and nothing is
typed. -/
def Ends (task : Task (StateM World) α) (disk : Disk) (result : Except Failure α) (after : Disk) :
    Prop :=
  ∀ world : World, world.disk = disk →
    (StateT.run task.run world).1 = result ∧ (StateT.run task.run world).2.disk = after ∧
      (StateT.run task.run world).2.lines = world.lines

namespace Ends

theorem pure (a : α) (disk : Disk) : Ends (Pure.pure a) disk (.ok a) disk :=
  fun _ hworld => ⟨rfl, hworld, rfl⟩

theorem throw (failure : Failure) (disk : Disk) :
    Ends (MonadExcept.throw failure : Task (StateM World) α) disk (.error failure) disk :=
  fun _ hworld => ⟨rfl, hworld, rfl⟩

theorem settle (found : Except Failure α) (disk : Disk) :
    Ends (CommandLine.settle found) disk found disk :=
  fun _ hworld => ⟨rfl, hworld, rfl⟩

section Bind

variable {task : Task (StateM World) α} {next : α → Task (StateM World) β}

private theorem run_bind (world : World) :
    StateT.run (task >>= next).run world =
      StateT.run (ExceptT.bindCont next (StateT.run task.run world).1)
        (StateT.run task.run world).2 :=
  rfl

theorem bind {a : α} {result : Except Failure β} {between : Disk}
    (htask : Ends task disk (.ok a) between) (hnext : Ends (next a) between result after) :
    Ends (task >>= next) disk result after := by
  intro world hworld
  obtain ⟨hresult, hdisk, hlines⟩ := htask world hworld
  obtain ⟨hresult', hdisk', hlines'⟩ := hnext _ hdisk
  rw [run_bind, hresult]
  exact ⟨hresult', hdisk', hlines'.trans hlines⟩

theorem bind_error {failure : Failure} (htask : Ends task disk (.error failure) after) :
    Ends (task >>= next) disk (.error failure) after := by
  intro world hworld
  obtain ⟨hresult, hrest⟩ := htask world hworld
  rw [run_bind, hresult]
  exact ⟨rfl, hrest⟩

/-- A task that finds something out without changing the disk, and what is made of it. -/
theorem find {found : Except Failure α} {rest : α → Except Failure β}
    (htask : Ends task disk found disk) (hnext : ∀ a, Ends (next a) disk (rest a) disk) :
    Ends (task >>= next) disk (found >>= rest) disk := by
  cases found with
  | error failure => exact htask.bind_error
  | ok a => exact htask.bind (hnext a)

end Bind

/-! ### Looking and telling -/

theorem readFile (path : String) (disk : Disk) :
    Ends (onFiles (Host.readFile path)) disk ((disk.read path).mapError .file) disk := by
  rintro world rfl
  exact ⟨rfl, rfl, rfl⟩

theorem isTaken (path : String) (disk : Disk) :
    Ends (ExceptT.lift (Host.isTaken path)) disk (.ok (disk.isTaken path)) disk := by
  rintro world rfl
  exact ⟨rfl, rfl, rfl⟩

theorem isFile (path : String) (disk : Disk) :
    Ends (ExceptT.lift (Host.isFile path)) disk (.ok (disk.isFile path)) disk := by
  rintro world rfl
  exact ⟨rfl, rfl, rfl⟩

theorem tell (output : Output) (disk : Disk) : Ends (CommandLine.tell output) disk (.ok ()) disk :=
  fun _ hworld => ⟨rfl, hworld, rfl⟩

theorem printLines (texts : List String) (disk : Disk) :
    Ends (CommandLine.printLines texts) disk (.ok ()) disk := by
  induction texts with
  | nil => exact .pure () disk
  | cons text texts ih => exact .bind (.tell _ disk) ih

theorem warnOf (settings : Settings) (message path : String) (disk : Disk) :
    Ends (CommandLine.warnOf settings message path) disk (.ok ()) disk := by
  rintro world rfl
  unfold CommandLine.warnOf
  split <;> exact ⟨rfl, rfl, rfl⟩

/-! ### Changing -/

theorem change {f : Disk → Except FileFault Disk} (h : f disk = .ok after) :
    Ends (onFiles (World.change f)) disk (.ok ()) after := by
  rintro world rfl
  refine ⟨?_, ?_, ?_⟩ <;> simp [onFiles, World.change, h] <;> rfl

theorem change_error {f : Disk → Except FileFault Disk} {fault : FileFault}
    (h : f disk = .error fault) :
    Ends (onFiles (World.change f)) disk (.error (.file fault)) disk := by
  rintro world rfl
  refine ⟨?_, ?_, ?_⟩ <;> simp [onFiles, World.change, h] <;> rfl

end Ends

/-! ### What files hold -/

/-- The form in a file on a disk. -/
def formOn (disk : Disk) (path : String) : Except Failure Form := do
  formOf path (← (disk.read path).mapError .file)

/-- The answers in a file on a disk. -/
def answersOn (disk : Disk) (path : String) : Except Failure Answers := do
  let contents ← (disk.read path).mapError .file
  return Answers.ofJson (← answersValueOf contents)

/-- The answers at a path on a disk, none without a path. -/
def givenOn (disk : Disk) : Option String → Except Failure Answers
  | none => .ok .empty
  | some path => answersOn disk path

/-- The export settings at a path on a disk, the standard ones without a path. -/
def configOn (disk : Disk) : Option String → Except Failure ExportConfig
  | none => .ok .standard
  | some path => do exportConfigOf (← (disk.read path).mapError .file)

/-- The footer image of export settings, if its file is on the disk. -/
def footerOn (disk : Disk) (config : ExportConfig) : Option FooterImage :=
  config.footerImage.filter fun image => disk.isFile image.path

namespace Ends

theorem loadForm (path : String) (disk : Disk) :
    Ends (CommandLine.loadForm path) disk (formOn disk path) disk :=
  .find (.readFile path disk) fun contents => .settle (formOf path contents) disk

theorem loadAnswersAt (settings : Settings) (path : String) (disk : Disk) :
    Ends (CommandLine.loadAnswersAt settings path) disk (answersOn disk path) disk := by
  refine .find (.readFile path disk) fun contents => ?_
  refine .find (.settle (answersValueOf contents) disk) fun value => ?_
  dsimp only
  split
  · exact .pure _ _
  · exact .bind (.warnOf settings _ path disk) (.pure _ _)

theorem loadAnswers (settings : Settings) (path : Option String) (disk : Disk) :
    Ends (CommandLine.loadAnswers settings path) disk (givenOn disk path) disk := by
  cases path with
  | none => exact .pure _ disk
  | some path => exact .loadAnswersAt settings path disk

theorem loadConfig (settings : Settings) (disk : Disk) :
    Ends (CommandLine.loadConfig settings) disk (configOn disk settings.configPath) disk := by
  unfold CommandLine.loadConfig configOn
  cases settings.configPath with
  | none => exact .pure _ disk
  | some path =>
    exact .find (.readFile path disk) fun contents => .settle (exportConfigOf contents) disk

theorem usableFooter (settings : Settings) (config : ExportConfig) (disk : Disk) :
    Ends (CommandLine.usableFooter settings config) disk (.ok (footerOn disk config)) disk := by
  unfold CommandLine.usableFooter footerOn
  cases config.footerImage with
  | none => exact .pure _ disk
  | some image =>
    refine .bind (.isFile image.path disk) ?_
    rw [Option.filter_some]
    cases disk.isFile image.path with
    | true => exact .pure _ disk
    | false => exact .bind (.warnOf settings _ _ disk) (.pure _ disk)

end Ends

/-! ### Documents -/

/-- How a document is written on a disk with its folder: the result, and the disk after it. -/
def writtenOn (made : Disk) (path contents : String) (force : Bool) :
    Except Failure String × Disk :=
  if made.isTaken path && !force then (.error (.documentExists path), made)
  else
    match made.write path contents.toUTF8 with
    | .error fault => (.error (.file fault), made)
    | .ok written => (.ok path, written)

theorem writtenOn_of_free {made : Disk} {path : String} {place : Place} {force : Bool}
    (hleads : made.follow path = .ok place) (hfolder : made.entry? place ≠ some .folder)
    (hfree : force = false → made.entry? place = none) (contents : String) :
    writtenOn made path contents force =
      (.ok path, made.insert place (.file contents.toUTF8)) := by
  have htaken : (made.isTaken path && !force) = false := by
    cases force with
    | true => simp
    | false => simp [Disk.isTaken_eq hleads, hfree rfl]
  have hwritten : made.write path contents.toUTF8 =
      .ok (made.insert place (.file contents.toUTF8)) :=
    Disk.write_eq_ok.mpr ⟨place, hleads, hfolder, rfl⟩
  simp only [writtenOn, htaken, hwritten]
  rfl

/-- A document is written where it may be, or the disk stays as it is. -/
theorem writtenOn_cases (made : Disk) (path contents : String) (force : Bool) :
    (∃ place, made.follow path = .ok place ∧ made.entry? place ≠ some .folder ∧
      (force = false → made.entry? place = none)) ∨
    ∃ failure, writtenOn made path contents force = (.error failure, made) := by
  cases htaken : made.isTaken path && !force with
  | true => exact .inr ⟨_, by rw [writtenOn, if_pos htaken]⟩
  | false =>
    cases hwritten : made.write path contents.toUTF8 with
    | error fault => exact .inr ⟨.file fault, by simp only [writtenOn, htaken, hwritten]; rfl⟩
    | ok written =>
      obtain ⟨place, hleads, hfolder, -⟩ := Disk.write_eq_ok.mp hwritten
      refine .inl ⟨place, hleads, hfolder, fun hforce => ?_⟩
      simpa [Disk.isTaken_eq hleads, hforce] using htaken

section WriteDocument

variable {made : Disk} {folder : String} (name contents : String) (force : Bool)

theorem Ends.writeDocument (hmade : disk.makeFolders folder = .ok made) :
    Ends (writeDocument folder name contents force) disk
      (writtenOn made (Path.join folder name) contents force).1
      (writtenOn made (Path.join folder name) contents force).2 := by
  unfold CommandLine.writeDocument writtenOn
  refine .bind (.change hmade) (.bind (.isTaken (Path.join folder name) made) ?_)
  split
  · exact .bind_error (.throw _ made)
  · cases hwritten : made.write (Path.join folder name) contents.toUTF8 with
    | error fault => exact .bind_error (.change_error hwritten)
    | ok written => exact .bind (.change hwritten) (.pure _ written)

theorem Ends.writeDocument_error {fault : FileFault}
    (hmade : disk.makeFolders folder = .error fault) :
    Ends (CommandLine.writeDocument folder name contents force) disk (.error (.file fault)) disk :=
  .bind_error (.change_error hmade)

end WriteDocument

/-! ### Tasks that hang on what is typed -/

/-- In every world with a disk and with lines that are still to be typed, the result of a task and
the disk after it meet a condition. -/
def Leaves (task : Task (StateM World) α) (disk : Disk) (lines : List String)
    (P : Except Failure α → Disk → Prop) : Prop :=
  ∀ world : World, world.disk = disk → world.lines = lines →
    P (StateT.run task.run world).1 (StateT.run task.run world).2.disk

theorem Ends.leaves {task : Task (StateM World) α} {result : Except Failure α}
    {P : Except Failure α → Disk → Prop} (h : Ends task disk result after) (lines : List String)
    (hP : P result after) : Leaves task disk lines P := by
  intro world hworld _
  obtain ⟨rfl, rfl, -⟩ := h world hworld
  exact hP

namespace Leaves

variable {task : Task (StateM World) α} {next : α → Task (StateM World) β} {lines : List String}
  {P : Except Failure β → Disk → Prop} {Q : Except Failure α → Disk → Prop}

theorem bind (h : Leaves task disk lines Q)
    (herror : ∀ failure after, Q (.error failure) after → P (.error failure) after)
    (hok : ∀ a between rest, Q (.ok a) between → Leaves (next a) between rest P) :
    Leaves (task >>= next) disk lines P := by
  intro world hworld hlines
  have hQ := h world hworld hlines
  rw [Ends.run_bind]
  cases hresult : (StateT.run task.run world).1 with
  | error failure =>
    rw [hresult] at hQ
    exact herror failure _ hQ
  | ok a =>
    rw [hresult] at hQ
    exact hok a _ _ hQ _ rfl rfl

/-- A task that finds something out without changing the disk, in front of another one. -/
theorem find {found : Except Failure α} (h : Ends task disk found disk)
    (herror : ∀ failure, found = .error failure → P (.error failure) disk)
    (hok : ∀ a, found = .ok a → Leaves (next a) disk lines P) :
    Leaves (task >>= next) disk lines P := by
  intro world hworld hlines
  obtain ⟨hresult, hdisk, hrest⟩ := h world hworld
  rw [Ends.run_bind, hresult]
  cases hfound : found with
  | error failure =>
    have hP := herror failure hfound
    rw [← hdisk] at hP
    exact hP
  | ok a => exact hok a hfound _ hdisk (hrest.trans hlines)

end Leaves

/-- How an interview about a form goes on from some answers when lines are typed. -/
def interviewOn (settings : Settings) (form : Form) (answers : Answers) (lines : List String) :
    Except Failure Interview.Session := do
  let session ←
    ((interviewSetting settings form).session answers.toJson []).mapError Failure.ofFault
  (session.converse lines).2.mapError .ofFault

/-- What is typed decides how an interview ends, but none of it reaches the disk. -/
theorem leaves_interview (settings : Settings) (form : Form) (answers : Answers) (disk : Disk)
    (lines : List String) :
    Leaves (interview settings form answers) disk lines fun result after =>
      result = interviewOn settings form answers lines ∧ after = disk := by
  unfold interview interviewOn
  refine .find (.settle _ disk) (fun failure h => ⟨by rw [h]; rfl, rfl⟩) fun session h => ?_
  rw [h]
  refine .find (.printLines _ disk) (fun _ h => by cases h) fun _ _ => ?_
  rintro world rfl rfl
  exact ⟨rfl, rfl⟩

end Questionnaire.CommandLine
