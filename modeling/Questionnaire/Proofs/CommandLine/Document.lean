import Questionnaire.Proofs.CommandLine.Ends
import Questionnaire.Proofs.CommandLine.Naming

/-! # Where documents are written

The commands that write the document of a form change no file but one, which stands directly in the
folder for documents (`Deposit`), and they do not succeed without writing it there
(`leaves_compileFiles`, `leaves_fillIn`). They fail before that only if something `Hinders` them:
what they read cannot be had, the interview comes to no end, or there is no folder or no name for the
document. What the name may be is said in `OutputFormat.isDocumentName_nameFrom`: the template of the
export settings may show any text, but the name that is made of it never leads out of the folder
(`document_lies_in_folder`). -/

namespace Questionnaire.CommandLine

variable {α β : Type} {disk after : Disk}

/-! ### One document -/

/-- A disk after a task for a document: no file is new or has new contents but the document, which
stands directly in a folder. If the task has succeeded, the document is there, and it does succeed
where the folder can be made and the name is free, or names a file that may be written over. -/
structure Deposit (folder name contents : String) (force : Bool) (disk : Disk)
    (result : Except Failure α) (after : Disk) : Prop where
  grows : Disk.Grows disk after
  files : ∀ place found, after.entry? place = some (.file found) →
    disk.entry? place = some (.file found) ∨
      after.IsIn folder name place ∧ found = contents.toUTF8
  written : ∀ a, result = .ok a →
    ∃ place, after.IsIn folder name place ∧ after.entry? place = some (.file contents.toUTF8)
  succeeds : ∀ made place, disk.makeFolders folder = .ok made →
    made.follow (Path.join folder name) = .ok place → made.entry? place ≠ some .folder →
      (force = false → made.entry? place = none) → ∃ a, result = .ok a

namespace Deposit

variable {folder name contents : String} {force : Bool}

theorem error {failure : Failure}
    (h : Deposit folder name contents force disk (.error failure : Except Failure α) after) :
    Deposit folder name contents force disk (.error failure : Except Failure β) after where
  grows := h.grows
  files := h.files
  written _ hresult := by cases hresult
  succeeds made place hmade hleads hfolder hfree := by
    obtain ⟨a, hresult⟩ := h.succeeds made place hmade hleads hfolder hfree
    cases hresult

theorem ok {a : α} (h : Deposit folder name contents force disk (.ok a) after) (b : β) :
    Deposit folder name contents force disk (.ok b) after where
  grows := h.grows
  files := h.files
  written _ _ := h.written a rfl
  succeeds _ _ _ _ _ _ := ⟨b, rfl⟩

/-- The folder cannot be made. -/
theorem of_fault {fault : FileFault} (hmade : disk.makeFolders folder = .error fault) :
    Deposit folder name contents force disk (.error (.file fault) : Except Failure α) disk where
  grows := .refl disk
  files _ _ hfound := .inl hfound
  written _ hresult := by cases hresult
  succeeds made _ hmade' := by
    rw [hmade] at hmade'
    cases hmade'

/-- The folder is made and then the document is written, unless that fails. -/
theorem of_writtenOn {made : Disk} (hmade : disk.makeFolders folder = .ok made)
    (hfolder : folder ≠ "") (hname : Path.IsName name) (contents : String) (force : Bool) :
    Deposit folder name contents force disk
      (writtenOn made (Path.join folder name) contents force).1
      (writtenOn made (Path.join folder name) contents force).2 := by
  have hgrows := (Disk.makeFolders_ok hmade).1.grows
  have hfiles := Disk.addsNoFile_of_makeFolders hmade
  obtain ⟨place, hleads, hfree, hforce⟩ | ⟨failure, hfailed⟩ :=
    writtenOn_cases made (Path.join folder name) contents force
  · rw [writtenOn_of_free hleads hfree hforce contents]
    have hwritten := Disk.grows_insert hfree contents.toUTF8
    have hplace := hwritten.isIn (Disk.isIn_of_makeFolders hfolder hmade hname hleads hfree)
    have hentry := Disk.entry?_insert hfree (.file contents.toUTF8)
    refine ⟨hgrows.trans hwritten, fun q found hfound => ?_, fun _ _ => ⟨place, hplace, ?_⟩,
      fun _ _ _ _ _ _ => ⟨_, rfl⟩⟩
    · rw [hentry] at hfound
      split at hfound
      · rename_i hq
        cases hfound
        exact .inr ⟨hq ▸ hplace, rfl⟩
      · exact .inl (hfiles q found hfound)
    · rw [hentry, if_pos rfl]
  · rw [hfailed]
    refine ⟨hgrows, fun place found hfound => .inl (hfiles place found hfound), ?_, ?_⟩
    · rintro _ ⟨⟩
    · -- where the name is free nothing keeps the document from being written
      intro made' place hmade' hleads hfolder hfree
      obtain rfl : made = made' := Except.ok.inj (hmade.symm.trans hmade')
      have hwritten := writtenOn_of_free hleads hfolder hfree contents
      rw [hfailed] at hwritten
      cases hwritten

end Deposit

theorem leaves_writeDocument {folder name : String} (hfolder : folder ≠ "")
    (hname : Path.IsName name) (contents : String) (force : Bool) (disk : Disk)
    (lines : List String) :
    Leaves (writeDocument folder name contents force) disk lines
      (Deposit folder name contents force disk) := by
  cases hmade : disk.makeFolders folder with
  | error fault => exact (Ends.writeDocument_error _ _ _ hmade).leaves lines (.of_fault hmade)
  | ok made =>
    exact (Ends.writeDocument name contents force hmade).leaves lines
      (.of_writtenOn hmade hfolder hname contents force)

/-! ### The document of a form -/

theorem outputFolder_ne_empty {settings : Settings} {chosen : Option String} {folder : String}
    (h : outputFolder settings chosen = .ok folder) : folder ≠ "" := by
  unfold outputFolder at h
  dsimp only at h
  split at h
  · cases h
  · rename_i hempty
    obtain rfl := Except.ok.inj h
    simpa using hempty

theorem documentName_eq_ok {format : OutputFormat} {config : ExportConfig} {form : Form}
    {name : String} :
    documentName format config form = .ok name ↔
      ∃ rendered, Template.render? config.filenameTemplate (Template.formData form) =
        some rendered ∧ name = format.nameFrom rendered := by
  rw [documentName, documentName?_eq]
  cases Template.render? config.filenameTemplate (Template.formData form) with
  | none => simp
  | some rendered => simp [eq_comm]

section Commands

variable (settings : Settings) (form : String) (destination : Destination) (prints : Bool)
  (given : Form → Except Failure Answers) (disk : Disk)

/-- **What keeps a command from its document**, and the failure that tells of it: the form or the
export settings cannot be read, there are no answers to the form, or there is no folder or no name
for a document that is not printed. -/
inductive Hinders : Failure → Prop
  | form {failure : Failure} (hform : formOn disk form = .error failure) : Hinders failure
  | config {failure : Failure} (hconfig : configOn disk settings.configPath = .error failure) :
    Hinders failure
  | answers {parsed : Form} {failure : Failure} (hform : formOn disk form = .ok parsed)
    (hgiven : given parsed = .error failure) : Hinders failure
  | folder {failure : Failure} (hprints : prints = false)
    (hfolder : outputFolder settings destination.folder = .error failure) : Hinders failure
  | name {parsed : Form} {config : ExportConfig} {failure : Failure} (hprints : prints = false)
    (hform : formOn disk form = .ok parsed)
    (hconfig : configOn disk settings.configPath = .ok config)
    (hname : documentName destination.format config parsed = .error failure) : Hinders failure

/-- What a command for a document has read. -/
structure HasRead (parsed : Form) (config : ExportConfig) (answers : Answers) : Prop where
  form : formOn disk form = .ok parsed
  config : configOn disk settings.configPath = .ok config
  answers : given parsed = .ok answers

/-- **A disk after a command for a document** of the form at a path and the answers that are given
to it. Either it is as it was, because something hinders the command or the document is printed, or
the document is put in the folder for documents, under the name that is made of what the template of
the export settings shows. -/
inductive WritesDocument : Except Failure Unit → Disk → Prop
  | hindered {failure : Failure}
    (h : Hinders settings form destination prints given disk failure) :
    WritesDocument (.error failure) disk
  | printed {parsed : Form} {config : ExportConfig} {answers : Answers} (hprints : prints = true)
    (hread : HasRead settings form given disk parsed config answers) : WritesDocument (.ok ()) disk
  | put {parsed : Form} {config : ExportConfig} {answers : Answers} {folder rendered : String}
    {result : Except Failure Unit} {after : Disk} (hprints : prints = false)
    (hread : HasRead settings form given disk parsed config answers)
    (hfolder : outputFolder settings destination.folder = .ok folder)
    (hrendered : Template.render? config.filenameTemplate (Template.formData parsed) =
      some rendered)
    (hput : Deposit folder (destination.format.nameFrom rendered)
      (destination.format.contents (parsed.compile answers) config (footerOn disk config))
      destination.force disk result after) : WritesDocument result after

end Commands

section Write

variable {settings : Settings} {form : String} {destination : Destination}
  {given : Form → Except Failure Answers}

/-- Where nothing hinders a command and the document can be put in its folder, the command
succeeds. -/
theorem WritesDocument.succeeds {prints : Bool} {result : Except Failure Unit}
    (h : WritesDocument settings form destination prints given disk result after)
    (hfree : ∀ failure, ¬ Hinders settings form destination prints given disk failure)
    (hplace : ∀ folder name, outputFolder settings destination.folder = .ok folder →
      destination.format.IsDocumentName name → ∃ made place, disk.makeFolders folder = .ok made ∧
        made.follow (Path.join folder name) = .ok place ∧ made.entry? place ≠ some .folder ∧
          (destination.force = false → made.entry? place = none)) :
    result = .ok () := by
  cases h with
  | hindered h => exact absurd h (hfree _)
  | printed => rfl
  | put _ _ hfolder _ hput =>
    obtain ⟨made, place, hmade, hleads, hnofolder, hnone⟩ :=
      hplace _ _ hfolder (destination.format.isDocumentName_nameFrom _)
    obtain ⟨⟨⟩, hresult⟩ := hput.succeeds made place hmade hleads hnofolder hnone
    exact hresult

/-- Where everything is read, the document is written before more is told. -/
theorem leaves_writeNamed {parsed : Form} {config : ExportConfig} {answers : Answers}
    (hread : HasRead settings form given disk parsed config answers) (lines : List String)
    {next : String → Task (StateM World) Unit}
    (hnext : ∀ path after, Ends (next path) after (.ok ()) after) :
    Leaves (writeNamed settings destination config parsed
        (destination.format.contents (parsed.compile answers) config (footerOn disk config)) >>=
          next) disk lines
      (WritesDocument settings form destination false given disk) := by
  simp only [writeNamed, bind_assoc]
  refine .find (.settle _ disk) (fun _ h => .hindered (.folder rfl h)) fun folder hfolder => ?_
  refine .find (.settle _ disk) (fun _ h => .hindered (.name rfl hread.form hread.config h))
    fun name hname => ?_
  obtain ⟨rendered, hrendered, rfl⟩ := documentName_eq_ok.mp hname
  have hput := leaves_writeDocument (outputFolder_ne_empty hfolder)
    (destination.format.isName_nameFrom rendered)
    (destination.format.contents (parsed.compile answers) config (footerOn disk config))
    destination.force disk lines
  refine hput.bind (fun failure after h => ?_) fun path after rest h => ?_
  · exact .put rfl hread hfolder hrendered h.error
  · exact (hnext path after).leaves rest (.put rfl hread hfolder hrendered (h.ok ()))

end Write

/-! ### The commands -/

/-- The answers that an interview about a form gathers, from those at a path or from none. -/
def gatheredOn (settings : Settings) (answers : Option String) (disk : Disk) (lines : List String)
    (form : Form) : Except Failure Answers := do
  let session ← interviewOn settings form (← givenOn disk answers) lines
  return Answers.ofJson session.answers

theorem gatheredOn_of_ok {answers : Option String} {before : Answers}
    (hbefore : givenOn disk answers = .ok before) (settings : Settings) (lines : List String)
    (form : Form) :
    gatheredOn settings answers disk lines form =
      (interviewOn settings form before lines).map fun session =>
        Answers.ofJson session.answers := by
  unfold gatheredOn
  rw [hbefore]
  dsimp only [Bind.bind, Except.bind]
  cases interviewOn settings form before lines with
  | error failure => rfl
  | ok session => rfl

theorem leaves_compileFiles (settings : Settings) (form answers : String)
    (destination : Destination) (prints : Bool) (disk : Disk) (lines : List String) :
    Leaves (compileFiles settings form answers destination prints) disk lines
      (WritesDocument settings form destination prints (fun _ => answersOn disk answers) disk) := by
  unfold compileFiles
  refine .find (.loadForm form disk) (fun _ h => .hindered (.form h)) fun parsed hform => ?_
  refine .find (.loadAnswersAt settings answers disk) (fun _ h => .hindered (.answers hform h))
    fun given hgiven => ?_
  refine .find (.loadConfig settings disk) (fun _ h => .hindered (.config h))
    fun config hconfig => ?_
  refine .find (.usableFooter settings config disk) (fun _ h => by cases h) fun footer hfooter => ?_
  obtain rfl := Except.ok.inj hfooter
  have hread : HasRead settings form (fun _ => answersOn disk answers) disk parsed config given :=
    ⟨hform, hconfig, hgiven⟩
  cases prints with
  | true => exact (Ends.tell _ disk).leaves lines (.printed rfl hread)
  | false => exact leaves_writeNamed hread lines fun _ after => .tell _ after

theorem leaves_fillIn (settings : Settings) (form : String) (answers : Option String)
    (destination : Destination) (printsAnswers : Bool) (disk : Disk) (lines : List String) :
    Leaves (fillIn settings form answers destination printsAnswers) disk lines
      (WritesDocument settings form destination false (gatheredOn settings answers disk lines)
        disk) := by
  unfold fillIn
  refine .find (.loadForm form disk) (fun _ h => .hindered (.form h)) fun parsed hform => ?_
  refine .find (.loadConfig settings disk) (fun _ h => .hindered (.config h))
    fun config hconfig => ?_
  refine .find (.loadAnswers settings answers disk) (fun _ h => ?_) fun before hbefore => ?_
  · exact .hindered (.answers hform (by rw [gatheredOn, h]; rfl))
  have hgathered := gatheredOn_of_ok hbefore settings lines parsed
  refine (leaves_interview settings parsed before disk lines).bind ?_ ?_
  · rintro failure after ⟨h, hafter⟩
    rw [← h] at hgathered
    rw [hafter]
    exact .hindered (.answers hform hgathered)
  rintro session after rest ⟨h, hafter⟩
  rw [← h] at hgathered
  rw [hafter]
  refine .find (.usableFooter settings config disk) (fun _ h => by cases h) fun footer hfooter => ?_
  obtain rfl := Except.ok.inj hfooter
  have hread : HasRead settings form (gatheredOn settings answers disk lines) disk parsed config
      (Answers.ofJson session.answers) := ⟨hform, hconfig, hgathered⟩
  refine leaves_writeNamed hread rest fun path after => .bind (.tell _ after) ?_
  split
  · exact .tell _ after
  · exact .pure () after

/-- **A document is written directly in the folder for documents.** Whatever the template of its
name shows, the name is one ordinary part of a path with the ending of the format, named again for
another format it is what that format would have made of the text at once, and joined to a path it
is the last part of it. The commands that compile answers and that hold an interview write their
document under such a name in the folder for documents and leave all other files as they are, unless
something hinders them. -/
theorem document_lies_in_folder :
    (∀ (format : OutputFormat) (rendered : String),
      format.IsDocumentName (format.nameFrom rendered) ∧
      (∀ other : OutputFormat,
        other.fileName (format.nameFrom rendered) = other.nameFrom rendered) ∧
      ∀ folder, ∃ front,
        Path.parts (Path.join folder (format.nameFrom rendered)) =
          front ++ [format.nameFrom rendered] ∧
        (Path.parts folder = front ∨ Path.parts folder = front ++ [""])) ∧
    (∀ settings form answers destination prints disk lines,
      Leaves (compileFiles settings form answers destination prints) disk lines
        (WritesDocument settings form destination prints (fun _ => answersOn disk answers) disk)) ∧
    ∀ settings form answers destination printsAnswers disk lines,
      Leaves (fillIn settings form answers destination printsAnswers) disk lines
        (WritesDocument settings form destination false (gatheredOn settings answers disk lines)
          disk) := by
  refine ⟨fun format rendered => ⟨?_, ?_, ?_⟩, leaves_compileFiles, leaves_fillIn⟩
  · exact format.isDocumentName_nameFrom rendered
  · exact fun other => format.fileName_nameFrom other rendered
  · exact Path.parts_join (format.isName_nameFrom rendered).slashless

/-- A title that seems to lead out of a folder, which is not in the folder at hand. -/
example :
    let form : Form := ⟨⟨"f"⟩, "../Visit", none, [], []⟩
    let disk : Disk := ⟨[(["f.json"], .file form.toJson.compact.toUTF8),
      (["a.json"], .file "{}".toUTF8)], ["home", "ada"]⟩
    let run := StateT.run (compileFiles ⟨false, none, none, true⟩ "f.json" "/home/ada/a.json"
      ⟨some "/home/out", .markdown, false⟩ false : Task (StateM World) Unit).run ⟨disk, [], []⟩
    run.1.toOption = some () ∧
      run.2.disk.entries.map (·.1) =
        [["..", "out", ".._Visit.md"], ["..", "out"], ["f.json"], ["a.json"]] := by
  decide +kernel

end Questionnaire.CommandLine
