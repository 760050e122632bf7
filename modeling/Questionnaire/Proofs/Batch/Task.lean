import Questionnaire.Proofs.CommandLine.Ends

/-! # One task of a batch

What a task does to the disk: `Batch.taskOn` is what the rules for `Ends` give for a file of
answers. Where the folder for documents is made, `Batch.Puts` says which file the task writes. -/

namespace Questionnaire.CommandLine

variable {disk : Disk}

/-! ### The files of answers in a folder -/

private theorem run_withoutForm (form : String) (paths : List String) (world : World) :
    StateT.run (withoutForm form paths : StateM World _) world =
      (paths.filter (!world.disk.isSame · form), world) := by
  induction paths with
  | nil => rfl
  | cons path paths ih =>
    have hrun : StateT.run (withoutForm form (path :: paths) : StateM World _) world =
        (if world.disk.isSame path form then
          (StateT.run (withoutForm form paths : StateM World _) world).1
        else path :: (StateT.run (withoutForm form paths : StateM World _) world).1,
        (StateT.run (withoutForm form paths : StateM World _) world).2) := rfl
    rw [hrun, ih]
    cases hsame : world.disk.isSame path form <;> simp [hsame]

theorem Ends.fileNames (folder : String) (disk : Disk) :
    Ends (onFiles (Host.fileNames folder)) disk ((disk.fileNames folder).mapError .file) disk := by
  rintro world rfl
  exact ⟨rfl, rfl, rfl⟩

theorem Ends.withoutForm (form : String) (paths : List String) (disk : Disk) :
    Ends (ExceptT.lift (CommandLine.withoutForm form paths)) disk
      (.ok (paths.filter (!disk.isSame · form))) disk := by
  rintro world rfl
  have hrun : StateT.run (ExceptT.lift (CommandLine.withoutForm form paths) :
      Task (StateM World) _).run world = (.ok (paths.filter (!world.disk.isSame · form)), world) :=
    congrArg (Prod.map Except.ok id) (run_withoutForm form paths world)
  rw [hrun]
  exact ⟨rfl, rfl, rfl⟩

section AnswersFiles

variable {folder form : String} {pattern : List GlobToken}

/-- The files of answers in a folder on a disk. -/
def inputsOn (disk : Disk) (folder form : String) (pattern : List GlobToken) :
    Except Failure (List String) := do
  let names ← (disk.fileNames folder).mapError .file
  let sorted := (names.filter (Glob.isMatch pattern)).mergeSort fun a b => decide (a ≤ b)
  return (sorted.map (Path.join folder)).filter (!disk.isSame · form)

theorem inputsOn_of_fileNames {names : List String} (hnames : disk.fileNames folder = .ok names) :
    inputsOn disk folder form pattern =
      .ok ((((names.filter (Glob.isMatch pattern)).mergeSort fun a b => decide (a ≤ b)).map
        (Path.join folder)).filter (!disk.isSame · form)) := by
  rw [inputsOn, hnames]
  rfl

theorem Ends.answersFiles (folder form : String) (pattern : List GlobToken) (disk : Disk) :
    Ends (answersFiles folder form pattern) disk (inputsOn disk folder form pattern) disk :=
  .find (.fileNames folder disk) fun _ => .withoutForm form _ disk

theorem answersFiles_of_sorted {world : World} {names : List String}
    (hnames : world.disk.fileNames folder = .ok names)
    (hsorted : (names.filter (Glob.isMatch pattern)).Pairwise (· ≤ ·)) :
    (StateT.run (answersFiles folder form pattern : Task (StateM World) _).run world).1 =
      .ok (((names.filter (Glob.isMatch pattern)).map (Path.join folder)).filter
        (!world.disk.isSame · form)) := by
  rw [(Ends.answersFiles folder form pattern world.disk world rfl).1,
    inputsOn_of_fileNames hnames, List.mergeSort_of_pairwise (by simpa using hsorted)]

/-- The files of answers are files. -/
theorem isFile_of_inputsOn {inputs : List String}
    (hinputs : inputsOn disk folder form pattern = .ok inputs) {input : String}
    (hinput : input ∈ inputs) : disk.isFile input := by
  cases hnames : disk.fileNames folder with
  | error fault =>
    rw [inputsOn, hnames] at hinputs
    cases hinputs
  | ok names =>
    rw [inputsOn_of_fileNames hnames] at hinputs
    obtain rfl := Except.ok.inj hinputs
    obtain ⟨name, hname, rfl⟩ := List.mem_map.mp (List.mem_filter.mp hinput).1
    rw [List.mem_mergeSort, List.mem_filter] at hname
    exact Disk.isFile_of_fileNames hnames hname.1

end AnswersFiles

namespace Batch

variable (batch : Batch)

/-- The path of the document for a file of answers. -/
def target (input : String) : String := Path.join batch.folder (batch.nameFor input)

/-- How the document for some answers is written on a disk with the folder for documents. -/
def writeOn (made : Disk) (input : String) (answers : Answers) : Except Failure String × Disk :=
  writtenOn made (batch.target input) (batch.contents answers) batch.force

/-- How a file of answers is compiled on a disk: the result, and the disk after it. -/
def taskOn (disk : Disk) (input : String) : Except Failure String × Disk :=
  match answersOn disk input with
  | .error failure => (.error failure, disk)
  | .ok answers =>
    match disk.makeFolders batch.folder with
    | .error fault => (.error (.file fault), disk)
    | .ok made => batch.writeOn made input answers

/-- How files of answers are compiled on a disk, one after another. -/
def tasksOn (batch : Batch) (disk : Disk) : List String → List BatchResult × Disk
  | [] => ([], disk)
  | input :: inputs =>
    let (result, between) := batch.taskOn disk input
    let (results, after) := batch.tasksOn between inputs
    ((input, result) :: results, after)

theorem tasksOn_cons (disk : Disk) (input : String) (inputs : List String) :
    batch.tasksOn disk (input :: inputs) =
      ((input, (batch.taskOn disk input).1) ::
        (batch.tasksOn (batch.taskOn disk input).2 inputs).1,
      (batch.tasksOn (batch.taskOn disk input).2 inputs).2) :=
  rfl

theorem ends_compileFile (disk : Disk) (input : String) :
    Ends (batch.compileFile input) disk (batch.taskOn disk input).1
      (batch.taskOn disk input).2 := by
  unfold compileFile taskOn
  have hload := Ends.loadAnswersAt batch.settings input disk
  cases hanswers : answersOn disk input with
  | error failure =>
    rw [hanswers] at hload
    exact .bind_error hload
  | ok answers =>
    rw [hanswers] at hload
    refine .bind hload ?_
    dsimp only
    cases hmade : disk.makeFolders batch.folder with
    | error fault => exact .writeDocument_error _ _ _ hmade
    | ok made =>
      exact .writeDocument (batch.nameFor input) (batch.contents answers) batch.force hmade

/-- A file of answers is compiled on its own: the result, and the world after it. -/
def alone (batch : Batch) (world : World) (input : String) : Except Failure String × World :=
  StateT.run (batch.compileFile input : Task (StateM World) String).run world

theorem alone_fst (world : World) (input : String) :
    (batch.alone world input).1 = (batch.taskOn world.disk input).1 :=
  (batch.ends_compileFile world.disk input world rfl).1

theorem disk_alone (world : World) (input : String) :
    (batch.alone world input).2.disk = (batch.taskOn world.disk input).2 :=
  (batch.ends_compileFile world.disk input world rfl).2.1

/-- Files of answers are compiled one after another: the results, and the world after them. -/
def inTurn (batch : Batch) (world : World) (order : List String) : List BatchResult × World :=
  StateT.run (batch.compileEach order : StateM World (List BatchResult)) world

theorem inTurn_cons (world : World) (input : String) (order : List String) :
    batch.inTurn world (input :: order) =
      ((input, (batch.alone world input).1) ::
        (batch.inTurn (batch.alone world input).2 order).1,
      (batch.inTurn (batch.alone world input).2 order).2) :=
  rfl

theorem inTurn_eq (world : World) (order : List String) :
    (batch.inTurn world order).1 = (batch.tasksOn world.disk order).1 ∧
      (batch.inTurn world order).2.disk = (batch.tasksOn world.disk order).2 := by
  induction order generalizing world with
  | nil => exact ⟨rfl, rfl⟩
  | cons input order ih =>
    obtain ⟨hresults, hdisk⟩ := ih (batch.alone world input).2
    rw [disk_alone] at hresults hdisk
    rw [inTurn_cons, tasksOn_cons, alone_fst]
    exact ⟨congrArg _ hresults, hdisk⟩

theorem inTurn_fst (world : World) (order : List String) :
    (batch.inTurn world order).1 = (batch.tasksOn world.disk order).1 :=
  (batch.inTurn_eq world order).1

theorem disk_inTurn (world : World) (order : List String) :
    (batch.inTurn world order).2.disk = (batch.tasksOn world.disk order).2 :=
  (batch.inTurn_eq world order).2

/-! ### Names of documents -/

theorem isName_nameFor (input : String) : Path.IsName (batch.nameFor input) := by
  have hending : 3 ≤ batch.format.batchEnding.length ∧ '/' ∉ batch.format.batchEnding := by
    cases batch.format <;> decide
  have hstem : '/' ∉ ((Path.stem? input).getD "").toList := by
    cases h : Path.stem? input with
    | none => simp
    | some stem => exact Path.stem?_slashless h
  have hname : (batch.nameFor input).toList =
      ((Path.stem? input).getD "").toList ++ batch.format.batchEnding := String.toList_ofList
  refine Path.isName_of_length ?_ ?_ <;> rw [hname]
  · exact fun h => (List.mem_append.mp h).elim hstem hending.2
  · rw [List.length_append]
    omega

/-! ### Tasks where the folder is made -/

/-- The document for a file of answers may be written at a place of a disk. -/
structure MayWrite (disk : Disk) (input : String) (place : Place) : Prop where
  leads : disk.follow (batch.target input) = .ok place
  not_folder : disk.entry? place ≠ some .folder
  free : batch.force = false → disk.entry? place = none

/-- The document for a file of answers is written at a place of a disk, with some contents. -/
structure Puts (disk : Disk) (input : String) (contents : ByteArray) (place : Place) : Prop
    extends batch.MayWrite disk input place where
  answered : ∃ answers, answersOn disk input = .ok answers ∧
    contents = (batch.contents answers).toUTF8

variable {batch} {start made : Disk} {input : String} {answers : Answers}

theorem Puts.of_place {contents : ByteArray} {place : Place} {other : String}
    (h : batch.Puts disk other contents place) (hanswers : answersOn disk input = .ok answers)
    (hleads : disk.follow (batch.target input) = .ok place) :
    batch.Puts disk input (batch.contents answers).toUTF8 place :=
  ⟨⟨hleads, h.not_folder, h.free⟩, answers, hanswers, rfl⟩

theorem Puts.unique {contents contents' : ByteArray} {place place' : Place}
    (h : batch.Puts disk input contents place) (h' : batch.Puts disk input contents' place') :
    contents = contents' ∧ place = place' := by
  obtain ⟨answers, hanswers, rfl⟩ := h.answered
  obtain ⟨answers', hanswers', rfl⟩ := h'.answered
  obtain rfl : answers = answers' := Except.ok.inj (hanswers.symm.trans hanswers')
  exact ⟨rfl, Except.ok.inj (h.leads.symm.trans h'.leads)⟩

theorem MayWrite.writeOn_eq {place : Place} (h : batch.MayWrite disk input place) :
    batch.writeOn disk input answers = (.ok (batch.target input),
      disk.insert place (.file (batch.contents answers).toUTF8)) :=
  writtenOn_of_free h.leads h.not_folder h.free (batch.contents answers)

/-- A document is written, or the disk stays as it is. -/
theorem writeOn_cases (batch : Batch) (disk : Disk) (input : String) (answers : Answers) :
    (∃ place, batch.MayWrite disk input place) ∨
    ∃ failure, batch.writeOn disk input answers = (.error failure, disk) := by
  obtain ⟨place, hleads, hfolder, hfree⟩ | hfailed :=
    writtenOn_cases disk (batch.target input) (batch.contents answers) batch.force
  · exact .inl ⟨place, hleads, hfolder, hfree⟩
  · exact .inr hfailed

theorem writeOn_fst_congr {other : Disk}
    (hfollow : other.follow (batch.target input) = disk.follow (batch.target input))
    (hentry : ∀ place, disk.follow (batch.target input) = .ok place →
      other.entry? place = disk.entry? place) :
    (batch.writeOn other input answers).1 = (batch.writeOn disk input answers).1 := by
  cases hleads : disk.follow (batch.target input) with
  | error fault =>
    rw [hleads] at hfollow
    simp [writeOn, writtenOn, Disk.isTaken, Disk.at?, Disk.write, hfollow, hleads, bind,
      Except.bind]
  | ok place =>
    rw [hleads] at hfollow
    simp only [writeOn, writtenOn, Disk.isTaken_eq hfollow, Disk.isTaken_eq hleads,
      hentry place hleads, Disk.write, hfollow, hleads, bind, Except.bind]
    obtain hnone | ⟨_ | _, hentry⟩ := Option.eq_none_or_eq_some (disk.entry? place) <;>
      cases batch.force <;> simp [*]

section Made

variable (hmade : start.makeFolders batch.folder = .ok made) (hgrows : Disk.Grows made disk)

include hmade hgrows

theorem taskOn_of_grows (input : String) :
    batch.taskOn disk input =
      match answersOn disk input with
      | .error failure => (.error failure, disk)
      | .ok answers => batch.writeOn disk input answers := by
  rw [taskOn, Disk.makeFolders_again hmade hgrows]

theorem follow_target (input : String) :
    disk.follow (batch.target input) = made.follow (batch.target input) :=
  hgrows.follow_join (Disk.makeFolders_ok hmade).2 (batch.isName_nameFor input)

theorem Puts.of_grows {contents : ByteArray} {place : Place}
    (hread : disk.read input = made.read input) (h : batch.Puts disk input contents place) :
    batch.Puts made input contents place where
  answered := by simpa [answersOn, hread] using h.answered
  leads := by rw [← follow_target hmade hgrows, h.leads]
  not_folder hfolder := h.not_folder (hgrows.folders _ hfolder)
  free hforce := by
    have := mt (hgrows.taken place)
    simp_all [h.free hforce]

/-- What a task reports depends on what stands at the place of its document, and on no other place
but that of its answers. -/
theorem taskOn_fst_eq (hread : disk.read input = made.read input)
    (hplace : ∀ answers place, answersOn made input = .ok answers →
      made.follow (batch.target input) = .ok place → disk.entry? place = made.entry? place) :
    (batch.taskOn disk input).1 = (batch.taskOn made input).1 := by
  have hsame : answersOn disk input = answersOn made input := by rw [answersOn, hread, answersOn]
  rw [taskOn_of_grows hmade hgrows, taskOn_of_grows hmade (.refl made), hsame]
  cases hanswers : answersOn made input with
  | error failure => rfl
  | ok answers =>
    exact writeOn_fst_congr (follow_target hmade hgrows input) fun place => hplace _ place hanswers

/-- A task writes its document or leaves the disk as it is. -/
theorem taskOn_cases (input : String) :
    (∃ contents place, batch.Puts disk input contents place ∧
      batch.taskOn disk input = (.ok (batch.target input), disk.insert place (.file contents))) ∨
    (∃ failure, batch.taskOn disk input = (.error failure, disk)) := by
  rw [taskOn_of_grows hmade hgrows]
  cases hanswers : answersOn disk input with
  | error failure => exact .inr ⟨failure, rfl⟩
  | ok answers =>
    obtain ⟨place, hplace⟩ | hfailed := batch.writeOn_cases disk input answers
    · exact .inl ⟨_, place, ⟨hplace, answers, hanswers, rfl⟩, hplace.writeOn_eq⟩
    · exact .inr hfailed

theorem taskOn_of_puts {contents : ByteArray} {place : Place}
    (h : batch.Puts disk input contents place) :
    batch.taskOn disk input = (.ok (batch.target input), disk.insert place (.file contents)) := by
  obtain ⟨answers, hanswers, rfl⟩ := h.answered
  rw [taskOn_of_grows hmade hgrows, hanswers]
  exact h.writeOn_eq

end Made

end Batch

end Questionnaire.CommandLine
