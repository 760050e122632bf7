import Questionnaire.Proofs.Batch.Order

/-! # Batches in a world

Done in any order, the tasks of a batch leave the files of answers as they are, write each document
that they report, and end in the same way (`batch_in_any_order`), unless the path of a document is
that of a file of answers or of another document. A task that must not write over files does not do
so, and then only the order of two tasks for one document matters. A task that may write over files
takes no care of what they are (`alone_overwrites`). -/

namespace Questionnaire.CommandLine.Batch

/-- A document is written for a file of answers that is compiled on its own. -/
def Compiles (batch : Batch) (world : World) (input : String) : Prop :=
  (batch.alone world input).1 = .ok (batch.target input)

/-- No document is written over one of the files of answers. -/
def Spares (batch : Batch) (world : World) (inputs : List String) : Prop :=
  ∀ input ∈ inputs, batch.Compiles world input → ∀ other ∈ inputs,
    (batch.alone world input).2.disk.isSame (batch.target input) other = false

/-- No two documents have the same path. -/
def Apart (batch : Batch) (world : World) (inputs : List String) : Prop :=
  inputs.Pairwise fun a b =>
    batch.Compiles world a → batch.Compiles world b → batch.target a ≠ batch.target b

variable {batch : Batch} {world : World} {made : Disk} {inputs order : List String}
  {input other : String}

theorem alone_of_puts (hmade : world.disk.makeFolders batch.folder = .ok made)
    (hfile : world.disk.isFile input) {contents : ByteArray} {place : Place}
    (hputs : batch.Puts made input contents place) :
    batch.Compiles world input ∧
      (batch.alone world input).2.disk = made.insert place (.file contents) := by
  obtain ⟨answers, hanswers, -⟩ := hputs.answered
  rw [answersOn_made hmade hfile] at hanswers
  rw [Compiles, alone_fst, disk_alone, taskOn_start hmade hfile hanswers,
    taskOn_of_puts hmade (.refl made) hputs]
  exact ⟨rfl, rfl⟩

theorem exists_puts_of_compiles (hfile : world.disk.isFile input)
    (hcompiles : batch.Compiles world input) :
    ∃ made contents place, world.disk.makeFolders batch.folder = .ok made ∧
      batch.Puts made input contents place := by
  rw [Compiles, alone_fst, taskOn] at hcompiles
  split at hcompiles
  · cases hcompiles
  · rename_i answers hanswers
    split at hcompiles
    · cases hcompiles
    · rename_i made hmade
      obtain ⟨place, hplace⟩ | ⟨failure, hfailed⟩ := batch.writeOn_cases made input answers
      · exact ⟨made, _, place, hmade, hplace, answers,
          (answersOn_made hmade hfile).trans hanswers, rfl⟩
      · rw [hfailed] at hcompiles
        cases hcompiles

/-- A task that writes over one of the files of answers leaves its document there. -/
theorem alone_overwrites (hfile : world.disk.isFile input) (hcompiles : batch.Compiles world input)
    (hsame : (batch.alone world input).2.disk.isSame (batch.target input) other) :
    ∃ answers, answersOn world.disk input = .ok answers ∧
      (batch.alone world input).2.disk.read other = .ok (batch.contents answers).toUTF8 := by
  obtain ⟨made, contents, place, hmade, hputs⟩ := exists_puts_of_compiles hfile hcompiles
  obtain ⟨-, hdisk⟩ := alone_of_puts hmade hfile hputs
  obtain ⟨answers, hanswers, rfl⟩ := hputs.answered
  rw [answersOn_made hmade hfile] at hanswers
  refine ⟨answers, hanswers, ?_⟩
  have hgrows := Disk.grows_insert hputs.not_folder (batch.contents answers).toUTF8
  rw [hdisk, Disk.isSame_iff] at hsame
  obtain ⟨place', htarget, hother, -⟩ := hsame
  obtain rfl : place = place' := Except.ok.inj ((hgrows.follow hputs.leads).symm.trans htarget)
  rw [hdisk, Disk.read_eq_ok]
  exact ⟨place, hother, by rw [Disk.entry?_insert hputs.not_folder, if_pos rfl]⟩

theorem sparesOn_of_spares (hmade : world.disk.makeFolders batch.folder = .ok made)
    (hfiles : ∀ input ∈ inputs, world.disk.isFile input)
    (hspares : batch.force = true → batch.Spares world inputs) : batch.SparesOn made inputs := by
  intro input hinput contents place hputs other hother hleads
  cases hforce : batch.force with
  | false =>
    -- a document is only written where nothing stands
    obtain ⟨before, hread⟩ := Disk.isFile_iff.mp (hfiles other hother)
    have hentry := Disk.entry?_of_read ((Disk.makeFolders_ok hmade).1.read hread) hleads
    simp [hputs.free hforce] at hentry
  | true =>
    obtain ⟨hcompiles, hdisk⟩ := alone_of_puts hmade (hfiles input hinput) hputs
    have hgrows := Disk.grows_insert hputs.not_folder contents
    have hsame : (batch.alone world input).2.disk.isSame (batch.target input) other := by
      rw [hdisk, Disk.isSame_iff]
      exact ⟨place, hgrows.follow hputs.leads, hgrows.follow hleads,
        by rw [Disk.entry?_insert hputs.not_folder, if_pos rfl]; rfl⟩
    rw [hspares hforce input hinput hcompiles other hother] at hsame
    cases hsame

theorem disjoint_of_apart (hmade : world.disk.makeFolders batch.folder = .ok made)
    (hfiles : ∀ input ∈ inputs, world.disk.isFile input) (hapart : batch.Apart world inputs) :
    inputs.Pairwise (batch.Disjoint made) := by
  refine hapart.imp_of_mem fun {a b} ha hb h contents place contents' place' hputs hputs' => ?_
  rintro rfl
  have ha := (alone_of_puts hmade (hfiles a ha) hputs).1
  have hb := (alone_of_puts hmade (hfiles b hb) hputs').1
  refine h ha hb ?_
  rw [target, target, Disk.follow_join_inj (Disk.makeFolders_ok hmade).2 (batch.isName_nameFor a)
    (batch.isName_nameFor b) hputs.leads hputs'.leads]

section Order

variable (hfiles : ∀ input ∈ inputs, world.disk.isFile input)
  (hspares : batch.force = true → batch.Spares world inputs) (horder : order.Perm inputs)

include hfiles hspares horder

theorem stage_inTurn (hmade : world.disk.makeFolders batch.folder = .ok made) :
    Stage made inputs (batch.tasksOn made order).2 :=
  (Stage.refl made inputs).tasksOn hmade (forall_isFile_made hmade hfiles)
    (sparesOn_of_spares hmade hfiles hspares) horder.subset

theorem read_inTurn (hinput : input ∈ inputs) :
    (batch.inTurn world order).2.disk.read input = world.disk.read input := by
  rw [disk_inTurn]
  obtain hidle | ⟨made, hmade, hrun⟩ := batch.tasksOn_cases hfiles
  · rw [tasksOn_of_idle fun input hinput => hidle input (horder.subset hinput)]
  · rw [hrun order horder, (stage_inTurn hfiles hspares horder hmade).intact input hinput,
      read_made hmade (hfiles input hinput)]

theorem read_target_inTurn (hapart : batch.force = true → batch.Apart world inputs)
    {target : String} (hresult : (input, .ok target) ∈ (batch.inTurn world order).1) :
    ∃ answers, answersOn world.disk input = .ok answers ∧
      (batch.inTurn world order).2.disk.read target =
        .ok (batch.contents answers).toUTF8 := by
  rw [inTurn_fst] at hresult
  rw [disk_inTurn]
  obtain hidle | ⟨made, hmade, hrun⟩ := batch.tasksOn_cases hfiles
  · have hidle : ∀ input ∈ order, _ := fun input hinput => hidle input (horder.subset hinput)
    rw [tasksOn_of_idle hidle] at hresult
    obtain ⟨other, hother, hresult⟩ := List.mem_map.mp hresult
    obtain ⟨failure, htask⟩ := hidle other hother
    simp [htask] at hresult
  · rw [hrun order horder] at hresult ⊢
    have hapart (hforce : batch.force = true) : order.Pairwise (batch.Disjoint made) :=
      (horder.pairwise_iff fun h => h.symm).mpr (disjoint_of_apart hmade hfiles (hapart hforce))
    obtain ⟨hinput, htarget, contents, place, hputs, hentry⟩ := written_of_reported hmade
      (forall_isFile_made hmade hfiles)
      (sparesOn_of_spares hmade hfiles hspares) (.refl made inputs) horder.subset hapart hresult
    obtain ⟨answers, hanswers, rfl⟩ := hputs.answered
    rw [htarget]
    refine ⟨answers, ?_, Disk.read_eq_ok.mpr ⟨place, ?_, hentry⟩⟩
    · rwa [answersOn_made hmade (hfiles input (horder.subset hinput))] at hanswers
    · exact (stage_inTurn hfiles hspares horder hmade).grows.follow hputs.leads

theorem results_inTurn (hapart : batch.Apart world inputs) :
    (batch.inTurn world order).1 = order.map fun input => (input, (batch.alone world input).1) := by
  simp only [inTurn_fst, alone_fst]
  obtain hidle | ⟨made, hmade, hrun⟩ := batch.tasksOn_cases hfiles
  · rw [tasksOn_of_idle fun input hinput => hidle input (horder.subset hinput)]
  · rw [hrun order horder, results_of_disjoint hmade
      (forall_isFile_made hmade hfiles)
      (sparesOn_of_spares hmade hfiles hspares) (.refl made inputs) horder.subset
      ((horder.pairwise_iff fun h => h.symm).mpr (disjoint_of_apart hmade hfiles hapart))
      (fun _ _ _ _ _ _ => rfl)]
    refine List.map_congr_left fun input hinput => ?_
    rw [taskOn_start_fst hmade (hfiles input (horder.subset hinput))]

theorem entry?_inTurn (hapart : batch.Apart world inputs) (place : Place) :
    Disk.entry? (batch.inTurn world order).2.disk place =
      Disk.entry? (batch.inTurn world inputs).2.disk place := by
  rw [disk_inTurn, disk_inTurn]
  obtain hidle | ⟨made, hmade, hrun⟩ := batch.tasksOn_cases hfiles
  · rw [tasksOn_of_idle fun input hinput => hidle input (horder.subset hinput),
      tasksOn_of_idle hidle]
  · rw [hrun order horder, hrun inputs (.refl inputs)]
    exact entry?_of_perm hmade (forall_isFile_made hmade hfiles)
      (sparesOn_of_spares hmade hfiles hspares) horder (disjoint_of_apart hmade hfiles hapart) place

end Order

/-- **Files of answers are compiled in any order.** -/
theorem batch_in_any_order (batch : Batch) (world : World) {folder form : String}
    {pattern : List GlobToken} {inputs : List String}
    (hinputs : (StateT.run (answersFiles folder form pattern : Task (StateM World) _).run world).1 =
      .ok inputs)
    (hspares : batch.force = true → batch.Spares world inputs) {order : List String}
    (horder : order.Perm inputs) :
    (∀ input ∈ inputs,
      (batch.inTurn world order).2.disk.read input = world.disk.read input) ∧
    ((batch.force = true → batch.Apart world inputs) → ∀ input target,
      (input, .ok target) ∈ (batch.inTurn world order).1 →
        ∃ answers, answersOn world.disk input = .ok answers ∧
          (batch.inTurn world order).2.disk.read target =
            .ok (batch.contents answers).toUTF8) ∧
    (batch.Apart world inputs →
      (batch.inTurn world order).1 =
        order.map (fun input => (input, (batch.alone world input).1)) ∧
      ∀ place, Disk.entry? (batch.inTurn world order).2.disk place =
        Disk.entry? (batch.inTurn world inputs).2.disk place) := by
  rw [(Ends.answersFiles folder form pattern world.disk world rfl).1] at hinputs
  have hfiles : ∀ input ∈ inputs, world.disk.isFile input := fun _ => isFile_of_inputsOn hinputs
  exact ⟨fun input hinput => read_inTurn hfiles hspares horder hinput,
    fun hapart input target => read_target_inTurn hfiles hspares horder hapart,
    fun hapart => ⟨results_inTurn hfiles hspares horder hapart,
      entry?_inTurn hfiles hspares horder hapart⟩⟩

/-! ### Batches by example -/

/-- A form that asks for a name. -/
def nameForm : Form :=
  ⟨⟨"f"⟩, "Visit", none,
    [⟨⟨"name"⟩, "Name", .freeText, none, 0, false, false, none, none, []⟩], []⟩

/-- A batch of Markdown documents in a folder. -/
def markdownIn (folder : String) (force : Bool) : Batch :=
  ⟨⟨false, none, none, true⟩, nameForm, .standard, none, folder, .markdown, force⟩

/-- A world with files of empty answers in a folder. -/
def withAnswers (names : List String) : World :=
  ⟨⟨(["in"], .folder) :: names.map fun name => (["in", name], .file "{}".toUTF8), []⟩, [], []⟩

/-- Two files of answers for documents in another folder. -/
theorem batch_in_any_order_forced :
    (StateT.run (answersFiles "in" "f.json" [.many] : Task (StateM World) _).run
      (withAnswers ["ada.json", "bob.json"])).1 = .ok ["in/ada.json", "in/bob.json"] ∧
    (markdownIn "out" true).Spares (withAnswers ["ada.json", "bob.json"])
      ["in/ada.json", "in/bob.json"] ∧
    (markdownIn "out" true).Apart (withAnswers ["ada.json", "bob.json"])
      ["in/ada.json", "in/bob.json"] ∧
    ((markdownIn "out" true).inTurn (withAnswers ["ada.json", "bob.json"])
      ["in/bob.json", "in/ada.json"]).2.disk.read "in/ada.json" = .ok "{}".toUTF8 ∧
    ((markdownIn "out" true).inTurn (withAnswers ["ada.json", "bob.json"])
      ["in/bob.json", "in/ada.json"]).1 =
        [("in/bob.json", .ok "out/bob.md"), ("in/ada.json", .ok "out/ada.md")] := by
  have hinputs : (StateT.run (answersFiles "in" "f.json" [.many] : Task (StateM World) _).run
      (withAnswers ["ada.json", "bob.json"])).1 = .ok ["in/ada.json", "in/bob.json"] := by
    have hnames : (withAnswers ["ada.json", "bob.json"]).disk.fileNames "in" =
        .ok ["ada.json", "bob.json"] := rfl
    rw [answersFiles_of_sorted hnames (by decide +kernel)]
    exact congrArg Except.ok (by decide +kernel)
  have hsame : ∀ input ∈ ["in/ada.json", "in/bob.json"], ∀ other ∈ ["in/ada.json", "in/bob.json"],
      ((markdownIn "out" true).alone (withAnswers ["ada.json", "bob.json"]) input).2.disk.isSame
        ((markdownIn "out" true).target input) other = false := by
    decide +kernel
  have hspares : (markdownIn "out" true).Spares (withAnswers ["ada.json", "bob.json"])
      ["in/ada.json", "in/bob.json"] := fun input hinput _ => hsame input hinput
  have htargets : (markdownIn "out" true).target "in/ada.json" ≠
      (markdownIn "out" true).target "in/bob.json" := by decide +kernel
  have hapart : (markdownIn "out" true).Apart (withAnswers ["ada.json", "bob.json"])
      ["in/ada.json", "in/bob.json"] := List.pairwise_pair.mpr fun _ _ => htargets
  have hperm : ["in/bob.json", "in/ada.json"].Perm ["in/ada.json", "in/bob.json"] := .swap _ _ _
  obtain ⟨hread, -, hsettled⟩ := batch_in_any_order (markdownIn "out" true)
    (withAnswers ["ada.json", "bob.json"]) hinputs (fun _ => hspares) hperm
  refine ⟨hinputs, hspares, hapart, hread "in/ada.json" (by simp), (hsettled hapart).1.trans ?_⟩
  have hada : ((markdownIn "out" true).alone (withAnswers ["ada.json", "bob.json"])
      "in/ada.json").1 = .ok "out/ada.md" := eq_ok_of_toOption (by decide +kernel)
  have hbob : ((markdownIn "out" true).alone (withAnswers ["ada.json", "bob.json"])
      "in/bob.json").1 = .ok "out/bob.md" := eq_ok_of_toOption (by decide +kernel)
  simp only [List.map_cons, List.map_nil, hada, hbob]

theorem head?_markdown (document : Document) (style : StyleSheet) (footer : Option FooterImage) :
    (document.markdown style footer).toList.head? = some '#' := by
  simp [Document.markdown, Document.calls, Markdown.emitAll, Markdown.emit, Markdown.paragraph]

/-- **A document replaces the answers that it was compiled from**, if their names are the same and
the batch may write over files. -/
theorem forced_document_replaces_answers :
    (StateT.run (answersFiles "in" "f.json" [.many] : Task (StateM World) _).run
      (withAnswers ["ada.md"])).1 = .ok ["in/ada.md"] ∧
    ((markdownIn "in" true).inTurn (withAnswers ["ada.md"]) ["in/ada.md"]).1 =
      [("in/ada.md", .ok "in/ada.md")] ∧
    ((markdownIn "in" true).inTurn (withAnswers ["ada.md"]) ["in/ada.md"]).2.disk.read "in/ada.md" ≠
      (withAnswers ["ada.md"]).disk.read "in/ada.md" := by
  have hinputs : (StateT.run (answersFiles "in" "f.json" [.many] : Task (StateM World) _).run
      (withAnswers ["ada.md"])).1 = .ok ["in/ada.md"] := by
    have hnames : (withAnswers ["ada.md"]).disk.fileNames "in" = .ok ["ada.md"] := rfl
    rw [answersFiles_of_sorted hnames (by decide +kernel)]
    exact congrArg Except.ok (by decide +kernel)
  have htarget : (markdownIn "in" true).target "in/ada.md" = "in/ada.md" := by decide +kernel
  have hcompiles : (markdownIn "in" true).Compiles (withAnswers ["ada.md"]) "in/ada.md" :=
    eq_ok_of_toOption (by decide +kernel)
  have hfile : (withAnswers ["ada.md"]).disk.isFile "in/ada.md" := by decide +kernel
  have hsame : ((markdownIn "in" true).alone (withAnswers ["ada.md"]) "in/ada.md").2.disk.isSame
      ((markdownIn "in" true).target "in/ada.md") "in/ada.md" := by decide +kernel
  have hbefore : (withAnswers ["ada.md"]).disk.read "in/ada.md" = .ok "{}".toUTF8 := rfl
  obtain ⟨answers, -, hread⟩ := alone_overwrites hfile hcompiles hsame
  rw [inTurn_cons, hcompiles, htarget]
  change _ ∧ _ ∧ ((markdownIn "in" true).alone _ _).2.disk.read _ ≠ _
  rw [hread, hbefore]
  refine ⟨hinputs, rfl, fun h => ?_⟩
  -- whatever the answers are, their document starts with the mark of its title
  have hcontents : (markdownIn "in" true).contents answers = "{}" :=
    String.toByteArray_inj.mp (Except.ok.inj h)
  have hhead := head?_markdown (nameForm.compile answers) ExportConfig.standard.style none
  change ((markdownIn "in" true).contents answers).toList.head? = some '#' at hhead
  rw [hcontents] at hhead
  revert hhead
  decide

/-- Of two answers that share a stem, those that are compiled first get the document. -/
theorem first_of_shared_stem_wins :
    ((markdownIn "out" false).inTurn (withAnswers ["ada.json", "ada.txt"])
        ["in/ada.json", "in/ada.txt"]).1.map (fun result => (result.1, result.2.toOption)) =
      [("in/ada.json", some "out/ada.md"), ("in/ada.txt", none)] ∧
    ((markdownIn "out" false).inTurn (withAnswers ["ada.json", "ada.txt"])
        ["in/ada.txt", "in/ada.json"]).1.map (fun result => (result.1, result.2.toOption)) =
      [("in/ada.txt", some "out/ada.md"), ("in/ada.json", none)] := by
  decide +kernel

end Questionnaire.CommandLine.Batch
