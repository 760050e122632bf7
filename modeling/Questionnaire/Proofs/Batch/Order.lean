import Mathlib.Data.List.Basic
import Questionnaire.Proofs.Batch.Task

/-! # The order of the tasks of a batch

Where the folder for documents is made, tasks get in each other's way only at the places of their
documents. As long as these are no places of files of answers, the files keep their contents
(`Stage.tasksOn`), and as long as they differ, what is reported (`results_of_disjoint`) and what is
left on the disk (`entry?_of_perm`) do not depend on the order. The folder may be taken to be made
before all tasks (`tasksOn_cases`). -/

namespace Questionnaire.CommandLine.Batch

variable {batch : Batch} {start made disk : Disk} {inputs order : List String} {input : String}

/-! ### Runs where the folder is made -/

/-- The disk has grown, and some files read as they did before. -/
structure Stage (made : Disk) (inputs : List String) (disk : Disk) : Prop where
  grows : Disk.Grows made disk
  intact : ∀ input ∈ inputs, disk.read input = made.read input

theorem Stage.refl (made : Disk) (inputs : List String) : Stage made inputs made :=
  ⟨.refl made, fun _ _ => rfl⟩

/-- No document is written where one of the files is. -/
def SparesOn (batch : Batch) (made : Disk) (inputs : List String) : Prop :=
  ∀ input ∈ inputs, ∀ contents place, batch.Puts made input contents place →
    ∀ other ∈ inputs, made.follow other ≠ .ok place

/-- Two documents are not written at the same place. -/
def Disjoint (batch : Batch) (made : Disk) (a b : String) : Prop :=
  ∀ contents place contents' place', batch.Puts made a contents place →
    batch.Puts made b contents' place' → place ≠ place'

theorem Disjoint.symm {a b : String} (h : batch.Disjoint made a b) : batch.Disjoint made b a :=
  fun _ _ _ _ hb ha heq => h _ _ _ _ ha hb heq.symm

section Made

variable (hmade : start.makeFolders batch.folder = .ok made)

include hmade

theorem grows_taskOn (hgrows : Disk.Grows made disk) (input : String) :
    Disk.Grows made (batch.taskOn disk input).2 := by
  obtain ⟨contents, place, hputs, htask⟩ | ⟨failure, htask⟩ := taskOn_cases hmade hgrows input
  · rw [htask]
    exact hgrows.trans (Disk.grows_insert hputs.not_folder contents)
  · rwa [htask]

/-- A task leaves a place alone where it does not write its document. -/
theorem entry?_taskOn (hgrows : Disk.Grows made disk) {place : Place}
    (hplace : ∀ contents, ¬ batch.Puts disk input contents place) :
    Disk.entry? (batch.taskOn disk input).2 place = disk.entry? place := by
  obtain ⟨contents, place', hputs, htask⟩ | ⟨failure, htask⟩ := taskOn_cases hmade hgrows input
  · have hne : place ≠ place' := by
      rintro rfl
      exact hplace contents hputs
    rw [htask, Disk.entry?_insert hputs.not_folder, if_neg hne]
  · rw [htask]

variable (hfiles : ∀ input ∈ inputs, made.isFile input) (hspares : batch.SparesOn made inputs)

include hfiles hspares

theorem Stage.taskOn (hdisk : Stage made inputs disk) (hinput : input ∈ inputs) :
    Stage made inputs (batch.taskOn disk input).2 where
  grows := grows_taskOn hmade hdisk.grows input
  intact other hother := by
    obtain ⟨contents, hread⟩ := Disk.isFile_iff.mp (hfiles other hother)
    obtain ⟨place, hleads, -⟩ := Disk.read_eq_ok.mp hread
    -- the task could only touch this file by writing its document there
    have hkept : Disk.entry? (batch.taskOn disk input).2 place = disk.entry? place := by
      refine entry?_taskOn hmade hdisk.grows fun contents' hputs => ?_
      have hputs := hputs.of_grows hmade hdisk.grows (hdisk.intact input hinput)
      exact hspares input hinput _ _ hputs other hother hleads
    have hbefore : disk.entry? place = some (.file contents) :=
      Disk.entry?_of_read ((hdisk.intact other hother).trans hread) (hdisk.grows.follow hleads)
    rw [hread]
    exact Disk.read_eq_ok.mpr ⟨place, (grows_taskOn hmade hdisk.grows input).follow hleads,
      hkept.trans hbefore⟩

theorem Stage.tasksOn (hdisk : Stage made inputs disk) (horder : order ⊆ inputs) :
    Stage made inputs (batch.tasksOn disk order).2 := by
  induction order generalizing disk with
  | nil => exact hdisk
  | cons input order ih =>
    obtain ⟨hinput, horder⟩ := List.cons_subset.mp horder
    exact ih (hdisk.taskOn hmade hfiles hspares hinput) horder

/-- Tasks leave a place alone that is taken, if they may not write over files, or where none of them
writes its document. -/
theorem entry?_tasksOn (hdisk : Stage made inputs disk) (horder : order ⊆ inputs) {place : Place}
    (hplace : batch.force = false ∧ (disk.entry? place).isSome ∨
      ∀ input ∈ order, ∀ contents, ¬ batch.Puts made input contents place) :
    Disk.entry? (batch.tasksOn disk order).2 place = disk.entry? place := by
  induction order generalizing disk with
  | nil => rfl
  | cons input order ih =>
    obtain ⟨hinput, horder⟩ := List.cons_subset.mp horder
    have hstep : Disk.entry? (batch.taskOn disk input).2 place = disk.entry? place := by
      refine entry?_taskOn hmade hdisk.grows fun contents hputs => ?_
      obtain ⟨hforce, htaken⟩ | hnone := hplace
      · simp [hputs.free hforce] at htaken
      · exact hnone input (by simp) contents
          (hputs.of_grows hmade hdisk.grows (hdisk.intact input hinput))
    refine (ih (hdisk.taskOn hmade hfiles hspares hinput) horder ?_).trans hstep
    rw [hstep]
    exact hplace.imp_right fun h other hother => h other (List.mem_cons_of_mem _ hother)

/-- What a task reports as written is there when all tasks are done. -/
theorem written_of_reported (hdisk : Stage made inputs disk) (horder : order ⊆ inputs)
    (hapart : batch.force = true → order.Pairwise (batch.Disjoint made)) {target : String}
    (hresult : (input, .ok target) ∈ (batch.tasksOn disk order).1) :
    input ∈ order ∧ target = batch.target input ∧
      ∃ contents place, batch.Puts made input contents place ∧
        Disk.entry? (batch.tasksOn disk order).2 place = some (.file contents) := by
  induction order generalizing disk with
  | nil => cases hresult
  | cons first order ih =>
    obtain ⟨hfirst, hsub⟩ := List.cons_subset.mp horder
    have hnext := hdisk.taskOn hmade hfiles hspares hfirst
    rw [tasksOn_cons] at hresult ⊢
    obtain hhead | htail := List.mem_cons.mp hresult
    · obtain ⟨rfl, hok⟩ := Prod.mk.inj hhead
      obtain ⟨contents, place, hputs, htask⟩ | ⟨failure, htask⟩ :=
        taskOn_cases hmade hdisk.grows input
      · have hentry : Disk.entry? (batch.taskOn disk input).2 place = some (.file contents) := by
          rw [htask, Disk.entry?_insert hputs.not_folder, if_pos rfl]
        have hputs := hputs.of_grows hmade hdisk.grows (hdisk.intact input hfirst)
        -- later tasks find the place taken, or may write over files but have other places
        have hspared : batch.force = false ∧
            (Disk.entry? (batch.taskOn disk input).2 place).isSome ∨
            ∀ other ∈ order, ∀ contents', ¬ batch.Puts made other contents' place := by
          cases hforce : batch.force with
          | false => exact .inl ⟨rfl, by simp [hentry]⟩
          | true =>
            have hrest := (List.pairwise_cons.mp (hapart hforce)).1
            exact .inr fun other hother contents' h => hrest other hother _ _ _ _ hputs h rfl
        have hkept := entry?_tasksOn hmade hfiles hspares hnext hsub hspared
        rw [htask] at hok
        exact ⟨by simp, Except.ok.inj hok, contents, place, hputs, hkept.trans hentry⟩
      · rw [htask] at hok
        cases hok
    · obtain ⟨hinput, h⟩ := ih hnext hsub (fun hforce => (hapart hforce).of_cons) htail
      exact ⟨List.mem_cons_of_mem _ hinput, h⟩

/-- Tasks that write their documents at different places report what they report on their own. -/
theorem results_of_disjoint (hdisk : Stage made inputs disk) (horder : order ⊆ inputs)
    (hapart : order.Pairwise (batch.Disjoint made))
    (hplaces : ∀ input ∈ order, ∀ answers place, answersOn made input = .ok answers →
      made.follow (batch.target input) = .ok place → disk.entry? place = made.entry? place) :
    (batch.tasksOn disk order).1 = order.map fun input => (input, (batch.taskOn made input).1) := by
  -- by induction on the tasks; `hplaces` is what has to be known of the disk on which they start
  induction order generalizing disk with
  | nil => rfl
  | cons first order ih =>
    obtain ⟨hfirst, hsub⟩ := List.cons_subset.mp horder
    obtain ⟨hrest, hapart⟩ := List.pairwise_cons.mp hapart
    have hnext := hdisk.taskOn hmade hfiles hspares hfirst
    have hresult : (batch.taskOn disk first).1 = (batch.taskOn made first).1 :=
      taskOn_fst_eq hmade hdisk.grows (hdisk.intact first hfirst) (hplaces first (by simp))
    -- a later document's place is still as it was: one that is written there would not be alone
    have hresults := ih hnext hsub hapart fun input hinput answers place hanswers hleads => by
      refine (entry?_taskOn hmade hdisk.grows fun contents hputs => ?_).trans
        (hplaces input (List.mem_cons_of_mem _ hinput) answers place hanswers hleads)
      have hputs := hputs.of_grows hmade hdisk.grows (hdisk.intact first hfirst)
      exact hrest input hinput _ _ _ _ hputs (hputs.of_place hanswers hleads) rfl
    rw [tasksOn_cons, List.map_cons, ← hresult, ← hresults]

theorem entry?_of_puts (horder : order ⊆ inputs) (hapart : order.Pairwise (batch.Disjoint made))
    (hinput : input ∈ order) {contents : ByteArray} {place : Place}
    (hputs : batch.Puts made input contents place) :
    Disk.entry? (batch.tasksOn made order).2 place = some (.file contents) := by
  have hresult : (input, .ok (batch.target input)) ∈ (batch.tasksOn made order).1 := by
    rw [results_of_disjoint hmade hfiles hspares (.refl made inputs) horder hapart
      fun _ _ _ _ _ _ => rfl]
    exact List.mem_map.mpr ⟨input, hinput, by rw [taskOn_of_puts hmade (.refl made) hputs]⟩
  obtain ⟨-, -, contents', place', hputs', hentry⟩ := written_of_reported hmade hfiles hspares
    (.refl made inputs) horder (fun _ => hapart) hresult
  obtain ⟨rfl, rfl⟩ := hputs.unique hputs'
  exact hentry

/-- Tasks that write their documents at different places leave the same disk in every order. -/
theorem entry?_of_perm (horder : order.Perm inputs) (hapart : inputs.Pairwise (batch.Disjoint made))
    (place : Place) :
    Disk.entry? (batch.tasksOn made order).2 place =
      Disk.entry? (batch.tasksOn made inputs).2 place := by
  have hapart' : order.Pairwise (batch.Disjoint made) :=
    (horder.pairwise_iff fun h => h.symm).mpr hapart
  by_cases hwritten : ∃ input ∈ inputs, ∃ contents, batch.Puts made input contents place
  · obtain ⟨input, hinput, contents, hputs⟩ := hwritten
    rw [entry?_of_puts hmade hfiles hspares horder.subset hapart' (horder.mem_iff.mpr hinput) hputs,
      entry?_of_puts hmade hfiles hspares (List.Subset.refl inputs) hapart hinput hputs]
  · have hnone : ∀ input ∈ inputs, ∀ contents, ¬ batch.Puts made input contents place :=
      fun input hinput contents hputs => hwritten ⟨input, hinput, contents, hputs⟩
    rw [entry?_tasksOn hmade hfiles hspares (.refl made inputs) horder.subset
        (.inr fun input hinput => hnone input (horder.subset hinput)),
      entry?_tasksOn hmade hfiles hspares (.refl made inputs) (List.Subset.refl inputs)
        (.inr hnone)]

end Made

/-! ### Runs from the start -/

section Start

variable (hmade : start.makeFolders batch.folder = .ok made)

include hmade

theorem read_made (hfile : start.isFile input) : made.read input = start.read input := by
  obtain ⟨contents, hread⟩ := Disk.isFile_iff.mp hfile
  rw [hread, (Disk.makeFolders_ok hmade).1.read hread]

theorem answersOn_made (hfile : start.isFile input) :
    answersOn made input = answersOn start input := by
  rw [answersOn, read_made hmade hfile, answersOn]

theorem forall_isFile_made (hfiles : ∀ input ∈ inputs, start.isFile input) :
    ∀ input ∈ inputs, made.isFile input := by
  intro input hinput
  rw [Disk.isFile_iff, read_made hmade (hfiles input hinput)]
  exact Disk.isFile_iff.mp (hfiles input hinput)

theorem taskOn_start {answers : Answers} (hfile : start.isFile input)
    (hanswers : answersOn start input = .ok answers) :
    batch.taskOn start input = batch.taskOn made input := by
  rw [taskOn_of_grows hmade (.refl made), answersOn_made hmade hfile, taskOn, hanswers, hmade]

theorem taskOn_start_fst (hfile : start.isFile input) :
    (batch.taskOn start input).1 = (batch.taskOn made input).1 := by
  cases hanswers : answersOn start input with
  | error failure => rw [taskOn, taskOn, answersOn_made hmade hfile, hanswers]
  | ok answers => rw [taskOn_start hmade hfile hanswers]

/-- The folder may as well be made before all tasks, if one of them gets to that. -/
theorem tasksOn_start (horder : ∀ input ∈ order, start.isFile input)
    (hanswered : ∃ input ∈ order, ∃ answers, answersOn start input = .ok answers) :
    batch.tasksOn start order = batch.tasksOn made order := by
  induction order with
  | nil => simp at hanswered
  | cons input order ih =>
    obtain ⟨hfile, horder⟩ := List.forall_mem_cons.mp horder
    rw [tasksOn_cons, tasksOn_cons]
    cases hanswers : answersOn start input with
    | error failure =>
      have htask : batch.taskOn start input = (.error failure, start) := by rw [taskOn, hanswers]
      have htask' : batch.taskOn made input = (.error failure, made) := by
        rw [taskOn, answersOn_made hmade hfile, hanswers]
      rw [htask, htask', ih horder (by simpa [hanswers] using hanswered)]
    | ok answers => rw [taskOn_start hmade hfile hanswers]

end Start

/-- Tasks that fail on a disk and leave it as it is do so in any order. -/
theorem tasksOn_of_idle
    (hidle : ∀ input ∈ order, ∃ failure, batch.taskOn start input = (.error failure, start)) :
    batch.tasksOn start order =
      (order.map fun input => (input, (batch.taskOn start input).1), start) := by
  induction order with
  | nil => rfl
  | cons input order ih =>
    obtain ⟨⟨failure, htask⟩, hidle⟩ := List.forall_mem_cons.mp hidle
    rw [tasksOn_cons, htask, ih hidle, List.map_cons, htask]

/-- In every order the tasks all fail and change nothing, or in every order they might as well find
the folder made. -/
theorem tasksOn_cases (batch : Batch) (hfiles : ∀ input ∈ inputs, start.isFile input) :
    (∀ input ∈ inputs, ∃ failure, batch.taskOn start input = (.error failure, start)) ∨
    ∃ made, start.makeFolders batch.folder = .ok made ∧
      ∀ order : List String, order.Perm inputs →
        batch.tasksOn start order = batch.tasksOn made order := by
  by_cases hanswered : ∃ input ∈ inputs, ∃ answers, answersOn start input = .ok answers
  · cases hmade : start.makeFolders batch.folder with
    | error fault =>
      refine .inl fun input _ => ?_
      rw [taskOn, hmade]
      split
      · exact ⟨_, rfl⟩
      · exact ⟨_, rfl⟩
    | ok made =>
      refine .inr ⟨made, rfl, fun order horder => ?_⟩
      obtain ⟨input, hinput, hanswers⟩ := hanswered
      exact tasksOn_start hmade (fun input hinput => hfiles input (horder.subset hinput))
        ⟨input, horder.mem_iff.mpr hinput, hanswers⟩
  · refine .inl fun input hinput => ?_
    cases hanswers : answersOn start input with
    | error failure => exact ⟨failure, by rw [taskOn, hanswers]⟩
    | ok answers => exact absurd ⟨input, hinput, answers, hanswers⟩ hanswered

end Questionnaire.CommandLine.Batch
