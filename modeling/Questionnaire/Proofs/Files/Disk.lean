import Mathlib.Tactic.SplitIfs
import Questionnaire.Files.Disk
import Questionnaire.Proofs.Files.Path
import Questionnaire.Proofs.Success

/-! # Disks that grow

A command adds folders and files to a disk and gives files new contents, but it takes nothing away
and puts no file in place of a folder (`Disk.Grows`), so a path that leads somewhere goes on leading
there. The folders of a path can be made again without changing anything (`Disk.makeFolders_again`),
and where a name in such a folder leads does not depend on what else there is (`Disk.follow_join`).
-/

namespace Questionnaire.Disk

variable {disk grown made : Disk} {start place : Place} {parts : List String} {path : String}

/-! ### Entries -/

theorem not_isAround (h : disk.entry? place ≠ some .folder) : isAround place = false := by
  cases hplace : isAround place with
  | false => rfl
  | true => simp [hplace, entry?] at h

private theorem lookup_filter_ne {q : Place} (hq : q ≠ place) (entries : List (Place × DiskEntry)) :
    (entries.filter fun e => e.1 != place).lookup q = entries.lookup q := by
  induction entries with
  | nil => rfl
  | cons e entries ih =>
    obtain ⟨p, entry⟩ := e
    by_cases hp : p = place
    · subst hp
      simpa [List.lookup_cons, beq_eq_false_iff_ne.mpr hq] using ih
    · simp [List.lookup_cons, hp, ih]

theorem entry?_insert (h : disk.entry? place ≠ some .folder) (entry : DiskEntry) (q : Place) :
    Disk.entry? (disk.insert place entry) q = if q = place then some entry else disk.entry? q := by
  by_cases hq : q = place
  · subst hq
    simp [insert, entry?, not_isAround h]
  · have : (q == place) = false := by simpa using hq
    simp [insert, entry?, List.lookup_cons, this, lookup_filter_ne hq, hq]

/-! ### Names in a folder -/

section Steps

variable {name other : String}

/-- What is not a folder lies further inwards than the folder that it is in. -/
theorem child_eq_append (h : disk.entry? (disk.child place name) ≠ some .folder) :
    disk.child place name = place ++ [name] := by
  cases hinwards : disk.isInwards place name with
  | false => simp [child, hinwards]
  | true =>
    have haround : isAround place = true := by
      unfold isInwards at hinwards
      exact (Bool.and_eq_true_iff.mp hinwards).1
    have houter : isAround place.dropLast = true := by
      rw [isAround, List.all_eq_true] at haround ⊢
      exact fun name hname => haround name ((List.dropLast_sublist place).mem hname)
    simp [child, hinwards, entry?, houter] at h

/-- Different names in a folder have different places. -/
theorem child_inj (h : disk.child place name = disk.child place other) : name = other := by
  have hne (name : String) : place.dropLast ≠ place ++ [name] := by
    intro heq
    have := congrArg List.length heq
    rw [List.length_dropLast, List.length_append, List.length_singleton] at this
    omega
  cases hname : disk.isInwards place name <;> cases hother : disk.isInwards place other <;>
    simp only [child, hname, hother, if_true, Bool.false_eq_true, if_false] at h
  · simpa using h
  · exact absurd h.symm (hne name)
  · exact absurd h (hne other)
  · simp only [isInwards, Bool.and_eq_true, beq_iff_eq] at hname hother
    exact Option.some_inj.mp (hname.2.symm.trans hother.2)

/-! The folder at hand stays where it is, and with it the root. -/

theorem parent_congr (h : grown.here = disk.here) (place : Place) :
    grown.parent place = disk.parent place := by
  unfold parent root
  rw [h]

theorem child_congr (h : grown.here = disk.here) (place : Place) (name : String) :
    grown.child place name = disk.child place name := by
  unfold child isInwards
  rw [h]

theorem start_congr (h : grown.here = disk.here) (path : String) :
    grown.start path = disk.start path := by
  unfold Disk.start root
  rw [h]

end Steps

/-! ### Growth -/

/-- Folders stay folders, and nothing is taken away. -/
structure Grows (disk grown : Disk) : Prop where
  here : grown.here = disk.here
  folders : ∀ place, disk.entry? place = some .folder → grown.entry? place = some .folder
  taken : ∀ place, (disk.entry? place).isSome → (grown.entry? place).isSome

/-- What there is stays as it is. -/
structure Extends (disk grown : Disk) : Prop where
  here : grown.here = disk.here
  entries : ∀ place entry, disk.entry? place = some entry → grown.entry? place = some entry

/-- Every file was there before. -/
def AddsNoFile (disk made : Disk) : Prop :=
  ∀ place contents, made.entry? place = some (.file contents) →
    disk.entry? place = some (.file contents)

theorem AddsNoFile.refl (disk : Disk) : AddsNoFile disk disk := fun _ _ h => h

theorem AddsNoFile.trans {further : Disk} (h : AddsNoFile disk made)
    (h' : AddsNoFile made further) : AddsNoFile disk further := fun _ _ hfile => h _ _ (h' _ _ hfile)

theorem Extends.refl (disk : Disk) : Extends disk disk := ⟨rfl, fun _ _ h => h⟩

theorem Extends.trans {further : Disk} (h : Extends disk grown) (h' : Extends grown further) :
    Extends disk further where
  here := h'.here.trans h.here
  entries _ _ hentry := h'.entries _ _ (h.entries _ _ hentry)

theorem Extends.grows (h : Extends disk grown) : Grows disk grown where
  here := h.here
  folders _ := h.entries _ _
  taken place hplace := by
    obtain ⟨entry, hentry⟩ := Option.isSome_iff_exists.mp hplace
    simp [h.entries _ _ hentry]

theorem Grows.refl (disk : Disk) : Grows disk disk := (Extends.refl disk).grows

theorem Grows.trans {further : Disk} (h : Grows disk grown) (h' : Grows grown further) :
    Grows disk further where
  here := h'.here.trans h.here
  folders _ hplace := h'.folders _ (h.folders _ hplace)
  taken _ hplace := h'.taken _ (h.taken _ hplace)

theorem extends_insert (h : disk.entry? place = none) (entry : DiskEntry) :
    Extends disk (disk.insert place entry) := by
  refine ⟨rfl, fun q found hq => ?_⟩
  have hne : q ≠ place := by rintro rfl; simp [h] at hq
  rwa [entry?_insert (by simp [h]), if_neg hne]

theorem grows_insert (h : disk.entry? place ≠ some .folder) (contents : ByteArray) :
    Grows disk (disk.insert place (.file contents)) where
  here := rfl
  folders q hq := by
    have hne : q ≠ place := by rintro rfl; exact h hq
    rwa [entry?_insert h, if_neg hne]
  taken q hq := by
    rw [entry?_insert h]
    split_ifs
    · rfl
    · exact hq

theorem addsNoFile_insert_folder (h : disk.entry? place = none) :
    AddsNoFile disk (disk.insert place .folder) := by
  intro q contents hq
  rw [entry?_insert (by simp [h])] at hq
  split_ifs at hq
  · cases hq
  · exact hq

/-! ### Following a path -/

theorem followParts_append (disk : Disk) (place : Place) (front back : List String) :
    disk.followParts place (front ++ back) =
      disk.followParts place front >>= fun p => disk.followParts p back := by
  induction front generalizing place with
  | nil => rfl
  | cons part front ih =>
    simp only [List.cons_append, followParts]
    split
    · rfl
    · rfl
    · split_ifs
      · exact ih _
      · exact ih _
      · rfl
      · exact ih _

/-- A path that leads somewhere goes on leading there. -/
theorem Grows.followParts (h : Grows disk grown) {q : Place}
    (hq : disk.followParts place parts = .ok q) : grown.followParts place parts = .ok q := by
  induction parts generalizing place with
  | nil => exact hq
  | cons part parts ih =>
    simp only [Disk.followParts] at hq ⊢
    split at hq
    · cases hq
    · cases hq
    · rename_i hfolder
      simp only [h.folders _ hfolder, parent_congr h.here, child_congr h.here]
      split_ifs at hq ⊢
      · exact ih hq
      · exact ih hq
      · exact ih hq

theorem follow_of_ne (hpath : path ≠ "") :
    disk.follow path = partsOf path >>= disk.followParts (disk.start path) := by
  simp [follow, hpath]

/-- Absolute paths to a file in the folder at hand, to one outside it, and to a folder around it. -/
example :
    let disk : Disk := ⟨[(["in"], .folder), (["in", "a.json"], .file .empty)], ["home", "work"]⟩
    ["/home/work/in/a.json", "/home/b.json", "/../home"].map (fun path =>
      (disk.follow path).toOption) =
        [some ["in", "a.json"], some ["..", "b.json"], some [".."]] := by
  decide +kernel

theorem Grows.follow (h : Grows disk grown) {q : Place} (hq : disk.follow path = .ok q) :
    grown.follow path = .ok q := by
  have hpath : path ≠ "" := by rintro rfl; cases hq
  rw [follow_of_ne hpath] at hq ⊢
  obtain ⟨parts, hparts, hq⟩ := exists_of_bind_eq_ok hq
  rw [hparts, start_congr h.here]
  exact h.followParts hq

theorem isFolder_iff :
    disk.isFolder start parts ↔
      ∃ place, disk.followParts start parts = .ok place ∧ disk.entry? place = some .folder := by
  unfold isFolder
  cases hplace : disk.followParts start parts with
  | error fault => simp [Except.toOption]
  | ok place =>
    simp only [Except.toOption, Option.bind_some, Except.ok.injEq, exists_eq_left']
    split <;> simp_all

theorem Grows.isFolder (h : Grows disk grown) (hparts : disk.isFolder start parts) :
    grown.isFolder start parts := by
  obtain ⟨place, hplace, hfolder⟩ := isFolder_iff.mp hparts
  exact isFolder_iff.mpr ⟨place, h.followParts hplace, h.folders _ hfolder⟩

/-! ### Idle parts -/

theorem followParts_idle (hparts : ∀ part ∈ parts, Path.isIdle part)
    (hplace : disk.entry? place = some .folder) : disk.followParts place parts = .ok place := by
  induction parts with
  | nil => rfl
  | cons part parts ih =>
    simp only [List.forall_mem_cons] at hparts
    simp [followParts, hplace, hparts.1, ih hparts.2]

theorem eq_of_followParts_idle (hparts : ∀ part ∈ parts, Path.isIdle part) {q : Place}
    (hq : disk.followParts place parts = .ok q) : q = place := by
  cases hplace : parts with
  | nil => simp_all [followParts]
  | cons part rest =>
    have hfolder : disk.entry? place = some .folder := by
      revert hq
      rw [hplace, followParts]
      split <;> simp_all
    simpa [followParts_idle hparts hfolder, eq_comm] using hq

theorem isFolder_append_idle {idle : List String} (hidle : ∀ part ∈ idle, Path.isIdle part) :
    disk.isFolder start (parts ++ idle) = disk.isFolder start parts := by
  rw [Bool.eq_iff_iff, isFolder_iff, isFolder_iff]
  constructor
  · rintro ⟨q, hq, hfolder⟩
    rw [followParts_append] at hq
    obtain ⟨place, hplace, hq⟩ := exists_of_bind_eq_ok hq
    obtain rfl := eq_of_followParts_idle hidle hq
    exact ⟨q, hplace, hfolder⟩
  · rintro ⟨place, hplace, hfolder⟩
    refine ⟨place, ?_, hfolder⟩
    rw [followParts_append, hplace]
    exact followParts_idle hidle hfolder

/-! ### Paths into a folder -/

theorem eq_parts_of_partsOf (h : partsOf path = .ok parts) : parts = Path.parts path := by
  unfold partsOf at h
  split_ifs at h
  simpa [eq_comm] using h

theorem followParts_name {name : String} (hname : Path.IsName name)
    (hplace : disk.entry? place = some .folder) :
    disk.followParts place [name] =
      if name.utf8ByteSize > maxNameSize then .error .nameTooLong
      else .ok (disk.child place name) := by
  simp [followParts, hplace, hname.not_idle, hname.not_outward]

/-- A name in a folder leads to a place in it, whatever else there is. -/
theorem follow_join {folder name : String} (hname : Path.IsName name)
    (hplace : disk.followParts (disk.start folder) (Path.parts folder) = .ok place)
    (hfolder : disk.entry? place = some .folder) :
    disk.follow (Path.join folder name) =
      partsOf (Path.join folder name) >>= fun _ =>
        if name.utf8ByteSize > maxNameSize then .error .nameTooLong
        else .ok (disk.child place name) := by
  obtain ⟨front, hjoin, hfront⟩ := Path.parts_join hname.slashless folder
  have hstart : disk.start (Path.join folder name) = disk.start folder := by
    simp only [Disk.start, Path.isAbsolute_join hname.slashless]
  -- an empty part behind the folder's names leads nowhere else
  have hplace : disk.followParts (disk.start folder) front = .ok place := by
    obtain hfront | hfront := hfront <;> rw [hfront] at hplace
    · exact hplace
    · rw [followParts_append] at hplace
      obtain ⟨p, hp, hplace⟩ := exists_of_bind_eq_ok hplace
      have hidle : ∀ part ∈ [""], Path.isIdle part := by decide
      rwa [eq_of_followParts_idle hidle hplace]
  rw [follow_of_ne (Path.join_ne_empty hname), hstart]
  cases hparts : partsOf (Path.join folder name) with
  | error fault => rfl
  | ok parts =>
    obtain rfl := eq_parts_of_partsOf hparts
    change disk.followParts (disk.start folder) (Path.parts (Path.join folder name)) = _
    rw [hjoin, followParts_append, hplace]
    exact followParts_name hname hfolder

theorem eq_of_follow_join {folder name : String} {root : Place} (hname : Path.IsName name)
    (hroot : disk.followParts (disk.start folder) (Path.parts folder) = .ok root)
    (hfolder : disk.entry? root = some .folder)
    (h : disk.follow (Path.join folder name) = .ok place) : place = disk.child root name := by
  rw [follow_join hname hroot hfolder] at h
  obtain ⟨-, -, h⟩ := exists_of_bind_eq_ok h
  split_ifs at h
  simpa [eq_comm] using h

/-- The place of a name directly in the folder to which a path leads. -/
def IsIn (disk : Disk) (folder name : String) (place : Place) : Prop :=
  ∃ root, disk.follow folder = .ok root ∧ disk.entry? root = some .folder ∧ place = root ++ [name]

theorem Grows.isIn (h : Grows disk grown) {folder name : String}
    (hplace : disk.IsIn folder name place) : grown.IsIn folder name place := by
  obtain ⟨root, hroot, hfolder, rfl⟩ := hplace
  exact ⟨root, h.follow hroot, h.folders _ hfolder, rfl⟩

section Join

variable {folder name other : String}
  (hfolder : disk.isFolder (disk.start folder) (Path.parts folder))

include hfolder

theorem Grows.follow_join (h : Grows disk grown) (hname : Path.IsName name) :
    grown.follow (Path.join folder name) = disk.follow (Path.join folder name) := by
  obtain ⟨place, hplace, hentry⟩ := isFolder_iff.mp hfolder
  have hgrown : grown.followParts (grown.start folder) (Path.parts folder) = .ok place := by
    rw [start_congr h.here]
    exact h.followParts hplace
  rw [Disk.follow_join hname hplace hentry,
    Disk.follow_join hname hgrown (h.folders _ hentry), child_congr h.here]

/-- Different names in a folder lead to different places. -/
theorem follow_join_inj (hname : Path.IsName name) (hother : Path.IsName other)
    (h : disk.follow (Path.join folder name) = .ok place)
    (h' : disk.follow (Path.join folder other) = .ok place) : name = other := by
  obtain ⟨front, hfront, hentry⟩ := isFolder_iff.mp hfolder
  have hplace := eq_of_follow_join hname hfront hentry h
  exact child_inj (hplace.symm.trans (eq_of_follow_join hother hfront hentry h'))

end Join

/-! ### Making folders -/

/-- The parts of a path without the empty ones at its end. -/
private def bare (parts : List String) : List String :=
  (parts.reverse.dropWhile (·.isEmpty)).reverse

private theorem exists_eq_bare_append (parts : List String) :
    ∃ idle, parts = bare parts ++ idle ∧ ∀ part ∈ idle, Path.isIdle part := by
  refine ⟨(parts.reverse.takeWhile (·.isEmpty)).reverse, ?_, fun part hpart => ?_⟩
  · rw [bare, ← List.reverse_append, List.takeWhile_append_dropWhile, List.reverse_reverse]
  · have : part.isEmpty := 
      List.all_eq_true.mp List.all_takeWhile part (List.mem_reverse.mp hpart)
    simp [Path.isIdle, this]

theorem makeFolder_eq (disk : Disk) (start : Place) (parts : List String) :
    disk.makeFolder start parts = disk.followParts start (bare parts) >>= fun place =>
      match disk.entry? place with
      | none => .ok (disk.insert place .folder)
      | some _ => .error .alreadyThere :=
  rfl

theorem isFolder_bare : disk.isFolder start (bare parts) = disk.isFolder start parts := by
  obtain ⟨idle, hparts, hidle⟩ := exists_eq_bare_append parts
  calc disk.isFolder start (bare parts)
    _ = disk.isFolder start (bare parts ++ idle) := (isFolder_append_idle hidle).symm
    _ = disk.isFolder start parts := by rw [← hparts]

theorem makeFolder_ok (h : disk.makeFolder start parts = .ok made) :
    Extends disk made ∧ made.isFolder start parts := by
  rw [makeFolder_eq] at h
  obtain ⟨place, hplace, h⟩ := exists_of_bind_eq_ok h
  split at h
  · rename_i hnone
    obtain rfl := Except.ok.inj h
    have hextends := extends_insert hnone .folder
    refine ⟨hextends, ?_⟩
    rw [← isFolder_bare, isFolder_iff]
    exact ⟨place, hextends.grows.followParts hplace, by rw [entry?_insert (by simp [hnone])]; simp⟩
  · cases h

theorem addsNoFile_of_makeFolder (h : disk.makeFolder start parts = .ok made) :
    AddsNoFile disk made := by
  rw [makeFolder_eq] at h
  obtain ⟨place, -, h⟩ := exists_of_bind_eq_ok h
  split at h
  · rename_i hnone
    obtain rfl := Except.ok.inj h
    exact addsNoFile_insert_folder hnone
  · cases h

theorem makeFolder_of_isFolder (h : disk.isFolder start parts) :
    disk.makeFolder start parts = .error .alreadyThere := by
  rw [← isFolder_bare, isFolder_iff] at h
  obtain ⟨place, hplace, hfolder⟩ := h
  rw [makeFolder_eq, hplace]
  simp [bind, Except.bind, hfolder]

private theorem orThere_cases {result : Except FileFault Disk}
    (h : makeChain.orThere start disk parts result = .ok made) :
    made = disk ∧ disk.isFolder start parts ∨ result = .ok made := by
  unfold makeChain.orThere at h
  split at h
  · split_ifs at h with hfolder
    exact .inl ⟨(Except.ok.inj h).symm, hfolder⟩
  · exact .inr h

private theorem orThere_ok
    (h : makeChain.orThere start disk parts (disk.makeFolder start parts) = .ok made) :
    Extends disk made ∧ AddsNoFile disk made ∧ made.isFolder start parts := by
  obtain ⟨rfl, hfolder⟩ | h := orThere_cases h
  · exact ⟨.refl made, .refl made, hfolder⟩
  · obtain ⟨hextends, hfolder⟩ := makeFolder_ok h
    exact ⟨hextends, addsNoFile_of_makeFolder h, hfolder⟩

theorem makeChain_ok {chain : List (List String)} (h : disk.makeChain start chain = .ok made) :
    Extends disk made ∧ AddsNoFile disk made ∧
      ∀ parts ∈ chain.head?, made.isFolder start parts := by
  induction chain generalizing disk made with
  | nil =>
    obtain rfl := Except.ok.inj h
    exact ⟨.refl disk, .refl disk, by simp⟩
  | cons parts outer ih =>
    rw [makeChain] at h
    split at h
    · obtain ⟨between, hbetween, h⟩ := exists_of_bind_eq_ok h
      obtain ⟨hextends, hfiles, hfolder⟩ := orThere_ok h
      obtain ⟨hextends', hfiles', -⟩ := ih hbetween
      exact ⟨hextends'.trans hextends, hfiles'.trans hfiles, by simpa using hfolder⟩
    · simpa using orThere_ok h

theorem makeChain_of_isFolder (h : disk.isFolder start parts) (outer : List (List String)) :
    disk.makeChain start (parts :: outer) = .ok disk := by
  simp [makeChain, makeFolder_of_isFolder h, makeChain.orThere, h]

theorem makeFolders_of_ne (hpath : path ≠ "") :
    disk.makeFolders path =
      partsOf path >>= fun parts =>
        disk.makeChain (disk.start path) (parts :: Path.ancestors parts) := by
  simp [makeFolders, hpath]

theorem makeFolders_ok (h : disk.makeFolders path = .ok made) :
    Extends disk made ∧ made.isFolder (made.start path) (Path.parts path) := by
  by_cases hpath : path = ""
  · subst hpath
    obtain rfl := Except.ok.inj h
    have hparts : Path.parts "" = [] ++ [""] := by decide
    refine ⟨.refl disk, ?_⟩
    rw [hparts, isFolder_append_idle (by decide)]
    rfl
  · rw [makeFolders_of_ne hpath] at h
    obtain ⟨parts, hparts, h⟩ := exists_of_bind_eq_ok h
    obtain rfl := eq_parts_of_partsOf hparts
    obtain ⟨hextends, -, hfolder⟩ := makeChain_ok h
    rw [start_congr hextends.here]
    exact ⟨hextends, by simpa using hfolder⟩

theorem addsNoFile_of_makeFolders (h : disk.makeFolders path = .ok made) :
    AddsNoFile disk made := by
  by_cases hpath : path = ""
  · subst hpath
    obtain rfl := Except.ok.inj h
    exact .refl disk
  · rw [makeFolders_of_ne hpath] at h
    obtain ⟨parts, -, h⟩ := exists_of_bind_eq_ok h
    exact (makeChain_ok h).2.1

/-- Where the folder of a path was made, a name in it that leads to no folder leads to a place
directly in it. -/
theorem isIn_of_makeFolders {folder name : String} (hpath : folder ≠ "")
    (hmade : disk.makeFolders folder = .ok made) (hname : Path.IsName name)
    (hplace : made.follow (Path.join folder name) = .ok place)
    (hfree : made.entry? place ≠ some .folder) : made.IsIn folder name place := by
  obtain ⟨root, hroot, hfolder⟩ := isFolder_iff.mp (makeFolders_ok hmade).2
  rw [makeFolders_of_ne hpath] at hmade
  obtain ⟨parts, hparts, -⟩ := exists_of_bind_eq_ok hmade
  obtain rfl := eq_parts_of_partsOf hparts
  obtain rfl := eq_of_follow_join hname hroot hfolder hplace
  refine ⟨root, ?_, hfolder, child_eq_append hfree⟩
  rw [follow_of_ne hpath, hparts]
  exact hroot

/-- Where folders were made they need not be made again. -/
theorem makeFolders_again (h : disk.makeFolders path = .ok made) (hgrows : Grows made grown) :
    grown.makeFolders path = .ok grown := by
  by_cases hpath : path = ""
  · subst hpath
    rfl
  · have hfolder := hgrows.isFolder (makeFolders_ok h).2
    rw [← start_congr hgrows.here] at hfolder
    rw [makeFolders_of_ne hpath] at h ⊢
    obtain ⟨parts, hparts, h⟩ := exists_of_bind_eq_ok h
    obtain rfl := eq_parts_of_partsOf hparts
    rw [hparts]
    exact makeChain_of_isFolder hfolder _

/-! ### Reading and writing -/

theorem read_eq_ok {contents : ByteArray} :
    disk.read path = .ok contents ↔
      ∃ place, disk.follow path = .ok place ∧ disk.entry? place = some (.file contents) := by
  cases hplace : disk.follow path with
  | error fault => simp [read, hplace, bind, Except.bind]
  | ok place =>
    simp only [read, hplace, bind, Except.bind, Except.ok.injEq, exists_eq_left']
    split <;> simp_all

theorem entry?_of_read {contents : ByteArray} (hread : disk.read path = .ok contents)
    (hplace : disk.follow path = .ok place) : disk.entry? place = some (.file contents) := by
  obtain ⟨place', hplace', hentry⟩ := read_eq_ok.mp hread
  rwa [Except.ok.inj (hplace.symm.trans hplace')]

theorem isFile_iff : disk.isFile path ↔ ∃ contents, disk.read path = .ok contents := by
  simp only [read_eq_ok, isFile, at?]
  cases hplace : disk.follow path with
  | error fault => simp
  | ok place => 
    simp only [Except.ok.injEq, exists_eq_left']
    split <;> simp_all

theorem isSame_iff {other : String} :
    disk.isSame path other ↔
      ∃ place, disk.follow path = .ok place ∧ disk.follow other = .ok place ∧
        (disk.entry? place).isSome := by
  unfold isSame
  cases disk.follow path with
  | error fault => simp
  | ok p =>
    cases disk.follow other with
    | error fault => simp
    | ok q =>
      simp only [Bool.and_eq_true, beq_iff_eq, Except.ok.injEq]
      constructor
      · rintro ⟨rfl, htaken⟩
        exact ⟨p, rfl, rfl, htaken⟩
      · rintro ⟨place, rfl, rfl, htaken⟩
        exact ⟨rfl, htaken⟩

theorem isFile_of_fileNames {folder name : String} {names : List String}
    (hnames : disk.fileNames folder = .ok names) (hname : name ∈ names) :
    disk.isFile (Path.join folder name) := by
  unfold fileNames at hnames
  obtain ⟨place, -, hnames⟩ := exists_of_bind_eq_ok hnames
  split at hnames
  · obtain rfl := Except.ok.inj hnames
    exact (List.mem_filter.mp hname).2
  · cases hnames
  · cases hnames

theorem Extends.read (h : Extends disk grown) {contents : ByteArray}
    (hread : disk.read path = .ok contents) : grown.read path = .ok contents := by
  obtain ⟨place, hplace, hentry⟩ := read_eq_ok.mp hread
  exact read_eq_ok.mpr ⟨place, h.grows.follow hplace, h.entries _ _ hentry⟩

theorem isTaken_eq (hplace : disk.follow path = .ok place) :
    disk.isTaken path = (disk.entry? place).isSome := by
  simp [isTaken, at?, hplace]

theorem write_eq_ok {written : Disk} {contents : ByteArray} :
    disk.write path contents = .ok written ↔
      ∃ place, disk.follow path = .ok place ∧ disk.entry? place ≠ some .folder ∧
        written = disk.insert place (.file contents) := by
  cases hplace : disk.follow path with
  | error fault => simp [write, hplace, bind, Except.bind]
  | ok place =>
    simp only [write, hplace, bind, Except.bind, Except.ok.injEq, exists_eq_left']
    split <;> simp_all [eq_comm]

end Questionnaire.Disk
