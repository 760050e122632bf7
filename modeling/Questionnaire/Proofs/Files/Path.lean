import Questionnaire.Files.Path

/-! # Names in folders

A path that is joined from a folder and a name splits into the parts of the folder and the name, if
the name holds no slash (`Path.parts_join`). The stem of a file's name is such a name. -/

namespace Questionnaire

namespace Text

variable (separator : Char)

/-! ### Pieces -/

theorem splitChars_ne_nil (cs : List Char) : splitChars separator cs ≠ [] := by
  fun_cases splitChars separator cs <;> simp

theorem splitChars_append (front back : List Char) :
    splitChars separator (front ++ separator :: back) =
      splitChars separator front ++ splitChars separator back := by
  induction front with
  | nil => simp [splitChars]
  | cons c cs ih =>
    by_cases hc : c = separator
    · simp [splitChars, hc, ih]
    · obtain ⟨piece, pieces, h⟩ := List.exists_cons_of_ne_nil (splitChars_ne_nil separator cs)
      simp [splitChars, hc, ih, h]

variable {separator}

theorem splitChars_of_not_mem {cs : List Char} (h : separator ∉ cs) :
    splitChars separator cs = [cs] := by
  induction cs with
  | nil => rfl
  | cons c cs ih =>
    obtain ⟨hc, hcs⟩ : c ≠ separator ∧ separator ∉ cs := by simpa [eq_comm] using h
    simp [splitChars, hc, ih hcs]

theorem not_mem_of_mem_splitChars {cs piece : List Char} (h : piece ∈ splitChars separator cs) :
    separator ∉ piece := by
  induction cs generalizing piece with
  | nil => simp_all [splitChars]
  | cons c cs ih =>
    by_cases hc : c = separator
    · obtain rfl | h := by simpa [splitChars, hc] using h
      · simp
      · exact ih h
    · obtain ⟨first, rest, hcs⟩ := List.exists_cons_of_ne_nil (splitChars_ne_nil separator cs)
      obtain rfl | h := by simpa [splitChars, hc, hcs] using h
      · have : separator ∉ first := ih (by simp [hcs])
        simp [this, Ne.symm hc]
      · exact ih (by simp [hcs, h])

theorem not_mem_of_mem_split {s piece : String} (h : piece ∈ split separator s) :
    separator ∉ piece.toList := by
  obtain ⟨cs, hcs, rfl⟩ := List.mem_map.mp h
  simpa using not_mem_of_mem_splitChars hcs

end Text

namespace Path

/-! ### Joined paths -/

/-- A text that leads from a folder to something in it. -/
structure IsName (name : String) : Prop where
  slashless : '/' ∉ name.toList
  not_idle : isIdle name = false
  not_outward : name ≠ ".."

/-- The names that lead to no place of their own or out of a folder are short. -/
theorem isName_of_length {name : String} (hslash : '/' ∉ name.toList)
    (hlength : 2 < name.toList.length) : IsName name := by
  have hne {other : String} (hother : other.toList.length ≤ 2) : name ≠ other := by
    rintro rfl
    omega
  exact ⟨hslash, by simp [isIdle, hne], hne (by decide)⟩

theorem isAbsolute_of_slashless {name : String} (hname : '/' ∉ name.toList) :
    isAbsolute name = false := by
  simpa [isAbsolute] using fun h => hname (List.mem_of_head? h)

/-- The folder's parts come first, but for the empty one behind a slash at its end. -/
theorem parts_join {name : String} (hname : '/' ∉ name.toList) (folder : String) :
    ∃ front, parts (join folder name) = front ++ [name] ∧
      (parts folder = front ∨ parts folder = front ++ [""]) := by
  have hsplit : Text.splitChars '/' name.toList = [name.toList] := Text.splitChars_of_not_mem hname
  have hrelative := isAbsolute_of_slashless hname
  by_cases hempty : folder = ""
  · subst hempty
    exact ⟨[], by simp [parts, join, hrelative, Text.split, hsplit], .inr (by decide)⟩
  by_cases hslash : folder.toList.getLast? = some '/'
  · -- the slash is already there, and what stands behind it is empty until the name is put there
    obtain ⟨front, hfront⟩ := List.getLast?_eq_some_iff.mp hslash
    refine ⟨Text.split '/' (String.ofList front), ?_, .inr ?_⟩
    · simp [parts, join, hrelative, Text.split, hfront, Text.splitChars_append, hsplit]
    · simp [parts, Text.split, hfront, Text.splitChars_append, Text.splitChars]
  · refine ⟨parts folder, ?_, .inl rfl⟩
    simp [parts, join, hrelative, hempty, hslash, Text.split, Text.splitChars_append, hsplit]

/-- A joined path starts where that of the folder does. -/
theorem isAbsolute_join {name : String} (hname : '/' ∉ name.toList) (folder : String) :
    isAbsolute (join folder name) = isAbsolute folder := by
  have hrelative := isAbsolute_of_slashless hname
  by_cases hempty : folder = ""
  · subst hempty
    simp [join, hrelative, isAbsolute_of_slashless]
  · have hhead (back : List Char) : (folder.toList ++ back).head? = folder.toList.head? := by
      obtain ⟨c, cs, hcs⟩ := List.exists_cons_of_ne_nil (mt String.toList_eq_nil_iff.mp hempty)
      rw [hcs]
      rfl
    unfold join
    rw [hrelative, if_neg (by simp)]
    unfold isAbsolute
    split
    · rw [String.toList_append, hhead]
    · rw [String.toList_append, String.toList_append, List.append_assoc, hhead]

theorem join_ne_empty {folder name : String} (hname : IsName name) : join folder name ≠ "" := by
  have : name ≠ "" := by
    rintro rfl
    exact absurd hname.not_idle (by decide)
  unfold join
  split
  · exact this
  · split <;> simp_all

/-! ### Stems -/

theorem mem_of_splitAtLastDot? {text stem extension : List Char}
    (h : splitAtLastDot? text = some (stem, extension)) {c : Char} (hc : c ∈ stem) : c ∈ text := by
  revert h
  fun_cases splitAtLastDot? text with
  | case1 => simp
  | case2 _ front hfront =>
    rintro ⟨⟩
    have : c ∈ text.reverse.dropWhile (· != '.') := by simp_all
    simpa using (List.dropWhile_suffix _).mem this

theorem splitName_slashless {name : String} (h : '/' ∉ name.toList) :
    '/' ∉ (splitName name).1.toList := by
  fun_cases splitName name with
  | case1 => exact h
  | case2 => exact h
  | case3 stem extension _ hsplit => simpa using fun hc => h (mem_of_splitAtLastDot? hsplit hc)

theorem stem?_slashless {path stem : String} (h : stem? path = some stem) :
    '/' ∉ stem.toList := by
  obtain ⟨name, hname, rfl⟩ := Option.map_eq_some_iff.mp h
  have hlast : ((parts path).filter (!isIdle ·)).getLast? = some name := by
    revert hname
    fun_cases fileName? path <;> simp_all
  have hmem : name ∈ parts path := (List.mem_filter.mp (List.mem_of_getLast? hlast)).1
  exact splitName_slashless (Text.not_mem_of_mem_split hmem)

end Path

end Questionnaire
