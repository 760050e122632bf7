import Questionnaire.Decode.Text
import Questionnaire.Proofs.Json.Shape
import Questionnaire.Proofs.Json.Strings
import Questionnaire.Proofs.Lookup
import Questionnaire.Proofs.Number.Reread
import Questionnaire.Proofs.Success

/-! # Values that are read back

`Json.reread` is what a value comes back as from its compact text: the same value, except that each
number is what its own text reads as. The reader takes the text of any value apart along the value
(`readsBack`), with data that cannot be kept where a number is not legible (`Wire.ofReread`). So a
legible value that is tidy and not too deep is read as what comes back (`Json.ofText_compact`), and
nothing is read of one that is not legible (`Json.eq_of_ofText_compact`). -/

namespace Questionnaire

open Number (Closes closes_nil closes_cons)

namespace Json

/-! ### What comes back -/

mutual

/-- The value with each number as its text is read. -/
def reread : Json → Json
  | .num n => .num (n.reread?.getD n)
  | .arr items => .arr (rereadItems items)
  | .obj members => .obj (rereadMembers members)
  | value => value

/-- The items of an array, each read back. -/
def rereadItems : List Json → List Json
  | [] => []
  | item :: rest => reread item :: rereadItems rest

/-- The members of an object, each read back. -/
def rereadMembers : List (String × Json) → List (String × Json)
  | [] => []
  | (key, value) :: rest => (key, reread value) :: rereadMembers rest

end

/-- Every number in the value can be read back. -/
abbrev Legible (v : Json) : Prop := v.All Number.Legible

/-- Every number in the value comes back as it was. -/
abbrev Survives (v : Json) : Prop := v.All Number.Survives

theorem Survives.legible {v : Json} (h : v.Survives) : v.Legible :=
  All.imp (fun _ => Number.Survives.legible) h

theorem rereadItems_eq_map (items : List Json) : rereadItems items = items.map reread := by
  induction items with
  | nil => rfl
  | cons item rest ih => rw [rereadItems, ih, List.map_cons]

theorem rereadMembers_eq_map (members : List (String × Json)) :
    rereadMembers members = members.map fun member => (member.1, member.2.reread) := by
  induction members with
  | nil => rfl
  | cons member rest ih => rw [rereadMembers, ih, List.map_cons]

theorem reread_arr (items : List Json) : (arr items).reread = .arr (items.map reread) := by
  rw [reread, rereadItems_eq_map]

theorem reread_obj (members : List (String × Json)) :
    (obj members).reread = .obj (members.map fun member => (member.1, member.2.reread)) := by
  rw [reread, rereadMembers_eq_map]

/-- **A value whose numbers survive comes back as it was.** -/
theorem Survives.reread_eq {v : Json} (h : v.Survives) : v.reread = v := by
  induction h with
  | null => rfl
  | bool b => rfl
  | num hn => rw [reread, hn]; rfl
  | str s => rfl
  | @arr items _ ih =>
    rw [reread_arr, arr.injEq]
    exact (List.map_congr_left ih).trans (List.map_id items)
  | @obj members _ ih =>
    rw [reread_obj, obj.injEq]
    refine (List.map_congr_left fun member hmem => ?_).trans (List.map_id members)
    rw [ih member hmem]
    rfl

theorem All.reread {p : Number → Prop} (hp : Number.Kept p) {v : Json} (h : v.All p) :
    v.reread.All p := by
  induction h with
  | null => exact .null
  | bool b => exact .bool b
  | num hn => exact .num (hp.reread _ hn)
  | str s => exact .str s
  | arr _ ih =>
    rw [reread_arr]
    refine .arr fun item hitem => ?_
    obtain ⟨item, hmem, rfl⟩ := List.mem_map.mp hitem
    exact ih item hmem
  | obj _ ih =>
    rw [reread_obj]
    refine .obj fun member hmember => ?_
    obtain ⟨member, hmem, rfl⟩ := List.mem_map.mp hmember
    exact ih member hmem

theorem Tidy.reread {levels : Nat} {v : Json} (h : v.Tidy levels) : v.reread.Tidy levels := by
  induction h with
  | null => exact .null
  | bool b => exact .bool b
  | num n => exact .num _
  | str s => exact .str s
  | arr _ ih =>
    rw [reread_arr]
    refine .arr fun item hitem => ?_
    obtain ⟨item, hmem, rfl⟩ := List.mem_map.mp hitem
    exact ih item hmem
  | obj hsorted _ ih =>
    rw [reread_obj]
    refine .obj ?_ fun member hmember => ?_
    · exact List.pairwise_map.mpr hsorted
    · obtain ⟨member, hmem, rfl⟩ := List.mem_map.mp hmember
      exact ih member hmem

theorem Fits.reread {p : Number → Prop} (hp : Number.Kept p) {levels : Nat} {v : Json}
    (h : v.Fits p levels) : v.reread.Fits p levels := ⟨h.numbers.reread hp, h.tidy.reread⟩

/-- The members of what comes back are what the members come back as. -/
theorem field_reread (v : Json) (key : String) : v.reread.field key = (v.field key).reread := by
  cases v with
  | obj members =>
    rw [reread_obj, field, field, Members.lookup_map]
    cases Members.lookup key members <;> rfl
  | arr items => rw [reread_arr]; rfl
  | _ => rfl

theorem text?_reread (v : Json) : v.reread.text? = v.text? := by cases v <;> rfl

theorem bool?_reread (v : Json) : v.reread.bool? = v.bool? := by cases v <;> rfl

theorem items?_reread (v : Json) : v.reread.items? = v.items?.map (·.map reread) := by
  cases v with
  | arr items => rw [reread_arr]; rfl
  | _ => rfl

/-! ### The first character -/

/-- The text of a value starts with neither a blank nor a closing bracket. -/
theorem exists_compactChars_eq (v : Json) :
    ∃ c more, compactChars v = c :: more ∧ Wire.isJsonBlank c = false ∧ c ≠ ']' := by
  cases v with
  | null => exact ⟨_, _, rfl, by decide, by decide⟩
  | bool b => cases b <;> exact ⟨_, _, rfl, by decide, by decide⟩
  | num n =>
    obtain ⟨literal, hscan⟩ := Number.exists_scan?_jsonText n
    obtain ⟨c, more, htext, hc⟩ := Number.Literal.head_of_scan? hscan
    refine ⟨c, more, by rw [compactChars, htext], ?_, Number.ne_of_head hc (by decide)⟩
    have hblank : c ≠ ' ' ∧ c ≠ '\t' ∧ c ≠ '\n' ∧ c ≠ '\r' :=
      ⟨Number.ne_of_head hc (by decide), Number.ne_of_head hc (by decide),
        Number.ne_of_head hc (by decide), Number.ne_of_head hc (by decide)⟩
    simp [Wire.isJsonBlank, hblank]
  | str s => exact ⟨_, _, rfl, by decide, by decide⟩
  | arr items => exact ⟨_, _, rfl, by decide, by decide⟩
  | obj members => exact ⟨_, _, rfl, by decide, by decide⟩

end Json

namespace Wire

open Json

theorem skipBlanks_cons {c : Char} (h : isJsonBlank c = false) (cs : List Char) :
    skipBlanks (c :: cs) = c :: cs := by
  simp [skipBlanks, h]

mutual

/-- The data in the text of a value. A number that is beyond all others when it is read cannot be
kept. -/
def ofReread : Json → Wire
  | .null => .null
  | .bool b => .bool b
  | .num n => (n.reread?.map ofNumber).getD .unkept
  | .str s => .text s
  | .arr items => .list (ofRereadItems items) true
  | .obj members => .map (ofRereadMembers members) true

/-- The data in the texts of items. -/
def ofRereadItems : List Json → List Wire
  | [] => []
  | item :: rest => ofReread item :: ofRereadItems rest

/-- The data in the texts of members. -/
def ofRereadMembers : List (String × Json) → List (Wire × Wire)
  | [] => []
  | (key, value) :: rest => (.text key, ofReread value) :: ofRereadMembers rest

end

theorem ofRereadItems_eq_map (items : List Json) : ofRereadItems items = items.map ofReread := by
  induction items with
  | nil => rfl
  | cons item items ih => rw [ofRereadItems, ih, List.map_cons]

theorem ofRereadMembers_eq_map (members : List (String × Json)) :
    ofRereadMembers members = members.map fun member => (.text member.1, ofReread member.2) := by
  induction members with
  | nil => rfl
  | cons member members ih => rw [ofRereadMembers, ih, List.map_cons]

/-- **The value is read off its text**, with as many steps as the text has characters. -/
def ReadsBack (v : Json) : Prop :=
  ∀ (steps : Nat) (rest : List Char), (compactChars v).length ≤ steps → Closes rest →
    readValue steps (compactChars v ++ rest) = (ofReread v, rest)

/-! ### Items and members -/

theorem compactMoreItems_cons (item : Json) (items : List Json) :
    compactMoreItems (item :: items) = ',' :: compactItems (item :: items) := by
  rw [compactMoreItems, compactItems, List.cons_append]

theorem compactItems_pos (items : List Json) : 0 < (compactItems items).length := by
  rcases items with _ | ⟨item, _ | ⟨second, items⟩⟩
  · simp [compactItems]
  · simp [compactItems, compactMoreItems]
  · simp [compactItems, compactMoreItems]

theorem readItems_compactItems {items : List Json} (h : ∀ item ∈ items, ReadsBack item)
    (hne : items ≠ []) : ∀ (steps : Nat) (rest : List Char),
      (compactItems items).length ≤ steps →
      readItems steps (compactItems items ++ rest) = (ofRereadItems items, true, rest) := by
  induction items with
  | nil => exact absurd rfl hne
  | cons item items ih =>
    intro steps rest hsteps
    have hitem : ReadsBack item := h item (by simp)
    cases items with
    | nil =>
      have htext : compactItems [item] ++ rest = compactChars item ++ ']' :: rest := by
        simp [compactItems, compactMoreItems]
      have hlen : (compactItems [item]).length = (compactChars item).length + 1 := by
        simp [compactItems, compactMoreItems]
      obtain ⟨steps, rfl⟩ : ∃ n, steps = n + 1 := ⟨steps - 1, by omega⟩
      rw [htext, readItems, hitem steps _ (by omega) (closes_cons (by simp))]
      simp only [skipBlanks_cons (by decide : isJsonBlank ']' = false)]
      rfl
    | cons second items =>
      have htext : compactItems (item :: second :: items) ++ rest =
          compactChars item ++ ',' :: (compactItems (second :: items) ++ rest) := by
        rw [compactItems, compactMoreItems_cons, List.append_assoc, List.cons_append]
      have hlen : (compactItems (item :: second :: items)).length =
          (compactChars item).length + (compactItems (second :: items)).length + 1 := by
        rw [compactItems, compactMoreItems_cons, List.length_append, List.length_cons]
        omega
      have hpos := compactItems_pos (second :: items)
      -- a step reads an item and its comma, so the steps left still bound the text left
      obtain ⟨steps, rfl⟩ : ∃ n, steps = n + 1 := ⟨steps - 1, by omega⟩
      have hrest := ih (fun i hi => h i (List.mem_cons_of_mem _ hi)) (by simp) steps rest (by omega)
      rw [htext, readItems, hitem steps _ (by omega) (closes_cons (by simp))]
      simp only [skipBlanks_cons (by decide : isJsonBlank ',' = false), hrest]
      rfl

theorem compactMoreMembers_cons (member : String × Json) (members : List (String × Json)) :
    compactMoreMembers (member :: members) = ',' :: compactMembers (member :: members) := by
  rw [compactMoreMembers, compactMembers, List.cons_append, List.cons_append]

theorem compactMembers_pos (members : List (String × Json)) :
    0 < (compactMembers members).length := by
  rcases members with _ | ⟨⟨key, value⟩, members⟩
  · simp [compactMembers]
  · simp [compactMembers, quoted]

/-- A key is read off its text, up to the colon. -/
theorem readEntries_key (steps : Nat) (key : String) (cs : List Char) :
    readEntries (steps + 1) (quoted key ++ ':' :: cs) =
      let (value, rest) := readValue steps cs
      match skipBlanks rest with
      | ',' :: rest =>
        let (entries, closed, rest) := readEntries steps rest
        ((.text key, value) :: entries, closed, rest)
      | '}' :: rest => ([(.text key, value)], true, rest)
      | _ => ([(.text key, value)], false, []) := by
  have htext : quoted key ++ ':' :: cs = '"' :: (escape key.toList ++ '"' :: ':' :: cs) := by
    simp [quoted]
  have hstring := readString_escape key (':' :: cs)
  rw [htext, readEntries, skipBlanks_cons (by decide)]
  simp only [hstring]
  rw [skipBlanks_cons (by decide)]
  rfl

theorem readEntries_compactMembers {members : List (String × Json)}
    (h : ∀ member ∈ members, ReadsBack member.2) (hne : members ≠ []) :
    ∀ (steps : Nat) (rest : List Char), (compactMembers members).length ≤ steps →
      readEntries steps (compactMembers members ++ rest) =
        (ofRereadMembers members, true, rest) := by
  induction members with
  | nil => exact absurd rfl hne
  | cons member members ih =>
    obtain ⟨key, value⟩ := member
    intro steps rest hsteps
    have hvalue : ReadsBack value := h (key, value) (by simp)
    cases members with
    | nil =>
      have htext : compactMembers [(key, value)] ++ rest =
          quoted key ++ ':' :: (compactChars value ++ '}' :: rest) := by
        simp [compactMembers, compactMoreMembers]
      have hlen : (compactMembers [(key, value)]).length =
          (quoted key).length + (compactChars value).length + 2 := by
        simp [compactMembers, compactMoreMembers]
        omega
      obtain ⟨steps, rfl⟩ : ∃ n, steps = n + 1 := ⟨steps - 1, by omega⟩
      rw [htext, readEntries_key, hvalue steps _ (by omega) (closes_cons (by simp))]
      simp only [skipBlanks_cons (by decide : isJsonBlank '}' = false)]
      rfl
    | cons second members =>
      have htext : compactMembers ((key, value) :: second :: members) ++ rest =
          quoted key ++ ':' :: (compactChars value ++
            ',' :: (compactMembers (second :: members) ++ rest)) := by
        rw [compactMembers, compactMoreMembers_cons]
        simp
      have hlen : (compactMembers ((key, value) :: second :: members)).length =
          (quoted key).length + (compactChars value).length +
            (compactMembers (second :: members)).length + 2 := by
        rw [compactMembers, compactMoreMembers_cons]
        simp
        omega
      have hpos := compactMembers_pos (second :: members)
      obtain ⟨steps, rfl⟩ : ∃ n, steps = n + 1 := ⟨steps - 1, by omega⟩
      have hrest := ih (fun m hm => h m (List.mem_cons_of_mem _ hm)) (by simp) steps rest (by omega)
      rw [htext, readEntries_key, hvalue steps _ (by omega) (closes_cons (by simp))]
      simp only [skipBlanks_cons (by decide : isJsonBlank ',' = false), hrest]
      rfl

/-! ### Values -/

/-- A number is read off its text. -/
theorem readValue_num (n : Number) (steps : Nat) {rest : List Char} (hrest : Closes rest) :
    readValue (steps + 1) (n.jsonText.toList ++ rest) =
      ((n.reread?.map ofNumber).getD .unkept, rest) := by
  obtain ⟨literal, hscan, hvalue⟩ := Number.scan?_jsonText_append n hrest
  obtain ⟨c, more, htext, hc⟩ := Number.Literal.head_of_scan? hscan
  have hblank : isJsonBlank c = false := by
    have hne : c ≠ ' ' ∧ c ≠ '\t' ∧ c ≠ '\n' ∧ c ≠ '\r' :=
      ⟨Number.ne_of_head hc (by decide), Number.ne_of_head hc (by decide),
        Number.ne_of_head hc (by decide), Number.ne_of_head hc (by decide)⟩
    simp [isJsonBlank, hne]
  rw [htext] at hscan ⊢
  rw [readValue, skipBlanks_cons hblank]
  simp only []
  rw [if_neg (Number.ne_of_head hc (by decide)), if_neg (Number.ne_of_head hc (by decide)),
    if_neg (Number.ne_of_head hc (by decide)), if_neg (Number.ne_of_head hc (by decide)),
    if_neg (Number.ne_of_head hc (by decide)), if_neg (Number.ne_of_head hc (by decide)),
    readNumber, hscan]
  simp only [hvalue]

theorem readValue_str (s : String) (steps : Nat) (rest : List Char) :
    readValue (steps + 1) (quoted s ++ rest) = (.text s, rest) := by
  have htext : quoted s ++ rest = '"' :: (escape s.toList ++ '"' :: rest) := by simp [quoted]
  rw [htext, readValue, skipBlanks_cons (by decide)]
  exact readString_escape s rest

theorem readValue_arr {items : List Json} (h : ∀ item ∈ items, ReadsBack item) :
    ReadsBack (.arr items) := by
  intro steps rest hsteps _
  have hlen : (compactChars (.arr items)).length = (compactItems items).length + 1 := by
    rw [compactChars, List.length_cons]
  obtain ⟨steps, rfl⟩ : ∃ n, steps = n + 1 := ⟨steps - 1, by omega⟩
  rw [compactChars, List.cons_append, readValue, skipBlanks_cons (by decide), ofReread]
  cases items with
  | nil => rfl
  | cons item items =>
    obtain ⟨c, more, htext, hblank, hbracket⟩ := exists_compactChars_eq item
    have hstart : compactItems (item :: items) ++ rest =
        c :: (more ++ compactMoreItems items ++ rest) := by
      rw [compactItems, htext]; simp
    have hread := readItems_compactItems h (by simp) steps rest (by omega)
    rw [hstart] at hread ⊢
    simp only []
    rw [if_neg (by decide), if_pos trivial, skipBlanks_cons hblank]
    split
    · next heq => exact absurd (List.cons.inj heq).1 hbracket
    · rw [hread]

theorem readValue_obj {members : List (String × Json)}
    (h : ∀ member ∈ members, ReadsBack member.2) : ReadsBack (.obj members) := by
  intro steps rest hsteps _
  have hlen : (compactChars (.obj members)).length = (compactMembers members).length + 1 := by
    rw [compactChars, List.length_cons]
  obtain ⟨steps, rfl⟩ : ∃ n, steps = n + 1 := ⟨steps - 1, by omega⟩
  rw [compactChars, List.cons_append, readValue, skipBlanks_cons (by decide), ofReread]
  cases members with
  | nil => rfl
  | cons member members =>
    have hread := readEntries_compactMembers h (by simp) steps rest (by omega)
    have hstart : compactMembers (member :: members) ++ rest =
        '"' :: (compactMembers (member :: members) ++ rest).tail := by
      simp [compactMembers, quoted]
    rw [hstart] at hread ⊢
    simp only []
    rw [if_neg (by decide), if_neg (by decide), if_pos trivial, skipBlanks_cons (by decide)]
    split
    · next heq => cases heq
    · rw [hread]

/-- **Every value is read off its text**, which may stand in a longer one. -/
theorem readsBack (v : Json) : ReadsBack v := by
  have hsucc : ∀ {c : Char} {cs : List Char} {steps : Nat}, (c :: cs).length ≤ steps →
      ∃ n, steps = n + 1 := by
    intro c cs steps hsteps
    rw [List.length_cons] at hsteps
    exact ⟨steps - 1, by omega⟩
  induction v using Json.induction with
  | null =>
    intro steps rest hsteps _
    obtain ⟨steps, rfl⟩ := hsucc hsteps
    rfl
  | bool b =>
    intro steps rest hsteps _
    cases b
    · obtain ⟨steps, rfl⟩ := hsucc hsteps
      rfl
    · obtain ⟨steps, rfl⟩ := hsucc hsteps
      rfl
  | num n =>
    intro steps rest hsteps hrest
    obtain ⟨c, more, htext, -⟩ := exists_compactChars_eq (.num n)
    rw [htext] at hsteps
    obtain ⟨steps, rfl⟩ := hsucc hsteps
    rw [compactChars, ofReread]
    exact readValue_num n steps hrest
  | str s =>
    intro steps rest hsteps _
    obtain ⟨steps, rfl⟩ := hsucc hsteps
    exact readValue_str s steps rest
  | arr items ih => exact readValue_arr ih
  | obj members ih => exact readValue_obj ih

/-- **The whole text of a value is read.** -/
theorem ofJsonText_compact (v : Json) : ofJsonText v.compact = (ofReread v, true) := by
  unfold ofJsonText Json.compact
  rw [String.toList_ofList]
  have hread := readsBack v (2 * (compactChars v).length + 2) [] (by omega) closes_nil
  rw [List.append_nil] at hread
  simp only [hread]
  rfl

theorem ofItems_eq_map (items : List Json) : ofItems items = items.map ofJson := by
  induction items with
  | nil => rfl
  | cons item items ih => rw [ofItems, ih, List.map_cons]

theorem ofMembers_eq_map (members : List (String × Json)) :
    ofMembers members = members.map fun member => (.text member.1, ofJson member.2) := by
  induction members with
  | nil => rfl
  | cons member members ih => rw [ofMembers, ih, List.map_cons]

/-- A legible value is read as the value that comes back. -/
theorem ofReread_eq {v : Json} (h : v.Legible) : ofReread v = ofJson v.reread := by
  induction h with
  | null => rfl
  | bool b => rfl
  | @num n hn =>
    obtain ⟨m, hm⟩ := Option.isSome_iff_exists.mp hn
    rw [ofReread, Json.reread, hm]
    rfl
  | str s => rfl
  | arr _ ih =>
    rw [ofReread, reread_arr, ofJson, ofRereadItems_eq_map, ofItems_eq_map, List.map_map,
      List.map_congr_left ih]
    rfl
  | obj _ ih =>
    rw [ofReread, reread_obj, ofJson, ofRereadMembers_eq_map, ofMembers_eq_map, List.map_map]
    refine congrArg (Wire.map · true) (List.map_congr_left fun member hmember => ?_)
    exact congrArg (Prod.mk _) (ih member hmember)

/-- A value whose numbers survive is read as it was written. -/
theorem ofJsonText_of_survives {v : Json} (h : v.Survives) :
    ofJsonText v.compact = (ofJson v, true) := by
  rw [ofJsonText_compact, ofReread_eq h.legible, Json.Survives.reread_eq h]

end Wire

namespace Decode

open Json

theorem jsonItems_ofItems {source : Source} {items : List Json}
    (h : ∀ item ∈ items, json source (.ofJson item) = .ok item) :
    jsonItems source true (Wire.ofItems items) = .ok items := by
  induction items with
  | nil => rfl
  | cons item items ih =>
    rw [Wire.ofItems, jsonItems, h item (by simp), ih fun i hi => h i (List.mem_cons_of_mem _ hi)]
    rfl

/-- Members in order are put one behind the other. -/
theorem jsonMembers_ofMembers {source : Source} {members before : List (String × Json)}
    (hsorted : Members.Sorted (before ++ members))
    (h : ∀ member ∈ members, json source (.ofJson member.2) = .ok member.2) :
    jsonMembers source true before (Wire.ofMembers members) = .ok (before ++ members) := by
  induction members generalizing before with
  | nil => rw [List.append_nil]; rfl
  | cons member members ih =>
    obtain ⟨key, value⟩ := member
    have hinsert : Members.insert key value before = before ++ [(key, value)] :=
      Members.insert_eq_append (fun member hmem =>
        (List.pairwise_append.mp hsorted).2.2 member hmem (key, value) (by simp)) value
    have hstep : jsonMembers source true before (Wire.ofMembers ((key, value) :: members)) =
        jsonMembers source true (Members.insert key value before) (Wire.ofMembers members) := by
      rw [Wire.ofMembers, jsonMembers, h (key, value) (by simp)]
      rfl
    rw [hstep, hinsert, ih (by simpa using hsorted) fun m hm => h m (List.mem_cons_of_mem _ hm)]
    simp

/-- **A tidy value is taken over as it is** by whoever takes any value as deep. -/
theorem json_ofJson {levels : Nat} {v : Json} (h : v.Tidy levels) :
    ∀ (encoding : Encoding) (n : Nat), levels ≤ n →
      json ⟨encoding, some n⟩ (.ofJson v) = .ok v := by
  induction h with
  | null => intro encoding n _; rfl
  | bool b => intro encoding n _; rfl
  | num number =>
    intro encoding n _
    cases number with
    | integer value range =>
      rw [Wire.ofJson, Wire.ofNumber, json, Number.ofInt?_of_range range]
    | double x => rfl
  | str s => intro encoding n _; rfl
  | @arr levels items _ ih =>
    intro encoding n hn
    obtain ⟨n, rfl⟩ : ∃ m, n = m + 1 := ⟨n - 1, by omega⟩
    have hitems := jsonItems_ofItems fun item hitem => ih item hitem encoding n (by omega)
    rw [Wire.ofJson, json]
    simp only [Source.enter]
    exact congrArg (fun read => Json.arr <$> read) hitems
  | @obj levels members hsorted _ ih =>
    intro encoding n hn
    obtain ⟨n, rfl⟩ : ∃ m, n = m + 1 := ⟨n - 1, by omega⟩
    have hmembers := jsonMembers_ofMembers (List.nil_append members ▸ hsorted)
      fun member hmem => ih member hmem encoding n (by omega)
    rw [Wire.ofJson, json]
    simp only [Source.enter]
    exact congrArg (fun read => Json.obj <$> read) hmembers

/-! ### What is refused -/

theorem exists_of_jsonItems {source : Source} {closed : Bool} {ws : List Wire} {items : List Json}
    (h : jsonItems source closed ws = .ok items) : ∀ w ∈ ws, ∃ item, json source w = .ok item := by
  induction ws generalizing items with
  | nil => intro w hw; cases hw
  | cons w ws ih =>
    rw [jsonItems] at h
    obtain ⟨item, hitem, h⟩ := exists_of_bind_eq_ok h
    obtain ⟨rest, hrest, -⟩ := exists_of_bind_eq_ok h
    intro w' hw'
    rcases List.mem_cons.mp hw' with rfl | hw'
    · exact ⟨item, hitem⟩
    · exact ih hrest w' hw'

theorem exists_of_jsonMembers {source : Source} {closed : Bool} {entries : List (Wire × Wire)}
    {before members : List (String × Json)}
    (h : jsonMembers source closed before entries = .ok members) :
    ∀ entry ∈ entries, ∃ value, json source entry.2 = .ok value := by
  induction entries generalizing before with
  | nil => intro entry hentry; cases hentry
  | cons entry entries ih =>
    obtain ⟨key, w⟩ := entry
    rw [jsonMembers] at h
    obtain ⟨name, -, h⟩ := exists_of_bind_eq_ok h
    obtain ⟨value, hvalue, h⟩ := exists_of_bind_eq_ok h
    intro entry' hentry'
    rcases List.mem_cons.mp hentry' with rfl | hentry'
    · exact ⟨value, hvalue⟩
    · exact ih h entry' hentry'

/-- What is taken of an array is taken of its items, a level deeper. -/
theorem exists_of_json_arr {source : Source} {items : List Json} {w : Json}
    (h : json source (Wire.ofReread (.arr items)) = .ok w) :
    ∃ inner, source.enter = .ok inner ∧
      ∀ item ∈ items, ∃ value, json inner (Wire.ofReread item) = .ok value := by
  rw [Wire.ofReread, json] at h
  obtain ⟨inner, henter, h⟩ := exists_of_bind_eq_ok h
  obtain ⟨values, hread, -⟩ := exists_of_bind_eq_ok h
  refine ⟨inner, henter, fun item hitem => exists_of_jsonItems hread _ ?_⟩
  rw [Wire.ofRereadItems_eq_map]
  exact List.mem_map_of_mem hitem

/-- What is taken of an object is taken of its members, a level deeper. -/
theorem exists_of_json_obj {source : Source} {members : List (String × Json)} {w : Json}
    (h : json source (Wire.ofReread (.obj members)) = .ok w) :
    ∃ inner, source.enter = .ok inner ∧
      ∀ member ∈ members, ∃ value, json inner (Wire.ofReread member.2) = .ok value := by
  rw [Wire.ofReread, json] at h
  obtain ⟨inner, henter, h⟩ := exists_of_bind_eq_ok h
  obtain ⟨values, hread, -⟩ := exists_of_bind_eq_ok h
  refine ⟨inner, henter, fun member hmember => ?_⟩
  have hmem : (.text member.1, Wire.ofReread member.2) ∈ Wire.ofRereadMembers members := by
    rw [Wire.ofRereadMembers_eq_map]
    exact List.mem_map_of_mem hmember
  exact exists_of_jsonMembers hread _ hmem

/-- **Only legible values are taken** from their texts. -/
theorem legible_of_json {v : Json} : ∀ {source : Source} {w : Json},
    json source (Wire.ofReread v) = .ok w → v.Legible := by
  induction v using Json.induction with
  | null => intro source w _; exact .null
  | bool b => intro source w _; exact .bool b
  | num n =>
    intro source w h
    refine .num ?_
    cases hn : n.reread? with
    | some m =>
      rw [Number.Legible, hn]
      rfl
    | none =>
      rw [Wire.ofReread, hn] at h
      cases h
  | str s => intro source w _; exact .str s
  | arr items ih =>
    intro source w h
    obtain ⟨inner, -, hitems⟩ := exists_of_json_arr h
    refine .arr fun item hitem => ?_
    obtain ⟨value, hvalue⟩ := hitems item hitem
    exact ih item hitem hvalue
  | obj members ih =>
    intro source w h
    obtain ⟨inner, -, hmembers⟩ := exists_of_json_obj h
    refine .obj fun member hmember => ?_
    obtain ⟨value, hvalue⟩ := hmembers member hmember
    exact ih member hmember hvalue

end Decode

namespace Json

/-- **What a text is read as.** A legible value that is tidy and not too deep for the reader comes
back from its compact text as `reread` says. -/
theorem ofText_compact {v : Json} (hlegible : v.Legible) (htidy : v.Tidy Decode.Source.textLevels) :
    ofText v.compact = .ok v.reread := by
  unfold ofText Decode.ofText
  rw [Wire.ofJsonText_compact, Wire.ofReread_eq hlegible]
  simp only [Decode.Source.jsonText, Decode.json_ofJson htidy.reread .jsonText _ (Nat.le_refl _)]
  rfl

/-- A value whose numbers survive is read as it was written. -/
theorem ofText_compact_of_survives {v : Json} (h : v.Survives)
    (htidy : v.Tidy Decode.Source.textLevels) : ofText v.compact = .ok v := by
  rw [ofText_compact h.legible htidy, Survives.reread_eq h]

/-- **What cannot be read is refused.** Whatever comes back from the text of a value is what `reread`
says, and the value is legible. -/
theorem eq_of_ofText_compact {v w : Json} (htidy : v.Tidy Decode.Source.textLevels)
    (h : ofText v.compact = .ok w) : v.Legible ∧ w = v.reread := by
  have hlegible : v.Legible := by
    unfold ofText Decode.ofText at h
    rw [Wire.ofJsonText_compact] at h
    cases hjson : Decode.json .jsonText (Wire.ofReread v) with
    | error e => simp only [hjson] at h; cases h
    | ok value => exact Decode.legible_of_json hjson
  rw [ofText_compact hlegible htidy] at h
  exact ⟨hlegible, (Except.ok.inj h).symm⟩

end Json

end Questionnaire
