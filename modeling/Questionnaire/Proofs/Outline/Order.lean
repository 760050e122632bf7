import Questionnaire.Proofs.Outline.Reordering

/-! # The order of the walk

The outline sorts every level by itself, and the walk puts whole subtrees one behind the other.
`Path` says for a single question where that puts it: the path to a question lists, from the top
level down to the question itself, the order index and the position of each. The walk comes to the
questions in the lexicographic order of their paths, a question before all below it, and the depth
of each is the number of questions above it (`walk_follows_paths`).

Beside the agenda of the walk stand the paths to its entries (`Trail`). Each two of them part
(`Parts`): neither leads through the other, and the earlier one turns off first. So all that is
visited below the one comes before all that is visited below the other. -/

namespace Questionnaire.Outline

variable {questions : List Question}

/-! ### Places and paths -/

/-- Where a question stands among others: its order index and its position in the form. -/
structure Place where
  orderIndex : Int64
  position : Nat

/-- Places are compared by order index, and by position where that is the same. -/
instance : LT Place where
  lt a b := a.orderIndex < b.orderIndex ∨ a.orderIndex = b.orderIndex ∧ a.position < b.position

theorem Place.lt_iff {a b : Place} : a < b ↔
    a.orderIndex < b.orderIndex ∨ a.orderIndex = b.orderIndex ∧ a.position < b.position :=
  Iff.rfl

instance : Std.Asymm fun a b : Place => a < b where
  asymm a b hab hba := by
    rw [Place.lt_iff] at hab hba
    rcases hab with hab | ⟨heq, hab⟩
    · rcases hba with hba | ⟨heq, -⟩
      · exact Int64.lt_asymm hab hba
      · rw [heq] at hab
        exact Int64.lt_irrefl hab
    · rcases hba with hba | ⟨-, hba⟩
      · rw [heq] at hba
        exact Int64.lt_irrefl hba
      · exact Nat.lt_asymm hab hba

instance : Std.Irrefl fun a b : Place => a < b where
  irrefl a h := Std.Asymm.asymm a a h h

/-- The place of an entry. -/
def placeOf (e : Entry) : Place := ⟨e.question.orderIndex, e.position⟩

/-- **The path to a question**: the places of the questions above it, from the top level down, and
its own. -/
inductive Path (questions : List Question) : Question → List Place → Prop
  | top {q : Question} {position : Nat} (stands : questions[position]? = some q)
      (noParent : q.parentId = none) : Path questions q [⟨q.orderIndex, position⟩]
  | under {q parent : Question} {position : Nat} {path : List Place}
      (above : Path questions parent path) (stands : questions[position]? = some q)
      (names : q.parentId = some parent.id) :
      Path questions q (path ++ [⟨q.orderIndex, position⟩])

theorem Path.exists_entry {q : Question} {path : List Place} (h : Path questions q path) :
    ∃ e, IsEntry questions e ∧ e.question = q := by
  cases h with
  | top stands _ => exact ⟨⟨_, q⟩, stands, rfl⟩
  | under _ stands _ => exact ⟨⟨_, q⟩, stands, rfl⟩

/-- Where no id is repeated, a question stands at one position. -/
theorem position_eq (hids : (questions.map (·.id)).Nodup) {q : Question} {i j : Nat}
    (hi : questions[i]? = some q) (hj : questions[j]? = some q) : i = j := by
  have hentry : IsEntry questions ⟨i, q⟩ := hi
  have hentry' : IsEntry questions ⟨j, q⟩ := hj
  exact congrArg Entry.position (hentry.eq_of_id hids hentry' rfl)

/-- Where no id is repeated, one path leads to a question. -/
theorem Path.eq (hids : (questions.map (·.id)).Nodup) {q : Question} {path path' : List Place}
    (h : Path questions q path) (h' : Path questions q path') : path = path' := by
  induction h generalizing path' with
  | top stands noParent =>
    cases h' with
    | top stands' _ => rw [position_eq hids stands stands']
    | under _ _ names => rw [noParent] at names; cases names
  | @under q parent position path above stands names ih =>
    cases h' with
    | top _ noParent => rw [noParent] at names; cases names
    | @under _ parent' _ _ above' stands' names' =>
      obtain ⟨e, he, rfl⟩ := above.exists_entry
      obtain ⟨e', he', rfl⟩ := above'.exists_entry
      have hid : e.question.id = e'.question.id := Option.some.inj (names.symm.trans names')
      rw [← he.eq_of_id hids he' hid] at above'
      rw [position_eq hids stands stands', ih above']

/-! ### Paths that part -/

/-- **The paths part**: they have a beginning in common, and after it the first one goes on at an
earlier place. -/
def Parts (path path' : List Place) : Prop :=
  ∃ common earlier later, earlier < later ∧ common ++ [earlier] <+: path ∧
    common ++ [later] <+: path'

namespace Parts

variable {path path' : List Place}

theorem mono {longer longer' : List Place} (h : Parts path path') (hpath : path <+: longer)
    (hpath' : path' <+: longer') : Parts longer longer' := by
  obtain ⟨common, earlier, later, hlt, hprefix, hprefix'⟩ := h
  exact ⟨common, earlier, later, hlt, hprefix.trans hpath, hprefix'.trans hpath'⟩

protected theorem lt (h : Parts path path') : path < path' := by
  obtain ⟨common, earlier, later, hlt, ⟨rest, rfl⟩, ⟨rest', rfl⟩⟩ := h
  rw [List.append_assoc, List.append_assoc]
  exact List.append_left_lt (List.cons_lt_cons_iff.mpr (.inl hlt))

theorem of_lt {earlier later : Place} (common : List Place) (h : earlier < later) :
    Parts (common ++ [earlier]) (common ++ [later]) :=
  ⟨common, earlier, later, h, List.prefix_rfl, List.prefix_rfl⟩

end Parts

/-- A path comes before those that lead on from it. -/
theorem lt_of_append_prefix {path longer : List Place} {place : Place}
    (h : path ++ [place] <+: longer) : path < longer := by
  obtain ⟨rest, rfl⟩ := h
  rw [List.append_assoc]
  have hstep : path ++ [] < path ++ ([place] ++ rest) := List.append_left_lt List.Lex.nil
  rwa [List.append_nil] at hstep

/-! ### Levels -/

/-- Entries of one order index stay in the order of the form. -/
theorem filter_sortedEntries (questions : List Question) (orderIndex : Int64) :
    (sortedEntries questions).filter (fun e => decide (e.question.orderIndex = orderIndex)) =
      (questions.zipIdx.map fun item => Entry.mk item.2 item.1).filter
        fun e => decide (e.question.orderIndex = orderIndex) := by
  have hperm : (sortedEntries questions).Perm
      (questions.zipIdx.map fun item => Entry.mk item.2 item.1) := List.mergeSort_perm _ _
  -- they are sorted as they stand, so that the sort does not take them out of their order
  have hsorted : ((questions.zipIdx.map fun item => Entry.mk item.2 item.1).filter
      fun e => decide (e.question.orderIndex = orderIndex)).Pairwise
        fun a b => decide (a.question.orderIndex ≤ b.question.orderIndex) = true := by
    refine List.pairwise_of_forall_mem_list fun a ha b hb => ?_
    have ha := of_decide_eq_true (List.mem_filter.mp ha).2
    have hb := of_decide_eq_true (List.mem_filter.mp hb).2
    rw [ha, hb]
    exact decide_eq_true Int64.le_rfl
  have hsublist := (List.sublist_mergeSort sortedEntries_order.1 sortedEntries_order.2 hsorted
    List.filter_sublist).filter fun e => decide (e.question.orderIndex = orderIndex)
  rw [List.filter_filter] at hsublist
  simp only [Bool.and_self] at hsublist
  exact (hsublist.eq_of_length (hperm.filter _).length_eq.symm).symm

/-- **The sorted entries stand in the order of their places.** -/
theorem pairwise_placeOf_sortedEntries (questions : List Question) :
    (sortedEntries questions).Pairwise fun a b => placeOf a < placeOf b := by
  have hpositions : (questions.zipIdx.map fun item => Entry.mk item.2 item.1).Pairwise
      fun a b => a.position < b.position := by
    have hrange : (questions.zipIdx.map Prod.snd).Pairwise (· < ·) := by
      rw [List.zipIdx_map_snd]
      exact List.pairwise_lt_range'
    rw [List.pairwise_map] at hrange ⊢
    exact hrange
  rw [List.pairwise_iff_forall_sublist]
  intro a b hab
  have hle : a.question.orderIndex ≤ b.question.orderIndex :=
    List.pairwise_iff_forall_sublist.mp (pairwise_sortedEntries questions) hab
  by_cases heq : a.question.orderIndex = b.question.orderIndex
  · have hboth := hab.filter fun e => decide (e.question.orderIndex = b.question.orderIndex)
    rw [filter_sortedEntries] at hboth
    simp only [heq, decide_true, List.filter_cons_of_pos, List.filter_nil] at hboth
    have hentries := hboth.trans List.filter_sublist
    exact .inr ⟨heq, List.pairwise_iff_forall_sublist.mp hpositions hentries⟩
  · exact .inl (Int64.lt_of_le_of_ne hle heq)

theorem pairwise_placeOf_roots :
    (ofQuestions questions).roots.Pairwise fun a b => placeOf a < placeOf b := by
  rw [roots_eq]
  exact (pairwise_placeOf_sortedEntries questions).filter _

theorem pairwise_placeOf_entriesUnder (parent : ItemId) :
    ((ofQuestions questions).entriesUnder parent).Pairwise fun a b => placeOf a < placeOf b := by
  rw [entriesUnder_eq]
  exact (pairwise_placeOf_sortedEntries questions).filter _

/-! ### Paths beside the agenda -/

/-- An entry of the agenda, its depth and a path. -/
abbrev Step := (Entry × Nat) × List Place

/-- **The paths lead to the entries of an agenda**, and each two of them part. -/
structure Trail (questions : List Question) (trail : List Step) : Prop where
  path : ∀ step ∈ trail, Path questions step.1.1.question step.2
  depth : ∀ step ∈ trail, step.1.2 + 1 = step.2.length
  parts : trail.Pairwise fun step step' => Parts step.2 step'.2

/-- What follows a visited entry on the agenda, with the paths that lead on to it. -/
def stepsBelow (questions : List Question) (e : Entry) (depth : Nat) (kept : Bool)
    (path : List Place) : List Step :=
  ((ofQuestions questions).below e depth kept).map fun item => (item, path ++ [placeOf item.1])

theorem map_stepsBelow (e : Entry) (depth : Nat) (kept : Bool) (path : List Place) :
    (stepsBelow questions e depth kept path).map Prod.fst =
      (ofQuestions questions).below e depth kept := by
  unfold stepsBelow
  rw [List.map_map]
  exact List.map_id _

theorem trail_stepsBelow {e : Entry} {depth : Nat} {path : List Place}
    (hpath : Path questions e.question path) (hdepth : depth + 1 = path.length) (kept : Bool) :
    Trail questions (stepsBelow questions e depth kept path) where
  path := by
    intro step hstep
    obtain ⟨⟨child, level⟩, hitem, rfl⟩ := List.mem_map.mp hstep
    obtain ⟨-, -, hchild, hnames⟩ := mem_below.mp hitem
    exact hpath.under hchild hnames
  depth := by
    intro step hstep
    obtain ⟨⟨child, level⟩, hitem, rfl⟩ := List.mem_map.mp hstep
    obtain ⟨-, rfl, -⟩ := mem_below.mp hitem
    simp only [List.length_append, List.length_singleton, hdepth]
  parts := by
    unfold stepsBelow below
    split
    · rw [List.map_map, List.pairwise_map]
      exact (pairwise_placeOf_entriesUnder _).imp fun hlt => Parts.of_lt path hlt
    · exact .nil

namespace Trail

variable {e : Entry} {depth : Nat} {path : List Place} {trail : List Step}

theorem tail (h : Trail questions (((e, depth), path) :: trail)) : Trail questions trail where
  path := fun step hstep => h.path step (List.mem_cons_of_mem _ hstep)
  depth := fun step hstep => h.depth step (List.mem_cons_of_mem _ hstep)
  parts := h.parts.of_cons

/-- **A visit leaves paths that part**: those that lead on from the visited entry turn off from all
others where its own path does. -/
theorem visit (h : Trail questions (((e, depth), path) :: trail)) (kept : Bool) :
    Trail questions (stepsBelow questions e depth kept path ++ trail) := by
  have hhead : ((e, depth), path) ∈ ((e, depth), path) :: trail := List.mem_cons_self
  have hbelow := trail_stepsBelow (h.path _ hhead) (h.depth _ hhead) kept
  refine ⟨?_, ?_, List.pairwise_append.mpr ⟨hbelow.parts, h.tail.parts, ?_⟩⟩
  · intro step hstep
    rcases List.mem_append.mp hstep with hstep | hstep
    · exact hbelow.path step hstep
    · exact h.tail.path step hstep
  · intro step hstep
    rcases List.mem_append.mp hstep with hstep | hstep
    · exact hbelow.depth step hstep
    · exact h.tail.depth step hstep
  · intro step hstep step' hstep'
    obtain ⟨item, -, rfl⟩ := List.mem_map.mp hstep
    exact ((List.pairwise_cons.mp h.parts).1 step' hstep').mono (List.prefix_append _ _)
      List.prefix_rfl

end Trail

theorem trail_roots : Trail questions
    ((ofQuestions questions).roots.map fun root => ((root, 0), [placeOf root])) where
  path := by
    intro step hstep
    obtain ⟨root, hroot, rfl⟩ := List.mem_map.mp hstep
    obtain ⟨hentry, hparent⟩ := mem_roots.mp hroot
    exact .top hentry hparent
  depth := by
    intro step hstep
    obtain ⟨root, -, rfl⟩ := List.mem_map.mp hstep
    rfl
  parts := by
    rw [List.pairwise_map]
    exact pairwise_placeOf_roots.imp fun hlt => Parts.of_lt [] hlt

/-! ### The order of the visits -/

/-- **The paths lead to what was visited**, in their order, and on from the paths beside the
agenda. -/
structure Found (questions : List Question) (trail : List Step)
    (found : List (Visit × List Place)) : Prop where
  path : ∀ item ∈ found, Path questions item.1.entry.question item.2
  depth : ∀ item ∈ found, item.1.depth + 1 = item.2.length
  ordered : found.Pairwise fun item item' => item.2 < item'.2
  leadOn : ∀ item ∈ found, ∃ step ∈ trail, step.2 <+: item.2

theorem Found.cons {e : Entry} {depth : Nat} {path : List Place} {trail : List Step} {kept : Bool}
    {found : List (Visit × List Place)} (htrail : Trail questions (((e, depth), path) :: trail))
    (h : Found questions (stepsBelow questions e depth kept path ++ trail) found) :
    Found questions (((e, depth), path) :: trail) ((⟨e, depth, kept⟩, path) :: found) := by
  have hhead : ((e, depth), path) ∈ ((e, depth), path) :: trail := List.mem_cons_self
  refine ⟨List.forall_mem_cons.mpr ⟨htrail.path _ hhead, h.path⟩,
    List.forall_mem_cons.mpr ⟨htrail.depth _ hhead, h.depth⟩,
    List.pairwise_cons.mpr ⟨fun item hitem => ?_, h.ordered⟩,
    List.forall_mem_cons.mpr ⟨⟨_, hhead, List.prefix_rfl⟩, fun item hitem => ?_⟩⟩
  · obtain ⟨step, hstep, hprefix⟩ := h.leadOn item hitem
    rcases List.mem_append.mp hstep with hstep | hstep
    · obtain ⟨child, -, rfl⟩ := List.mem_map.mp hstep
      exact lt_of_append_prefix hprefix
    · exact (((List.pairwise_cons.mp htrail.parts).1 step hstep).mono List.prefix_rfl hprefix).lt
  · obtain ⟨step, hstep, hprefix⟩ := h.leadOn item hitem
    rcases List.mem_append.mp hstep with hstep | hstep
    · obtain ⟨child, -, rfl⟩ := List.mem_map.mp hstep
      exact ⟨_, hhead, (List.prefix_append _ _).trans hprefix⟩
    · exact ⟨step, List.mem_cons_of_mem _ hstep, hprefix⟩

/-- **The visits follow the order of their paths**, from any agenda whose paths part. -/
theorem exists_found (keep : Question → Bool) (pending : List Nat) (agenda : List (Entry × Nat)) :
    ∀ trail : List Step, Trail questions trail → trail.map Prod.fst = agenda →
      ∃ found : List (Visit × List Place),
        found.map Prod.fst = (ofQuestions questions).visitsFrom keep pending agenda ∧
          Found questions trail found := by
  induction pending, agenda using visitsFrom.induct (ofQuestions questions) keep with
  | case1 =>
    intro trail _ _
    exact ⟨[], by simp, by simp, by simp, .nil, by simp⟩
  | case2 pending e depth agenda h kept ih =>
    intro trail htrail hagenda
    obtain ⟨⟨item, path⟩, trail, rfl, rfl, rfl⟩ := List.map_eq_cons_iff.mp hagenda
    obtain ⟨found, hfound, hpaths⟩ := ih _ (htrail.visit kept) (by
      rw [List.map_append, map_stepsBelow])
    refine ⟨(⟨e, depth, kept⟩, path) :: found, ?_, hpaths.cons htrail⟩
    rw [visitsFrom_cons_of_mem h, List.map_cons, hfound]
  | case3 pending e depth agenda h ih =>
    intro trail htrail hagenda
    obtain ⟨⟨item, path⟩, trail, rfl, rfl, rfl⟩ := List.map_eq_cons_iff.mp hagenda
    obtain ⟨found, hfound, hpaths⟩ := ih _ htrail.tail rfl
    refine ⟨found, by rw [visitsFrom_cons_of_not_mem h, hfound], hpaths.path, hpaths.depth,
      hpaths.ordered, fun item hitem => ?_⟩
    obtain ⟨step, hstep, hprefix⟩ := hpaths.leadOn item hitem
    exact ⟨step, List.mem_cons_of_mem _ hstep, hprefix⟩

/-! ### The order of the walk -/

/-- **Paths lead to the nodes of the walk**, in their order. Ids may repeat; then other paths may
lead to a node as well. -/
theorem exists_paths_walk (questions : List Question) (keep : Question → Bool) :
    ∃ found : List (Node × List Place),
      found.map Prod.fst = (ofQuestions questions).walk keep ∧
        (∀ item ∈ found, Path questions item.1.question item.2 ∧
          item.1.depth + 1 = item.2.length) ∧
        found.Pairwise fun item item' => item.2 < item'.2 := by
  have hroots : ((ofQuestions questions).roots.map fun root => ((root, 0), [placeOf root])).map
      Prod.fst = (ofQuestions questions).roots.map fun root => (root, 0) := by
    rw [List.map_map]
    rfl
  obtain ⟨found, hfound, hpaths⟩ := exists_found keep _ _ _ trail_roots hroots
  refine ⟨(found.filter fun item => item.1.kept).map fun item => (Visit.node item.1, item.2), ?_,
    fun node hnode => ?_, ?_⟩
  · have hvisits : found.map Prod.fst = (ofQuestions questions).visits keep := hfound
    rw [walk_eq_map, ← hvisits, List.filter_map, List.map_map, List.map_map]
    rfl
  · obtain ⟨item, hitem, rfl⟩ := List.mem_map.mp hnode
    have hmem : item ∈ found := (List.mem_filter.mp hitem).1
    exact ⟨hpaths.path item hmem, hpaths.depth item hmem⟩
  · rw [List.pairwise_map]
    exact hpaths.ordered.filter _

/-- **The order of the walk is the order of the paths.** Where no id is repeated, one path leads to
each question that the walk yields. The question stands as deep as the path has places above its
own, and it is yielded before another if and only if its path comes before the path to the other. -/
theorem walk_follows_paths (questions : List Question) (hids : (questions.map (·.id)).Nodup)
    (keep : Question → Bool) :
    (∀ node ∈ (ofQuestions questions).walk keep, ∃! path, Path questions node.question path) ∧
      (∀ node ∈ (ofQuestions questions).walk keep, ∀ path, Path questions node.question path →
        path ≠ [] ∧ node.depth = path.length - 1) ∧
      ∀ (i j : Nat) (node node' : Node) (path path' : List Place),
        ((ofQuestions questions).walk keep)[i]? = some node →
          ((ofQuestions questions).walk keep)[j]? = some node' →
            Path questions node.question path → Path questions node'.question path' →
              (i < j ↔ path < path') := by
  obtain ⟨found, hfound, hpaths, hordered⟩ := exists_paths_walk questions keep
  rw [← hfound]
  -- what stands at an index is found there with the one path that leads to it
  have hat : ∀ {i : Nat} {node : Node} {path : List Place},
      (found.map Prod.fst)[i]? = some node → Path questions node.question path →
        found[i]? = some (node, path) := by
    intro i node path hnode hpath
    rw [List.getElem?_map, Option.map_eq_some_iff] at hnode
    obtain ⟨⟨node, path'⟩, hitem, rfl⟩ := hnode
    rw [hitem, hpath.eq hids (hpaths _ (List.mem_of_getElem? hitem)).1]
  refine ⟨fun node hnode => ?_, fun node hnode path hpath => ?_, ?_⟩
  · obtain ⟨⟨node, path⟩, hitem, rfl⟩ := List.mem_map.mp hnode
    have hpath : Path questions node.question path := (hpaths _ hitem).1
    exact ⟨path, hpath, fun path' hpath' => hpath'.eq hids hpath⟩
  · obtain ⟨i, hi⟩ := List.getElem?_of_mem hnode
    have hdepth : node.depth + 1 = path.length := (hpaths _ (List.mem_of_getElem? (hat hi hpath))).2
    exact ⟨List.ne_nil_of_length_pos (by omega), by omega⟩
  · intro i j node node' path path' hi hj hpath hpath'
    obtain ⟨hilt, hi⟩ := List.getElem?_eq_some_iff.mp (hat hi hpath)
    obtain ⟨hjlt, hj⟩ := List.getElem?_eq_some_iff.mp (hat hj hpath')
    have hlt : ∀ {i j : Nat} (hi : i < found.length) (hj : j < found.length), i < j →
        found[i].2 < found[j].2 := fun hi hj => List.pairwise_iff_getElem.mp hordered _ _ hi hj
    constructor
    · intro h
      have := hlt hilt hjlt h
      rwa [hi, hj] at this
    · intro h
      rcases Nat.lt_trichotomy i j with hij | rfl | hji
      · exact hij
      · obtain ⟨-, rfl⟩ := Prod.mk.inj (hi.symm.trans hj)
        exact absurd h (List.lt_irrefl path)
      · have hback := hlt hjlt hilt hji
        rw [hi, hj] at hback
        exact absurd hback (List.lt_asymm h)

/-- A section with a negative order index behind one of its questions, and a question of the top
level with the same index. -/
def tiedQuestions : List Question :=
  [⟨⟨"a"⟩, "First", .freeText, some ⟨"s"⟩, 5, false, false, none, none, []⟩,
    ⟨⟨"s"⟩, "Section", .heading, none, -1, false, false, none, none, []⟩,
    ⟨⟨"b"⟩, "Second", .freeText, some ⟨"s"⟩, 5, false, false, none, none, []⟩,
    ⟨⟨"t"⟩, "Last", .freeText, none, -1, false, false, none, none, []⟩]

/-- Ties are broken level by level: what stands in the section comes before the question behind
it. -/
theorem walk_follows_paths_tied :
    (tiedQuestions.map (·.id)).Nodup ∧
      ∃ (i j : Nat) (inside behind : Node),
        ((ofQuestions tiedQuestions).walk fun _ => true)[i]? = some inside ∧
          ((ofQuestions tiedQuestions).walk fun _ => true)[j]? = some behind ∧
          inside.question.id = ⟨"b"⟩ ∧ behind.question.id = ⟨"t"⟩ ∧
          inside.depth = 1 ∧ behind.depth = 0 ∧ i < j := by
  have hids : (tiedQuestions.map (·.id)).Nodup := by decide
  obtain ⟨-, hdepth, horder⟩ := walk_follows_paths tiedQuestions hids fun _ => true
  have hsection : Leads tiedQuestions (fun _ => true) ⟨1, tiedQuestions[1]⟩ := .top rfl rfl rfl
  have hinside : Leads tiedQuestions (fun _ => true) ⟨2, tiedQuestions[2]⟩ :=
    .under hsection rfl rfl rfl rfl
  have hbehind : Leads tiedQuestions (fun _ => true) ⟨3, tiedQuestions[3]⟩ := .top rfl rfl rfl
  have hpath : Path tiedQuestions tiedQuestions[2] [⟨-1, 1⟩, ⟨5, 2⟩] :=
    .under (.top (q := tiedQuestions[1]) rfl rfl) rfl rfl
  have hpath' : Path tiedQuestions tiedQuestions[3] [⟨-1, 3⟩] := .top rfl rfl
  obtain ⟨inside, hmem, hq⟩ : ∃ node ∈ (ofQuestions tiedQuestions).walk fun _ => true,
      node.question = tiedQuestions[2] := mem_walk_iff.mpr ⟨_, hinside, rfl⟩
  obtain ⟨behind, hmem', hq'⟩ : ∃ node ∈ (ofQuestions tiedQuestions).walk fun _ => true,
      node.question = tiedQuestions[3] := mem_walk_iff.mpr ⟨_, hbehind, rfl⟩
  rw [← hq] at hpath
  rw [← hq'] at hpath'
  obtain ⟨i, hi⟩ := List.getElem?_of_mem hmem
  obtain ⟨j, hj⟩ := List.getElem?_of_mem hmem'
  have hlt : ([⟨-1, 1⟩, ⟨5, 2⟩] : List Place) < [⟨-1, 3⟩] := .rel (.inr ⟨rfl, by decide⟩)
  exact ⟨hids, i, j, inside, behind, hi, hj, by rw [hq]; rfl, by rw [hq']; rfl,
    (hdepth inside hmem _ hpath).2, (hdepth behind hmem' _ hpath').2,
    (horder i j inside behind _ _ hi hj hpath hpath').mpr hlt⟩

end Questionnaire.Outline
