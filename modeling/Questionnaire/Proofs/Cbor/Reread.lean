import Mathlib.Algebra.Order.Ring.Nat
import Mathlib.Tactic.Ring
import Questionnaire.Cbor.Reader
import Questionnaire.Cbor.Writer
import Questionnaire.Proofs.Form.Reread
import Questionnaire.Service.Bundled

/-! # CBOR that is read back

What `Cbor.ofJson` writes, `Cbor.read?` reads: heads come back with their major type and argument,
whichever width the argument has (`exists_head`), texts with their characters, and plain values as
they were, whatever follows their bytes (`readsBack`). A form is written as a plain value, so it is
decoded from its own CBOR (`ofCbor?_toCbor`).

The lengths in heads are numbers of 64 bits. No text or list in memory is longer, and the statements
say so by a bound on the bytes of the whole. -/

namespace Questionnaire

namespace Cbor

/-! ### Numbers of several bytes -/

theorem foldl_bigEndian (n count acc : Nat) :
    (bigEndian n count).foldl (fun n b => 256 * n + b.toNat) acc =
      acc * 256 ^ count + n % 256 ^ count := by
  induction count generalizing acc with
  | zero => simp [bigEndian, Nat.mod_one]
  | succ count ih =>
    have hshift : n >>> (8 * count) = n / 256 ^ count := by
      rw [Nat.shiftRight_eq_div_pow, pow_mul]
      rfl
    have hmod : n % 256 ^ (count + 1) =
        n % 256 ^ count + 256 ^ count * (n / 256 ^ count % 256) := by
      rw [Nat.pow_succ, Nat.mod_mul]
    have hbyte : (UInt8.ofNat (n >>> (8 * count))).toNat = n / 256 ^ count % 256 := by
      rw [hshift]
      exact UInt8.toNat_ofNat'
    rw [bigEndian, List.foldl_cons, ih, hbyte, hmod]
    ring

/-- **A number that fits so many bytes is read back from them.** -/
theorem ofBigEndian_bigEndian {n count : Nat} (h : n < 256 ^ count) :
    ofBigEndian (bigEndian n count) = n := by
  unfold ofBigEndian
  rw [foldl_bigEndian, Nat.zero_mul, Nat.zero_add, Nat.mod_eq_of_lt h]

theorem length_bigEndian (n count : Nat) : (bigEndian n count).length = count := by
  induction count with
  | zero => rfl
  | succ count ih => rw [bigEndian, List.length_cons, ih]

theorem take?_append (bytes rest : List UInt8) :
    take? bytes.length (bytes ++ rest) = some (bytes, rest) := by
  unfold take?
  rw [List.take_left, List.drop_left, if_pos rfl]

theorem wide?_bigEndian {n count : Nat} (h : n < 256 ^ count) (rest : List UInt8) :
    wide? count (bigEndian n count ++ rest) = some (.value n, rest) := by
  have htake := take?_append (bigEndian n count) rest
  rw [length_bigEndian] at htake
  unfold wide?
  rw [htake]
  simp only [Option.bind_eq_bind, Option.bind_some, ofBigEndian_bigEndian h]
  rfl

/-! ### Heads -/

section Heads
variable {major info n : Nat}

theorem toNat_initialByte (hmajor : major < 8) (hinfo : info < 32) :
    (initialByte major info).toNat = 32 * major + info := by
  unfold initialByte
  rw [UInt8.toNat_ofNat']
  exact Nat.mod_eq_of_lt (by omega)

/-- The bytes are a head: the first byte tells the major type, and whether the argument is small,
and the argument is read from what follows. -/
structure IsHead (major n : Nat) (first : UInt8) (tail : List UInt8) : Prop where
  major : first.toNat / 32 = major
  small : n < 24 → first.toNat % 32 < 24
  argument : ∀ rest, argument? (first.toNat % 32) (tail ++ rest) = some (.value n, rest)

theorem isHead_small (hmajor : major < 8) (hn : n < 24) :
    IsHead major n (initialByte major n) [] := by
  have hfirst := toNat_initialByte hmajor (by omega : n < 32)
  have hinfo : (initialByte major n).toNat % 32 = n := by omega
  refine ⟨by omega, by omega, fun rest => ?_⟩
  rw [hinfo, List.nil_append, argument?, if_pos hn]

theorem isHead_wide {count : Nat} (hmajor : major < 8) (hinfo : info < 32) (hlarge : 24 ≤ n)
    (hn : n < 256 ^ count) (hwide : ∀ bytes, argument? info bytes = wide? count bytes) :
    IsHead major n (initialByte major info) (bigEndian n count) := by
  have hfirst := toNat_initialByte hmajor hinfo
  have hinfo : (initialByte major info).toNat % 32 = info := by omega
  refine ⟨by omega, by omega, fun rest => ?_⟩
  rw [hinfo, hwide, wide?_bigEndian hn]

/-- **Every head is read back**, whichever width its argument needs. -/
theorem exists_head (hmajor : major < 8) (hn : n < 2 ^ 64) :
    ∃ first tail, head major n = first :: tail ∧ IsHead major n first tail := by
  unfold head
  split
  · next h => exact ⟨_, _, rfl, isHead_small hmajor h⟩
  split
  · exact ⟨_, _, rfl, isHead_wide hmajor (by decide) (by omega) (by omega) fun _ => rfl⟩
  split
  · exact ⟨_, _, rfl, isHead_wide hmajor (by decide) (by omega) (by omega) fun _ => rfl⟩
  split
  · exact ⟨_, _, rfl, isHead_wide hmajor (by decide) (by omega) (by omega) fun _ => rfl⟩
  · exact ⟨_, _, rfl, isHead_wide hmajor (by decide) (by omega) (by omega) fun _ => rfl⟩

theorem length_head_pos (major n : Nat) : 0 < (head major n).length := by
  unfold head
  split_ifs <;> simp

end Heads

/-! ### Strings -/

theorem toList_loop (bytes : ByteArray) (i : Nat) (before : List UInt8) :
    ByteArray.toList.loop bytes i before = before.reverse ++ bytes.data.toList.drop i := by
  fun_induction ByteArray.toList.loop bytes i before with
  | case1 i before h ih =>
    have hsize : i < bytes.data.toList.length := h
    have hget : bytes.get! i = bytes.data.toList[i] := getElem!_pos bytes.data i h
    rw [ih, List.drop_eq_getElem_cons hsize, hget, List.reverse_cons, List.append_assoc]
    rfl
  | case2 i before h =>
    rw [List.drop_of_length_le (Nat.le_of_not_lt h), List.append_nil]

/-- **A text is read back from its bytes.** -/
theorem textOfBytes?_toByteArray (s : String) :
    Decode.textOfBytes? s.toByteArray.toList = some s := by
  have hbytes : s.toByteArray.toList = s.toByteArray.data.toList := toList_loop s.toByteArray 0 []
  unfold Decode.textOfBytes? String.fromUTF8?
  rw [hbytes]
  exact dif_pos s.isValidUTF8

/-! ### Single items -/

section Items
variable {levels steps n : Nat} {bytes rest : List UInt8}

theorem item?_bool (levels steps : Nat) (b : Bool) (rest : List UInt8) :
    item? levels (steps + 1) (ofJson (.bool b) ++ rest) = some (.bool b, rest) := by
  cases b <;> rfl

theorem item?_nonnegative (hn : n < 2 ^ 64) (levels steps : Nat) (rest : List UInt8) :
    item? levels (steps + 1) (head 0 n ++ rest) = some (.integer n, rest) := by
  obtain ⟨first, tail, hhead, hfirst⟩ := exists_head (by decide : 0 < 8) hn
  rw [hhead, List.cons_append, item?]
  simp [hfirst.major, hfirst.argument]

theorem item?_negative (hn : n < 2 ^ 64) (levels steps : Nat) (rest : List UInt8) :
    item? levels (steps + 1) (head 1 n ++ rest) = some (.integer (-1 - n), rest) := by
  obtain ⟨first, tail, hhead, hfirst⟩ := exists_head (by decide : 1 < 8) hn
  rw [hhead, List.cons_append, item?]
  simp [hfirst.major, hfirst.argument]

theorem item?_integer {n : Int} (h : Number.IntegerRange n) (levels steps : Nat)
    (rest : List UInt8) :
    item? levels (steps + 1) (integer n ++ rest) = some (.integer n, rest) := by
  obtain ⟨hlow, hhigh⟩ := h
  unfold integer
  split
  · rw [item?_nonnegative (by omega), Int.toNat_of_nonneg (by omega)]
  · rw [item?_negative (by omega), Int.toNat_of_nonneg (by omega)]
    congr
    omega

theorem item?_text {s : String} (hs : (text s).length < 2 ^ 64) (levels steps : Nat)
    (rest : List UInt8) : item? levels (steps + 1) (text s ++ rest) = some (.text s, rest) := by
  have hlength : s.toUTF8.toList.length < 2 ^ 64 := by
    rw [text, List.length_append] at hs
    omega
  obtain ⟨first, tail, hhead, hfirst⟩ := exists_head (by decide : 3 < 8) hlength
  rw [text, hhead, List.cons_append, List.cons_append, List.append_assoc, item?]
  simp [hfirst.major, hfirst.argument, string?, take?_append, textOfBytes?_toByteArray]

theorem item?_list {ws : List Wire} (hn : n < 2 ^ 64)
    (h : items? levels (some n) steps bytes = some (ws, rest)) :
    item? (levels + 1) (steps + 1) (head 4 n ++ bytes) = some (.list ws true, rest) := by
  obtain ⟨first, tail, hhead, hfirst⟩ := exists_head (by decide : 4 < 8) hn
  rw [hhead, List.cons_append, item?]
  simp [hfirst.major, hfirst.argument, Argument.remaining, h]

theorem item?_map {entries : List (Wire × Wire)} (hn : n < 24)
    (h : entries? levels (some n) steps bytes = some (entries, rest)) :
    item? (levels + 1) (steps + 1) (head 5 n ++ bytes) = some (.map entries true, rest) := by
  obtain ⟨first, tail, hhead, hfirst⟩ := exists_head (by decide : 5 < 8) (by omega : n < 2 ^ 64)
  rw [hhead, List.cons_append, item?]
  simp [hfirst.major, hfirst.argument, hfirst.small hn, Argument.remaining, h]

end Items

/-! ### Lists and maps -/

theorem length_ofJson_pos (v : Json) : 0 < (ofJson v).length := by
  cases v with
  | null => simp [ofJson]
  | bool b => cases b <;> simp [ofJson]
  | num n =>
    cases n with
    | integer n range =>
      rw [ofJson, integer]
      split <;> exact length_head_pos _ _
    | double x => simp [ofJson]
  | str s =>
    have hhead := length_head_pos 3 s.toUTF8.toList.length
    rw [ofJson, text, List.length_append]
    omega
  | arr items =>
    have hhead := length_head_pos 4 items.length
    rw [ofJson, List.length_append]
    omega
  | obj members =>
    have hhead := length_head_pos 5 members.length
    rw [ofJson, List.length_append]
    omega

theorem length_le_ofItems (items : List Json) : items.length ≤ (ofItems items).length := by
  induction items with
  | nil => exact Nat.zero_le _
  | cons item items ih =>
    have hitem := length_ofJson_pos item
    rw [ofItems, List.length_append, List.length_cons]
    omega

/-- The value is read back from its bytes, whatever follows them, if these are not too many to be
counted; a step and twice their number are enough. -/
def ReadsBack (levels : Nat) (v : Json) : Prop :=
  (ofJson v).length < 2 ^ 64 → ∀ steps rest, 2 * (ofJson v).length ≤ steps + 1 →
    item? levels (steps + 1) (ofJson v ++ rest) = some (Wire.ofJson v, rest)

theorem items?_ofItems {levels : Nat} {items : List Json}
    (h : ∀ item ∈ items, ReadsBack levels item) (hsize : (ofItems items).length < 2 ^ 64)
    (steps : Nat) (rest : List UInt8) (hsteps : 2 * (ofItems items).length ≤ steps) :
    items? levels (some items.length) (steps + 1) (ofItems items ++ rest) =
      some (Wire.ofItems items, rest) := by
  induction items generalizing steps with
  | nil => rfl
  | cons item items ih =>
    have hpos := length_ofJson_pos item
    obtain ⟨hitem, hitems⟩ := List.forall_mem_cons.mp h
    rw [ofItems, List.length_append] at hsize hsteps
    obtain ⟨steps, rfl⟩ : ∃ k, steps = k + 1 := ⟨steps - 1, by omega⟩
    have hfirst := hitem (by omega) steps (ofItems items ++ rest) (by omega)
    have hrest := ih hitems (by omega) steps (by omega)
    rw [ofItems, List.append_assoc, items?]
    simp [atEnd?, hfirst, hrest, Wire.ofItems]

theorem entries?_ofMembers {levels : Nat} {members : List (String × Json)}
    (h : ∀ member ∈ members, ReadsBack levels member.2)
    (hsize : (ofMembers members).length < 2 ^ 64) (steps : Nat) (rest : List UInt8)
    (hsteps : 2 * (ofMembers members).length ≤ steps) :
    entries? levels (some members.length) (steps + 1) (ofMembers members ++ rest) =
      some (Wire.ofMembers members, rest) := by
  induction members generalizing steps with
  | nil => rfl
  | cons member members ih =>
    obtain ⟨key, value⟩ := member
    have hpos := length_ofJson_pos value
    obtain ⟨hvalue, hmembers⟩ := List.forall_mem_cons.mp h
    rw [ofMembers, List.length_append, List.length_append] at hsize hsteps
    obtain ⟨steps, rfl⟩ : ∃ k, steps = k + 1 := ⟨steps - 1, by omega⟩
    have hkey := item?_text (by omega : (text key).length < 2 ^ 64) levels steps
      (ofJson value ++ (ofMembers members ++ rest))
    have hfirst : item? levels (steps + 1) (ofJson value ++ (ofMembers members ++ rest)) =
        some (Wire.ofJson value, ofMembers members ++ rest) :=
      hvalue (show (ofJson value).length < 2 ^ 64 by omega) steps _
        (show 2 * (ofJson value).length ≤ steps + 1 by omega)
    have hrest := ih hmembers (by omega) steps (by omega)
    rw [ofMembers, List.append_assoc, List.append_assoc, entries?]
    simp [atEnd?, hkey, hfirst, hrest, Wire.ofMembers]

/-- **A plain value is read back from its bytes.** -/
theorem readsBack {levels : Nat} {v : Json} (h : v.Plain levels) : ReadsBack levels v := by
  induction h with
  | null => exact fun _ _ _ _ => rfl
  | bool b => exact fun _ steps rest _ => item?_bool _ steps b rest
  | integer n range => exact fun _ steps rest _ => item?_integer range _ steps rest
  | str s => exact fun hsize steps rest _ => item?_text hsize _ steps rest
  | @arr levels items _ ih =>
    intro hsize steps rest hsteps
    have hhead := length_head_pos 4 items.length
    have hlength := length_le_ofItems items
    rw [ofJson, List.length_append] at hsize hsteps
    obtain ⟨steps, rfl⟩ : ∃ k, steps = k + 1 := ⟨steps - 1, by omega⟩
    rw [ofJson, List.append_assoc]
    exact item?_list (by omega) (items?_ofItems ih (by omega) steps rest (by omega))
  | @obj levels members hsmall _ ih =>
    intro hsize steps rest hsteps
    have hhead := length_head_pos 5 members.length
    rw [ofJson, List.length_append] at hsize hsteps
    obtain ⟨steps, rfl⟩ : ∃ k, steps = k + 1 := ⟨steps - 1, by omega⟩
    rw [ofJson, List.append_assoc]
    exact item?_map hsmall (entries?_ofMembers ih (by omega) steps rest (by omega))

/-- **Plain values are read back whole** if they nest no deeper than is read. -/
theorem read?_ofJson {v : Json} (h : v.Plain maxLevels) (hsize : (ofJson v).length < 2 ^ 64) :
    read? (ofJson v) = some (Wire.ofJson v) := by
  have hread := readsBack h hsize (2 * (ofJson v).length + 1) [] (by omega)
  unfold read?
  rw [List.append_nil] at hread
  rw [hread]

end Cbor

/-! ### Forms -/

/-- **A form is read back from the CBOR that it is written as**, whatever its texts hold, whichever
of its fields are set, and however many questions, options and rules it has, as long as its
bytes can be counted in 64 bits, which is as far as the lengths in heads go. -/
theorem ofCbor?_toCbor (form : Form) (h : form.toCbor.length < 2 ^ 64) :
    Form.ofCbor? form.toCbor = some form := by
  have hread := Cbor.read?_ofJson (form.plain_toJson.mono (by decide)) h
  have hdecode := form.decode_toJson (Decode.Source.hasRoom_unlimited .cbor 5)
  unfold Form.ofCbor? Form.toCbor
  rw [hread]
  simp only [Option.bind_eq_bind, Option.bind_some, Decode.Source.cbor, hdecode, Except.toOption]

/-- The bundled form with one more rule, of which nothing is set. -/
def formWithBareRule : Form :=
  { Service.bundledForm with
    rules := Service.bundledForm.rules ++ [⟨⟨"é"⟩, none, none, none, .unknown⟩] }

theorem ofCbor?_toCbor_bareRule : formWithBareRule.toCbor.length < 2 ^ 64 ∧
    Form.ofCbor? formWithBareRule.toCbor = some formWithBareRule := by
  have hsize : formWithBareRule.toCbor.length < 2 ^ 64 := by decide +kernel
  exact ⟨hsize, ofCbor?_toCbor formWithBareRule hsize⟩

end Questionnaire
