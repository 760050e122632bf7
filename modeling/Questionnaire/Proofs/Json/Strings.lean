import Questionnaire.Json.Printer
import Questionnaire.Wire.JsonText

/-! # Strings that are read back

A character stands between the quotes of a string as itself or as an escape, and the reader makes
one piece of either (`readPieces?_escapeChar`). The pieces join to the characters again, whatever
the string holds, so every string comes back from its text (`readString_escape`). -/

namespace Questionnaire.Wire

open Json (escape escapeChar hexDigit quoted)

/-- The piece that the reader makes of a character as it is written. -/
def pieceOf (c : Char) : Piece :=
  if c.toNat < 32 ∧ c ∉ ['\n', '\r', '\t', '\x08', '\x0c'] then .unit c.toNat else .char c

theorem hexUnit?_hexDigit : ∀ n < 32,
    hexUnit? '0' '0' (hexDigit (n / 16)) (hexDigit (n % 16)) = some n := by
  decide

theorem readPieces?_plain {c : Char} (hquote : c ≠ '"') (hslash : c ≠ '\\') (hlow : ¬ c.toNat < 32)
    (rest : List Char) :
    readPieces? (c :: rest) =
      (readPieces? rest).map fun (pieces, rest) => (.char c :: pieces, rest) := by
  rw [readPieces?]
  · simp [hslash, hlow]
  all_goals simp_all

/-- What is written for a character is read as one piece. -/
theorem readPieces?_escapeChar (c : Char) (rest : List Char) :
    readPieces? (escapeChar c ++ rest) =
      (readPieces? rest).map fun (pieces, rest) => (pieceOf c :: pieces, rest) := by
  by_cases hshort : c ∈ ['"', '\\', '\n', '\r', '\t', '\x08', '\x0c']
  · -- a quote, a backslash or a control character with a letter of its own
    simp only [List.mem_cons, List.not_mem_nil, or_false] at hshort
    rcases hshort with rfl | rfl | rfl | rfl | rfl | rfl | rfl <;> rfl
  · simp only [List.mem_cons, List.not_mem_nil, or_false, not_or] at hshort
    obtain ⟨hquote, hslash, hn, hr, ht, hb, hf⟩ := hshort
    by_cases hlow : c.toNat < 32
    · have hpiece : pieceOf c = .unit c.toNat := by simp [pieceOf, hlow, hn, hr, ht, hb, hf]
      have hchars : escapeChar c =
          ['\\', 'u', '0', '0', hexDigit (c.toNat / 16), hexDigit (c.toNat % 16)] := by
        simp [escapeChar, hlow, hquote, hslash, hn, hr, ht, hb, hf]
      rw [hchars, hpiece]
      simp only [List.cons_append, List.nil_append, readPieces?]
      rw [hexUnit?_hexDigit _ hlow]
    · have hpiece : pieceOf c = .char c := by simp [pieceOf, hlow]
      have hchars : escapeChar c = [c] := by
        simp [escapeChar, hlow, hquote, hslash, hn, hr, ht, hb, hf]
      rw [hchars, hpiece]
      exact readPieces?_plain hquote hslash hlow rest

theorem readPieces?_escape (cs rest : List Char) :
    readPieces? (escape cs ++ '"' :: rest) = some (cs.map pieceOf, rest) := by
  induction cs with
  | nil => rfl
  | cons c cs ih =>
    have hchars : escape (c :: cs) = escapeChar c ++ escape cs := rfl
    rw [hchars, List.append_assoc, readPieces?_escapeChar, ih]
    rfl

/-- A low unit stands for its own character, whatever follows it. -/
theorem joinPieces?_unit {code : Nat} (h : code < 32) (rest : List Piece) :
    joinPieces? (.unit code :: rest) = (joinPieces? rest).map (Char.ofNat code :: ·) := by
  have hlead : isLeadUnit code = false := by simp [isLeadUnit]; omega
  have htrail : isTrailUnit code = false := by simp [isTrailUnit]; omega
  rcases rest with _ | ⟨c | trail, rest⟩
  · simp [joinPieces?, hlead, htrail]
  · simp [joinPieces?, hlead, htrail]
  · simp [joinPieces?, hlead, htrail]

theorem joinPieces?_map_pieceOf (cs : List Char) :
    joinPieces? (cs.map pieceOf) = some cs := by
  induction cs with
  | nil => rfl
  | cons c cs ih =>
    rw [List.map_cons]
    by_cases hunit : c.toNat < 32 ∧ c ∉ ['\n', '\r', '\t', '\x08', '\x0c']
    · rw [pieceOf, if_pos hunit, joinPieces?_unit hunit.1, ih, Option.map_some, Char.ofNat_toNat]
    · rw [pieceOf, if_neg hunit, joinPieces?, ih, Option.map_some]

/-- **Every string comes back from its text.** -/
theorem readString_escape (s : String) (rest : List Char) :
    readString (escape s.toList ++ '"' :: rest) = (.text s, rest) := by
  unfold readString
  rw [readPieces?_escape]
  simp only []
  rw [joinPieces?_map_pieceOf]
  simp

end Questionnaire.Wire
