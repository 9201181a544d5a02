import CrateGraph.Proofs.Text.Utf8
import CrateGraph.Text.Basic

/-!
# Cutting and joining

A text is cut at a separator into pieces, and pieces are joined with a separator between each two.
The same is done with the bytes of a text. A separator of ASCII is one byte, which no other
character has among its bytes, so it does not matter which of the two is cut.

## Main results

* `not_mem_of_mem_splitOn` — no piece holds the separator.
* `nil_mem_tail_splitOn_iff` — where a piece is empty.
* `toBytes_join`, `splitOn_toBytes` — joining and cutting the bytes of texts.
-/

namespace CrateGraph.Text

/-! ## Cutting -/

section

variable {α : Type} [BEq α] {sep a : α} {l p : List α} {ps : List (List α)}

theorem exists_splitOn_eq_cons (sep : α) (l : List α) : ∃ p ps, l.splitOn sep = p :: ps :=
  List.exists_cons_of_ne_nil (List.splitOn_ne_nil sep l)

variable [LawfulBEq α]

theorem splitOn_cons_self (l : List α) : (sep :: l).splitOn sep = [] :: l.splitOn sep := by
  rw [List.splitOn_cons_eq_if_modifyHead, if_pos BEq.rfl]

theorem splitOn_cons_of_ne (ha : a ≠ sep) (h : l.splitOn sep = p :: ps) :
    (a :: l).splitOn sep = (a :: p) :: ps := by
  rw [List.splitOn_cons_eq_if_modifyHead, if_neg (by simpa using ha), h]
  rfl

theorem not_mem_of_mem_splitOn (h : p ∈ l.splitOn sep) : sep ∉ p := by
  induction l generalizing p with
  | nil =>
      have hnil : p = [] := by simpa [List.splitOn_nil] using h
      simp [hnil]
  | cons a l ih =>
      by_cases ha : a = sep
      · subst ha
        rw [splitOn_cons_self] at h
        rcases List.mem_cons.1 h with rfl | h
        · exact List.not_mem_nil
        · exact ih h
      · obtain ⟨q, qs, hl⟩ := exists_splitOn_eq_cons sep l
        rw [splitOn_cons_of_ne ha hl] at h
        rw [hl] at ih
        rcases List.mem_cons.1 h with rfl | h
        · have hq : sep ∉ q := ih List.mem_cons_self
          simp [hq, Ne.symm ha]
        · exact ih (List.mem_cons_of_mem q h)

/-- The first piece is empty if nothing stands before the first separator. -/
theorem first_eq_nil_iff (h : l.splitOn sep = p :: ps) : p = [] ↔ l = [] ∨ [sep] <+: l := by
  cases l with
  | nil =>
      rw [List.splitOn_nil] at h
      simp [(List.cons.inj h).1.symm]
  | cons a l =>
      obtain ⟨q, qs, hl⟩ := exists_splitOn_eq_cons sep l
      by_cases ha : a = sep
      · rw [ha, splitOn_cons_self] at h
        simp [ha, (List.cons.inj h).1.symm]
      · rw [splitOn_cons_of_ne ha hl] at h
        simp [(List.cons.inj h).1.symm, Ne.symm ha]

/-- An empty piece after the first one stands between two separators, or at the end. -/
theorem nil_mem_tail_splitOn_iff :
    [] ∈ (l.splitOn sep).tail ↔ [sep, sep] <:+: l ∨ l.getLast? = some sep := by
  induction l with
  | nil => simp [List.splitOn_nil]
  | cons a l ih =>
      obtain ⟨q, qs, hl⟩ := exists_splitOn_eq_cons sep l
      have hlast : (a :: l).getLast? = some sep ↔ l = [] ∧ a = sep ∨ l.getLast? = some sep := by
        cases l <;> simp [List.getLast?_cons_cons]
      rw [hl, List.tail_cons] at ih
      rw [List.infix_cons_iff, List.cons_prefix_cons, hlast]
      by_cases ha : a = sep
      · rw [ha, splitOn_cons_self, List.tail_cons, hl, List.mem_cons, ih, eq_comm,
          first_eq_nil_iff hl]
        tauto
      · rw [splitOn_cons_of_ne ha hl, List.tail_cons, ih]
        simp [ha, Ne.symm ha]

end

/-! ## Joining -/

variable {sep : Char} {s : String}

theorem toList_join (sep : Char) (l : List String) :
    (join (String.ofList [sep]) l).toList = [sep].intercalate (l.map String.toList) := by
  induction l with
  | nil => rfl
  | cons s rest ih =>
      cases rest with
      | nil => simp [join]
      | cons t rest =>
          rw [List.map_cons, List.map_cons, List.intercalate_cons_cons, ← List.map_cons, ← ih]
          simp [join]

/-- Joining undoes cutting. -/
theorem join_splitOn (sep : Char) (s : String) :
    join (String.ofList [sep]) ((s.toList.splitOn sep).map String.ofList) = s := by
  apply String.ext
  have hread : ((s.toList.splitOn sep).map String.ofList).map String.toList =
      s.toList.splitOn sep := by simp
  rw [toList_join, hread]
  exact List.intercalate_splitOn sep

/-! ## Bytes -/

theorem toBytes_join (hsep : sep.toNat < 0x80) (l : List String) :
    toBytes (join (String.ofList [sep]) l) = [sep.toNat.toUInt8].intercalate (l.map toBytes) := by
  have hbyte : toBytes (String.ofList [sep]) = [sep.toNat.toUInt8] := by
    rw [toBytes_ofList, List.flatMap_singleton, utf8EncodeChar_of_ascii hsep]
  induction l with
  | nil => rfl
  | cons s rest ih =>
      cases rest with
      | nil => simp [join]
      | cons t rest =>
          rw [List.map_cons, List.map_cons, List.intercalate_cons_cons, ← List.map_cons, ← ih,
            ← hbyte, ← toBytes_append, ← toBytes_append, join]
          simp

/-- A character of ASCII is in a text if its byte is among the bytes. -/
theorem mem_toBytes_iff (hsep : sep.toNat < 0x80) :
    sep.toNat.toUInt8 ∈ toBytes s ↔ sep ∈ s.toList := by
  have hcut : toBytes s = s.toList.flatMap String.utf8EncodeChar := by
    rw [← toBytes_ofList, String.ofList_toList]
  rw [hcut, List.mem_flatMap]
  constructor
  · rintro ⟨c, hc, hbyte⟩
    have hascii : c.toNat < 0x80 := by
      by_contra hpast
      have hle := UInt8.le_iff_toNat_le.1 (le_of_mem_utf8EncodeChar (Nat.not_lt.1 hpast) hbyte)
      simp at hle
      omega
    rw [utf8EncodeChar_of_ascii hascii, List.mem_singleton] at hbyte
    have hnat := congrArg UInt8.toNat hbyte
    simp at hnat
    have hsame : sep.toNat = c.toNat := by omega
    rwa [show sep = c from Char.toNat_inj.1 hsame]
  · intro hmem
    exact ⟨sep, hmem, by rw [utf8EncodeChar_of_ascii hsep]; exact List.mem_cons_self⟩

/-- The bytes of a text are cut where the text is. -/
theorem splitOn_toBytes (hsep : sep.toNat < 0x80) (s : String) :
    (toBytes s).splitOn sep.toNat.toUInt8 =
      (s.toList.splitOn sep).map fun cs => toBytes (String.ofList cs) := by
  conv_lhs => rw [← join_splitOn sep s, toBytes_join hsep]
  rw [List.map_map]
  refine List.splitOn_intercalate _ ?_ (by simp [List.splitOn_ne_nil])
  intro bytes hbytes
  obtain ⟨cs, hcs, rfl⟩ := List.mem_map.1 hbytes
  rw [Function.comp_apply, mem_toBytes_iff hsep, String.toList_ofList]
  exact not_mem_of_mem_splitOn hcs

end CrateGraph.Text
