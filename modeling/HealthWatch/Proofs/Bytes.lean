import HealthWatch.Bytes

/-! # The bytes of a text

A text is its characters one after the other, each with its own bytes. A byte below 128 stands for
the character with its number and for no other, so what is found among the bytes of a text is found
among its characters (`Bytes.exists_char`).
-/

namespace HealthWatch.Bytes

/-- The loop behind the list of an array puts the bytes from its index on behind those it has
read. -/
theorem toList_loop (bytes : ByteArray) (index : Nat) (read : List UInt8) :
    ByteArray.toList.loop bytes index read = read.reverse ++ bytes.data.toList.drop index := by
  fun_induction ByteArray.toList.loop bytes index read with
  | case1 index read inside ih =>
      have inside : index < bytes.data.toList.length := inside
      have next : bytes.get! index = bytes.data.toList[index] :=
        getElem!_pos bytes.data index inside
      rw [ih, List.drop_eq_getElem_cons inside, List.reverse_cons, List.append_assoc, next]
      rfl
  | case2 index read outside =>
      have outside : bytes.data.toList.length ≤ index := Nat.le_of_not_lt outside
      rw [List.drop_of_length_le outside, List.append_nil]

theorem toList_eq (bytes : ByteArray) : bytes.toList = bytes.data.toList :=
  toList_loop bytes 0 []

/-- The bytes of a text are those of its characters, one after the other. -/
theorem ofText_eq (text : String) : ofText text = text.toList.flatMap String.utf8EncodeChar := by
  rw [ofText, toList_eq, String.toUTF8_eq_toByteArray, ← String.utf8Encode_toList, List.utf8Encode,
    List.toList_data_toByteArray]

theorem ofText_append (first second : String) :
    ofText (first ++ second) = ofText first ++ ofText second := by
  rw [ofText_eq, ofText_eq, ofText_eq, String.toList_append, List.flatMap_append]

/-- A text is read back from its bytes. -/
theorem text?_ofText (text : String) : text? (ofText text) = some text := by
  have same : (⟨(ofText text).toArray⟩ : ByteArray) = text.toByteArray := by
    rw [ofText, toList_eq, String.toUTF8_eq_toByteArray, Array.toArray_toList]
  rw [text?, same, String.fromUTF8?, dif_pos text.isValidUTF8]
  rfl

/-- The bytes that are read as a text are its own. -/
theorem text?_eq_some {bytes : Bytes} {text : String} :
    text? bytes = some text ↔ bytes = ofText text := by
  constructor
  · intro read
    rw [text?, String.fromUTF8?] at read
    split at read
    · cases read
      rw [ofText, toList_eq, String.toUTF8_eq_toByteArray]
      rfl
    · cases read
  · rintro rfl
    exact text?_ofText text

/-- All bytes of a character with more than one byte are 128 or more. -/
theorem utf8EncodeChar_small {c : Char} {byte : UInt8} (member : byte ∈ String.utf8EncodeChar c)
    (small : byte.toNat < 0x80) : c.toNat = byte.toNat := by
  unfold String.utf8EncodeChar at member
  simp only at member
  split at member
  · rename_i single
    cases List.mem_singleton.mp member
    rw [UInt8.toNat_ofNat']
    change c.toNat ≤ 0x7f at single
    change c.toNat = c.toNat % 2 ^ 8
    omega
  · exfalso
    repeat' split at member
    all_goals
      simp only [List.mem_cons, List.not_mem_nil, or_false] at member
      rcases member with rfl | rfl | rfl | rfl
    all_goals
      rw [UInt8.toNat_ofNat'] at small
      omega

/-- A byte below 128 stands for the character with its number. -/
theorem exists_char {text : String} {byte : UInt8} (member : byte ∈ ofText text)
    (small : byte.toNat < 0x80) : ∃ c ∈ text.toList, c.toNat = byte.toNat := by
  rw [ofText_eq] at member
  obtain ⟨c, present, member⟩ := List.mem_flatMap.mp member
  exact ⟨c, present, utf8EncodeChar_small member small⟩

/-- A text without NUL has no zero among its bytes. -/
theorem zero_not_mem_ofText {text : String} (nulFree : '\x00' ∉ text.toList) : 0 ∉ ofText text := by
  intro member
  obtain ⟨c, present, same⟩ := exists_char member (by decide)
  have nul : c = '\x00' := Char.toNat_inj.mp same
  exact nulFree (nul ▸ present)

/-- Pieces that each have the separator behind them and not inside are read back by splitting. -/
theorem splitOn_flatMap {α : Type} [BEq α] [LawfulBEq α] {separator : α} {pieces : List (List α)}
    (free : ∀ piece ∈ pieces, separator ∉ piece) :
    (pieces.flatMap (· ++ [separator])).splitOn separator = pieces ++ [[]] := by
  induction pieces with
  | nil => rfl
  | cons piece pieces ih =>
      obtain ⟨here, later⟩ := List.forall_mem_cons.mp free
      rw [List.flatMap_cons, List.append_assoc, List.singleton_append,
        List.splitOn_append_cons_self_of_not_mem here, ih later, List.cons_append]

end HealthWatch.Bytes
