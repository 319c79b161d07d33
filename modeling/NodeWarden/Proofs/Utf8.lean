import NodeWarden.Text.Utf8

/-! The bytes of a text are decoded to its characters: a first byte says how many are to come and
where the second has to be, which holds of every character that is encoded. -/

namespace NodeWarden

theorem toList_loop (bytes : ByteArray) (i : Nat) (read : List UInt8) :
    ByteArray.toList.loop bytes i read = read.reverse ++ bytes.data.toList.drop i := by
  fun_induction ByteArray.toList.loop bytes i read with
  | case1 i read h ih =>
    have hi : i < bytes.data.toList.length := h
    rw [ih, List.drop_eq_getElem_cons hi]
    simp [ByteArray.get!, h]
  | case2 i read h =>
    rw [List.drop_eq_nil_of_le (Nat.le_of_not_lt h), List.append_nil]

theorem textBytes_eq (s : String) : textBytes s = s.toList.flatMap String.utf8EncodeChar := by
  rw [textBytes, ByteArray.toList, toList_loop, String.toUTF8, ← String.utf8Encode_toList,
    List.utf8Encode, List.toList_data_toByteArray]
  rfl

variable {v : Nat} {bs : List UInt8}

/-- A byte behind the first. -/
theorem toNat_tail (v : Nat) : (UInt8.ofNat (v % 64 + 128)).toNat = v % 64 + 128 :=
  UInt8.toNat_ofNat_of_lt' (show v % 64 + 128 < 256 by omega)

theorem tail_within (v : Nat) :
    (0x80 : UInt8).toNat ≤ (UInt8.ofNat (v % 64 + 128)).toNat ∧
      (UInt8.ofNat (v % 64 + 128)).toNat ≤ (0xBF : UInt8).toNat := by
  rw [toNat_tail]
  simp
  omega

theorem decodeFrom_last {value : Nat} {low high b : UInt8}
    (h : low.toNat ≤ b.toNat ∧ b.toNat ≤ high.toNat) :
    decodeFrom (some ⟨value, low, high, 0⟩) (b :: bs) =
      some (Char.ofNat (value * 64 + (b.toNat - 0x80))) :: decodeFrom none bs := by
  have hb : low ≤ b ∧ b ≤ high := by simpa [UInt8.le_iff_toNat_le] using h
  simp [decodeFrom, decodeStep, hb]

theorem decodeFrom_more {value more : Nat} {low high b : UInt8}
    (h : low.toNat ≤ b.toNat ∧ b.toNat ≤ high.toNat) :
    decodeFrom (some ⟨value, low, high, more + 1⟩) (b :: bs) =
      decodeFrom (some ⟨value * 64 + (b.toNat - 0x80), 0x80, 0xBF, more⟩) bs := by
  have hb : low ≤ b ∧ b ≤ high := by simpa [UInt8.le_iff_toNat_le] using h
  simp [decodeFrom, decodeStep, hb]

/-! What the first byte of a longer character begins, and where its second byte has to be. -/

theorem startChar_two (hlow : 128 ≤ v) (hhigh : v ≤ 2047) :
    startChar (UInt8.ofNat (v / 64 % 32 + 192)) = ([], some ⟨v / 64, 0x80, 0xBF, 0⟩) := by
  rw [startChar, UInt8.toNat_ofNat_of_lt' (show _ < 256 by omega)]
  simp only [show v / 64 % 32 = v / 64 by omega]
  rw [if_neg (by omega), if_neg (by omega), if_pos (by omega), Nat.add_sub_cancel]

theorem startChar_three (hlow : 2048 ≤ v) (hhigh : v ≤ 65535)
    (hscalar : v < 0xD800 ∨ 0xDFFF < v) :
    ∃ low high : UInt8,
      startChar (UInt8.ofNat (v / 4096 % 16 + 224)) = ([], some ⟨v / 4096, low, high, 1⟩) ∧
      low.toNat ≤ v / 64 % 64 + 128 ∧ v / 64 % 64 + 128 ≤ high.toNat := by
  rw [startChar, UInt8.toNat_ofNat_of_lt' (show _ < 256 by omega)]
  simp only [show v / 4096 % 16 = v / 4096 by omega, beq_iff_eq]
  rw [if_neg (by omega), if_neg (by omega), if_neg (by omega)]
  -- the shortest and the surrogates are kept out by the second byte
  by_cases hfirst : v / 4096 = 0
  · exact ⟨0xA0, 0xBF, by simp [hfirst], by simp; omega, by simp; omega⟩
  rw [if_neg (by omega)]
  by_cases hsurrogates : v / 4096 = 13
  · exact ⟨0x80, 0x9F, by simp [hsurrogates], by simp, by simp; omega⟩
  rw [if_neg (by omega), if_pos (by omega), Nat.add_sub_cancel]
  exact ⟨0x80, 0xBF, rfl, by simp, by simp; omega⟩

theorem startChar_four (hlow : 65536 ≤ v) (hhigh : v < 0x110000) :
    ∃ low high : UInt8,
      startChar (UInt8.ofNat (v / 262144 % 8 + 240)) = ([], some ⟨v / 262144, low, high, 2⟩) ∧
      low.toNat ≤ v / 4096 % 64 + 128 ∧ v / 4096 % 64 + 128 ≤ high.toNat := by
  rw [startChar, UInt8.toNat_ofNat_of_lt' (show _ < 256 by omega)]
  simp only [show v / 262144 % 8 = v / 262144 by omega, beq_iff_eq]
  rw [if_neg (by omega), if_neg (by omega), if_neg (by omega), if_neg (by omega),
    if_neg (by omega), if_neg (by omega)]
  by_cases hfirst : v / 262144 = 0
  · exact ⟨0x90, 0xBF, by simp [hfirst], by simp; omega, by simp; omega⟩
  rw [if_neg (by omega)]
  by_cases hlast : v / 262144 = 4
  · exact ⟨0x80, 0x8F, by simp [hlast], by simp, by simp; omega⟩
  rw [if_pos (by omega), Nat.add_sub_cancel]
  exact ⟨0x80, 0xBF, rfl, by simp, by simp; omega⟩

theorem decodeFrom_begin (b : UInt8) (bs : List UInt8) :
    decodeFrom none (b :: bs) = (startChar b).1 ++ decodeFrom (startChar b).2 bs := rfl

theorem decodeFrom_one (h : v ≤ 127) :
    decodeFrom none (UInt8.ofNat v :: bs) = some (Char.ofNat v) :: decodeFrom none bs := by
  rw [decodeFrom_begin, startChar, UInt8.toNat_ofNat_of_lt' (show _ < 256 by omega),
    if_pos (by omega)]
  rfl

theorem decodeFrom_two (hlow : 128 ≤ v) (hhigh : v ≤ 2047) :
    decodeFrom none (UInt8.ofNat (v / 64 % 32 + 192) :: UInt8.ofNat (v % 64 + 128) :: bs) =
      some (Char.ofNat v) :: decodeFrom none bs := by
  have hvalue : v / 64 * 64 + (v % 64 + 128 - 0x80) = v := by omega
  rw [decodeFrom_begin, startChar_two hlow hhigh, List.nil_append,
    decodeFrom_last (tail_within v), toNat_tail, hvalue]

theorem decodeFrom_three (hlow : 2048 ≤ v) (hhigh : v ≤ 65535)
    (hscalar : v < 0xD800 ∨ 0xDFFF < v) :
    decodeFrom none (UInt8.ofNat (v / 4096 % 16 + 224) :: UInt8.ofNat (v / 64 % 64 + 128) ::
      UInt8.ofNat (v % 64 + 128) :: bs) = some (Char.ofNat v) :: decodeFrom none bs := by
  obtain ⟨low, high, hstart, hsecond⟩ := startChar_three hlow hhigh hscalar
  rw [← toNat_tail] at hsecond
  have hvalue : (v / 4096 * 64 + (v / 64 % 64 + 128 - 0x80)) * 64 + (v % 64 + 128 - 0x80) = v := by
    omega
  rw [decodeFrom_begin, hstart, List.nil_append, decodeFrom_more hsecond,
    decodeFrom_last (tail_within v), toNat_tail, toNat_tail, hvalue]

theorem decodeFrom_four (hlow : 65536 ≤ v) (hhigh : v < 0x110000) :
    decodeFrom none (UInt8.ofNat (v / 262144 % 8 + 240) :: UInt8.ofNat (v / 4096 % 64 + 128) ::
      UInt8.ofNat (v / 64 % 64 + 128) :: UInt8.ofNat (v % 64 + 128) :: bs) =
      some (Char.ofNat v) :: decodeFrom none bs := by
  obtain ⟨low, high, hstart, hsecond⟩ := startChar_four hlow hhigh
  rw [← toNat_tail] at hsecond
  have hvalue : ((v / 262144 * 64 + (v / 4096 % 64 + 128 - 0x80)) * 64 +
      (v / 64 % 64 + 128 - 0x80)) * 64 + (v % 64 + 128 - 0x80) = v := by
    omega
  rw [decodeFrom_begin, hstart, List.nil_append, decodeFrom_more hsecond,
    decodeFrom_more (tail_within _), decodeFrom_last (tail_within v), toNat_tail, toNat_tail,
    toNat_tail, hvalue]

/-- A character is decoded of its bytes, and what comes behind them is decoded on its own. -/
theorem decodeFrom_char (c : Char) (bs : List UInt8) :
    decodeFrom none (String.utf8EncodeChar c ++ bs) = some c :: decodeFrom none bs := by
  obtain ⟨v, hv⟩ : ∃ v, c.val.toNat = v := ⟨_, rfl⟩
  have hvalid : v < 0xD800 ∨ 0xDFFF < v ∧ v < 0x110000 := hv ▸ c.valid
  have hc : c = Char.ofNat v := by rw [← hv]; exact (Char.ofNat_toNat c).symm
  rw [String.utf8EncodeChar]
  simp only [hv]
  by_cases hone : v ≤ 127
  · rw [if_pos hone, List.singleton_append, decodeFrom_one hone, hc]
  rw [if_neg hone]
  by_cases htwo : v ≤ 2047
  · rw [if_pos htwo]
    simp only [List.cons_append, List.nil_append]
    rw [decodeFrom_two (by omega) htwo, hc]
  rw [if_neg htwo]
  by_cases hthree : v ≤ 65535
  · rw [if_pos hthree]
    simp only [List.cons_append, List.nil_append]
    rw [decodeFrom_three (by omega) hthree (by omega), hc]
  rw [if_neg hthree]
  simp only [List.cons_append, List.nil_append]
  rw [decodeFrom_four (by omega) (by omega), hc]

theorem decodeUtf8_textBytes (s : String) : decodeUtf8 (textBytes s) = s.toList.map some := by
  rw [decodeUtf8, textBytes_eq]
  induction s.toList with
  | nil => rfl
  | cons c cs ih => rw [List.flatMap_cons, decodeFrom_char, ih, List.map_cons]

theorem wholeText?_map_some (cs : List Char) : wholeText? (cs.map some) = some cs := by
  induction cs with
  | nil => rfl
  | cons c cs ih =>
    rw [wholeText?] at *
    rw [List.map_cons, List.mapM_cons, ih]
    rfl

theorem utf8Text?_textBytes (s : String) : utf8Text? (textBytes s) = some s := by
  rw [utf8Text?, decodeUtf8_textBytes, wholeText?_map_some, Option.map_some, String.ofList_toList]

end NodeWarden
