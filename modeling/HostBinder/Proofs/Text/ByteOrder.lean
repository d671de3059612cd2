set_option autoImplicit false

namespace HostBinder.Text

def utf8Bytes (s : String) : List UInt8 := s.toByteArray.data.toList

theorem utf8Bytes_eq_flatMap (s : String) : utf8Bytes s = s.toList.flatMap String.utf8EncodeChar := by
  have h := String.toByteArray_ofList (l := s.toList)
  rw [String.ofList_toList] at h
  rw [utf8Bytes, h, List.utf8Encode, List.toList_data_toByteArray]

theorem codePoint_lt (c : Char) : c.val.toNat < 0x110000 := by
  rcases c.valid with h | h
  · exact Nat.lt_trans h (by decide)
  · exact h.2

theorem ofNat_cons_lt {a b : Nat} {x y : List UInt8} (hb : b < 256) (hab : a ≤ b)
    (h : a = b → x < y) : UInt8.ofNat a :: x < UInt8.ofNat b :: y := by
  rw [List.cons_lt_cons_iff, UInt8.lt_iff_toNat_lt, UInt8.toNat_ofNat', UInt8.toNat_ofNat']
  rcases Nat.lt_or_eq_of_le hab with hlt | rfl
  · left; omega
  · exact Or.inr ⟨rfl, h rfl⟩

theorem continuation_lt {m n : Nat} {x y : List UInt8} (hq : m / 64 = n / 64) (hmn : m ≤ n)
    (h : m = n → x < y) :
    UInt8.ofNat (m % 0x40 + 0x80) :: x < UInt8.ofNat (n % 0x40 + 0x80) :: y :=
  ofNat_cons_lt (by omega) (by omega) fun _ => h (by omega)

theorem utf8EncodeChar_append_lt {c d : Char} (h : c < d) (x y : List UInt8) :
    String.utf8EncodeChar c ++ x < String.utf8EncodeChar d ++ y := by
  have hlt : c.val.toNat < d.val.toNat := h
  have hd := codePoint_lt d
  simp only [String.utf8EncodeChar]
  generalize c.val.toNat = m at hlt
  generalize d.val.toNat = n at hlt hd
  -- the longer encoding has the greater first byte; encodings of one length are compared byte by byte
  by_cases h1 : m ≤ 0x7f
  · rw [if_pos h1]
    repeat' split
    all_goals exact ofNat_cons_lt (by omega) (by omega) (by omega)
  rw [if_neg h1, if_neg (by omega : ¬ n ≤ 0x7f)]
  by_cases h2 : m ≤ 0x7ff
  · rw [if_pos h2]
    repeat' split
    · refine ofNat_cons_lt (by omega) (by omega) fun _ => ?_
      exact continuation_lt (by omega) (by omega) (by omega)
    all_goals exact ofNat_cons_lt (by omega) (by omega) (by omega)
  rw [if_neg h2, if_neg (by omega : ¬ n ≤ 0x7ff)]
  by_cases h3 : m ≤ 0xffff
  · rw [if_pos h3]
    split
    · refine ofNat_cons_lt (by omega) (by omega) fun _ => ?_
      refine continuation_lt (by omega) (by omega) fun _ => ?_
      exact continuation_lt (by omega) (by omega) (by omega)
    · exact ofNat_cons_lt (by omega) (by omega) (by omega)
  rw [if_neg h3, if_neg (by omega : ¬ n ≤ 0xffff)]
  refine ofNat_cons_lt (by omega) (by omega) fun _ => ?_
  refine continuation_lt (by omega) (by omega) fun _ => ?_
  refine continuation_lt (by omega) (by omega) fun _ => ?_
  exact continuation_lt (by omega) (by omega) (by omega)

theorem flatMap_utf8_lt {cs ds : List Char} (h : cs < ds) :
    cs.flatMap String.utf8EncodeChar < ds.flatMap String.utf8EncodeChar := by
  induction h with
  | @nil d ds =>
    obtain ⟨b, bs, hb⟩ := List.exists_cons_of_ne_nil (String.utf8EncodeChar_ne_nil (c := d))
    simp [hb]
  | rel hcd =>
    simp only [List.flatMap_cons]
    exact utf8EncodeChar_append_lt hcd _ _
  | cons _ ih =>
    simp only [List.flatMap_cons]
    exact List.append_left_lt ih

theorem utf8Bytes_lt_iff {s t : String} : utf8Bytes s < utf8Bytes t ↔ s < t := by
  have key {s t : String} (h : s < t) : utf8Bytes s < utf8Bytes t := by
    rw [utf8Bytes_eq_flatMap, utf8Bytes_eq_flatMap]
    exact flatMap_utf8_lt h
  refine ⟨fun h => ?_, key⟩
  by_cases heq : s = t
  · subst heq
    exact absurd h (List.lt_irrefl _)
  · have hle : s ≤ t := String.not_lt.mp fun hts => List.lt_asymm h (key hts)
    exact Std.lt_of_le_of_ne hle heq

end HostBinder.Text
