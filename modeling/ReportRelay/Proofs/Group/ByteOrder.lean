/-
# Texts compared by their bytes

Texts are compared by the code points of their characters.  Written in UTF-8 they are compared by
their bytes, and that is the same order (`compareLex_bytes`): the first byte of a character grows
with the number of bytes that it takes, and within one number of bytes they hold the digits of its
code point to the base 64.  So of two characters the smaller one is told by the bytes of the two
alone, whatever follows them (`compareLex_encode_of_lt`).
-/
import ReportRelay.Proofs.Group.NameOrder

namespace ReportRelay

namespace NameOrder

/-- The bytes of a text. -/
def bytes (text : String) : List UInt8 := text.toUTF8.data.toList

/-- The bytes of a text are those of its characters. -/
theorem bytes_eq (text : String) : bytes text = text.toList.flatMap String.utf8EncodeChar := by
  have hencode : text.toUTF8 = (text.toList.flatMap String.utf8EncodeChar).toByteArray :=
    String.utf8Encode_toList.symm
  rw [bytes, hencode, List.data_toByteArray]

/-! ## Characters -/

/-- Bytes are compared as the numbers that they hold. -/
theorem compare_ofNat {m n : Nat} (hm : m < 256) (hn : n < 256) :
    compare (UInt8.ofNat m) (UInt8.ofNat n) = compare m n := by
  have hm' : (UInt8.ofNat m).toNat = m := UInt8.toNat_ofNat_of_lt' hm
  have hn' : (UInt8.ofNat n).toNat = n := UInt8.toNat_ofNat_of_lt' hn
  show compareOfLessAndEq _ _ = compareOfLessAndEq _ _
  simp only [compareOfLessAndEq, UInt8.lt_iff_toNat_lt, ← UInt8.toNat_inj, hm', hn']

/-- A character takes one to four bytes, by the size of its code point.  All but the first one
hold a digit of it to the base 64. -/
theorem encode_cases (c : Char) :
    (c.toNat < 0x80 ∧ String.utf8EncodeChar c = [.ofNat c.toNat]) ∨
    (0x80 ≤ c.toNat ∧ c.toNat < 0x800 ∧
      String.utf8EncodeChar c = [.ofNat (c.toNat / 64 + 192), .ofNat (c.toNat % 64 + 128)]) ∨
    (0x800 ≤ c.toNat ∧ c.toNat < 0x10000 ∧
      String.utf8EncodeChar c = [.ofNat (c.toNat / 4096 + 224), .ofNat (c.toNat / 64 % 64 + 128),
        .ofNat (c.toNat % 64 + 128)]) ∨
    (0x10000 ≤ c.toNat ∧ c.toNat < 0x110000 ∧
      String.utf8EncodeChar c = [.ofNat (c.toNat / 262144 + 240),
        .ofNat (c.toNat / 4096 % 64 + 128), .ofNat (c.toNat / 64 % 64 + 128),
        .ofNat (c.toNat % 64 + 128)]) := by
  have hmax : c.toNat < 0x110000 := by
    rcases c.valid with h | ⟨-, h⟩
    · exact Nat.lt_trans h (by decide)
    · exact h
  -- each bound is one of the tests that the encoding makes
  rcases Nat.lt_or_ge c.toNat 0x80 with h1 | h1
  · exact Or.inl ⟨h1, if_pos (Nat.le_of_lt_succ h1)⟩
  have hnot1 := Nat.not_le.mpr h1
  rcases Nat.lt_or_ge c.toNat 0x800 with h2 | h2
  · have hfirst : c.toNat / 64 % 32 = c.toNat / 64 := Nat.mod_eq_of_lt (by omega)
    rw [← hfirst]
    exact Or.inr (Or.inl ⟨h1, h2, (if_neg hnot1).trans (if_pos (Nat.le_of_lt_succ h2))⟩)
  have hnot2 := Nat.not_le.mpr h2
  rcases Nat.lt_or_ge c.toNat 0x10000 with h3 | h3
  · have hfirst : c.toNat / 4096 % 16 = c.toNat / 4096 := Nat.mod_eq_of_lt (by omega)
    rw [← hfirst]
    exact Or.inr (Or.inr (Or.inl ⟨h2, h3,
      (if_neg hnot1).trans ((if_neg hnot2).trans (if_pos (Nat.le_of_lt_succ h3)))⟩))
  · have hnot3 := Nat.not_le.mpr h3
    have hfirst : c.toNat / 262144 % 8 = c.toNat / 262144 := Nat.mod_eq_of_lt (by omega)
    rw [← hfirst]
    exact Or.inr (Or.inr (Or.inr ⟨h3, hmax,
      (if_neg hnot1).trans ((if_neg hnot2).trans (if_neg hnot3))⟩))

/-- A character of a smaller code point has the smaller bytes, whatever follows them. -/
theorem compareLex_encode_of_lt {c d : Char} (h : c.toNat < d.toNat) (rest more : List UInt8) :
    List.compareLex compare (String.utf8EncodeChar c ++ rest) (String.utf8EncodeChar d ++ more)
      = .lt := by
  -- the first byte decides if the characters take different numbers of bytes, else the digits do
  rcases encode_cases c with ⟨hc, hbytes⟩ | ⟨hc, hc', hbytes⟩ | ⟨hc, hc', hbytes⟩ |
    ⟨hc, hc', hbytes⟩ <;>
  rcases encode_cases d with ⟨hd, hbytes'⟩ | ⟨hd, hd', hbytes'⟩ | ⟨hd, hd', hbytes'⟩ |
    ⟨hd, hd', hbytes'⟩ <;>
  rw [hbytes, hbytes'] <;>
  simp (disch := omega) only [List.cons_append, List.compareLex_cons_cons, Ordering.then_eq_lt,
    compare_ofNat, Nat.compare_eq_lt, Nat.compare_eq_eq] <;>
  omega

/-! ## Texts -/

/-- Characters in a row are compared as their bytes in a row. -/
theorem compareLex_encode (text other : List Char) :
    List.compareLex compare (text.flatMap String.utf8EncodeChar)
        (other.flatMap String.utf8EncodeChar)
      = List.compareLex compareChars text other := by
  induction text generalizing other with
  | nil =>
      cases other with
      | nil => rfl
      | cons d other =>
          have hne : String.utf8EncodeChar d ≠ [] := String.utf8EncodeChar_ne_nil
          obtain ⟨byte, rest, hd⟩ := List.exists_cons_of_ne_nil hne
          rw [List.flatMap_cons, hd]
          rfl
  | cons c text ih =>
      cases other with
      | nil =>
          have hne : String.utf8EncodeChar c ≠ [] := String.utf8EncodeChar_ne_nil
          obtain ⟨byte, rest, hc⟩ := List.exists_cons_of_ne_nil hne
          rw [List.flatMap_cons, hc]
          rfl
      | cons d other =>
          rw [List.flatMap_cons, List.flatMap_cons, List.compareLex_cons_cons]
          rcases Nat.lt_trichotomy c.toNat d.toNat with hlt | heq | hgt
          · have hcmp : compareChars c d = .lt := Nat.compare_eq_lt.mpr hlt
            rw [compareLex_encode_of_lt hlt, hcmp]
            rfl
          · obtain rfl := Char.toNat_inj.mp heq
            have hcmp : compareChars c c = .eq := Std.ReflCmp.compare_self
            rw [compareLex_append_left, ih, hcmp]
            rfl
          · have hcmp : compareChars c d = .gt := Nat.compare_eq_gt.mpr hgt
            have hbytes := compareLex_encode_of_lt hgt (other.flatMap String.utf8EncodeChar)
              (text.flatMap String.utf8EncodeChar)
            rw [hcmp, Std.OrientedCmp.gt_of_lt hbytes]
            rfl

/-- **Texts are compared by their bytes as by their characters.** -/
theorem compareLex_bytes (a b : String) :
    List.compareLex compare (bytes a) (bytes b)
      = List.compareLex compareChars a.toList b.toList := by
  rw [bytes_eq, bytes_eq, compareLex_encode]

end NameOrder

end ReportRelay
