import CodeFolding.Tree.Path
import Mathlib.Data.Char
import Mathlib.Data.List.Lex
import Mathlib.Tactic.SplitIfs
/-!
# Bytes of texts

A character below 128 is its own byte, and the bytes of the other characters are not below 128, so
such a character can be looked for among the bytes. Paths are compared character by character, and
their bytes are in the same order: a form of more bytes begins with a greater byte, and of two forms
of one length the greater one is greater where they differ first. Main statement: `bytes_le_iff`.
-/
namespace CodeFolding

namespace Text

theorem bytes_cons (c : Char) (t : Text) : bytes (c :: t) = String.utf8EncodeChar c ++ bytes t :=
  List.flatMap_cons

theorem bytes_append (s t : Text) : (s ++ t).bytes = s.bytes ++ t.bytes := List.flatMap_append

theorem length_bytes (t : Text) : t.bytes.length = size t := by
  induction t with
  | nil => rfl
  | cons c t ih => rw [bytes_cons, List.length_append, String.length_utf8EncodeChar, ih, size_cons]

theorem bytes_eq_nil_iff {t : Text} : t.bytes = [] ↔ t = [] := by
  cases t with
  | nil => exact iff_of_true rfl rfl
  | cons c t => simp [bytes_cons, String.utf8EncodeChar_ne_nil]

/-- The bytes of a character that takes several are those of no character that takes one. -/
theorem le_of_mem_utf8EncodeChar {c : Char} (h : c.utf8Size ≠ 1) {b : UInt8}
    (hb : b ∈ String.utf8EncodeChar c) : 128 ≤ b.toNat := by
  have hc : 128 ≤ c.val.toNat := by
    rw [ne_eq, Char.utf8Size_eq_one_iff, UInt32.le_iff_toNat_le] at h
    have : (127 : UInt32).toNat = 127 := rfl
    omega
  simp only [String.utf8EncodeChar] at hb
  split_ifs at hb
  · omega
  all_goals
    simp only [List.mem_cons, List.not_mem_nil, or_false, ← UInt8.toNat_inj,
      UInt8.toNat_ofNat'] at hb
    omega

theorem toNat_toUInt8 {c : Char} (h : c.toNat < 128) : c.toUInt8.toNat = c.toNat := by
  have : c.toUInt8.toNat = c.toNat % 256 := UInt32.toNat_toUInt8 c.val
  omega

/-- The bytes of a character are its own byte, or none that a character below 128 has. -/
theorem utf8EncodeChar_cases (c : Char) :
    (String.utf8EncodeChar c = [c.toUInt8] ∧ c.utf8Size = 1 ∧ c.toNat < 128) ∨
      ∀ d : Char, d.toNat < 128 → c ≠ d ∧ d.toUInt8 ∉ String.utf8EncodeChar c := by
  by_cases h : c.utf8Size = 1
  · refine Or.inl ⟨String.utf8EncodeChar_eq_singleton h, h, ?_⟩
    rw [Char.utf8Size_eq_one_iff, UInt32.le_iff_toNat_le] at h
    exact Nat.lt_succ_of_le h
  · refine Or.inr fun d hd => ⟨?_, fun hmem => ?_⟩
    · rintro rfl
      refine h ((Char.utf8Size_eq_one_iff).2 (UInt32.le_iff_toNat_le.2 ?_))
      exact Nat.le_of_lt_succ hd
    · have hle := le_of_mem_utf8EncodeChar h hmem
      rw [toNat_toUInt8 hd] at hle
      omega

theorem toUInt8_inj {c d : Char} (hc : c.toNat < 128) (hd : d.toNat < 128) :
    c.toUInt8 = d.toUInt8 ↔ c = d := by
  rw [← UInt8.toNat_inj, toNat_toUInt8 hc, toNat_toUInt8 hd, Char.toNat_inj]

/-- **A character below 128 stands in a text just if its byte is among the bytes.** -/
theorem toUInt8_mem_bytes_iff {d : Char} (hd : d.toNat < 128) {t : Text} :
    d.toUInt8 ∈ t.bytes ↔ d ∈ t := by
  rw [bytes, List.mem_flatMap]
  constructor
  · rintro ⟨c, hc, hmem⟩
    rcases utf8EncodeChar_cases c with ⟨hone, -, hlt⟩ | hlong
    · rw [hone, List.mem_singleton, toUInt8_inj hd hlt] at hmem
      exact hmem ▸ hc
    · exact absurd hmem (hlong d hd).2
  · intro hmem
    rcases utf8EncodeChar_cases d with ⟨hone, -, -⟩ | hlong
    · exact ⟨d, hmem, by rw [hone]; exact List.mem_singleton_self _⟩
    · exact absurd rfl (hlong d hd).1

end Text

namespace Path

/-- The bytes of a path. -/
def bytes (p : String) : List UInt8 := p.toUTF8.data.toList

theorem bytes_eq (p : String) : bytes p = Text.bytes p.toList := by
  have hform : p.toByteArray = p.toList.utf8Encode := by
    rw [← String.toByteArray_ofList, String.ofList_toList]
  rw [bytes, String.toUTF8_eq_toByteArray, hform, List.utf8Encode, List.toList_data_toByteArray,
    Text.bytes]

/-- The form of a smaller character comes first, whatever stands behind the forms. -/
theorem encode_append_lt {c d : Char} (h : c < d) (u v : List UInt8) :
    String.utf8EncodeChar c ++ u < String.utf8EncodeChar d ++ v := by
  have hlt : c.val.toNat < d.val.toNat := h
  have hd : d.val.toNat < 0x110000 := by
    rcases d.valid with h | h <;> omega
  -- each byte holds the next six bits
  have hbits : ∀ k : Nat, k / 4096 = k / 64 / 64 ∧ k / 262144 = k / 64 / 64 / 64 := by
    intro k
    rw [Nat.div_div_eq_div_mul, Nat.div_div_eq_div_mul]
    exact ⟨rfl, rfl⟩
  simp only [String.utf8EncodeChar, hbits]
  generalize c.val.toNat = m at *
  generalize d.val.toNat = n at *
  split_ifs <;>
    simp only [List.cons_append, List.nil_append, List.cons_lt_cons_iff, UInt8.lt_iff_toNat_lt,
      ← UInt8.toNat_inj, UInt8.toNat_ofNat'] <;>
    omega

theorem flatMap_encode_lt {s t : List Char} (h : s < t) :
    s.flatMap String.utf8EncodeChar < t.flatMap String.utf8EncodeChar := by
  induction s generalizing t with
  | nil =>
    cases t with
    | nil => exact absurd h (List.not_lt_nil _)
    | cons d t =>
      obtain ⟨b, bs, hd⟩ := List.exists_cons_of_ne_nil (@String.utf8EncodeChar_ne_nil d)
      rw [List.flatMap_nil, List.flatMap_cons, hd]
      exact List.nil_lt_cons _ _
  | cons c s ih =>
    cases t with
    | nil => exact absurd h (List.not_lt_nil _)
    | cons d t =>
      rw [List.flatMap_cons, List.flatMap_cons]
      rcases List.cons_lt_cons_iff.1 h with hlt | ⟨rfl, hlt⟩
      · exact encode_append_lt hlt _ _
      · exact List.append_left_lt (ih hlt)

theorem bytes_lt_of_lt {p q : String} (h : p < q) : bytes p < bytes q := by
  rw [bytes_eq, bytes_eq]
  exact flatMap_encode_lt h

/-- **Paths are ordered as their bytes are.** -/
theorem bytes_le_iff {p q : String} : bytes p ≤ bytes q ↔ p ≤ q := by
  constructor
  · intro h
    exact String.not_lt.1 fun hlt => h (bytes_lt_of_lt hlt)
  · intro h hlt
    rcases Decidable.em (p = q) with rfl | hne
    · exact List.lt_irrefl _ hlt
    · have hpq : p < q := by
        refine String.not_le.1 fun hle => hne (String.le_antisymm h hle)
      exact List.lt_asymm (bytes_lt_of_lt hpq) hlt

end Path

end CodeFolding
