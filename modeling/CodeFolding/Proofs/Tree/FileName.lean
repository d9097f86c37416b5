import CodeFolding.Proofs.Text.Bytes
import CodeFolding.Proofs.Tree.Path
import CodeFolding.Tree.Walk
import Mathlib.Data.List.TakeWhile
/-!
# Names that are texts

Files are found by names in bytes, and reported by texts. A name that a text writes is shown as
this text, and so is a path of such names; other bytes are replaced, so two names may be shown
alike. Main statements: `shown_ofString`, and `found_eq` for the files of a tree.
-/
namespace CodeFolding

/-! ## What stands behind a mark -/

section Marks

variable {α β : Type} [BEq α] [LawfulBEq α] {mark : α} {front behind : List α}

theorem behindLast?_of_not_mem (h : mark ∉ front) : behindLast? mark front = none := by
  have hnone : front.reverse.dropWhile (· != mark) = [] := by
    refine List.dropWhile_eq_nil_iff.2 fun x hx => ?_
    exact bne_iff_ne.2 (ne_of_mem_of_not_mem (List.mem_reverse.1 hx) h)
  rw [behindLast?, hnone]

theorem behindLast?_append_cons (h : mark ∉ behind) :
    behindLast? mark (front ++ mark :: behind) = if front = [] then none else some behind := by
  have hbehind : ∀ x ∈ behind.reverse, (x != mark) = true := by
    exact fun x hx => bne_iff_ne.2 (ne_of_mem_of_not_mem (List.mem_reverse.1 hx) h)
  have hreverse : (front ++ mark :: behind).reverse = behind.reverse ++ mark :: front.reverse := by
    simp
  rw [behindLast?, hreverse, List.dropWhile_append_of_pos hbehind,
    List.takeWhile_append_of_pos hbehind, List.dropWhile_cons_of_neg (by simp),
    List.takeWhile_cons_of_neg (by simp), List.append_nil, List.reverse_reverse]
  cases hfront : front.reverse with
  | nil => rw [if_pos (List.reverse_eq_nil_iff.1 hfront)]
  | cons x rest =>
    have hne : front ≠ [] := by
      rintro rfl
      cases hfront
    rw [if_neg hne]

end Marks

/-- Behind the last byte of a character below 128 stand the bytes of what is behind the last such
character. -/
theorem behindLast?_bytes {d : Char} (hd : d.toNat < 128) (t : Text) :
    behindLast? d.toUInt8 t.bytes = (behindLast? d t).map Text.bytes := by
  by_cases hmem : d ∈ t
  · obtain ⟨behind, front, hsplit, hbehind⟩ := List.eq_append_cons_of_mem (List.mem_reverse.2 hmem)
    obtain rfl : t = front.reverse ++ d :: behind.reverse := by
      rw [← List.reverse_reverse t, hsplit]
      simp
    have hbehind : d ∉ behind.reverse := mt List.mem_reverse.1 hbehind
    have hone : String.utf8EncodeChar d = [d.toUInt8] := by
      rcases Text.utf8EncodeChar_cases d with ⟨hone, -, -⟩ | hlong
      · exact hone
      · exact absurd rfl (hlong d hd).1
    rw [Text.bytes_append, Text.bytes_cons, hone, List.singleton_append,
      behindLast?_append_cons (mt (Text.toUInt8_mem_bytes_iff hd).1 hbehind),
      behindLast?_append_cons hbehind]
    simp only [Text.bytes_eq_nil_iff]
    split <;> rfl
  · rw [behindLast?_of_not_mem hmem,
      behindLast?_of_not_mem (mt (Text.toUInt8_mem_bytes_iff hd).1 hmem)]
    rfl

namespace FileName

variable {s : String} {names : List String}

/-! ## Names as they are shown -/

theorem first?_encode_append (c : Char) (rest : List UInt8) :
    first? (String.utf8EncodeChar c ++ rest) = some c := by
  have hlength : (String.utf8EncodeChar c).length ≤ 4 := by
    rw [String.length_utf8EncodeChar]
    exact Char.utf8Size_le_four c
  rw [first?, List.take_append, List.take_of_length_le hlength, List.toByteArray_append]
  exact ByteArray.utf8DecodeChar?_utf8EncodeChar_append

/-- The bytes of a character that has been read are passed over. -/
theorem textFrom_length_append (read rest : List UInt8) :
    textFrom read.length (read ++ rest) = textFrom 0 rest := by
  induction read with
  | nil => rfl
  | cons b read ih => rw [List.length_cons, List.cons_append, textFrom, ih]

theorem textFrom_encode_append (c : Char) (rest : List UInt8) :
    textFrom 0 (String.utf8EncodeChar c ++ rest) = c :: textFrom 0 rest := by
  have hfirst := first?_encode_append c rest
  obtain ⟨b, bs, hc⟩ := List.exists_cons_of_ne_nil (@String.utf8EncodeChar_ne_nil c)
  have hlength : c.utf8Size - 1 = bs.length := by
    rw [← String.length_utf8EncodeChar, hc, List.length_cons, Nat.add_sub_cancel]
  rw [hc, List.cons_append] at hfirst ⊢
  rw [textFrom, hfirst]
  simp only [hlength, textFrom_length_append]

theorem textFrom_bytes (t : Text) : textFrom 0 t.bytes = t := by
  induction t with
  | nil => rfl
  | cons c t ih => rw [Text.bytes_cons, textFrom_encode_append, ih]

/-- **A name that a text writes is shown as this text.** -/
theorem shown_ofString (s : String) : (ofString s).shown = s := by
  rw [shown, ofString, textFrom_bytes, String.ofList_toList]

theorem join_map_ofString (names : List String) :
    join (names.map ofString) = ofString (Path.join names) := by
  induction names with
  | nil => rfl
  | cons name names ih =>
    cases names with
    | nil => simp [join, Path.join]
    | cons next names =>
      have hslash : Text.bytes "/".toList = ['/'.toUInt8] := by decide
      rw [join] at ih
      rw [join, List.map_cons, List.map_cons, List.intercalate_cons_cons, ← List.map_cons, ih,
        Path.join_cons_cons, ofString, ofString, ofString, String.toList_append,
        String.toList_append, Text.bytes_append, Text.bytes_append, hslash]

theorem toByteArray_bytes (s : String) : s.toByteArray = (Text.bytes s.toList).toByteArray := by
  rw [Text.bytes, ← List.utf8Encode, ← String.toByteArray_ofList, String.ofList_toList]

theorem fromUTF8?_bytes (t : Text) :
    String.fromUTF8? t.bytes.toByteArray = some (String.ofList t) := by
  have hbytes : t.bytes.toByteArray = (String.ofList t).toUTF8 := by
    rw [String.toUTF8_eq_toByteArray, toByteArray_bytes, String.toList_ofList]
  rw [hbytes]
  exact dif_pos (String.ofList t).isValidUTF8

/-- The extension of a name that a text writes is the one of the text. -/
theorem extension_ofString (s : String) : (ofString s).extension = Path.extensionOf s := by
  have hdot : '.'.toNat < 128 := by decide
  rw [extension, Path.extensionOf, ofString, behindLast?_bytes hdot, Option.bind_map]
  congr 1
  cases behindLast? '.' s.toList with
  | none => rfl
  | some ext => exact fromUTF8?_bytes ext

end FileName

namespace Tree

/-- A file of a tree is reported by the texts that are its steps. -/
theorem found_eq (below : List String) (content : ByteArray) :
    found below content =
      ⟨Path.withSlashes (Path.join below), Path.extensionOf (below.getLastD ""), content⟩ := by
  have hlast : (below.map FileName.ofString).getLastD [] =
      FileName.ofString (below.getLastD "") := by
    rw [List.getLastD_eq_getLast?, List.getLastD_eq_getLast?, List.getLast?_map]
    cases below.getLast? <;> rfl
  rw [found, FoundFile.named, FileName.join_map_ofString, FileName.shown_ofString, hlast,
    FileName.extension_ofString]

end Tree

end CodeFolding
