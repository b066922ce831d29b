import DataQuality.Proofs.Text
import DataQuality.Url.Address
import DataQuality.Url.Percent

/-!
# Reading forms

How the names and values of a form are read, as a server reads the query of an address: parts
between `&`, a name and a value around the first `=`, plus signs for spaces, and percent signs with
two digits for bytes. What a form writes is read back, whatever characters the texts consist of.
-/

namespace DataQuality.Url

/-- A plus sign stands for a space. -/
def plusToSpace (c : Char) : Char :=
  if c = '+' then ' ' else c

/-- A name or a value as it is read. -/
def formDecode? (cs : List Char) : Option String :=
  (decodeUtf8? (percentDecode (cs.map plusToSpace))).map String.ofList

/-- A name and a value, before and after the first `=`. -/
def formPair? (cs : List Char) : Option (String × String) := do
  let name ← formDecode? (cs.takeWhile (· != '='))
  let value ← formDecode? ((cs.dropWhile (· != '=')).drop 1)
  return (name, value)

/-- Names and values as they are read; empty parts do not count. -/
def formRead? (cs : List Char) : Option (List (String × String)) :=
  ((splitAt '&' cs).filter fun part => !part.isEmpty).mapM formPair?

/-! ## Bytes -/

theorem toList_loop (bytes : ByteArray) (i : Nat) (read : List UInt8) :
    ByteArray.toList.loop bytes i read = read.reverse ++ bytes.data.toList.drop i := by
  fun_induction ByteArray.toList.loop bytes i read with
  | case1 i read hi ih =>
      have hlength : i < bytes.data.toList.length := hi
      have hget : bytes.get! i = bytes.data.toList[i] := getElem!_pos bytes.data i hi
      rw [ih, List.reverse_cons, List.append_assoc, List.drop_eq_getElem_cons hlength, hget]
      rfl
  | case2 i read hi =>
      have hlength : bytes.data.toList.length ≤ i := Nat.le_of_not_lt hi
      rw [List.drop_eq_nil_of_le hlength, List.append_nil]

theorem toList_eq (bytes : ByteArray) : bytes.toList = bytes.data.toList :=
  toList_loop bytes 0 []

theorem utf8Bytes_eq (c : Char) : utf8Bytes c = String.utf8EncodeChar c := by
  rw [utf8Bytes, toList_eq, String.toUTF8_eq_toByteArray, String.toByteArray_singleton,
    List.utf8Encode_singleton, List.toList_data_toByteArray]

/-- The bytes of characters are read as these characters. -/
theorem decodeUtf8?_flatMap (cs : List Char) : decodeUtf8? (cs.flatMap utf8Bytes) = some cs := by
  have hbytes : (⟨(cs.flatMap utf8Bytes).toArray⟩ : ByteArray) =
      (String.ofList cs).toByteArray := by
    apply ByteArray.ext
    apply Array.toList_inj.mp
    rw [String.toByteArray_ofList, List.utf8Encode, List.toList_data_toByteArray,
      funext utf8Bytes_eq]
  rw [decodeUtf8?, hbytes, String.fromUTF8?, dif_pos (String.ofList cs).isValidUTF8]
  exact congrArg some String.toList_ofList

/-! ## Percent signs -/

theorem hexValue?_upperHex : ∀ n < 16, Text.hexValue? (upperHex n) = some n := by decide

theorem percentDecode_percentByte (b : UInt8) (rest : List Char) :
    percentDecode (percentByte b ++ rest) = b :: percentDecode rest := by
  have hbyte : b.toNat < 256 := b.toNat_lt
  have hhigh := hexValue?_upperHex (b.toNat / 16) (by omega)
  have hlow := hexValue?_upperHex (b.toNat % 16) (by omega)
  have hnumber : UInt8.ofNat (16 * (b.toNat / 16) + b.toNat % 16) = b := by
    rw [Nat.div_add_mod, UInt8.ofNat_toNat]
  simp only [percentByte, List.cons_append, List.nil_append, percentDecode, hhigh, hlow, hnumber]

theorem percentDecode_flatMap (bytes : List UInt8) (rest : List Char) :
    percentDecode (bytes.flatMap percentByte ++ rest) = bytes ++ percentDecode rest := by
  induction bytes with
  | nil => rfl
  | cons b others ih =>
      rw [List.flatMap_cons, List.append_assoc, percentDecode_percentByte, ih, List.cons_append]

/-- Every other character stands for its own bytes. -/
theorem percentDecode_cons {c : Char} (h : c ≠ '%') (rest : List Char) :
    percentDecode (c :: rest) = utf8Bytes c ++ percentDecode rest := by
  rw [percentDecode]
  intro a b more heq
  exact absurd heq h

/-! ## One text -/

theorem upperHex_ne : ∀ n < 16, upperHex n ≠ '+' ∧ upperHex n ≠ '&' ∧ upperHex n ≠ '=' := by
  decide

/-- No byte is written with a character that has a meaning of its own in a form. -/
theorem ne_of_mem_percentByte {b : UInt8} {c : Char} (h : c ∈ percentByte b) :
    c ≠ '+' ∧ c ≠ '&' ∧ c ≠ '=' := by
  have hbyte : b.toNat < 256 := b.toNat_lt
  simp only [percentByte, List.mem_cons, List.not_mem_nil, or_false] at h
  rcases h with rfl | rfl | rfl
  · decide
  · exact upperHex_ne _ (by omega)
  · exact upperHex_ne _ (by omega)

/-- Characters that have a meaning of their own in a form are not written as they are. -/
theorem ne_of_inForm {c : Char} (h : inForm c = true) :
    c ≠ '+' ∧ c ≠ '%' ∧ c ≠ '&' ∧ c ≠ '=' := by
  refine ⟨?_, ?_, ?_, ?_⟩ <;>
  · rintro rfl
    exact absurd h (by decide)

theorem formEncode_cons (c : Char) (rest : List Char) :
    formEncode (c :: rest) = formEncode [c] ++ formEncode rest := by
  simp only [formEncode, List.flatMap_cons, List.flatMap_nil, List.append_nil]

theorem percentDecode_formEncode_singleton (c : Char) (rest : List Char) :
    percentDecode ((formEncode [c]).map plusToSpace ++ rest) =
      utf8Bytes c ++ percentDecode rest := by
  by_cases hspace : c = ' '
  · subst hspace
    exact percentDecode_cons (by decide) rest
  · by_cases hform : inForm c = true
    · obtain ⟨hplus, hpercent, -, -⟩ := ne_of_inForm hform
      have hencode : (formEncode [c]).map plusToSpace = [c] := by
        simp only [formEncode, List.flatMap_cons, List.flatMap_nil, List.append_nil, hspace,
          hform, if_false, if_true, List.map_cons, List.map_nil, plusToSpace, hplus]
      rw [hencode]
      exact percentDecode_cons hpercent rest
    · have hencode : formEncode [c] = (utf8Bytes c).flatMap percentByte := by
        simp only [formEncode, List.flatMap_cons, List.flatMap_nil, List.append_nil, hspace,
          hform, if_false, Bool.false_eq_true]
      have hmap : ((utf8Bytes c).flatMap percentByte).map plusToSpace =
          (utf8Bytes c).flatMap percentByte := by
        refine (List.map_congr_left fun d hd => ?_).trans (List.map_id _)
        obtain ⟨b, -, hb⟩ := List.mem_flatMap.mp hd
        exact if_neg (ne_of_mem_percentByte hb).1
      rw [hencode, hmap]
      exact percentDecode_flatMap _ rest

theorem percentDecode_formEncode (cs : List Char) :
    percentDecode ((formEncode cs).map plusToSpace) = cs.flatMap utf8Bytes := by
  induction cs with
  | nil => rfl
  | cons c rest ih =>
      rw [formEncode_cons, List.map_append, percentDecode_formEncode_singleton, ih,
        List.flatMap_cons]

/-- What a form writes for a text is read as that text. -/
theorem formDecode?_formEncode (s : String) : formDecode? (formEncode s.toList) = some s := by
  rw [formDecode?, percentDecode_formEncode, decodeUtf8?_flatMap, Option.map_some,
    String.ofList_toList]

/-- What a form writes for a text separates nothing. -/
theorem ne_of_mem_formEncode {cs : List Char} {c : Char} (h : c ∈ formEncode cs) :
    c ≠ '&' ∧ c ≠ '=' := by
  obtain ⟨d, -, hd⟩ := List.mem_flatMap.mp h
  split at hd
  next =>
    rw [List.mem_singleton.mp hd]
    decide
  next =>
    split at hd
    next hform =>
      rw [List.mem_singleton.mp hd]
      exact (ne_of_inForm hform).2.2
    next =>
      obtain ⟨b, -, hb⟩ := List.mem_flatMap.mp hd
      exact (ne_of_mem_percentByte hb).2

/-! ## Names and values -/

variable {separator : Char} {part rest : List Char}

theorem splitAt_of_notMem (h : separator ∉ part) : splitAt separator part = [part] := by
  induction part with
  | nil => rfl
  | cons c more ih =>
      rw [List.mem_cons, not_or] at h
      obtain ⟨hc, hmore⟩ := h
      rw [splitAt, if_neg fun heq => hc heq.symm, ih hmore]

theorem splitAt_append (h : separator ∉ part) :
    splitAt separator (part ++ separator :: rest) = part :: splitAt separator rest := by
  induction part with
  | nil => rw [List.nil_append, splitAt, if_pos rfl]
  | cons c more ih =>
      rw [List.mem_cons, not_or] at h
      obtain ⟨hc, hmore⟩ := h
      rw [List.cons_append, splitAt, if_neg fun heq => hc heq.symm, ih hmore]

/-- A name and a value as a form writes them. -/
def formPair (pair : String × String) : List Char :=
  formEncode pair.1.toList ++ '=' :: formEncode pair.2.toList

theorem notMem_formPair (pair : String × String) : '&' ∉ formPair pair := by
  intro hmem
  rcases List.mem_append.mp hmem with hname | hvalue
  · exact (ne_of_mem_formEncode hname).1 rfl
  · rcases List.mem_cons.mp hvalue with heq | hvalue
    · exact absurd heq (by decide)
    · exact (ne_of_mem_formEncode hvalue).1 rfl

theorem formPair?_formPair (pair : String × String) : formPair? (formPair pair) = some pair := by
  have hname : ∀ c ∈ formEncode pair.1.toList, (c != '=') = true := by
    intro c hc
    exact bne_iff_ne.mpr (ne_of_mem_formEncode hc).2
  have hmark : ∀ c ∈ ('=' :: formEncode pair.2.toList).head?, (c != '=') = false := by
    rintro c ⟨⟩
    rfl
  obtain ⟨htake, hdrop⟩ := Text.span_append hname hmark
  rw [formPair?, formPair, htake, hdrop, List.drop_one, List.tail_cons, formDecode?_formEncode,
    formDecode?_formEncode]
  rfl

theorem formPairs_cons_cons (pair next : String × String) (rest : List (String × String)) :
    formPairs (pair :: next :: rest) = formPair pair ++ '&' :: formPairs (next :: rest) := by
  rw [formPair, List.append_assoc]
  rfl

theorem splitAt_formPairs (pair : String × String) (rest : List (String × String)) :
    splitAt '&' (formPairs (pair :: rest)) = (pair :: rest).map formPair := by
  induction rest generalizing pair with
  | nil => exact splitAt_of_notMem (notMem_formPair pair)
  | cons next rest ih =>
      rw [formPairs_cons_cons, splitAt_append (notMem_formPair pair), ih]
      rfl

/-- What a form writes is read back. -/
theorem formRead?_formPairs (pairs : List (String × String)) :
    formRead? (formPairs pairs) = some pairs := by
  cases pairs with
  | nil => rfl
  | cons pair rest =>
      have hparts : ((pair :: rest).map formPair).filter (fun part => !part.isEmpty) =
          (pair :: rest).map formPair := by
        apply List.filter_eq_self.mpr
        intro part hpart
        obtain ⟨written, -, rfl⟩ := List.mem_map.mp hpart
        simp [formPair]
      rw [formRead?, splitAt_formPairs, hparts]
      -- from here on the parts are read one by one
      generalize pair :: rest = pairs
      induction pairs with
      | nil => rfl
      | cons first others ih =>
          rw [List.map_cons, List.mapM_cons, formPair?_formPair, ih]
          rfl

end DataQuality.Url
