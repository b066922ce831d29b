import DataQuality.Proofs.Url.Parts
import Mathlib.Data.List.DropRight

/-!
# Hosts that end in a margin

The margins of an address, spaces and control characters, do not count at its ends, but a host or a
port with one at its end is refused. Whatever happens to a domain name before its labels are checked
keeps such a character at the end, since nothing stands behind it that could make another one of it,
and then no label may end with it, not even one in ASCII form.
-/

namespace DataQuality.Text

/-! ## Normal forms -/

theorem decompose_of_lt {n : Nat} (h : n < firstComposed) (fuel : Nat) :
    decompose fuel n = [n] := by
  cases fuel with
  | zero => rw [decompose]
  | succ fuel => rw [decompose, parts?, if_pos h]

theorem combiningClass_of_lt {n : Nat} (h : n < firstMark) : combiningClass n = 0 := by
  rw [combiningClass, if_pos h]

theorem compose?_of_lt {n : Nat} (h : n < firstMark) (letter : Nat) : compose? letter n = none := by
  rw [compose?, if_pos h]

theorem orderMarks_concat (marks ns : List (Nat × Nat)) (n : Nat) :
    orderMarks marks (ns ++ [(n, 0)]) = orderMarks marks ns ++ [(n, 0)] := by
  induction ns generalizing marks with
  | nil => rfl
  | cons mark rest ih =>
      obtain ⟨m, k⟩ := mark
      cases k with
      | zero => simp only [List.cons_append, orderMarks, ih, List.append_assoc]
      | succ k => simp only [List.cons_append, orderMarks, ih]

theorem composeFrom_concat {n : Nat} (h : n < firstMark) (letter : Nat)
    (marks ns : List (Nat × Nat)) :
    composeFrom letter marks (ns ++ [(n, 0)]) = composeFrom letter marks ns ++ [n] := by
  induction ns generalizing letter marks with
  | nil =>
      simp only [List.nil_append, composeFrom, compose?_of_lt h, ite_self]
      rfl
  | cons mark rest ih =>
      obtain ⟨m, k⟩ := mark
      simp only [List.cons_append, composeFrom, ih]
      split
      next => rfl
      next =>
        split
        · simp
        · rfl

theorem compose_concat {n : Nat} (h : n < firstMark) (ns : List (Nat × Nat)) :
    compose (ns ++ [(n, 0)]) = compose ns ++ [n] := by
  induction ns with
  | nil => rfl
  | cons mark rest ih =>
      obtain ⟨m, k⟩ := mark
      cases k with
      | zero => exact composeFrom_concat h m [] rest
      | succ k => simp only [List.cons_append, compose, ih]

/-- A character before those that have parts or are marks stays at the end. -/
theorem normal_concat {c : Char} (h : c.toNat < firstComposed) (cs : List Char) :
    normal (cs ++ [c]) = normal cs ++ [c] := by
  have hmark : c.toNat < firstMark := h.trans (by decide)
  simp only [normal, List.flatMap_append, List.flatMap_singleton, decompose_of_lt h,
    List.map_append, List.map_singleton, combiningClass_of_lt hmark, orderMarks_concat,
    compose_concat hmark, Char.ofNat_toNat]

end DataQuality.Text

namespace DataQuality.Url

variable {c : Char}

/-! ## Margins -/

/-- Margins are the first characters of all. -/
theorem of_isMargin {p : Char → Prop} (hall : ∀ n ≤ 32, p (Char.ofNat n))
    (h : isMargin c = true) : p c := by
  rw [← Char.ofNat_toNat c]
  exact hall c.toNat (of_decide_eq_true h)

theorem utf8Bytes_of_isMargin (h : isMargin c = true) : utf8Bytes c = [c.val.toUInt8] := by
  rw [utf8Bytes_eq]
  exact of_isMargin (p := fun c => String.utf8EncodeChar c = [c.val.toUInt8]) (by decide) h

theorem hexValue?_of_isMargin (h : isMargin c = true) : Text.hexValue? c = none :=
  of_isMargin (p := fun c => Text.hexValue? c = none) (by decide) h

theorem ne_of_isMargin {d : Char} (h : isMargin c = true) (hd : 32 < d.toNat) : c ≠ d := by
  rintro rfl
  have hmargin : c.toNat ≤ 32 := of_decide_eq_true h
  omega

/-! ## Bytes -/

/-- A character that is no digit keeps out of what a percent sign stands for. -/
theorem percentDecode_concat (hhex : Text.hexValue? c = none) (hpercent : c ≠ '%')
    (cs : List Char) : percentDecode (cs ++ [c]) = percentDecode cs ++ utf8Bytes c := by
  fun_induction percentDecode cs with
  | case1 a b rest high low hhigh hlow ih =>
      simp only [List.cons_append, percentDecode, hhigh, hlow, ih]
  | case2 a b rest hdigits ih =>
      rw [List.cons_append, List.cons_append, List.cons_append, percentDecode]
      split
      next high low hhigh hlow => exact absurd hlow (hdigits high low hhigh)
      next => exact congrArg (37 :: ·) ih
  | case3 d rest hshort ih =>
      by_cases hd : d = '%'
      · have hbyte : utf8Bytes '%' = [37] := by
          rw [utf8Bytes_eq]
          decide
        subst hd
        rcases rest with _ | ⟨a, _ | ⟨b, more⟩⟩
        · have hpair : ∀ a b more, '%' = '%' → [] ++ [c] = a :: b :: more → False :=
            fun a b more _ h => by simp at h
          rw [List.cons_append, percentDecode, ih, List.append_assoc]
          exact hpair
        · rw [List.cons_append, List.cons_append, List.nil_append, percentDecode]
          split
          next hlow => simp [hhex] at hlow
          next =>
            rw [hbyte, List.append_assoc, ← ih]
            rfl
        · exact absurd rfl (hshort a b more rfl)
      · rw [List.cons_append, percentDecode_cons hd, ih, List.append_assoc]
  | case4 =>
      rw [List.nil_append, percentDecode_cons hpercent, percentDecode, List.append_nil]
      rfl

/-- A text is read from its own bytes only. -/
theorem textBytes_of_decodeUtf8? {bytes : List UInt8} {cs : List Char}
    (h : decodeUtf8? bytes = some cs) : textBytes cs = bytes := by
  have hvalid : (⟨bytes.toArray⟩ : ByteArray).IsValidUTF8 := by
    by_contra hinvalid
    rw [decodeUtf8?, String.fromUTF8?, dif_neg hinvalid] at h
    cases h
  obtain ⟨text, htext⟩ := hvalid
  have hbytes : bytes = textBytes text := by
    have hlist := congrArg (fun bytes : ByteArray => bytes.data.toList) htext
    simp only [List.utf8Encode, List.toList_data_toByteArray] at hlist
    rw [textBytes, funext utf8Bytes_eq]
    exact hlist
  rw [hbytes, textBytes, decodeUtf8?_flatMap] at h
  rw [← Option.some.inj h, hbytes]

/-- Only the byte of a single-byte character is that low. -/
theorem toNat_eq_of_getLast?_utf8Bytes {d : Char} {b : UInt8}
    (h : (utf8Bytes d).getLast? = some b) (hb : b.toNat < 128) : d.toNat = b.toNat := by
  have hlow : ∀ n, UInt8.ofNat (n % 64 + 128) ≠ b := by
    rintro n rfl
    rw [UInt8.toNat_ofNat'] at hb
    omega
  rw [utf8Bytes_eq, String.utf8EncodeChar] at h
  split at h
  next hsmall =>
    have hbyte : UInt8.ofNat d.val.toNat = b := Option.some.inj h
    rw [← hbyte, UInt8.toNat_ofNat', Nat.mod_eq_of_lt (by omega)]
    rfl
  next =>
    split at h
    · exact absurd (Option.some.inj h) (hlow _)
    · split at h
      · exact absurd (Option.some.inj h) (hlow _)
      · exact absurd (Option.some.inj h) (hlow _)

/-- A text whose bytes end with that of a margin ends with it. -/
theorem exists_of_decodeUtf8?_concat {bytes : List UInt8} {cs : List Char} (h : isMargin c = true)
    (hcs : decodeUtf8? (bytes ++ utf8Bytes c) = some cs) : ∃ front, cs = front ++ [c] := by
  have hbytes := textBytes_of_decodeUtf8? hcs
  have hc : utf8Bytes c = [UInt8.ofNat c.toNat] := utf8Bytes_of_isMargin h
  have hsmall : c.toNat ≤ 32 := of_decide_eq_true h
  rw [hc] at hbytes
  rcases List.eq_nil_or_concat' cs with rfl | ⟨front, d, rfl⟩
  · simp [textBytes] at hbytes
  · have hlast := congrArg List.getLast? hbytes
    have hd : utf8Bytes d ≠ [] := by
      rw [utf8Bytes_eq]
      exact String.utf8EncodeChar_ne_nil
    rw [textBytes, List.flatMap_append, List.flatMap_singleton,
      List.getLast?_append_of_ne_nil _ hd, List.getLast?_concat] at hlast
    have hnumber := toNat_eq_of_getLast?_utf8Bytes hlast (by simp; omega)
    have hsame : d.toNat = c.toNat := by
      rw [hnumber, UInt8.toNat_ofNat', Nat.mod_eq_of_lt (by omega)]
    rw [Char.toNat_inj.mp hsame]
    exact ⟨front, rfl⟩

/-! ## Labels -/

theorem isLabel_concat (h : isMargin c = true) (label : List Char) :
    isLabel (label ++ [c]) = false := by
  have hforbidden : (isAscii c && isForbidden c) = true :=
    of_isMargin (p := fun c => (isAscii c && isForbidden c) = true) (by decide) h
  rw [isLabel, Bool.and_eq_false_iff, Bool.and_eq_false_iff]
  refine .inl (.inl (List.all_eq_false.mpr ⟨c, by simp, ?_⟩))
  rw [hforbidden]
  exact Bool.false_ne_true

namespace Punycode

theorem digitValue?_of_isMargin (h : isMargin c = true) : digitValue? c = none :=
  of_isMargin (p := fun c => digitValue? c = none) (by decide) h

/-- A number ends before a character that is no digit. -/
theorem exists_of_readNumber_concat (hc : digitValue? c = none) {bias k weight n i : Nat}
    {text after : List Char} (h : readNumber bias (text ++ [c]) k weight n = some (i, after)) :
    ∃ front, after = front ++ [c] := by
  induction text generalizing k weight n with
  | nil =>
      rw [List.nil_append, readNumber, hc] at h
      cases h
  | cons d rest ih =>
      rw [List.cons_append, readNumber] at h
      split at h
      next => cases h
      next =>
        simp only at h
        split at h
        next =>
          cases h
          exact ⟨rest, rfl⟩
        next => exact ih h

theorem insertAll_concat (hc : digitValue? c = none) (label : List Char) (next n bias : Nat)
    (text : List Char) : insertAll label next n bias (text ++ [c]) = none := by
  generalize htext : text ++ [c] = whole
  fun_induction insertAll label next n bias whole generalizing text with
  | case1 => exact absurd htext (by simp)
  | case2 => rfl
  | case3 => rfl
  | case4 label next n bias d rest i after hread size n' place hn ih =>
      rw [← htext] at hread
      obtain ⟨front, hafter⟩ := exists_of_readNumber_concat hc hread
      exact ih front hafter.symm

theorem decode?_concat (hc : digitValue? c = none) (hhyphen : c ≠ '-') (cs : List Char) :
    decode? (cs ++ [c]) = none := by
  have hsplit : ∃ before text, splitLast (cs ++ [c]) = (before, text ++ [c]) := by
    unfold splitLast
    have hafter : ((cs ++ [c]).reverse.takeWhile (· != '-')).reverse =
        cs.rtakeWhile (· != '-') ++ [c] :=
      List.rtakeWhile_concat_pos _ cs c (bne_iff_ne.mpr hhyphen)
    rw [hafter]
    dsimp only
    split
    next => exact ⟨[], cs, rfl⟩
    next => exact ⟨_, _, rfl⟩
  obtain ⟨before, text, hsplit⟩ := hsplit
  rw [decode?, hsplit]
  exact insertAll_concat hc before 0 128 72 text

end Punycode

/-- A label that ends in a margin is refused, in ASCII form or not. -/
theorem ofLabel?_concat (h : isMargin c = true) (label : List Char) :
    Label.of? (label ++ [c]) = none := by
  have hhyphen : c ≠ '-' := ne_of_isMargin h (by decide)
  unfold Label.of?
  split
  next hmark =>
    obtain heq | ⟨rest, rfl⟩ := List.prefix_concat_iff.mp (List.isPrefixOf_iff_prefix.mp hmark)
    · have hend : ['x', 'n', '-'] ++ ['-'] = label ++ [c] := heq
      exact absurd (List.append_singleton_inj.mp hend).2.symm hhyphen
    · have hdrop : (asciiFormMark ++ rest ++ [c]).drop 4 = rest ++ [c] := rfl
      rw [hdrop, Punycode.decode?_concat (Punycode.digitValue?_of_isMargin h) hhyphen]
      rfl
  next =>
    rw [isLabel_concat h]
    rfl

/-! ## Domain names -/

/-- A name that ends in a margin does so in normal form. -/
theorem normalDomain?_concat (h : isMargin c = true) {cs name : List Char}
    (hname : normalDomain? (cs ++ [c]) = some name) : ∃ front, name = front ++ [c] := by
  have hc : mapDomainChar c = some [c] :=
    of_isMargin (p := fun c => mapDomainChar c = some [c]) (by decide) h
  have hsmall : c.toNat < Text.firstComposed := lt_of_le_of_lt (of_decide_eq_true h) (by decide)
  obtain ⟨parts, hparts, rfl⟩ := Option.map_eq_some_iff.mp hname
  rw [List.mapM_append] at hparts
  simp only [List.mapM_cons, List.mapM_nil, hc] at hparts
  obtain ⟨front, -, hfront⟩ := Option.bind_eq_some_iff.mp hparts
  obtain rfl : front ++ [[c]] = parts := Option.some.inj hfront
  refine ⟨Text.normal front.flatten, ?_⟩
  rw [List.flatten_append, List.flatten_singleton, Text.normal_concat hsmall]

theorem domainToAscii?_concat (h : isMargin c = true) (cs : List Char) :
    domainToAscii? (cs ++ [c]) = none := by
  unfold domainToAscii?
  split
  next =>
    have hc : isForbidden c.toLower = true :=
      of_isMargin (p := fun c => isForbidden c.toLower = true) (by decide) h
    have hany : ((cs ++ [c]).map Char.toLower).any isForbidden = true :=
      List.any_eq_true.mpr ⟨c.toLower, by simp, hc⟩
    exact if_pos hany
  next =>
    unfold internationalToAscii?
    cases hname : normalDomain? (cs ++ [c]) with
    | none => rfl
    | some name =>
        obtain ⟨front, rfl⟩ := normalDomain?_concat h hname
        have hdot : c ≠ '.' := ne_of_isMargin h (by decide)
        obtain ⟨labels, last, -, hlabels⟩ := exists_splitAt_concat hdot front
        rw [Option.bind_eq_bind, Option.bind_some, hlabels, List.mapM_append]
        simp [ofLabel?_concat h]

/-! ## Hosts -/

/-- A host that ends in a margin is refused. -/
theorem parseHost_concat (h : isMargin c = true) (cs : List Char) :
    ∃ e, parseHost (cs ++ [c]) = .error e := by
  unfold parseHost
  split
  next => exact ⟨_, rfl⟩
  next rest htext =>
    have hlast := congrArg List.getLast? htext
    rw [List.getLast?_concat, List.getLast?_cons] at hlast
    split
    next hclosed =>
      rw [hclosed] at hlast
      exact absurd (Option.some.inj hlast) (ne_of_isMargin h (by decide))
    next => exact ⟨_, rfl⟩
  next =>
    have hdomain : (decodeUtf8? (percentDecode (cs ++ [c]))).bind domainToAscii? = none := by
      rw [percentDecode_concat (hexValue?_of_isMargin h) (ne_of_isMargin h (by decide))]
      cases hname : decodeUtf8? (percentDecode cs ++ utf8Bytes c) with
      | none => rfl
      | some name =>
          obtain ⟨front, rfl⟩ := exists_of_decodeUtf8?_concat h hname
          exact domainToAscii?_concat h front
    rw [hdomain]
    exact ⟨_, rfl⟩

/-! ## Origins -/

/-- A host ends where the text does, or before a colon. -/
theorem drop_hostLength (bracketed : Bool) (cs : List Char) :
    hostLength bracketed cs = cs.length ∨
      ∃ rest, cs.drop (hostLength bracketed cs) = ':' :: rest := by
  fun_induction hostLength bracketed cs with
  | case1 => exact .inl rfl
  | case2 bracketed d rest hcolon => exact .inr ⟨rest, by rw [List.drop_zero, hcolon.1]⟩
  | case3 bracketed d rest hd ih =>
      rw [Nat.add_comm, List.length_cons, List.drop_succ_cons]
      exact ih.imp_left (congrArg (· + 1))

theorem parsePort_concat (h : isMargin c = true) (secure : Bool) (digits : List Char) :
    parsePort secure (':' :: (digits ++ [c])) = .error .invalidPort := by
  have hc : c.isDigit = false := of_isMargin (p := fun c => c.isDigit = false) (by decide) h
  have hall : (digits ++ [c]).all Char.isDigit = false :=
    List.all_eq_false.mpr ⟨c, by simp, by simp [hc]⟩
  rw [parsePort, hall]
  rfl

/-- A character that is no separator is behind the last one. -/
theorem exists_splitLast?_concat {mark : Char} (hc : c ≠ mark) (cs : List Char) :
    ∃ before text, (splitLast? mark (cs ++ [c])).getD ([], cs ++ [c]) = (before, text ++ [c]) := by
  have hafter : ((cs ++ [c]).reverse.takeWhile (· != mark)).reverse =
      cs.rtakeWhile (· != mark) ++ [c] :=
    List.rtakeWhile_concat_pos _ cs c (bne_iff_ne.mpr hc)
  unfold splitLast?
  rw [hafter]
  dsimp only
  split
  next => exact ⟨[], cs, rfl⟩
  next => exact ⟨_, _, rfl⟩

/-- A text that ends in a margin gives no origin. -/
theorem readOrigin_concat (h : isMargin c = true) (secure : Bool) (cs : List Char) :
    ∃ e, readOrigin secure (cs ++ [c]) = .error e := by
  have hat : c ≠ '@' := ne_of_isMargin h (by decide)
  obtain ⟨before, text, hparts⟩ := exists_splitLast?_concat hat cs
  unfold readOrigin
  rw [hparts]
  dsimp only
  rcases drop_hostLength false (text ++ [c]) with hlength | ⟨rest, hrest⟩
  · obtain ⟨e, he⟩ := parseHost_concat h text
    rw [hlength, List.take_length, he]
    exact ⟨e, rfl⟩
  · have hport : ∃ digits, rest = digits ++ [c] := by
      obtain ⟨front, hfront⟩ : ':' :: rest <:+ text ++ [c] := hrest ▸ List.drop_suffix _ _
      have hlast := congrArg List.getLast? hfront
      rw [List.getLast?_concat, List.getLast?_append_cons] at hlast
      rcases List.eq_nil_or_concat' rest with rfl | ⟨digits, d, rfl⟩
      · exact absurd (Option.some.inj hlast).symm (ne_of_isMargin h (by decide))
      · rw [List.getLast?_cons, List.getLast?_concat] at hlast
        obtain rfl : d = c := Option.some.inj hlast
        exact ⟨digits, rfl⟩
    obtain ⟨digits, rfl⟩ := hport
    rw [hrest, parsePort_concat h]
    cases parseHost ((text ++ [c]).take (hostLength false (text ++ [c]))) with
    | error e => exact ⟨e, rfl⟩
    | ok host => exact ⟨_, rfl⟩

end DataQuality.Url
