import DataQuality.Proofs.Url.Growth

/-!
# Ends of addresses

Slashes and margins at the end of a text do not count when it is read as an address, but they may
count once something is written behind them. What is written behind a text, without the slashes at
its end, is below the address that the text gives only if the text has none of the ends that change
their meaning so, and neither a query nor a fragment, which would take in what follows.
-/

namespace DataQuality.Url

/-! ## Addresses that go on -/

theorem IsEnd.notMem {ends : List Char} (h : IsEnd ends) {mark : Char}
    (hmark : mark = '?' ∨ mark = '#') : mark ∉ ends := by
  intro hmem
  have hno : mark ≠ '/' ∧ isMargin mark = false := by
    rcases hmark with rfl | rfl <;> decide
  rcases h mark hmem with heq | hmargin
  · exact hno.1 heq
  · rw [hno.2] at hmargin
    cases hmargin

/-- What is written behind the origin of an address goes on below it if it is a path that does not
end with a slash and has nothing else at its end, and only then. -/
theorem isVersionOf_append_iff {secure : Bool} {origin : Origin} {rest ends : List Char}
    (hends : IsEnd ends) (hhead : ∀ c ∈ (rest ++ ends).head?, endsAuthority c = true) :
    (ofParts secure origin (rest ++ ends ++ "/v1/".toList)).IsVersionOf
        (ofParts secure origin rest) ↔
      ('?' ∉ rest ∧ '#' ∉ rest) ∧ (∀ c ∈ rest.getLast?, isSlash c = false) ∧ ends = [] := by
  have hmark : ∀ mark : Char, mark = '?' ∨ mark = '#' →
      (mark ∈ rest ++ ends ++ "/v1/".toList ↔ mark ∈ rest) := by
    intro mark hmark
    have hversion : mark ∉ "/v1/".toList := by rcases hmark with rfl | rfl <;> decide
    rw [List.mem_append, List.mem_append, or_iff_left hversion, or_iff_left (hends.notMem hmark)]
  rw [isVersionOf_iff hmark]
  refine and_congr_right ?_
  rintro ⟨hnoQuery, hnoFragment⟩
  have hslash : ∀ c ∈ (rest ++ ends).head?, isSlash c = true := by
    intro c hc
    have hnot : ∀ mark : Char, mark = '?' ∨ mark = '#' → mark ∉ rest → c ≠ mark := by
      rintro mark hmark hno rfl
      exact (List.mem_append.mp (List.mem_of_mem_head? hc)).elim hno (hends.notMem hmark)
    have hc := hhead c hc
    rw [endsAuthority, Bool.or_eq_true, Bool.or_eq_true, beq_iff_eq, beq_iff_eq] at hc
    rcases hc with (hc | hc) | hc
    · exact hc
    · exact absurd hc (hnot '?' (.inl rfl) hnoQuery)
    · exact absurd hc (hnot '#' (.inr rfl) hnoFragment)
  by_cases hne : ends = []
  · subst hne
    rw [List.append_nil] at hslash ⊢
    rw [parsePath_append_iff hslash, and_iff_left rfl]
  · refine iff_of_false (fun heq => ?_) fun h => hne h.2
    obtain ⟨c, more, hcs⟩ := List.exists_cons_of_ne_nil
      (List.append_ne_nil_of_right_ne_nil rest hne)
    have hbelow := parsePath_append (hslash c (by rw [hcs]; rfl)) more
    rw [← hcs, heq, List.append_left_inj] at hbelow
    exact stem_parsePath_ne hends hne hslash hbelow

variable {rest ends : List Char}

theorem significant_version : significant "/v1/".toList = "/v1/".toList := by decide

theorem head?_append_version {cs : List Char} (h : ∀ c ∈ cs.head?, endsAuthority c = true) :
    ∀ c ∈ (cs ++ "/v1/".toList).head?, endsAuthority c = true := by
  cases cs with
  | nil =>
      intro c hc
      obtain rfl : '/' = c := Option.some.inj hc
      rfl
  | cons d more => exact h

/-- If an address is read that goes on behind a host and what may stand at its end, nothing of that
belongs to the host. -/
theorem head?_of_parseRest {secure : Bool} {url : Url} (hends : IsEnd ends) (hbody : body rest ≠ [])
    (h : parseRest secure (rest ++ ends ++ "/v1/".toList) = .ok url) :
    ∀ c ∈ (remainder (body rest) ++ significant ends).head?, endsAuthority c = true := by
  by_contra hhead
  simp only [not_forall, Bool.not_eq_true] at hhead
  obtain ⟨c, hc, hnot⟩ := hhead
  have hremainder : remainder (body rest) = [] := by
    by_contra hne
    rw [List.head?_append_of_ne_nil _ hne] at hc
    rw [head?_remainder _ c hc] at hnot
    cases hnot
  rw [hremainder, List.nil_append] at hc
  obtain ⟨more, hmore⟩ := List.head?_eq_some_iff.mp hc
  have hauthority : authority (body (rest ++ ends ++ "/v1/".toList)) =
      body rest ++ authority (significant ends) := by
    rw [List.append_assoc, body_append hbody, significant_append, significant_version,
      authority_append hremainder,
      (parts_append (head?_append_version (head?_remainder (significant ends)))).1]
  have hne : authority (significant ends) ≠ [] := by
    rw [hmore, authority, List.takeWhile_cons_of_pos (by rw [hnot]; rfl)]
    exact List.cons_ne_nil _ _
  -- the last character of the host is none that it may end with
  obtain ⟨front, d, hlast⟩ := (List.eq_nil_or_concat' _).resolve_left hne
  have hd : d ∈ authority (significant ends) := by rw [hlast]; simp
  have hmargin : isMargin d = true := by
    have hmem : d ∈ ends := (List.filter_sublist.mem ((List.takeWhile_sublist _).mem hd))
    rcases hends d hmem with rfl | hmargin
    · exact absurd (List.mem_takeWhile_imp (p := fun c => !endsAuthority c) hd) (by decide)
    · exact hmargin
  obtain ⟨e, he⟩ := readOrigin_concat hmargin secure (body rest ++ front)
  rw [parseRest_eq, hauthority, hlast, ← List.append_assoc, he] at h
  cases h

/-! ## Addresses as they are written -/

theorem mem_dropWhile_iff {cs : List Char} {p : Char → Bool} {c : Char} (h : p c = false) :
    c ∈ cs.dropWhile p ↔ c ∈ cs := by
  refine ⟨fun hmem => (List.dropWhile_suffix p).subset hmem, fun hmem => ?_⟩
  rw [← List.takeWhile_append_dropWhile (p := p) (l := cs), List.mem_append] at hmem
  refine hmem.resolve_left fun htaken => ?_
  rw [List.mem_takeWhile_imp htaken] at h
  cases h

theorem getLast?_dropWhile {cs : List Char} {p : Char → Bool} (h : cs.dropWhile p ≠ []) :
    (cs.dropWhile p).getLast? = cs.getLast? := by
  rw [← List.getLast?_append_of_ne_nil (cs.takeWhile p) h, List.takeWhile_append_dropWhile]

/-- Marks of a query or a fragment stand behind the origin. -/
theorem mem_remainder_iff {mark : Char} (h : mark = '?' ∨ mark = '#') :
    mark ∈ remainder (body rest) ↔ mark ∈ rest := by
  have hmark : isSlash mark = false ∧ (!endsAuthority mark) = false ∧
      (mark != '\t' && mark != '\n' && mark != '\r') = true := by
    rcases h with rfl | rfl <;> decide
  obtain ⟨hslash, hends, hsignificant⟩ := hmark
  rw [remainder, mem_dropWhile_iff hends, body, mem_dropWhile_iff hslash, significant,
    List.mem_filter]
  exact and_iff_left hsignificant

/-- The last character of a text ends the part behind the origin, if it is a slash. -/
theorem noSlash_iff (h : body rest ≠ []) :
    (∀ c ∈ (remainder (body rest)).getLast?, isSlash c = false) ↔
      ∀ c ∈ (significant rest).getLast?, isSlash c = false := by
  have hlast : (body rest).getLast? = (significant rest).getLast? := getLast?_dropWhile h
  rw [← hlast]
  by_cases hremainder : remainder (body rest) = []
  · refine iff_of_true ?_ fun c hc => ?_
    · rw [hremainder]
      exact fun _ h => nomatch h
    · have hends := List.dropWhile_eq_nil_iff.mp hremainder c (List.mem_of_mem_getLast? hc)
      rw [Bool.not_eq_true', endsAuthority, Bool.or_eq_false_iff, Bool.or_eq_false_iff] at hends
      exact hends.1.1
  · rw [remainder, getLast?_dropWhile hremainder]

/-- What is written behind the scheme of an address goes on below it if it has a host, neither a
query nor a fragment, and nothing at its end, and only then. -/
theorem exists_isVersionOf_iff {secure : Bool} {root : Url} (hends : IsEnd ends)
    (hroot : parseRest secure (rest ++ ends ++ "/v1/".toList) = .ok root) :
    (∃ given, parseRest secure rest = .ok given ∧ root.IsVersionOf given) ↔
      body rest ≠ [] ∧ ('?' ∉ rest ∧ '#' ∉ rest) ∧
        (∀ c ∈ (significant rest).getLast?, isSlash c = false) ∧ significant ends = [] := by
  by_cases hbody : body rest = []
  · refine iff_of_false ?_ fun h => h.1 hbody
    rintro ⟨given, hgiven, -⟩
    rw [parseRest_eq, hbody] at hgiven
    cases hgiven
  · have hhead := head?_of_parseRest hends hbody hroot
    have hmore : ∀ c ∈ (remainder (body rest) ++ significant (ends ++ "/v1/".toList)).head?,
        endsAuthority c = true := by
      rw [significant_append, significant_version, ← List.append_assoc]
      exact head?_append_version hhead
    rw [List.append_assoc, parseRest_append secure hbody hmore, significant_append,
      significant_version, ← List.append_assoc] at hroot
    rw [parseRest_eq, and_iff_right hbody, ← noSlash_iff hbody, ← mem_remainder_iff (.inl rfl),
      ← mem_remainder_iff (.inr rfl)]
    have hsignificant : IsEnd (significant ends) := fun c hc => hends c (List.mem_of_mem_filter hc)
    cases horigin : readOrigin secure (authority (body rest)) with
    | error e =>
        rw [horigin] at hroot
        cases hroot
    | ok origin =>
        rw [horigin] at hroot
        obtain rfl := Except.ok.inj hroot
        rw [← @isVersionOf_append_iff secure origin _ _ hsignificant hhead]
        refine ⟨?_, fun h => ⟨_, rfl, h⟩⟩
        rintro ⟨given, hgiven, h⟩
        cases hgiven
        exact h

/-- The scheme of an address and the colon behind it. -/
def schemeText (secure : Bool) : List Char :=
  "http".toList ++ (if secure then ['s'] else []) ++ [':']

theorem read?_schemeText (secure : Bool) (rest : List Char) :
    read? (schemeText secure ++ rest) = some (parseRest secure rest) := by
  cases secure <;> rfl

theorem schemeText_append_inj {secure secure' : Bool}
    (h : schemeText secure ++ rest = schemeText secure') : rest = [] := by
  cases secure <;> cases secure' <;> simp_all [schemeText]

theorem rdropWhile_schemeText {p : Char → Bool} (h : p ':' = false) (secure : Bool)
    (rest : List Char) :
    (schemeText secure ++ rest).rdropWhile p = schemeText secure ++ rest.rdropWhile p := by
  induction rest using List.reverseRecOn with
  | nil =>
      have hcolon : schemeText secure = (schemeText secure).dropLast ++ [':'] := by
        cases secure <;> rfl
      rw [List.append_nil, List.rdropWhile_nil, List.append_nil, hcolon,
        List.rdropWhile_concat_neg _ _ _ (by rw [h]; exact Bool.false_ne_true)]
  | append_singleton rest c ih =>
      rw [← List.append_assoc, List.rdropWhile_concat, List.rdropWhile_concat, ih]
      split
      · rfl
      · exact List.append_assoc _ _ _

theorem trimMargins_schemeText (secure : Bool) (rest : List Char) :
    trimMargins (schemeText secure ++ rest) = schemeText secure ++ rest.rdropWhile isMargin := by
  have hstart : (schemeText secure ++ rest).dropWhile isMargin = schemeText secure ++ rest := by
    cases secure <;> rfl
  rw [trimMargins, hstart]
  exact rdropWhile_schemeText (by decide) secure rest

/-! ## How a text ends -/

/-- A text is written plainly if it goes on after its scheme, has neither query nor fragment, does
not end with a slash or a backslash once the slashes at its very end are dropped, and does not end
with a space or a control character. Tabs and line breaks at its end do not count. -/
structure Plain (text : List Char) : Prop where
  goesOn : ∀ secure, text.rdropWhile (· == '/') ≠ schemeText secure
  noQuery : '?' ∉ text
  noFragment : '#' ∉ text
  noSlash : ∀ c ∈ (significant (text.rdropWhile (· == '/'))).getLast?, isSlash c = false
  noMargin : ∀ c ∈ (significant text).getLast?, isMargin c = false

/-- What a text ends with: margins, and slashes before them. -/
structure Ending (text : List Char) where
  kept : List Char
  slashes : List Char
  margins : List Char
  eq_append : text = kept ++ slashes ++ margins
  eq_slash : ∀ c ∈ slashes, c = '/'
  isMargin_eq : ∀ c ∈ margins, isMargin c = true
  kept_eq : kept = (text.rdropWhile isMargin).rdropWhile (· == '/')
  noMargin : ∀ c ∈ (kept ++ slashes).getLast?, isMargin c = false

def endingOf (text : List Char) : Ending text where
  kept := (text.rdropWhile isMargin).rdropWhile (· == '/')
  slashes := (text.rdropWhile isMargin).rtakeWhile (· == '/')
  margins := text.rtakeWhile isMargin
  eq_append := by rw [List.rdropWhile_append_rtakeWhile, List.rdropWhile_append_rtakeWhile]
  eq_slash c hc := beq_iff_eq.mp (List.mem_rtakeWhile_imp (p := (· == '/')) hc)
  isMargin_eq c hc := List.mem_rtakeWhile_imp hc
  kept_eq := rfl
  noMargin := by
    rw [List.rdropWhile_append_rtakeWhile]
    intro c hc
    obtain ⟨hne, rfl⟩ := List.mem_getLast?_eq_getLast hc
    exact Bool.eq_false_iff.mpr (List.rdropWhile_last_not isMargin text hne)

/-! ### What counts at an end -/

/-- If none of some characters may come last, none of them is at the end. -/
theorem eq_nil_of_getLast? {p : Char → Bool} (front : List Char) {more : List Char}
    (hall : ∀ c ∈ more, p c = true) (hlast : ∀ c ∈ (front ++ more).getLast?, p c = false) :
    more = [] := by
  rcases List.eq_nil_or_concat' more with rfl | ⟨others, d, rfl⟩
  · rfl
  · have hd := hlast d (by rw [← List.append_assoc, List.getLast?_concat]; rfl)
    rw [hall d (by simp)] at hd
    cases hd

theorem getLast?_significant {cs : List Char} (h : ∀ c ∈ cs.getLast?, isMargin c = false) :
    (significant cs).getLast? = cs.getLast? := by
  rcases List.eq_nil_or_concat' cs with rfl | ⟨front, d, rfl⟩
  · rfl
  · have hd : isMargin d = false := h d List.getLast?_concat
    have hcounts : significant [d] = [d] := by
      rw [significant_eq_self_iff]
      intro c hc
      obtain rfl := List.mem_singleton.mp hc
      refine ⟨?_, ?_, ?_⟩ <;>
      · rintro rfl
        exact absurd hd (by decide)
    rw [significant_append, hcounts, List.getLast?_concat, List.getLast?_concat]

/-- The start of a text that starts with a slash is empty if nothing of it counts. -/
theorem eq_nil_of_prefix {text front : List Char} (htext : text.head? = some '/')
    (hfront : front <+: text) (h : significant front = []) : front = [] := by
  cases front with
  | nil => rfl
  | cons c more =>
      obtain ⟨others, rfl⟩ := hfront
      obtain rfl : c = '/' := Option.some.inj htext
      cases h

namespace Ending

variable {text : List Char} (ending : Ending text)

/-- What stays of an ending when only slashes are dropped. -/
def left : List Char :=
  if ending.margins = [] then [] else ending.slashes ++ ending.margins

theorem isEnd_append : IsEnd (ending.slashes ++ ending.margins) :=
  fun c hc => (List.mem_append.mp hc).imp (ending.eq_slash c) (ending.isMargin_eq c)

theorem isEnd_left : IsEnd ending.left := by
  unfold left
  split
  · exact fun c hc => absurd hc List.not_mem_nil
  · exact ending.isEnd_append

/-- Margins keep the slashes before them. -/
theorem rdropWhile_slash : text.rdropWhile (· == '/') = ending.kept ++ ending.left := by
  unfold left
  split
  next hmargins =>
    have htext : text = ending.kept ++ ending.slashes := by
      rw [← List.append_nil (_ ++ _), ← hmargins]
      exact ending.eq_append
    have hself : text.rdropWhile isMargin = text := by
      rw [List.rdropWhile_eq_self_iff]
      intro hne
      refine Bool.eq_false_iff.mp (ending.noMargin _ ?_)
      rw [← htext, List.getLast?_eq_some_getLast hne]
      rfl
    rw [List.append_nil, ending.kept_eq, hself]
  next hmargins =>
    rw [← List.append_assoc, ← ending.eq_append, List.rdropWhile_eq_self_iff]
    intro hne hslash
    have hlast : text.getLast? = ending.margins.getLast? := by
      conv_lhs => rw [ending.eq_append]
      exact List.getLast?_append_of_ne_nil _ hmargins
    have hmem : text.getLast hne ∈ ending.margins := by
      apply List.mem_of_mem_getLast?
      rw [← hlast, List.getLast?_eq_some_getLast hne]
      rfl
    exact ne_of_isMargin (ending.isMargin_eq _ hmem) (by decide) (beq_iff_eq.mp hslash)

theorem mem_iff {mark : Char} (hmark : mark = '?' ∨ mark = '#') :
    mark ∈ text ↔ mark ∈ ending.kept := by
  conv_lhs => rw [ending.eq_append]
  rw [List.append_assoc, List.mem_append, or_iff_left (ending.isEnd_append.notMem hmark)]

/-- If nothing counts of what stays, no margin counts. -/
theorem significant_margins_of_left (h : significant ending.left = []) :
    significant ending.margins = [] := by
  unfold left at h
  split at h
  next hmargins =>
    rw [hmargins]
    rfl
  next =>
    rw [significant_append] at h
    exact (List.append_eq_nil_iff.mp h).2

variable {front : List Char}

theorem significant_margins (h : ∀ c ∈ (significant (front ++ text)).getLast?, isMargin c = false) :
    significant ending.margins = [] := by
  rw [ending.eq_append, ← List.append_assoc, significant_append] at h
  exact eq_nil_of_getLast? _ (fun c hc => ending.isMargin_eq c (List.mem_of_mem_filter hc)) h

/-- If no margin counts, nothing counts of what stays, unless a slash comes last. -/
theorem significant_left (hmargins : significant ending.margins = [])
    (h : ∀ c ∈ (significant (front ++ (ending.kept ++ ending.left))).getLast?, isSlash c = false) :
    significant ending.left = [] := by
  have hslash : ∀ c ∈ significant ending.left, isSlash c = true := by
    intro c hc
    unfold left at hc
    split at hc
    next => cases hc
    next =>
      rw [significant_append, hmargins, List.append_nil] at hc
      rw [ending.eq_slash c (List.mem_of_mem_filter hc)]
      rfl
  rw [← List.append_assoc, significant_append] at h
  exact eq_nil_of_getLast? _ hslash h

/-- What counts last of a text that keeps something and of which nothing else counts. -/
theorem getLast?_significant_append (hkept : significant ending.kept ≠ [])
    (hleft : significant ending.left = []) :
    (significant (front ++ (ending.kept ++ ending.left))).getLast? =
      (significant ending.kept).getLast? := by
  rw [significant_append, significant_append, hleft, List.append_nil,
    List.getLast?_append_of_ne_nil _ hkept]

theorem noMargin_of_left (hkept : significant ending.kept ≠ [])
    (hleft : significant ending.left = []) :
    ∀ c ∈ (significant (front ++ text)).getLast?, isMargin c = false := by
  have hne : significant (ending.kept ++ ending.slashes) ≠ [] := by
    rw [significant_append]
    exact List.append_ne_nil_of_left_ne_nil hkept _
  have hlast : (significant (front ++ text)).getLast? =
      (ending.kept ++ ending.slashes).getLast? := by
    conv_lhs => rw [ending.eq_append]
    rw [significant_append, significant_append _ ending.margins,
      ending.significant_margins_of_left hleft, List.append_nil,
      List.getLast?_append_of_ne_nil _ hne, getLast?_significant ending.noMargin]
  rw [hlast]
  exact ending.noMargin

end Ending

/-- A text is written plainly if what it keeps without its end has a host, is followed by neither a
query nor a fragment, and nothing that counts is left behind it. -/
theorem plain_iff {secure : Bool} (hrest : rest.head? = some '/') (ending : Ending rest) :
    Plain (schemeText secure ++ rest) ↔
      body ending.kept ≠ [] ∧ ('?' ∉ ending.kept ∧ '#' ∉ ending.kept) ∧
        (∀ c ∈ (significant ending.kept).getLast?, isSlash c = false) ∧
          significant ending.left = [] := by
  have hwritten : (schemeText secure ++ rest).rdropWhile (· == '/') =
      schemeText secure ++ (ending.kept ++ ending.left) := by
    rw [rdropWhile_schemeText (by decide), ending.rdropWhile_slash]
  have hmark : ∀ mark : Char, mark = '?' ∨ mark = '#' →
      (mark ∈ schemeText secure ++ rest ↔ mark ∈ ending.kept) := by
    intro mark hmark
    have hscheme : mark ∉ schemeText secure := by
      rcases hmark with rfl | rfl <;> cases secure <;> decide
    rw [List.mem_append, or_iff_right hscheme, ending.mem_iff hmark]
  have hquery := hmark '?' (.inl rfl)
  have hfragment := hmark '#' (.inr rfl)
  constructor
  · rintro ⟨hgoesOn, hnoQuery, hnoFragment, hnoSlash, hnoMargin⟩
    rw [hwritten] at hnoSlash
    have hleft := ending.significant_left (ending.significant_margins hnoMargin) hnoSlash
    have hkept : significant ending.kept ≠ [] := by
      intro hnil
      have hall : significant (rest.rdropWhile (· == '/')) = [] := by
        rw [ending.rdropWhile_slash, significant_append, hnil, hleft]
        rfl
      refine hgoesOn secure ?_
      rw [rdropWhile_schemeText (by decide),
        eq_nil_of_prefix hrest (List.rdropWhile_prefix _ _) hall, List.append_nil]
    rw [ending.getLast?_significant_append hkept hleft] at hnoSlash
    refine ⟨fun hbody => ?_, ⟨mt hquery.mpr hnoQuery, mt hfragment.mpr hnoFragment⟩, hnoSlash,
      hleft⟩
    exact hkept (eq_nil_of_getLast? [] (List.dropWhile_eq_nil_iff.mp hbody) hnoSlash)
  · rintro ⟨hbody, ⟨hnoQuery, hnoFragment⟩, hnoSlash, hleft⟩
    have hkept : significant ending.kept ≠ [] := by
      intro hnil
      rw [body, hnil] at hbody
      exact hbody rfl
    refine ⟨fun other heq => ?_, mt hquery.mp hnoQuery, mt hfragment.mp hnoFragment, ?_,
      ending.noMargin_of_left hkept hleft⟩
    · rw [hwritten] at heq
      have hnil := (List.append_eq_nil_iff.mp (schemeText_append_inj heq)).1
      rw [hnil] at hkept
      exact hkept rfl
    · rw [hwritten, ending.getLast?_significant_append hkept hleft]
      exact hnoSlash

/-- The address that a text makes with `v1` behind it, once it has no slashes at its end, is the
interface of the address that the text gives if the text is written plainly, and only then. -/
theorem isVersionOf_iff_plain {secure : Bool} (hrest : rest.head? = some '/') {root : Url}
    (hroot : read? ((schemeText secure ++ rest).rdropWhile (· == '/') ++ "/v1/".toList) =
      some (.ok root)) :
    (∃ given, read? ((trimMargins (schemeText secure ++ rest)).rdropWhile (· == '/')) =
        some (.ok given) ∧ root.IsVersionOf given) ↔
      Plain (schemeText secure ++ rest) := by
  let ending := endingOf rest
  have hcolon : (':' == '/') = false := by decide
  rw [rdropWhile_schemeText hcolon, ending.rdropWhile_slash, List.append_assoc,
    read?_schemeText] at hroot
  rw [trimMargins_schemeText, rdropWhile_schemeText hcolon, ← ending.kept_eq, read?_schemeText,
    plain_iff hrest ending, ← exists_isVersionOf_iff ending.isEnd_left (Option.some.inj hroot)]
  simp only [Option.some.injEq]

end DataQuality.Url
