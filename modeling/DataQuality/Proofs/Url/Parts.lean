import DataQuality.Proofs.Url.Path
import Mathlib.Data.List.TakeWhile

/-!
# Parts of addresses

An address is read in parts: what stands before the path gives user, host and port, and does not
depend on what follows. So a text that goes on below an address has the same origin.
-/

namespace DataQuality.Url

/-- What counts of an address behind its scheme and the slashes there. -/
def body (cs : List Char) : List Char :=
  (significant cs).dropWhile isSlash

/-- The part of a body before its path. -/
def authority (body : List Char) : List Char :=
  body.takeWhile fun c => !endsAuthority c

/-- The path of a body and what follows it. -/
def remainder (body : List Char) : List Char :=
  body.dropWhile fun c => !endsAuthority c

/-- User, host and port, in the form that an address has them. -/
structure Origin where
  user : List Char
  host : List Char
  port : Option Nat

/-- Reads user, host and port. -/
def readOrigin (secure : Bool) (authority : List Char) : Except UrlError Origin :=
  let parts := (splitLast? '@' authority).getD ([], authority)
  let length := hostLength false parts.2
  parseHost (parts.2.take length) >>= fun host =>
    (parsePort secure (parts.2.drop length)).map fun port => ⟨userText parts.1, host, port⟩

/-- The address of an origin, with what follows the origin. -/
def ofParts (secure : Bool) (origin : Origin) (rest : List Char) : Url where
  secure := secure
  user := origin.user
  host := origin.host
  port := origin.port
  path := parsePath ((rest.takeWhile (· != '#')).takeWhile (· != '?'))
  query := (after? '?' (rest.takeWhile (· != '#'))).map (percentEncode inQuery)
  fragment := (after? '#' rest).map (percentEncode inFragment)

theorem parseRest_eq (secure : Bool) (cs : List Char) :
    parseRest secure cs =
      (readOrigin secure (authority (body cs))).map fun origin =>
        ofParts secure origin (remainder (body cs)) := by
  unfold parseRest readOrigin
  dsimp only [body, authority, remainder]
  generalize (splitLast? '@' _).getD _ = parts
  cases parseHost (parts.2.take (hostLength false parts.2)) with
  | error e => rfl
  | ok host =>
      cases parsePort secure (parts.2.drop (hostLength false parts.2)) with
      | error e => rfl
      | ok port => rfl

/-- Whatever is read as an address is made of parts. -/
theorem exists_parts_of_read? {cs : List Char} {url : Url} (h : read? cs = some (.ok url)) :
    ∃ secure origin rest, url = ofParts secure origin rest := by
  have hrest : ∀ {secure : Bool} {rest : List Char}, parseRest secure rest = .ok url →
      ∃ secure origin rest, url = ofParts secure origin rest := by
    intro secure rest hread
    rw [parseRest_eq] at hread
    cases horigin : readOrigin secure (authority (body rest)) with
    | error e =>
        rw [horigin] at hread
        cases hread
    | ok origin =>
        rw [horigin] at hread
        exact ⟨_, _, _, (Except.ok.inj hread).symm⟩
  unfold read? at h
  split at h
  next => exact hrest (Option.some.inj h)
  next => exact hrest (Option.some.inj h)
  next => cases h

/-! ## Going on below an address -/

variable {cs more : List Char}

theorem significant_append (cs more : List Char) :
    significant (cs ++ more) = significant cs ++ significant more :=
  List.filter_append cs more

theorem body_append (h : body cs ≠ []) (more : List Char) :
    body (cs ++ more) = body cs ++ significant more := by
  have hne : (body cs).isEmpty = false := List.isEmpty_eq_false_iff.mpr h
  rw [body] at hne ⊢
  rw [significant_append, List.dropWhile_append, hne, body]
  rfl

theorem authority_append_remainder (body : List Char) : authority body ++ remainder body = body :=
  List.takeWhile_append_dropWhile

theorem head?_remainder (body : List Char) :
    ∀ c ∈ (remainder body).head?, endsAuthority c = true := by
  intro c hc
  rw [remainder, ← List.find?_eq_head?_dropWhile_not] at hc
  exact List.find?_some hc

/-- What follows an origin does not change it, if it could not belong to it. -/
theorem parts_append {body more : List Char}
    (h : ∀ c ∈ (remainder body ++ more).head?, endsAuthority c = true) :
    authority (body ++ more) = authority body ∧
      remainder (body ++ more) = remainder body ++ more := by
  have hauthority : ∀ c ∈ authority body, (!endsAuthority c) = true :=
    fun c hc => List.mem_takeWhile_imp (p := fun c => !endsAuthority c) hc
  have hmore : ∀ c ∈ (remainder body ++ more).head?, (!endsAuthority c) = false := by
    intro c hc
    rw [h c hc]
    rfl
  have hparts := Text.span_append hauthority hmore
  rw [← List.append_assoc, authority_append_remainder] at hparts
  exact hparts

/-- Where nothing ends an origin, it goes on. -/
theorem authority_append {body : List Char} (h : remainder body = []) (more : List Char) :
    authority (body ++ more) = body ++ authority more :=
  List.takeWhile_append_of_pos (List.dropWhile_eq_nil_iff.mp h)

/-- The origin of an address does not depend on what follows, if that could not belong to it. -/
theorem parseRest_append (secure : Bool) (h : body cs ≠ [])
    (hmore : ∀ c ∈ (remainder (body cs) ++ significant more).head?, endsAuthority c = true) :
    parseRest secure (cs ++ more) =
      (readOrigin secure (authority (body cs))).map fun origin =>
        ofParts secure origin (remainder (body cs) ++ significant more) := by
  rw [parseRest_eq, body_append h, (parts_append hmore).1, (parts_append hmore).2]

theorem after?_eq_none_iff {mark : Char} : after? mark cs = none ↔ mark ∉ cs := by
  have hdrop : cs.dropWhile (· != mark) = [] ↔ mark ∉ cs := by
    rw [List.dropWhile_eq_nil_iff]
    simp only [bne_iff_ne, ne_eq]
    exact ⟨fun h hmem => h mark hmem rfl, fun h c hc hmark => h (hmark ▸ hc)⟩
  rw [← hdrop]
  unfold after?
  cases cs.dropWhile (· != mark) with
  | nil => exact iff_of_true rfl rfl
  | cons c rest => exact iff_of_false nofun nofun

theorem takeWhile_of_notMem {mark : Char} (h : mark ∉ cs) : cs.takeWhile (· != mark) = cs := by
  rw [List.takeWhile_eq_self_iff]
  intro c hc
  exact bne_iff_ne.mpr fun heq => h (heq ▸ hc)

/-- An address that is the interface of another one: the segment `v1` below its path, with a slash
at the end, and nothing else. -/
structure IsVersionOf (root given : Url) : Prop where
  secure_eq : root.secure = given.secure
  user_eq : root.user = given.user
  host_eq : root.host = given.host
  port_eq : root.port = given.port
  path_eq : root.path = stem given.path ++ [['v', '1'], []]
  query_none : root.query = none
  fragment_none : root.fragment = none

/-- With the same origin, one address is the interface of another one if neither has a query or a
fragment and its path goes on below the other one, and only then. -/
theorem isVersionOf_iff {secure : Bool} {origin : Origin} {rest below : List Char}
    (hmark : ∀ mark : Char, mark = '?' ∨ mark = '#' → (mark ∈ below ↔ mark ∈ rest)) :
    (ofParts secure origin below).IsVersionOf (ofParts secure origin rest) ↔
      ('?' ∉ rest ∧ '#' ∉ rest) ∧
        parsePath below = stem (parsePath rest) ++ [['v', '1'], []] := by
  have hquestion := hmark '?' (.inl rfl)
  have hnumber := hmark '#' (.inr rfl)
  have hpath : '?' ∉ rest → '#' ∉ rest →
      (ofParts secure origin below).path = parsePath below ∧
        (ofParts secure origin rest).path = parsePath rest := by
    intro hnoQuery hnoFragment
    simp only [ofParts]
    rw [takeWhile_of_notMem (mt hnumber.mp hnoFragment), takeWhile_of_notMem hnoFragment,
      takeWhile_of_notMem (mt hquestion.mp hnoQuery), takeWhile_of_notMem hnoQuery]
    exact ⟨rfl, rfl⟩
  constructor
  · rintro ⟨-, -, -, -, hbelow, hquery, hfragment⟩
    have hnoFragment : '#' ∉ rest := by
      rw [← hnumber, ← after?_eq_none_iff]
      exact Option.map_eq_none_iff.mp hfragment
    have hnoQuery : '?' ∉ rest := by
      rw [← hquestion, ← after?_eq_none_iff]
      rw [ofParts, takeWhile_of_notMem (mt hnumber.mp hnoFragment)] at hquery
      exact Option.map_eq_none_iff.mp hquery
    obtain ⟨hroot, hgiven⟩ := hpath hnoQuery hnoFragment
    rw [hroot, hgiven] at hbelow
    exact ⟨⟨hnoQuery, hnoFragment⟩, hbelow⟩
  · rintro ⟨⟨hnoQuery, hnoFragment⟩, hbelow⟩
    obtain ⟨hroot, hgiven⟩ := hpath hnoQuery hnoFragment
    refine ⟨rfl, rfl, rfl, rfl, by rw [hroot, hgiven, hbelow], ?_, ?_⟩
    · rw [ofParts, takeWhile_of_notMem (mt hnumber.mp hnoFragment)]
      exact Option.map_eq_none_iff.mpr (after?_eq_none_iff.mpr (mt hquestion.mp hnoQuery))
    · exact Option.map_eq_none_iff.mpr (after?_eq_none_iff.mpr (mt hnumber.mp hnoFragment))

end DataQuality.Url
