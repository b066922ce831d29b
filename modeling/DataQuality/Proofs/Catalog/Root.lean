import DataQuality.Catalog.Rest
import DataQuality.Proofs.Catalog.Settings
import DataQuality.Proofs.Url.Ends

/-!
# The root of the interface

A client that is made from settings has the interface of the address in the settings as its root,
whatever number of slashes the address ends with, if the address is written plainly. Otherwise a
query or a fragment takes in what is meant as the path, the host is lost with the slashes before
it, or the path has one more, empty segment. Spaces and control characters at the end of an address
do not belong to it, but they do to the path of the interface, which is written behind them.
-/

namespace DataQuality

open Url

namespace RestClient

variable {config : CatalogConfig} {settings : RestClient}

/-! ## Accepted settings -/

theorem validate_of_ofConfig (h : ofConfig config = .ok settings) :
    config.validate = .ok () ∧ rootOf config.hostPort = .ok settings.root := by
  unfold ofConfig at h
  cases hvalidate : config.validate with
  | error cause =>
      rw [hvalidate] at h
      cases h
  | ok _ =>
      rw [hvalidate] at h
      cases hroot : rootOf config.hostPort with
      | error e =>
          rw [hroot] at h
          cases h
      | ok root =>
          rw [hroot] at h
          cases hauthorization : authorizationOf config with
          | error e =>
              rw [hauthorization] at h
              cases h
          | ok authorization =>
              rw [hauthorization] at h
              obtain rfl := Except.ok.inj h
              exact ⟨rfl, rfl⟩

theorem hasScheme_of_ofConfig (h : ofConfig config = .ok settings) :
    CatalogConfig.hasScheme config.hostPort = true :=
  CatalogConfig.hasScheme_iff.mpr
    (config.settles_validate.eq_ok_iff.mp (validate_of_ofConfig h).1).addresses

theorem exists_schemeText {hostPort : String} (h : CatalogConfig.hasScheme hostPort = true) :
    ∃ secure rest, hostPort.toList = schemeText secure ++ rest ∧ rest.head? = some '/' := by
  rw [CatalogConfig.hasScheme, Bool.or_eq_true, List.isPrefixOf_iff_prefix,
    List.isPrefixOf_iff_prefix] at h
  rcases h with ⟨more, hmore⟩ | ⟨more, hmore⟩
  · exact ⟨false, '/' :: '/' :: more, hmore.symm, rfl⟩
  · exact ⟨true, '/' :: '/' :: more, hmore.symm, rfl⟩

/-- The root is read from the address in the settings, once its slashes at the end are those of the
interface. -/
theorem read?_of_ofConfig (h : ofConfig config = .ok settings) :
    read? (config.hostPort.toList.rdropWhile (· == '/') ++ "/v1/".toList) =
      some (.ok settings.root) := by
  obtain ⟨secure, rest, htext, -⟩ := exists_schemeText (hasScheme_of_ofConfig h)
  have htrim : trimMargins (config.hostPort.toList.rdropWhile (· == '/') ++ "/v1/".toList) =
      config.hostPort.toList.rdropWhile (· == '/') ++ "/v1/".toList := by
    have hlast : rest.rdropWhile (· == '/') ++ "/v1/".toList =
        (rest.rdropWhile (· == '/') ++ "/v1".toList) ++ ['/'] := by
      rw [List.append_assoc]
      rfl
    rw [htext, rdropWhile_schemeText (by decide), List.append_assoc, trimMargins_schemeText, hlast,
      List.rdropWhile_concat_neg _ _ _ (by decide)]
  have hroot := (validate_of_ofConfig h).2
  unfold rootOf parse? at hroot
  rw [← htrim]
  split at hroot
  next => cases hroot
  next => cases hroot
  next url hread =>
    obtain rfl := Except.ok.inj hroot
    exact hread

/-! ## Collections -/

/-- A client whose root is the interface of an address, and whose collections are right below the
root. -/
structure RootedAt (settings : RestClient) (given : Url) : Prop where
  root : settings.root.IsVersionOf given
  collection_eq : ∀ kind, (settings.url kind []).render =
    settings.root.render ++ "/".intercalate kind.collection

theorem pathText_collection (kind : EntityKind) :
    pathText (kind.collection.map String.toList) =
      '/' :: ("/".intercalate kind.collection).toList := by
  cases kind <;> decide

/-- A collection is right below an address that ends with a slash. -/
theorem render_join_collection {url : Url} {front : List (List Char)}
    (hpath : url.path = front ++ [[]]) (hquery : url.query = none)
    (hfragment : url.fragment = none) (kind : EntityKind) :
    (url.join kind.collection).render = url.render ++ "/".intercalate kind.collection := by
  have hjoin : (url.join kind.collection).path = front ++ kind.collection.map String.toList := by
    rw [join, hpath, List.dropLast_concat]
  have htarget : (url.join kind.collection).target =
      url.target ++ ("/".intercalate kind.collection).toList := by
    rw [target, target, hjoin, hpath, hquery, pathText_append, pathText_append,
      pathText_collection]
    simp [join, pathText]
  have horigin : (url.join kind.collection).originText = url.originText := rfl
  have hnone : (url.join kind.collection).fragment = none := rfl
  apply String.toList_inj.mp
  rw [render, render, horigin, htarget, hnone, hfragment]
  simp

theorem rootedAt_of_isVersionOf {given : Url} (h : settings.root.IsVersionOf given) :
    settings.RootedAt given where
  root := h
  collection_eq kind := by
    have hpath : settings.root.path = (stem given.path ++ [['v', '1']]) ++ [[]] := by
      rw [h.path_eq, List.append_assoc]
      rfl
    exact render_join_collection hpath h.query_none h.fragment_none kind

/-- The root of a client is the interface of the address that its settings give, without what does
not count at its ends and without the slashes at its end, if that address is written plainly, and
only then. -/
theorem rootedAt_iff_plain (h : ofConfig config = .ok settings) :
    (∃ given, read? ((trimMargins config.hostPort.toList).rdropWhile (· == '/')) =
        some (.ok given) ∧ settings.RootedAt given) ↔
      Plain config.hostPort.toList := by
  obtain ⟨secure, rest, htext, hrest⟩ := exists_schemeText (hasScheme_of_ofConfig h)
  have hroot := read?_of_ofConfig h
  rw [htext] at hroot ⊢
  rw [← isVersionOf_iff_plain hrest hroot]
  exact exists_congr fun given =>
    and_congr_right fun _ => ⟨fun hrooted => hrooted.root, rootedAt_of_isVersionOf⟩

/-- Slashes at the end of an address make no difference, nor does a blank before them. A blank at
the very end does not belong to the address, but to the path of the interface. -/
theorem rootedAt_iff_plain_ends :
    (∃ settings given, ofConfig { hostPort := "http://h:8585/api///" } = .ok settings ∧
      settings.root.render = "http://h:8585/api/v1/" ∧
      read? "http://h:8585/api".toList = some (.ok given) ∧ settings.RootedAt given) ∧
    (∃ settings given, ofConfig { hostPort := "http://h/api /" } = .ok settings ∧
      settings.root.render = "http://h/api%20/v1/" ∧
      read? "http://h/api ".toList = some (.ok given) ∧ settings.RootedAt given) ∧
    ∃ settings, ofConfig { hostPort := "http://h/api " } = .ok settings ∧
      settings.root.render = "http://h/api%20/v1/" ∧
      ¬∃ given, read? "http://h/api".toList = some (.ok given) ∧ settings.RootedAt given := by
  have hslashes : ((ofConfig { hostPort := "http://h:8585/api///" }).toOption.map fun settings =>
      settings.root.render) = some "http://h:8585/api/v1/" := by
    decide +kernel
  have hbefore : ((ofConfig { hostPort := "http://h/api /" }).toOption.map fun settings =>
      settings.root.render) = some "http://h/api%20/v1/" := by
    decide +kernel
  have hblank : ((ofConfig { hostPort := "http://h/api " }).toOption.map fun settings =>
      settings.root.render) = some "http://h/api%20/v1/" := by
    decide +kernel
  obtain ⟨first, hfirst, hfirstRoot⟩ := exists_ok_of_map hslashes
  obtain ⟨second, hsecond, hsecondRoot⟩ := exists_ok_of_map hbefore
  obtain ⟨third, hthird, hthirdRoot⟩ := exists_ok_of_map hblank
  refine ⟨?_, ?_, third, hthird, hthirdRoot, fun hrooted => ?_⟩
  · have hplain : Plain "http://h:8585/api///".toList := by
      refine ⟨by decide, by decide, by decide, fun c hc => ?_, fun c hc => ?_⟩
      · obtain rfl : 'i' = c := Option.some.inj hc
        decide
      · obtain rfl : '/' = c := Option.some.inj hc
        decide
    obtain ⟨given, hgiven, hrooted⟩ := (rootedAt_iff_plain hfirst).mpr hplain
    exact ⟨first, given, hfirst, hfirstRoot, hgiven, hrooted⟩
  · have hplain : Plain "http://h/api /".toList := by
      refine ⟨by decide, by decide, by decide, fun c hc => ?_, fun c hc => ?_⟩
      · obtain rfl : ' ' = c := Option.some.inj hc
        decide
      · obtain rfl : '/' = c := Option.some.inj hc
        decide
    obtain ⟨given, hgiven, hrooted⟩ := (rootedAt_iff_plain hsecond).mpr hplain
    exact ⟨second, given, hsecond, hsecondRoot, hgiven, hrooted⟩
  · have hplain := (rootedAt_iff_plain hthird).mp hrooted
    exact absurd (hplain.noMargin ' ' rfl) (by decide)

/-- There are accepted settings for which a query takes in the path of the interface, so that
collections are not below it, and others for which the interface has a host of its own. -/
theorem exists_root_astray :
    (∃ settings, ofConfig { hostPort := "http://h/api?x=1" } = .ok settings ∧
      settings.root.query = some "x=1/v1/".toList ∧
      settings.root.render = "http://h/api?x=1/v1/" ∧
      (settings.url .table []).render = "http://h/tables") ∧
    ∃ settings, ofConfig { hostPort := "http://" } = .ok settings ∧
      settings.root.host = "v1".toList ∧ settings.root.render = "http://v1/" := by
  have hquery : ((ofConfig { hostPort := "http://h/api?x=1" }).toOption.map fun settings =>
      (settings.root.query, settings.root.render, (settings.url .table []).render)) =
        some (some "x=1/v1/".toList, "http://h/api?x=1/v1/", "http://h/tables") := by
    decide +kernel
  have hhost : ((ofConfig { hostPort := "http://" }).toOption.map fun settings =>
      (settings.root.host, settings.root.render)) = some ("v1".toList, "http://v1/") := by
    decide +kernel
  obtain ⟨asking, hasking, hasked⟩ := exists_ok_of_map hquery
  obtain ⟨hostless, hhostless, hnamed⟩ := exists_ok_of_map hhost
  simp only [Prod.mk.injEq] at hasked hnamed
  exact ⟨⟨asking, hasking, hasked⟩, hostless, hhostless, hnamed⟩

end RestClient

end DataQuality
