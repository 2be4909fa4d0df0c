import FacetedSearch.Facet.Execute
import FacetedSearch.Proofs.Facet.Fault
import FacetedSearch.Proofs.Facet.Page
import FacetedSearch.Proofs.Generation.Session

/-!
# FacetedSearch.Proofs.Facet.Paging — the pages of a term facet

The result of a term facet holds one page of its groups and tells what stands behind it.  The main
result, `termResult_paged`, says which order the pages are cut from, which slice a page is, and
that nothing is lost between the pages or in the counts.
-/

namespace FacetedSearch

open List (Perm)

variable {p : PreparedFacet} {g : Generation}

theorem Generation.run_map {α β : Type} (g : Generation) (s : Session α) (f : α → β) :
    (g.run (s >>= fun a => pure (f a))).1 = (g.run s).1.map f := by
  rw [run_bind]
  rcases g.run s with ⟨e | a, g'⟩ <;> rfl

namespace PreparedFacet

theorem run_group_eq_ok {label : String} {b : Bucket} {group : FacetValue}
    (h : (g.run (p.group label b)).1 = .ok group) : group.label = label ∧ group.hits = b.hits := by
  unfold PreparedFacet.group at h
  rw [Generation.run_map] at h
  obtain ⟨value, -, rfl⟩ := map_eq_ok.mp h
  exact ⟨rfl, rfl⟩

/-- The shown groups are those of the page, each with its term and its hits. -/
theorem map_of_run_groups {page : List (String × Bucket)} {values : List FacetValue}
    (h : (g.run (page.mapM fun x => p.group x.1 x.2)).1 = .ok values) :
    (values.map fun x => (x.label, x.hits)) = page.map fun x => (x.1, x.2.hits) := by
  induction page generalizing g values with
  | nil =>
    cases h
    rfl
  | cons x rest ih =>
    rw [List.mapM_cons, Generation.run_bind] at h
    rcases hgroup : g.run (p.group x.1 x.2) with ⟨e | group, g'⟩ <;> rw [hgroup] at h
    · cases h
    · have hx := run_group_eq_ok (congrArg Prod.fst hgroup)
      dsimp only at h
      rw [Generation.run_map] at h
      obtain ⟨others, hrest, rfl⟩ := map_eq_ok.mp h
      rw [List.map_cons, List.map_cons, ih hrest, hx.1, hx.2]

/-- Where hits are counted, no group fails to have its value. -/
theorem run_groups_of_count (hp : p.numbers = none) (page : List (String × Bucket))
    (g : Generation) : ∃ values, (g.run (page.mapM fun x => p.group x.1 x.2)).1 = .ok values := by
  have hgroup (x : String × Bucket) : p.group x.1 x.2 =
      pure { label := x.1, hits := x.2.hits, value := Binary.ofInt x.2.hits } := by
    unfold PreparedFacet.group PreparedFacet.aggregate
    rw [hp]
    rfl
  simp only [hgroup]
  induction page with
  | nil => exact ⟨[], rfl⟩
  | cons x rest ih =>
    obtain ⟨values, hvalues⟩ := ih
    rw [List.mapM_cons, pure_bind, Generation.run_map, hvalues]
    exact ⟨_, rfl⟩

/-- The result of some groups is their page, with what stands behind it. -/
theorem run_termResult (p : PreparedFacet) (executor : FacetExecutor) (start : Nat)
    (pageSize : Option Nat) {groups : List (String × Bucket)} (hne : groups ≠ [])
    (g : Generation) :
    let sorted := p.definition.order.sort groups
    let limit := pageLimit executor.maxPageSize pageSize p.definition.maxResults
    (g.run (p.termResult executor start pageSize groups)).1 =
      (g.run (((sorted.drop start).take limit).mapM fun x => p.group x.1 x.2)).1.map fun values => {
        values, remainingCount := (sorted.drop (start + limit)).length
        remainingHits := totalHits (sorted.drop (start + limit))
        remainingTerms := if p.definition.includeRemaining then
          some ((sorted.drop (start + limit)).map Prod.fst) else none } := by
  intro sorted limit
  have hempty : groups.isEmpty = false := by simpa using hne
  unfold PreparedFacet.termResult
  rw [hempty, if_neg (by decide)]
  dsimp only
  rw [TermPage.ofSorted_eq, Generation.run_map]

end PreparedFacet

/-- Paging is exact and loses nothing.  Take the groups of a map of terms, at least one and in
whatever order they come.  They have one order by the facet, and the result shows the slice of it
that starts at `start`, or at its end, and is as long as the limit allows.  The result is refused
only where a group on the page has no value.  What remains are the groups behind the page and
their hits; the hits before the page, on it and behind it add up to all hits, so none of the
subtractions falls below zero.  An end of the page that is capped at some number no less than the
number of groups makes no difference.  With a limit that is not zero the pages, one after another,
make up the order. -/
theorem termResult_paged (p : PreparedFacet) (executor : FacetExecutor) (pageSize : Option Nat)
    (m : SortedMap String Bucket) (hm : m.entries ≠ []) :
    let limit :=
      min ((pageSize.or p.definition.maxResults).getD executor.maxPageSize) executor.maxPageSize
    ∃ sorted, (∀ l, l.Perm m.entries ∧ l.Pairwise p.definition.order.Precedes ↔ l = sorted) ∧
      (∀ start,
        let before := sorted.take start
        let page := (sorted.drop start).take limit
        let behind := sorted.drop (start + limit)
        (∀ groups, groups.Perm m.entries → ∀ g : Generation,
          let outcome := (g.run (p.termResult executor start pageSize groups)).1
          (p.numbers = none → ∃ result, outcome = .ok result) ∧
          (∀ e, outcome = .error e ↔
            (g.run (page.mapM fun x => p.group x.1 x.2)).1 = .error e) ∧
          ∀ result, outcome = .ok result →
            (g.run (page.mapM fun x => p.group x.1 x.2)).1 = .ok result.values ∧
            (result.values.map fun x => (x.label, x.hits)) = page.map (fun x => (x.1, x.2.hits)) ∧
            result.remainingCount = behind.length ∧ result.remainingHits = totalHits behind) ∧
        totalHits before ≤ totalHits m.entries ∧
        totalHits page ≤ totalHits m.entries - totalHits before ∧
        totalHits before + totalHits page + totalHits behind = totalHits m.entries ∧
        ∀ top, sorted.length ≤ top →
          (sorted.take (min (min start sorted.length + limit) top)).drop (min start sorted.length) =
            page) ∧
      (0 < limit → ∀ pages, sorted.length ≤ pages * limit →
        ((List.range pages).flatMap fun i => (sorted.drop (i * limit)).take limit) = sorted) := by
  intro limit
  have hd : (m.entries.map Prod.fst).Nodup := m.keys_ascending.imp SortKey.before_ne
  have hsort := p.definition.order.sort_perm m.entries
  refine ⟨p.definition.order.sort m.entries, fun l => TermOrder.eq_sort_iff hd, fun start => ?_,
    fun _ pages hpages => ?_⟩
  · intro before page behind
    have hslices : totalHits before + totalHits page + totalHits behind = totalHits m.entries :=
      (totalHits_slices _ start limit).trans (totalHits_perm hsort)
    refine ⟨fun groups hgroups g => ?_, by omega, by omega, hslices, fun top htop => ?_⟩
    · intro outcome
      have hne : groups ≠ [] := fun h => hm (List.nil_perm.mp (h ▸ hgroups))
      have hrun := p.run_termResult executor start pageSize hne g
      rw [TermOrder.sort_eq_of_perm hd hgroups] at hrun
      have hrun : outcome = _ := hrun
      rw [hrun]
      refine ⟨fun hcount => ?_, fun e => ?_, fun result hresult => ?_⟩
      · obtain ⟨values, hvalues⟩ := PreparedFacet.run_groups_of_count hcount page g
        exact ⟨_, congrArg (Except.map _) hvalues⟩
      · exact map_eq_error
      · obtain ⟨values, hvalues, rfl⟩ := map_eq_ok.mp hresult
        exact ⟨hvalues, PreparedFacet.map_of_run_groups hvalues, rfl, rfl⟩
    · exact page_capped _ start limit htop
  · rw [pages_append]
    exact List.take_of_length_le hpages

/-- The second of three groups by descending hits, on a page of its own: of two terms with three
hits each the lesser stands first. -/
theorem termResult_secondOfThree :
    let p : PreparedFacet :=
      { definition := { name := "color", order := .hitsDescending }, numbers := none, ranges := [] }
    let executor : FacetExecutor := { maxPageSize := 10, declared := fun _ => none }
    let groups : List (String × Bucket) :=
      [("red", { hits := 3 }), ("green", { hits := 3 }), ("blue", { hits := 5 })]
    let g : Generation := { number := 0, view := View.ofIndex {} }
    ∃ result, (g.run (p.termResult executor 1 (some 1) groups)).1 = .ok result ∧
      (result.values.map fun x => (x.label, x.hits)) = [("green", 3)] ∧
      result.remainingCount = 1 ∧ result.remainingHits = 3 := by
  intro p executor groups g
  let m : SortedMap String Bucket := SortedMap.ofList groups
  obtain ⟨sorted, hsorted, hpage, -⟩ := termResult_paged p executor (some 1) m (by decide)
  have horder : sorted =
      [("blue", { hits := 5 }), ("green", { hits := 3 }), ("red", { hits := 3 })] :=
    ((hsorted _).mp ⟨by decide, by decide⟩).symm
  obtain ⟨hresult, -⟩ := hpage 1
  obtain ⟨hcount, -, hshown⟩ := hresult groups (by decide) g
  obtain ⟨result, hok⟩ := hcount rfl
  obtain ⟨-, hvalues, hremaining, hhits⟩ := hshown result hok
  rw [horder] at hvalues hremaining hhits
  exact ⟨result, hok, hvalues, hremaining, hhits⟩

end FacetedSearch
