import FacetedSearch.Proofs.Json.Record
import FacetedSearch.Proofs.Json.RoundTrip

/-!
# FacetedSearch.Proofs.Facet.WireFormat — requests that are written are read back

Whatever form a request was given in, it is written with all its parts, and what is written reads
as the same request (`parse_render`).  Each kind of record inside has a lemma of its own; queries
nest, and theirs goes by the room that is left for nesting (`Query.rereads`).
-/

namespace FacetedSearch

open Json

theorem rereads_optionalText : RereadsPart (optional Tree.text?) (.orNull .ofString) :=
  rereads_text.optional fun _ => by simp [Tree.ofString]

theorem rereads_optionalWord (bits : Nat) :
    RereadsPart (optional (Tree.word? bits)) (.orNull .natural) :=
  (rereads_word bits).optional fun _ => by simp

/-- Spans are kept with less than a full second of nanoseconds, so nothing carries over again. -/
theorem Duration.rereads (room : Nat) : Rereads (Duration.ofJson? room) Duration.toJson := by
  refine rereads_record _ (by decide) (fun _ => rfl) fun room _ parts d h => ?_
  split at h
  · simp only [Option.bind_eq_bind, Option.bind_eq_some_iff, List.map_cons, List.map_nil] at h ⊢
    obtain ⟨seconds, -, nanos, -, h⟩ := h
    have hlt : d.seconds < 18446744073709551616 := by
      split at h
      · cases h
        assumption
      · cases h
    have hnanos := d.nanos_lt
    have hparts : ofParts d.seconds d.nanos = d := by
      cases d
      simp only [ofParts, Duration.mk.injEq]
      omega
    refine ⟨d.seconds, word?_natural hlt, d.nanos, word?_natural (Nat.lt_trans hnanos (by decide)), ?_⟩
    rw [hparts, if_pos hlt]
  · cases h

theorem TermRange.rereads (room : Nat) : Rereads (TermRange.ofJson? room) TermRange.toJson := by
  refine rereads_record _ (by decide) (fun _ => rfl) fun room _ parts r h => ?_
  split at h
  · simp only [Option.bind_eq_bind, Option.bind_eq_some_iff, Option.pure_def, Option.some.injEq,
      List.map_cons, List.map_nil] at h ⊢
    obtain ⟨field, hfield, text, htext, low, hlow, high, hhigh, lowInclusive, hl, highInclusive, hh,
      rfl⟩ := h
    exact ⟨field, rereads_text.required hfield, text, rereads_text.required htext,
      low, rereads_optionalText hlow, high, rereads_optionalText hhigh,
      lowInclusive, rereads_boolean.required hl, highInclusive, rereads_boolean.required hh, rfl⟩
  · cases h

namespace Query

theorem eachToJson_eq_map (qs : List Query) : eachToJson qs = qs.map toJson := by
  induction qs with
  | nil => rfl
  | cons q qs ih => rw [eachToJson, ih, List.map_cons]

theorem rereads_twoTexts {first second : String} (hne : first ≠ second) (room : Nat) :
    Rereads (twoTexts? first second room) fun p =>
      .record [(first, .ofString p.1), (second, .ofString p.2)] := by
  refine rereads_record _ (by simpa using hne) (fun _ => rfl) fun room _ parts p h => ?_
  split at h
  · simp only [Option.bind_eq_bind, Option.bind_eq_some_iff, Option.pure_def, Option.some.injEq,
      List.map_cons, List.map_nil] at h ⊢
    obtain ⟨a, ha, b, hb, rfl⟩ := h
    exact ⟨a, rereads_text.required ha, b, rereads_text.required hb, rfl⟩
  · cases h

theorem rangeOfJson?_record {room : Nat} {t : Tree} {q : Query} (h : rangeOfJson? room t = some q) :
    ∃ field r, q = .range field r ∧
      rangeOfJson? room (.record [("field", .ofString field), ("range", r.toJson)]) = some q := by
  cases room with
  | zero => cases h
  | succ room =>
    obtain ⟨parts, -, h⟩ := Option.bind_eq_some_iff.mp h
    split at h
    · simp only [Option.bind_eq_bind, Option.bind_eq_some_iff, Option.pure_def,
        Option.some.injEq] at h
      obtain ⟨field, hfield, r, hr, rfl⟩ := h
      refine ⟨field, r, rfl, ?_⟩
      rw [rangeOfJson?]
      dsimp only [within]
      rw [RecordForm.parts?_record _ _ rfl (by decide)]
      refine Option.bind_eq_some_iff.mpr ⟨_, rfl, ?_⟩
      simp only [Option.bind_eq_bind, Option.bind_eq_some_iff, Option.pure_def, Option.some.injEq,
        List.map_cons, List.map_nil]
      exact ⟨field, rereads_text.required hfield, r, (TermRange.rereads room).required hr, rfl⟩
    · cases h

theorem boolOfJson?_record {read : Tree → Option Query} (hread : Rereads read toJson) {t : Tree}
    {q : Query} (h : boolOfJson? read t = some q) :
    ∃ must should mustNot, q = .bool must should mustNot ∧
      boolOfJson? read (.record [("must", .list (must.map toJson)),
        ("should", .list (should.map toJson)), ("must_not", .list (mustNot.map toJson))]) =
          some q := by
  obtain ⟨parts, -, h⟩ := Option.bind_eq_some_iff.mp h
  split at h
  · simp only [Option.bind_eq_bind, Option.bind_eq_some_iff, Option.pure_def,
      Option.some.injEq] at h
    obtain ⟨must, hmust, should, hshould, mustNot, hnot, rfl⟩ := h
    refine ⟨must, should, mustNot, rfl, ?_⟩
    rw [boolOfJson?, RecordForm.parts?_record _ _ rfl (by decide)]
    refine Option.bind_eq_some_iff.mpr ⟨_, rfl, ?_⟩
    simp only [Option.bind_eq_bind, Option.bind_eq_some_iff, Option.pure_def, Option.some.injEq,
      List.map_cons, List.map_nil]
    exact ⟨must, hread.items.required hmust, should, hread.items.required hshould,
      mustNot, hread.items.required hnot, rfl⟩
  · cases h

theorem rereads (room : Nat) : Rereads (Query.ofJson? room) Query.toJson := by
  induction room using Nat.strongRecOn with
  | ind room ih =>
    intro t q h
    rw [ofJson?.eq_def] at h
    split at h
    · split at h
      · cases h
        rw [toJson, Tree.ofString, ofJson?, if_pos rfl]
      · cases h
    · rename_i _ room kind body
      split at h
      · split at h
        · cases h
          rfl
        · cases h
      · obtain ⟨⟨field, value⟩, hp, ⟨⟩⟩ := Option.map_eq_some_iff.mp h
        have hback := rereads_twoTexts (by decide) room hp
        exact Option.map_eq_some_iff.mpr ⟨_, hback, rfl⟩
      · obtain ⟨⟨field, start⟩, hp, ⟨⟩⟩ := Option.map_eq_some_iff.mp h
        have hback := rereads_twoTexts (by decide) room hp
        exact Option.map_eq_some_iff.mpr ⟨_, hback, rfl⟩
      · obtain ⟨field, r, rfl, hback⟩ := rangeOfJson?_record h
        exact hback
      · split at h
        · rename_i inner
          obtain ⟨must, should, mustNot, rfl, hback⟩ := boolOfJson?_record (ih inner (by omega)) h
          rw [toJson, eachToJson_eq_map, eachToJson_eq_map, eachToJson_eq_map]
          exact hback
        · cases h
      · cases h
    · cases h

end Query

theorem SearchRequest.rereads (room : Nat) :
    Rereads (SearchRequest.ofJson? room) SearchRequest.toJson := by
  refine rereads_record _ (by decide) (fun _ => rfl) fun room _ parts r h => ?_
  split at h
  · simp only [Option.bind_eq_bind, Option.bind_eq_some_iff, Option.pure_def, Option.some.injEq,
      List.map_cons, List.map_nil] at h ⊢
    obtain ⟨query, hquery, timeout, htimeout, rfl⟩ := h
    have hspan (d : Duration) : d.toJson ≠ .null := by simp [Duration.toJson, Tree.record]
    exact ⟨query, (Query.rereads room).required hquery,
      timeout, (Duration.rereads room).optional hspan htimeout, rfl⟩
  · cases h

/-- Ranges that were left out are written as a list, which needs room of its own. -/
theorem FacetDefinition.rereads {room : Nat} (hroom : 2 ≤ room) :
    Rereads (FacetDefinition.ofJson? room) FacetDefinition.toJson := by
  refine rereads_record _ (by decide) (fun _ => rfl) fun room heq parts d h => ?_
  split at h
  · simp only [Option.bind_eq_bind, Option.bind_eq_some_iff, Option.pure_def, Option.some.injEq,
      List.map_cons, List.map_nil] at h ⊢
    obtain ⟨name, hname, mode, hmode, aggregation, haggregation, field, hfield, ranges, hranges,
      order, horder, maxResults, hmax, remaining, hremaining, rfl⟩ := h
    have htexts : Rereads (fun t => within room fun _ => Tree.items? Tree.text? t) fun texts =>
        .list (texts.map .ofString) := Rereads.within fun _ _ => rereads_text.items
    have hnone : within room (fun _ => Tree.items? Tree.text? (.list ([].map .ofString))) = some [] := by
      obtain ⟨inner, rfl⟩ := Nat.exists_eq_add_of_le' (Nat.le_of_succ_le_succ (heq ▸ hroom))
      rfl
    exact ⟨name, rereads_text.defaulted rfl hname,
      mode, (rereads_choice FacetMode.ofName?_name room).defaulted rfl hmode,
      aggregation, (rereads_choice Aggregation.ofName?_name room).defaulted rfl haggregation,
      field, rereads_optionalText hfield, ranges, htexts.defaulted hnone hranges,
      order, (rereads_choice TermOrder.ofName?_name room).defaulted rfl horder,
      maxResults, rereads_optionalWord 64 hmax,
      remaining, rereads_boolean.defaulted rfl hremaining, rfl⟩
  · cases h

theorem FacetRequest.rereads : Rereads FacetRequest.ofJson? FacetRequest.toJson := by
  refine rereads_record _ (by decide) (fun _ => rfl) fun room heq parts r h => ?_
  split at h
  · simp only [Option.bind_eq_bind, Option.bind_eq_some_iff, Option.pure_def, Option.some.injEq,
      List.map_cons, List.map_nil] at h ⊢
    obtain ⟨search, hsearch, facets, hfacets, start, hstart, pageSize, hsize, rfl⟩ := h
    have hdefinitions : Rereads (fun t => within room fun room =>
        Tree.items? (FacetDefinition.ofJson? room) t) fun facets =>
          .list (facets.map FacetDefinition.toJson) := by
      refine Rereads.within fun inner hinner => (FacetDefinition.rereads ?_).items
      rw [nestingLimit] at heq
      omega
    exact ⟨search, (SearchRequest.rereads room).required hsearch,
      facets, hdefinitions.required hfacets,
      start, (rereads_word 64).defaulted (word?_natural (by decide)) hstart,
      pageSize, rereads_optionalWord 64 hsize, rfl⟩
  · cases h

/-- Writing a request loses nothing.  Whatever JSON text a request was read from, the text that the
request is written as reads as the same request. -/
theorem FacetRequest.parse_render {text : String} {r : FacetRequest} (h : parse text = .ok r) :
    parse r.render = .ok r := by
  rw [parse] at h
  split at h
  · rename_i found hread
    cases h
    obtain ⟨t, -, ht⟩ := Option.bind_eq_some_iff.mp hread
    rw [parse, render, Tree.read?_render, Option.bind_some, rereads ht]
  · cases h

/-! ## A request in other forms -/

/-- A request whose search, query, span and first facet are lists; three seconds are nanoseconds. -/
def listedText : String :=
  "\x7b\"facets\": [[\"\\u0063\"], \x7b\x7d], \"query\":" ++
    "[\x7b\"Bool\": [[\"MatchAll\"], [], []]\x7d, [0, 3000000000]]\x7d"

theorem parse_render_listed : ∃ r, FacetRequest.parse listedText = .ok r ∧
    r.facets = [{ name := "c" }, {}] ∧ r.search.timeout = some ⟨3, 0, by decide⟩ ∧
    FacetRequest.parse r.render = .ok r := by
  have hread : (FacetRequest.parse listedText).toOption.map (fun r => (r.facets, r.search.timeout)) =
      some ([{ name := "c" }, {}], some ⟨3, 0, by decide⟩) := by decide +kernel
  cases hparse : FacetRequest.parse listedText with
  | error e =>
    rw [hparse] at hread
    cases hread
  | ok r =>
    rw [hparse] at hread
    obtain ⟨hfacets, htimeout⟩ := Prod.mk.inj (Option.some.inj hread)
    exact ⟨r, rfl, hfacets, htimeout, FacetRequest.parse_render hparse⟩

end FacetedSearch
