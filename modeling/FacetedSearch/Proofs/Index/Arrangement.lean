import FacetedSearch.Proofs.Index.Content
import Mathlib.Logic.Function.Conjugate

/-!
# FacetedSearch.Proofs.Index.Arrangement — an index does not tell how its documents were arranged

Listing a document under a term can change places with any other listing; storing a value can change
places with storing one of another document or field (`commute_addValue`).  So the fields of one
document can be taken in any order (`enroll_congr`), and documents with different numbers can be
added in any order (`commute_enroll`).  `ofDocuments_rearranged` puts both together: the index is
the same, with its pairs in ascending order.
-/

namespace FacetedSearch

/-! ## Steps that change places -/

section Folds

variable {σ α : Type} {f : σ → α → σ} {l : List α}

/-- What can change places with each step can change places with all of them. -/
theorem commute_foldl {h : σ → σ} (hc : ∀ a ∈ l, Function.Commute (fun s => f s a) h) :
    Function.Commute (fun s => l.foldl f s) h := by
  induction l with
  | nil => exact .id_left
  | cons a rest ih =>
    have hrest := ih fun b hb => hc b (List.mem_cons_of_mem a hb)
    exact hrest.comp_left (hc a List.mem_cons_self)

/-- Steps that can change places give the same in any order. -/
theorem foldl_eq_of_perm {m : List α} (hp : l.Perm m)
    (hc : ∀ a ∈ l, ∀ b ∈ l, a ≠ b → Function.Commute (fun s => f s a) (fun s => f s b)) (s : σ) :
    l.foldl f s = m.foldl f s := by
  refine hp.foldl_eq' (fun a ha b hb s => ?_) s
  by_cases hab : a = b
  · rw [hab]
  · exact (hc a ha b hb hab s).symm

end Folds

namespace Index

variable {f t s f' t' s' name name' : String} {id id' : DocId} {v v' : Value}

theorem commute_post : Function.Commute (post f t id) (post f' t' id') := by
  intro idx
  unfold post
  congr 1
  refine SortedMap.alter_comm ?_
  rintro - terms
  refine SortedMap.alter_comm ?_
  rintro - docs
  exact SortedSet.insert_comm

theorem commute_store (h : id ≠ id' ∨ f ≠ f') :
    Function.Commute (store f s id) (store f' s' id') := by
  intro idx
  unfold store
  congr 1
  refine SortedMap.alter_comm ?_
  rintro hid fields
  refine SortedMap.alter_comm ?_
  rintro hf
  exact absurd hf (h.resolve_left (not_not.mpr hid.symm)).symm

theorem commute_post_store : Function.Commute (post f t id) (store f' s' id') := fun _ => rfl

/-- What a number adds besides its text. -/
def postNumber (id : DocId) (name : String) (v : Value) (idx : Index) : Index :=
  match v.number? with
  | none => idx
  | some n => idx.post (rangeField name) n.encode id

theorem addValue_eq (id : DocId) (name : String) (v : Value) :
    (fun idx : Index => idx.addValue id name v) =
      postNumber id name v ∘ store name v.toText id ∘ post name v.toText id := rfl

theorem commute_postNumber {h : Index → Index} (hc : ∀ f t id, Function.Commute (post f t id) h) :
    Function.Commute (postNumber id name v) h := by
  unfold postNumber
  cases v.number? with
  | none => exact .id_left
  | some n => exact hc _ _ _

/-- Values of different documents, or of different fields, can be added in either order. -/
theorem commute_addValue (h : id ≠ id' ∨ name ≠ name') :
    Function.Commute (fun idx : Index => idx.addValue id name v)
      (fun idx => idx.addValue id' name' v') := by
  have hpost (f t : String) (d : DocId) :
      Function.Commute (post f t d) (fun idx : Index => idx.addValue id' name' v') := by
    rw [addValue_eq]
    refine .comp_right ?_ (.comp_right commute_post_store commute_post)
    exact (commute_postNumber fun _ _ _ => commute_post).symm
  have hstore : Function.Commute (store name v.toText id)
      (fun idx : Index => idx.addValue id' name' v') := by
    rw [addValue_eq]
    refine .comp_right ?_ (.comp_right (commute_store h) commute_post_store.symm)
    exact (commute_postNumber fun _ _ _ => commute_post_store).symm
  rw [addValue_eq id]
  exact (commute_postNumber hpost).comp_left (hstore.comp_left (hpost _ _ _))

theorem commute_addValues {values values' : List (String × Value)}
    (h : ∀ x ∈ values, ∀ y ∈ values', id ≠ id' ∨ x.1 ≠ y.1) :
    Function.Commute (fun idx : Index => idx.addValues id values)
      (fun idx => idx.addValues id' values') := by
  refine commute_foldl fun x hx => .symm ?_
  refine commute_foldl fun y hy => .symm ?_
  exact commute_addValue (h x hx y hy)

/-! ## Adding a document whose number is free -/

/-- Count one more document. -/
def countDocument (id : DocId) (idx : Index) : Index :=
  { idx with slots := max idx.slots (id.toNat + 1), docCount := idx.docCount + 1 }

/-- Add a document, whatever its number. -/
def enroll (idx : Index) (d : Document) : Index := (idx.addValues d.id d.values).countDocument d.id

theorem commute_countDocument : Function.Commute (countDocument id) (countDocument id') := by
  intro idx
  unfold countDocument
  simp only [Nat.max_right_comm]

theorem addValue_countDocument :
    Function.Commute (fun idx : Index => idx.addValue id name v) (countDocument id') := by
  intro idx
  simp only [addValue]
  cases v.number? <;> rfl

theorem addValues_countDocument {values : List (String × Value)} :
    Function.Commute (fun idx : Index => idx.addValues id values) (countDocument id') :=
  commute_foldl fun _ _ => addValue_countDocument

/-- Documents with different numbers can be added in either order. -/
theorem commute_enroll {d e : Document} (h : d.id ≠ e.id) :
    Function.Commute (fun idx : Index => idx.enroll d) (fun idx => idx.enroll e) := by
  have hvalues : Function.Commute (fun idx : Index => idx.addValues d.id d.values)
      (fun idx => idx.addValues e.id e.values) := commute_addValues fun _ _ _ _ => .inl h
  have hfirst : Function.Commute (countDocument d.id) (fun idx => idx.enroll e) :=
    .comp_right commute_countDocument addValues_countDocument.symm
  have hsecond : Function.Commute (fun idx : Index => idx.addValues d.id d.values)
      (fun idx => idx.enroll e) := .comp_right addValues_countDocument hvalues
  exact hfirst.comp_left hsecond

/-- Adding values does not count. -/
theorem addValues_frame (idx : Index) (id : DocId) (values : List (String × Value)) :
    (idx.addValues id values).slots = idx.slots ∧
      (idx.addValues id values).docCount = idx.docCount := by
  induction values using List.reverseRecOn with
  | nil => exact ⟨rfl, rfl⟩
  | append_singleton values x ih =>
    rw [addValues_concat, addValue]
    cases x.2.number? <;> exact ih

theorem add_eq_ok_enroll (idx : Index) (d : Document) (hfree : idx.stored.contains d.id = false) :
    idx.add d = .ok (idx.enroll d) := by
  obtain ⟨hslots, hcount⟩ := idx.addValues_frame d.id d.values
  refine add_eq_ok_iff.mpr ⟨hfree, ?_⟩
  rw [enroll, countDocument, hslots, hcount]

theorem docCount_foldl_enroll (docs : List Document) (idx : Index) :
    (docs.foldl enroll idx).docCount = idx.docCount + docs.length := by
  induction docs generalizing idx with
  | nil => rfl
  | cons d rest ih =>
    have hd : (idx.enroll d).docCount = idx.docCount + 1 :=
      congrArg (· + 1) (idx.addValues_frame d.id d.values).2
    rw [List.foldl_cons, ih, hd, List.length_cons]
    omega

/-- Documents with different numbers are all added. -/
theorem ofDocuments_eq_foldl {docs : List Document} (h : (docs.map Document.id).Nodup) :
    ofDocuments docs = .ok (docs.foldl enroll {}) := by
  induction docs using List.reverseRecOn with
  | nil => rfl
  | append_singleton docs d ih =>
    obtain ⟨hdocs, -, hnew⟩ := List.pairwise_append.mp (List.pairwise_map.mp h)
    have hformer := ih (List.pairwise_map.mpr hdocs)
    have hfree : (docs.foldl enroll {}).stored.contains d.id = false := by
      rw [← Bool.not_eq_true, (lists_of_ofDocuments hformer).taken]
      rintro ⟨e, he, hid, -⟩
      exact hnew e he d List.mem_cons_self hid
    have hadd := add_eq_ok_enroll _ d hfree
    rw [ofDocuments] at hformer ⊢
    rw [List.foldlM_append, hformer, List.foldl_append]
    show ([d].foldlM add (docs.foldl enroll {})) = _
    rw [List.foldlM_cons, hadd]
    rfl

/-! ## The fields of a document in another order -/

theorem addValues_eq_foldl (id : DocId) (fields : List (String × List Value)) (idx : Index) :
    idx.addValues id (fields.flatMap fun x => x.2.map fun v => (x.1, v)) =
      fields.foldl (fun idx x => idx.addValues id (x.2.map fun v => (x.1, v))) idx := by
  induction fields generalizing idx with
  | nil => rfl
  | cons x rest ih =>
    rw [List.flatMap_cons, List.foldl_cons, ← ih]
    exact List.foldl_append

end Index

/-- The same document with its fields in another order. -/
structure Document.Reordered (d e : Document) : Prop where
  id : e.id = d.id
  fields : d.fields.Perm e.fields

theorem Document.map_id_eq {docs docs' : List Document}
    (h : List.Forall₂ Document.Reordered docs docs') :
    docs'.map Document.id = docs.map Document.id := by
  induction h with
  | nil => rfl
  | cons hde _ ih => rw [List.map_cons, List.map_cons, hde.id, ih]

/-- Where no field is named twice their order does not matter. -/
theorem Index.enroll_congr {d e : Document} (h : d.Reordered e)
    (hnames : (d.fields.map Prod.fst).Nodup) (idx : Index) : idx.enroll d = idx.enroll e := by
  have hvalues : idx.addValues d.id d.values = idx.addValues d.id e.values := by
    unfold Document.values
    rw [addValues_eq_foldl, addValues_eq_foldl]
    refine foldl_eq_of_perm h.fields (fun x hx y hy hxy => commute_addValues ?_) idx
    intro a ha b hb
    right
    obtain ⟨v, -, rfl⟩ := List.mem_map.mp ha
    obtain ⟨w, -, rfl⟩ := List.mem_map.mp hb
    intro hname
    exact hxy (List.inj_on_of_nodup_map hnames hx hy hname)
  rw [enroll, enroll, hvalues, h.id]

theorem Index.foldl_enroll_congr {docs docs' : List Document}
    (h : List.Forall₂ Document.Reordered docs docs')
    (hnames : ∀ d ∈ docs, (d.fields.map Prod.fst).Nodup) (idx : Index) :
    docs.foldl enroll idx = docs'.foldl enroll idx := by
  induction h generalizing idx with
  | nil => rfl
  | @cons d e rest rest' hde _ ih =>
    obtain ⟨hd, hrest⟩ := List.forall_mem_cons.mp hnames
    rw [List.foldl_cons, List.foldl_cons, enroll_congr hde hd, ih hrest]

/-- An index visits the pairs of a field in ascending order, and none twice. -/
theorem Index.pairs_ascending (idx : Index) (field : String) :
    (idx.pairs field).Pairwise fun x y =>
      SortKey.Before x.1 y.1 ∨ x.1 = y.1 ∧ SortKey.Before x.2 y.2 := by
  unfold pairs
  cases idx.terms? field with
  | none => exact .nil
  | some terms =>
    refine List.pairwise_flatMap.mpr ⟨fun e _ => ?_, terms.ascending.imp fun {e f} hef => ?_⟩
    · exact List.pairwise_map.mpr (e.2.ascending.imp fun {a b} hab => .inr ⟨rfl, hab⟩)
    · intro x hx y hy
      obtain ⟨a, -, rfl⟩ := List.mem_map.mp hx
      obtain ⟨b, -, rfl⟩ := List.mem_map.mp hy
      exact .inl hef

/-- Documents with different numbers, none of which names a field twice, give the same index however
they are arranged: in any order, and with the fields of each in any order.  All of them are added.
The index visits what they have: each term of a field with each document that has it, ascending by
terms and by documents within a term. -/
theorem ofDocuments_rearranged {docs moved docs' : List Document}
    (hids : (docs.map Document.id).Nodup)
    (hnames : ∀ d ∈ docs, (d.fields.map Prod.fst).Nodup) (hmoved : docs.Perm moved)
    (hfields : List.Forall₂ Document.Reordered moved docs') :
    ∃ idx, Index.ofDocuments docs = .ok idx ∧ Index.ofDocuments docs' = .ok idx ∧
      idx.docCount = docs.length ∧ ∀ field,
        (∀ term id, (term, id) ∈ idx.pairs field ↔ ∃ d ∈ docs, d.id = id ∧ term ∈ d.terms field) ∧
        (idx.pairs field).Pairwise fun x y =>
          SortKey.Before x.1 y.1 ∨ x.1 = y.1 ∧ SortKey.Before x.2 y.2 := by
  have hfirst := Index.ofDocuments_eq_foldl hids
  have hsame : docs.foldl Index.enroll {} = docs'.foldl Index.enroll {} := by
    have hnames' : ∀ d ∈ moved, (d.fields.map Prod.fst).Nodup := fun d hd =>
      hnames d (hmoved.mem_iff.mpr hd)
    refine (foldl_eq_of_perm hmoved (fun d hd e he hde => ?_) _).trans
      (Index.foldl_enroll_congr hfields hnames' _)
    exact Index.commute_enroll fun hid => hde (List.inj_on_of_nodup_map hids hd he hid)
  have hids' : (docs'.map Document.id).Nodup := by
    rw [Document.map_id_eq hfields]
    exact (hmoved.map _).nodup_iff.mp hids
  have hsecond := Index.ofDocuments_eq_foldl hids'
  rw [← hsame] at hsecond
  refine ⟨_, hfirst, hsecond, ?_, fun field => ⟨fun term id => ?_, Index.pairs_ascending _ field⟩⟩
  · rw [Index.docCount_foldl_enroll]
    exact Nat.zero_add _
  · rw [Index.mem_pairs, (Index.lists_of_ofDocuments hfirst).posted]

/-- Two documents that list their fields the other way, added the other way round. -/
theorem ofDocuments_reversed :
    let lamp : Document := { id := 7, fields :=
      [("size", [.number (.int 4)]), ("size_Range", [.text "wide"]), ("color", [.text "red"])] }
    let desk : Document := { id := 2, fields :=
      [("color", [.text "red", .text "blue"]), ("size", [])] }
    let reversed (d : Document) : Document := { d with fields := d.fields.reverse }
    ([lamp, desk].map Document.id).Nodup ∧
      (∀ d ∈ [lamp, desk], (d.fields.map Prod.fst).Nodup) ∧
      [lamp, desk].Perm [desk, lamp] ∧
      ∃ idx, Index.ofDocuments [lamp, desk] = .ok idx ∧
        Index.ofDocuments [reversed desk, reversed lamp] = .ok idx ∧
        idx.pairs "size_Range" = [("i80000004", 7), ("wide", 7)] := by
  intro lamp desk reversed
  have hids : ([lamp, desk].map Document.id).Nodup := by decide
  have hnames : ∀ d ∈ [lamp, desk], (d.fields.map Prod.fst).Nodup := by decide
  have hmoved : [lamp, desk].Perm [desk, lamp] := by decide
  have hreversed (d : Document) : d.Reordered (reversed d) := ⟨rfl, d.fields.reverse_perm.symm⟩
  obtain ⟨idx, hfirst, hsecond, -⟩ := ofDocuments_rearranged hids hnames hmoved
    (.cons (hreversed desk) (.cons (hreversed lamp) .nil))
  refine ⟨hids, hnames, hmoved, idx, hfirst, hsecond, ?_⟩
  have hidx : (Index.ofDocuments [lamp, desk]).map (fun idx => idx.pairs "size_Range") =
      .ok [("i80000004", 7), ("wide", 7)] := by decide
  rw [hfirst] at hidx
  exact Except.ok.inj hidx

end FacetedSearch
