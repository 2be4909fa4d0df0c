import FacetedSearch.Facet.Execute
import FacetedSearch.Proofs.Number.Line

/-!
# FacetedSearch.Proofs.Number.Extreme — the least and the greatest of some numbers

The least and the greatest number of a group are found by running through its numbers, starting from
the largest finite number of the other sign.  The result lies as far out as each of the numbers
(`Extreme.foldl_choose`).  It is one of them unless all of them lie beyond the start, which only an
infinity does; then it is the start (`Extreme.value_spec`).
-/

namespace FacetedSearch

open BinaryFormat (double)

/-- The two ends at which a number of a group can lie. -/
inductive Extreme
  | least
  | greatest

namespace Binary

variable {x y : Double}

theorem totalCompare_eq_lt_iff (h : ¬ (x.magnitude = 0 ∧ y.magnitude = 0)) :
    x.totalCompare y = .lt ↔ x.place < y.place := by
  unfold totalCompare place
  cases x.negative <;> cases y.negative <;> (simp [Nat.compare_eq_lt]; try omega)

/-- The places of numbers are in the order of their points. -/
theorem place_lt_iff (hx : x.isNaN = false) (hy : y.isNaN = false) :
    x.place < y.place ↔ x.onLine < y.onLine := by
  by_cases hzero : x.magnitude = 0 ∧ y.magnitude = 0
  · rw [onLine_of_magnitude_eq_zero hzero.1, onLine_of_magnitude_eq_zero hzero.2]
    simp [place, hzero.1, hzero.2]
  · rw [← totalCompare_eq_lt_iff hzero]
    exact (compares_totalCompare hx hy fun h h' => absurd ⟨h, h'⟩ hzero).eq_lt

theorem le_magnitude_of_le_place {n : Nat} (hn : 0 < n) (h : (n : Int) ≤ x.place) :
    x.negative = false ∧ n ≤ x.magnitude := by
  unfold place at h
  cases hsign : x.negative with
  | false =>
    rw [hsign] at h
    exact ⟨rfl, by simpa using h⟩
  | true =>
    rw [hsign, if_pos rfl] at h
    omega

theorem le_magnitude_of_place_le {n : Nat} (hn : 0 < n) (h : x.place ≤ -(n : Int)) :
    x.negative = true ∧ n ≤ x.magnitude := by
  unfold place at h
  cases hsign : x.negative with
  | false =>
    rw [hsign] at h
    simp only [Bool.false_eq_true, if_false] at h
    omega
  | true =>
    rw [hsign, if_pos rfl] at h
    exact ⟨rfl, by omega⟩

/-- Only the largest finite number and an infinity are as large. -/
theorem eq_largest_or_inf {negative : Bool} (hx : x.isNaN = false) (hsign : x.negative = negative)
    (hmagnitude : double.infinity - 1 ≤ x.magnitude) : x = largest negative ∨ x = inf negative := by
  have hle := magnitude_le hx
  rw [x.eq_ofMagnitude, hsign]
  rcases (by omega : x.magnitude = double.infinity - 1 ∨ x.magnitude = double.infinity) with h | h
  · exact .inl (by rw [h, largest])
  · exact .inr (by rw [h, inf])

theorem lt_iff (hx : x.isNaN = false) (hy : y.isNaN = false) :
    x.lt y = true ↔ x.onLine < y.onLine := by
  rw [← place_lt_iff hx hy]
  simp [Binary.lt, hx, hy]

end Binary

namespace Extreme

/-- The aggregation that looks for the number at an end. -/
def aggregation : Extreme → Aggregation
  | .least => .min
  | .greatest => .max

/-- Which of two numbers is kept. -/
def choose : Extreme → Double → Double → Double
  | .least => Binary.lesser
  | .greatest => Binary.greater

/-- The number that the search for the extreme starts from. -/
def start : Extreme → Double
  | .least => Binary.largest false
  | .greatest => Binary.largest true

/-- The number that lies beyond the start. -/
def beyond : Extreme → Double
  | .least => Binary.inf false
  | .greatest => Binary.inf true

/-- One number lies as far out as another. -/
def Reaches (e : Extreme) (x y : Double) : Prop :=
  match e with
  | .least => x.onLine ≤ y.onLine
  | .greatest => y.onLine ≤ x.onLine

variable {e : Extreme} {a x y z : Double} {l : List Double}

theorem Reaches.refl (e : Extreme) (x : Double) : e.Reaches x x := by
  cases e <;> exact le_refl _

theorem Reaches.trans (h : e.Reaches x y) (h' : e.Reaches y z) : e.Reaches x z := by
  cases e with
  | least => exact le_trans h h'
  | greatest => exact le_trans h' h

/-- Of two numbers one is kept that lies as far out as both. -/
theorem choose_spec (e : Extreme) (ha : a.isNaN = false) (hx : x.isNaN = false) :
    (e.choose a x = a ∨ e.choose a x = x) ∧ e.Reaches (e.choose a x) a ∧
      e.Reaches (e.choose a x) x := by
  cases e with
  | least =>
    show (a.lesser x = a ∨ a.lesser x = x) ∧ (a.lesser x).onLine ≤ a.onLine ∧
      (a.lesser x).onLine ≤ x.onLine
    have hlt := Binary.lt_iff hx ha
    rw [Binary.lesser, ha, Bool.false_or]
    split
    · rename_i h
      exact ⟨.inr rfl, (hlt.mp h).le, le_refl _⟩
    · rename_i h
      exact ⟨.inl rfl, le_refl _, not_lt.mp fun hless => h (hlt.mpr hless)⟩
  | greatest =>
    show (a.greater x = a ∨ a.greater x = x) ∧ a.onLine ≤ (a.greater x).onLine ∧
      x.onLine ≤ (a.greater x).onLine
    have hlt := Binary.lt_iff ha hx
    rw [Binary.greater, ha, Bool.false_or]
    split
    · rename_i h
      exact ⟨.inr rfl, (hlt.mp h).le, le_refl _⟩
    · rename_i h
      exact ⟨.inl rfl, le_refl _, not_lt.mp fun hless => h (hlt.mpr hless)⟩

/-- What is kept of some numbers is the first or one of the others, and lies as far out as all. -/
theorem foldl_choose (e : Extreme) (hl : ∀ x ∈ l, x.isNaN = false) (ha : a.isNaN = false) :
    l.foldl e.choose a ∈ a :: l ∧ ∀ x ∈ a :: l, e.Reaches (l.foldl e.choose a) x := by
  induction l generalizing a with
  | nil =>
    refine ⟨List.mem_cons_self, ?_⟩
    intro x hx
    rw [List.mem_singleton.mp hx]
    exact Reaches.refl e a
  | cons x l ih =>
    obtain ⟨hx, hl⟩ := List.forall_mem_cons.mp hl
    obtain ⟨hone, hreaches, hreaches'⟩ := choose_spec e ha hx
    have hnan : (e.choose a x).isNaN = false := by
      cases hone with
      | inl h => rw [h, ha]
      | inr h => rw [h, hx]
    obtain ⟨hmem, hall⟩ := ih hl hnan
    have hkept := hall _ List.mem_cons_self
    rw [List.foldl_cons]
    constructor
    · cases List.mem_cons.mp hmem with
      | inl h => cases hone with
        | inl h' =>
          rw [h, h']
          simp
        | inr h' =>
          rw [h, h']
          simp
      | inr h =>
        exact List.mem_cons_of_mem _ (List.mem_cons_of_mem _ h)
    · intro y hy
      rcases List.mem_cons.mp hy with rfl | hy
      · exact hkept.trans hreaches
      · rcases List.mem_cons.mp hy with rfl | hy
        · exact hkept.trans hreaches'
        · exact hall y (List.mem_cons_of_mem _ hy)

/-! ## The start -/

theorem isNaN_start (e : Extreme) : e.start.isNaN = false := by
  cases e <;> decide +kernel

theorem place_start (e : Extreme) : e.start.place = match e with
    | .least => ((double.infinity - 1 : Nat) : Int)
    | .greatest => -((double.infinity - 1 : Nat) : Int) := by
  cases e <;> decide +kernel

/-- The start lies as far out as itself and what lies beyond it, and no further. -/
theorem eq_start_or_beyond (hx : x.isNaN = false) (h : e.Reaches e.start x) :
    x = e.start ∨ x = e.beyond := by
  have hpositive : 0 < double.infinity - 1 := by decide
  have hplace := e.place_start
  cases e with
  | least =>
    have hle : (start .least).place ≤ x.place := by
      apply not_lt.mp
      rw [Binary.place_lt_iff hx (isNaN_start _)]
      exact not_lt.mpr h
    rw [hplace] at hle
    obtain ⟨hsign, hmagnitude⟩ := Binary.le_magnitude_of_le_place hpositive hle
    exact Binary.eq_largest_or_inf hx hsign hmagnitude
  | greatest =>
    have hle : x.place ≤ (start .greatest).place := by
      apply not_lt.mp
      rw [Binary.place_lt_iff (isNaN_start _) hx]
      exact not_lt.mpr h
    rw [hplace] at hle
    obtain ⟨hsign, hmagnitude⟩ := Binary.le_magnitude_of_place_le hpositive hle
    exact Binary.eq_largest_or_inf hx hsign hmagnitude

/-- What lies beyond the start does not lie as far out. -/
theorem not_reaches_beyond (e : Extreme) : ¬ e.Reaches e.beyond e.start := by
  cases e with
  | least =>
    apply not_le.mpr
    rw [← Binary.lt_iff (by decide +kernel) (by decide +kernel)]
    decide +kernel
  | greatest =>
    apply not_le.mpr
    rw [← Binary.lt_iff (by decide +kernel) (by decide +kernel)]
    decide +kernel

theorem value_eq (e : Extreme) (hits : Nat) (hl : l ≠ []) :
    e.aggregation.value hits l = l.foldl e.choose e.start := by
  have hempty : l.isEmpty = false := by simpa using hl
  cases e <;> simp [aggregation, Aggregation.value, hempty, choose, start]

/-- The value of a group whose numbers are all numbers lies as far out as each of them.  It is one of
them unless all of them lie beyond the start, and then it is the start. -/
theorem value_spec (e : Extreme) (hits : Nat) (hl : l ≠ []) (hnan : ∀ x ∈ l, x.isNaN = false) :
    (∀ x ∈ l, e.Reaches (e.aggregation.value hits l) x) ∧
      (e.aggregation.value hits l ∈ l ↔ ∃ x ∈ l, x ≠ e.beyond) ∧
      ((∀ x ∈ l, x = e.beyond) → e.aggregation.value hits l = e.start) := by
  obtain ⟨hmem, hall⟩ := foldl_choose e hnan (isNaN_start e)
  rw [value_eq e hits hl]
  have hattained : l.foldl e.choose e.start ∈ l ↔ ∃ x ∈ l, x ≠ e.beyond := by
    constructor
    · intro h
      refine ⟨_, h, ?_⟩
      intro hbeyond
      have hreaches := hall e.start List.mem_cons_self
      rw [hbeyond] at hreaches
      exact not_reaches_beyond e hreaches
    · rintro ⟨x, hx, hne⟩
      cases List.mem_cons.mp hmem with
      | inl hstart =>
        have hreaches := hall x (List.mem_cons_of_mem _ hx)
        rw [hstart] at hreaches ⊢
        rwa [← (eq_start_or_beyond (hnan x hx) hreaches).resolve_right hne]
      | inr h => exact h
  refine ⟨fun x hx => hall x (List.mem_cons_of_mem _ hx), hattained, ?_⟩
  intro hbeyond
  refine (List.mem_cons.mp hmem).resolve_right ?_
  intro h
  obtain ⟨x, hx, hne⟩ := hattained.mp h
  exact hne (hbeyond x hx)

end Extreme

end FacetedSearch
