import FacetedSearch.Proofs.Range.Interval
import FacetedSearch.Proofs.Range.Recognition
import Mathlib.Data.List.DropRight
import Mathlib.Data.List.Infix

/-!
# FacetedSearch.Proofs.Range.Grammar — the texts that spell a range

`pieces` cuts a text at every separator, found from left to right.  A text spells a range if it has
two pieces with a bracket at their outer ends, and then each bound is what stands next to a bracket
(`TermRange.parse_grammar`).

One more form is accepted.  The parser looks for a second separator behind the first one only after
it has trimmed the blanks there, and so does not see a separator in front of which nothing but
blanks stands (`Sides.behindBlanks`).  The words of that separator then belong to the upper bound.
No separator is lost at the other end, because a closing bracket stands there.
-/

namespace FacetedSearch

namespace TermRange

variable {field text : String} {s : List Char}

/-! ## Pieces -/

/-- What lies between the separators that are found in a text from left to right. -/
def pieces : List Char → List (List Char)
  | [] => [[]]
  | ' ' :: 'T' :: 'O' :: ' ' :: s => [] :: pieces s
  | c :: s => (pieces s).modifyHead (List.cons c)

theorem pieces_ne_nil (s : List Char) : pieces s ≠ [] := by
  fun_induction pieces s with
  | case1 => simp
  | case2 s ih => simp
  | case3 c s _ ih => simpa [List.modifyHead_eq_nil_iff] using ih

/-- Joined by separators, the pieces are the text. -/
theorem intercalate_pieces (s : List Char) : separator.intercalate (pieces s) = s := by
  fun_induction pieces s with
  | case1 => rfl
  | case2 s ih =>
    obtain ⟨p, ps, hp⟩ := List.exists_cons_of_ne_nil (pieces_ne_nil s)
    rw [hp] at ih ⊢
    rw [List.intercalate_cons_cons, ih]
    rfl
  | case3 c s _ ih =>
    obtain ⟨p, ps, hp⟩ := List.exists_cons_of_ne_nil (pieces_ne_nil s)
    rw [hp] at ih ⊢
    cases ps <;> simp_all

theorem separator_prefix_cons {c : Char}
    (h : ∀ t, c = ' ' → s = 'T' :: 'O' :: ' ' :: t → False) : ¬ separator <+: c :: s := by
  rintro ⟨t, ht⟩
  simp only [separator, List.cons_append, List.nil_append, List.cons.injEq] at ht
  exact h t ht.1.symm ht.2.symm

theorem pieces_eq_singleton_iff : pieces s = [s] ↔ ¬ separator <:+: s := by
  fun_induction pieces s with
  | case1 => simp [separator]
  | case2 s ih =>
    have hseparator : separator <:+: ' ' :: 'T' :: 'O' :: ' ' :: s := ⟨[], s, rfl⟩
    simp [hseparator]
  | case3 c s h ih =>
    rw [List.infix_cons_iff, not_or, ← ih]
    obtain ⟨p, ps, hp⟩ := List.exists_cons_of_ne_nil (pieces_ne_nil s)
    simp [hp, separator_prefix_cons h]

/-- The first separator ends the first piece. -/
theorem pieces_eq (s : List Char) : pieces s =
    match splitFirst separator s with
    | none => [s]
    | some (before, behind) => before :: pieces behind := by
  fun_induction pieces s with
  | case1 => rfl
  | case2 s ih => rfl
  | case3 c s h ih =>
    have hprefix : separator.isPrefixOf (c :: s) = false := by
      simpa [← List.isPrefixOf_iff_prefix] using separator_prefix_cons h
    rw [splitFirst, hprefix, ih]
    cases splitFirst separator s <;> rfl

theorem occurs_separator_eq_false_iff : occurs separator s = false ↔ pieces s = [s] := by
  rw [occurs, pieces_eq]
  cases splitFirst separator s with
  | none => simp
  | some x => simp [pieces_ne_nil]

theorem pieces_eq_cons_cons_iff {low high : List Char} {ps : List (List Char)} :
    pieces s = low :: high :: ps ↔
      ∃ behind, splitFirst separator s = some (low, behind) ∧ pieces behind = high :: ps := by
  rw [pieces_eq]
  cases splitFirst separator s with
  | none => simp
  | some x => simp [Prod.ext_iff, and_assoc]

/-- A last piece has no separator in it. -/
theorem pieces_of_pieces_eq {p : List Char} (h : pieces s = [p]) : s = p := by
  have hs := intercalate_pieces s
  rwa [h, List.intercalate_singleton, eq_comm] at hs

/-! ## Blanks -/

/-- All characters are blank. -/
def Blank (s : List Char) : Prop := ∀ c ∈ s, Text.isBlank c = true

theorem trim_append {l : List Char} (hl : Blank l) (s : List Char) :
    Text.trim (l ++ s) = Text.trim s := by
  rw [Text.trim, List.dropWhile_append_of_pos hl, Text.trim]

/-- Blanks alone are trimmed off. -/
theorem exists_trim (s : List Char) : ∃ l r, s = l ++ (Text.trim s ++ r) ∧ Blank l ∧ Blank r := by
  have hback : Text.trim s ++ (s.dropWhile Text.isBlank).rtakeWhile Text.isBlank =
      s.dropWhile Text.isBlank := List.rdropWhile_append_rtakeWhile ..
  refine ⟨s.takeWhile Text.isBlank, (s.dropWhile Text.isBlank).rtakeWhile Text.isBlank, ?_,
    fun c => List.mem_takeWhile_imp, fun c => List.mem_rtakeWhile_imp⟩
  rw [hback, List.takeWhile_append_dropWhile]

theorem infix_trim (s : List Char) : Text.trim s <:+: s := by
  obtain ⟨l, r, hs, -⟩ := exists_trim s
  exact ⟨l, r, by rw [List.append_assoc, ← hs]⟩

/-- Of the words of a separator none is blank. -/
theorem not_blank_of_mem {c : Char} (h : c = 'T' ∨ c = 'O') {s : List Char} (hs : c ∈ s) :
    ¬ Blank s := by
  intro hblank
  have hc := hblank c hs
  rcases h with rfl | rfl <;> revert hc <;> decide

/-- Of the separator, only the outer characters are blank. -/
theorem blank_of_separator_eq {u v : List Char} (h : separator = u ++ v) :
    (Blank u → u = [] ∨ u = [' '] ∧ v = ['T', 'O', ' ']) ∧
      (Blank v → v = [] ∨ v = [' '] ∧ u = [' ', 'T', 'O']) := by
  have hlength : u.length ≤ 4 := by
    have := congrArg List.length h
    simp only [separator, List.length_append, List.length_cons, List.length_nil] at this
    omega
  have hu : separator.take u.length = u := by rw [h, List.take_left]
  have hv : separator.drop u.length = v := by rw [h, List.drop_left]
  rw [← hu, ← hv]
  have hspace : Text.isBlank ' ' = true := by decide
  have hT : Text.isBlank 'T' = false := by decide
  have hO : Text.isBlank 'O' = false := by decide
  obtain h | h | h | h | h : u.length = 0 ∨ u.length = 1 ∨ u.length = 2 ∨ u.length = 3 ∨
      u.length = 4 := by omega
  all_goals simp [h, separator, Blank, hspace, hT, hO]

/-- A separator that is not there behind some blanks begins with the last of them. -/
theorem exists_of_blank_append {l t : List Char} (hl : Blank l) (ht : ¬ separator <:+: t)
    (h : separator <:+: l ++ t) : ∃ mid t', l = mid ++ [' '] ∧ t = 'T' :: 'O' :: ' ' :: t' := by
  obtain h | h | ⟨u, v, huv, hu, hv⟩ := List.infix_append_iff.mp h
  · exact absurd hl (not_blank_of_mem (.inl rfl) (h.subset (by decide)))
  · exact absurd h ht
  · rcases (blank_of_separator_eq huv).1 fun c hc => hl c (hu.subset hc) with rfl | ⟨rfl, rfl⟩
    · rw [List.nil_append] at huv
      exact absurd (huv ▸ hv).isInfix ht
    · obtain ⟨mid, rfl⟩ := hu
      obtain ⟨t', rfl⟩ := hv
      exact ⟨mid, t', rfl, rfl⟩

/-- Blanks behind a bracket do not end a separator. -/
theorem infix_of_append_blank {u r : List Char} {c : Char} (hc : c ≠ 'O') (hr : Blank r)
    (h : separator <:+: u ++ [c] ++ r) : separator <:+: u ++ [c] := by
  obtain h | h | ⟨v, w, hvw, hv, hw⟩ := List.infix_append_iff.mp h
  · exact h
  · exact absurd hr (not_blank_of_mem (.inl rfl) (h.subset (by decide)))
  · rcases (blank_of_separator_eq hvw).2 fun c hc => hr c (hw.subset hc) with rfl | ⟨rfl, rfl⟩
    · rw [List.append_nil] at hvw
      exact (hvw ▸ hv).isInfix
    · have hlast := hv.getLast (by simp)
      simp at hlast
      exact absurd hlast.symm hc

/-! ## Sides -/

/-- The trimmed sides that the parser sees in a text. -/
inductive Sides (s : List Char) : List Char → List Char → Prop
  /-- One separator stands between the two sides. -/
  | between {low high : List Char} (h : pieces s = [low, high]) :
      Sides s (Text.trim low) (Text.trim high)
  /-- Blanks alone stand between two separators, and the words of the second belong to the upper
  side; no separator begins with its last blank. -/
  | behindBlanks {low blanks high : List Char} (h : pieces s = [low, blanks, high])
      (hblanks : Blank blanks) (hhigh : ¬ ['T', 'O', ' '] <+: high) :
      Sides s (Text.trim low) (Text.trim ('T' :: 'O' :: ' ' :: high))

theorem pieces_cons {c : Char} (h : ¬ separator <+: c :: s) :
    pieces (c :: s) = (pieces s).modifyHead (List.cons c) := by
  rw [pieces]
  rintro t rfl rfl
  exact h ⟨t, rfl⟩

/-- Blanks do not keep the separator behind them from being found. -/
theorem pieces_blank_append {l : List Char} (hl : Blank l) (s : List Char) :
    pieces (l ++ (separator ++ s)) = l :: pieces s := by
  induction l with
  | nil => rfl
  | cons c l ih =>
    obtain ⟨-, hl⟩ := List.forall_mem_cons.mp hl
    have hnext : ¬ separator <+: c :: (l ++ (separator ++ s)) := by
      refine separator_prefix_cons fun t _ ht => ?_
      cases l with
      | nil => simp [separator] at ht
      | cons b l =>
        rw [List.cons_append, List.cons.injEq] at ht
        exact not_blank_of_mem (.inl ht.1) List.mem_cons_self hl
    rw [List.cons_append, pieces_cons hnext, ih hl]
    rfl

/-- The words of a separator bring in another one if its last blank begins one. -/
theorem infix_words_iff : separator <:+: 'T' :: 'O' :: ' ' :: s ↔
    ['T', 'O', ' '] <+: s ∨ separator <:+: s := by
  simp [List.infix_cons_iff, separator]

theorem occurs_separator_iff : occurs separator s = true ↔ separator <:+: s := by
  rw [← not_iff_not, ← pieces_eq_singleton_iff, ← occurs_separator_eq_false_iff, Bool.not_eq_true]

theorem Sides.exists_splitFirst {x y : List Char} (h : Sides s x y) :
    ∃ before behind, splitFirst separator s = some (before, behind) ∧ Text.trim before = x ∧
      Text.trim behind = y ∧ ¬ separator <:+: y := by
  cases h with
  | @between low high h =>
    obtain ⟨behind, hsplit, hbehind⟩ := pieces_eq_cons_cons_iff.mp h
    obtain rfl := pieces_of_pieces_eq hbehind
    exact ⟨low, behind, hsplit, rfl, rfl,
      fun h => pieces_eq_singleton_iff.mp hbehind (h.trans (infix_trim behind))⟩
  | @behindBlanks low blanks high h hblanks hhigh =>
    obtain ⟨behind, hsplit, hbehind⟩ := pieces_eq_cons_cons_iff.mp h
    have hjoin : behind = (blanks ++ [' ']) ++ 'T' :: 'O' :: ' ' :: high := by
      rw [← intercalate_pieces behind, hbehind]
      simp [separator]
    obtain ⟨rest, -, hrest⟩ := pieces_eq_cons_cons_iff.mp hbehind
    obtain rfl := pieces_of_pieces_eq hrest
    have hblank : Blank (blanks ++ [' ']) := by
      intro c hc
      rcases List.mem_append.mp hc with hc | hc
      · exact hblanks c hc
      · rw [List.mem_singleton.mp hc]
        decide
    refine ⟨low, behind, hsplit, rfl, by rw [hjoin, trim_append hblank], fun hsep => ?_⟩
    rcases infix_words_iff.mp (hsep.trans (infix_trim _)) with h | h
    · exact hhigh h
    · exact pieces_eq_singleton_iff.mp hrest h

/-- No text that ends with a bracket loses a separator by trimming its end. -/
theorem sides_of_splitFirst {before behind high : List Char} {closing : Char}
    (hsplit : splitFirst separator s = some (before, behind))
    (htrim : Text.trim behind = high ++ [closing]) (hsep : ¬ separator <:+: high ++ [closing])
    (hc : closing ≠ 'O') : Sides s (Text.trim before) (Text.trim behind) := by
  obtain ⟨l, r, hbehind, hl, hr⟩ := exists_trim behind
  rw [htrim] at hbehind
  have hback : ¬ separator <:+: high ++ [closing] ++ r := mt (infix_of_append_blank hc hr) hsep
  by_cases hfront : separator <:+: behind
  · rw [hbehind] at hfront
    obtain ⟨blanks, rest, rfl, hrest⟩ := exists_of_blank_append hl hback hfront
    have hblanks : Blank blanks := fun c hc => hl c (List.mem_append_left _ hc)
    rw [hrest, infix_words_iff, not_or, ← pieces_eq_singleton_iff] at hback
    have hpieces : pieces behind = [blanks, rest] := by
      rw [hbehind, hrest, List.append_assoc]
      exact (pieces_blank_append hblanks rest).trans (by rw [hback.2])
    rw [hbehind, hrest, trim_append hl]
    exact .behindBlanks (pieces_eq_cons_cons_iff.mpr ⟨behind, hsplit, hpieces⟩) hblanks hback.1
  · have hpieces : pieces behind = [behind] := pieces_eq_singleton_iff.mpr hfront
    exact .between (pieces_eq_cons_cons_iff.mpr ⟨behind, hsplit, hpieces⟩)

/-- A text with a bracket at its end is taken apart into its sides. -/
theorem sides?_eq_some_iff {opening closing : Char} {low high : List Char} (hc : closing ≠ 'O') :
    sides? s = some (opening, low, high, closing) ↔ Sides s (opening :: low) (high ++ [closing]) := by
  rw [sides?, Option.bind_eq_bind, Option.bind_eq_some_iff]
  constructor
  · rintro ⟨⟨before, behind⟩, hsplit, h⟩
    dsimp only at h
    split at h
    · cases h
    · rename_i hoccurs
      split at h
      · rename_i hlow hhigh
        cases h
        have htrim := (List.dropLast_append_getLast? _ hhigh).symm
        rw [occurs_separator_iff, htrim] at hoccurs
        rw [← hlow, ← htrim]
        exact sides_of_splitFirst hsplit htrim hoccurs hc
      · cases h
  · intro h
    obtain ⟨before, behind, hsplit, hlow, hhigh, hsep⟩ := h.exists_splitFirst
    refine ⟨(before, behind), hsplit, ?_⟩
    dsimp only
    rw [hlow, hhigh, if_neg (mt occurs_separator_iff.mp hsep), List.getLast?_concat,
      List.dropLast_concat]

/-! ## Ranges -/

/-- What a range keeps of a bound that is encoded for the type it is written with: nothing of an open
side, the term of a number and any other text as it is. -/
def kept (raw : List Char) : Option String :=
  let raw := String.ofList raw
  if raw = "NULL" ∨ raw = "*" then none else some ((parseNumber? raw).elim raw Number.encode)

theorem bound_none (field text : String) (raw : List Char) :
    bound field text .none raw = .ok (kept raw) := by
  unfold bound kept
  dsimp only
  split
  · rfl
  · cases parseNumber? (String.ofList raw) <;> rfl

/-- Just the brackets say whether their bound is taken in. -/
theorem inclusive_eq_ok_iff {c : Char} {b : Bool} :
    inclusive field text c = .ok b ↔ ∃ bracket : Bracket, bracket.char = c ∧ bracket.curly = b := by
  constructor
  · intro h
    unfold inclusive inclusive? at h
    split at h
    · rename_i hbracket
      cases h
      split at hbracket <;> cases hbracket
      · exact ⟨⟨false, false⟩, rfl, rfl⟩
      · exact ⟨⟨false, true⟩, rfl, rfl⟩
      · exact ⟨⟨true, false⟩, rfl, rfl⟩
      · exact ⟨⟨true, true⟩, rfl, rfl⟩
    · cases h
  · rintro ⟨bracket, rfl, rfl⟩
    exact inclusive_char bracket

/-- The wording of a refusal quotes the text. -/
theorem Refused.infix_message {e : Error} (h : Refused field text e) :
    text.toList <:+: e.message.toList := by
  have quoted (s t : String) : text.toList <:+: (s ++ text ++ "' of facet " ++ t).toList := by
    simp only [String.toList_append, List.append_assoc]
    exact ⟨s.toList, "' of facet ".toList ++ t.toList, by simp⟩
  cases h with
  | shape => exact quoted _ field
  | bracket c => exact quoted _ field
  | bound raw type => exact quoted _ field

/-- For every field and every text: the text spells a range if its sides have brackets at their outer
ends.  The range then keeps the text, takes a bound in if its bracket is a curly one, and has for its
bounds what stands next to the brackets.  Any other text is refused as badly configured, and the
wording quotes it. -/
theorem parse_grammar (field text : String) :
    (∀ r, parse field text = .ok r ↔ ∃ (opening closing : Bracket) (low high : List Char),
      Sides text.toList (opening.char :: low) (high ++ [closing.char]) ∧
        r = { field, text, low := kept low, high := kept high, lowInclusive := opening.curly
              highInclusive := closing.curly }) ∧
      ∀ e, parse field text = .error e →
        e.kind = .configuration ∧ text.toList <:+: e.message.toList := by
  refine ⟨fun r => ?_, fun e he => ⟨kind_of_parseTyped he, (refused_of_parseTyped he).infix_message⟩⟩
  have hchar (b : Bracket) : b.char ≠ 'O' := by
    obtain ⟨curly, closing⟩ := b
    cases curly <;> cases closing <;> decide
  constructor
  · intro h
    cases hsides : sides? text.toList with
    | none =>
      rw [parse, parseTyped, hsides] at h
      cases h
    | some sides =>
      obtain ⟨_, low, high, _⟩ := sides
      obtain ⟨hopening, hclosing, hlow, hhigh, hfield, htext⟩ := (parseTyped_eq_ok_iff hsides).mp h
      obtain ⟨opening, rfl, hlowcurly⟩ := inclusive_eq_ok_iff.mp hopening
      obtain ⟨closing, rfl, hhighcurly⟩ := inclusive_eq_ok_iff.mp hclosing
      rw [bound_none, Except.ok.injEq] at hlow hhigh
      refine ⟨opening, closing, low, high, (sides?_eq_some_iff (hchar closing)).mp hsides, ?_⟩
      rw [hlowcurly, hhighcurly, hlow, hhigh, ← hfield, ← htext]
  · rintro ⟨opening, closing, low, high, hsides, rfl⟩
    exact (parseTyped_eq_ok_iff ((sides?_eq_some_iff (hchar closing)).mpr hsides)).mpr
      ⟨inclusive_char opening, inclusive_char closing, bound_none .., bound_none .., rfl, rfl⟩

/-- Blanks between two separators: the text has three pieces, and a range that is kept of it. -/
theorem parse_twoSeparators :
    let text := "[1 TO  TO x\x7d"
    pieces text.toList = ["[1".toList, [], "x\x7d".toList] ∧
      ∃ r, parse "count_Range" text = .ok r ∧ r.high = some "TO x" := by
  intro text
  refine ⟨by decide, ⟨"count_Range", text, some "i80000001", some "TO x", false, true⟩, ?_, rfl⟩
  decide +kernel

end TermRange

end FacetedSearch
