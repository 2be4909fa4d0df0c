import FacetedSearch.Json.Token
import Mathlib.Data.List.Basic

/-!
# FacetedSearch.Proofs.Json.Lexing — spelled tokens are read back

A token is read back from the front of a text that starts with its spelling (`Token.next?_spell`),
where nothing that could continue a number stands behind one.  Tokens are `Apart` when that is so
throughout; then the text that they spell one behind the other is read as them and nothing else
(`Token.read?_spelled`).
-/

namespace FacetedSearch.Json

/-! ## Quoted texts -/

theorem quoted?_plain {c : Char} (hquote : c ≠ '"') (hslash : c ≠ '\\') (hcontrol : ¬ c.toNat < 0x20)
    (s : List Char) : quoted? (c :: s) = (quoted? s).map fun p => (.char c :: p.1, p.2) := by
  rw [quoted?, if_neg hcontrol]
  · cases quoted? s <;> rfl
  · exact hquote
  · exact fun _ _ _ _ _ he _ => hslash he
  · exact fun _ _ he _ => hslash he

/-- A letter stands for the character that it is written for, and it is none that begins a code. -/
theorem escaped?_of_escapeLetter? {c letter : Char} (h : escapeLetter? c = some letter) :
    escaped? letter = some c ∧ letter ≠ 'u' := by
  unfold escapeLetter? at h
  split at h <;> cases h <;> exact ⟨rfl, by decide⟩

/-- However a character is written between quotes, it is read as itself. -/
theorem quoted?_escape (c : Char) (s : List Char) :
    quoted? (escape c ++ s) = (quoted? s).map fun p => (.char c :: p.1, p.2) := by
  rw [escape]
  cases hletter : escapeLetter? c with
  | some letter =>
    obtain ⟨hread, hcode⟩ := escaped?_of_escapeLetter? hletter
    show quoted? ('\\' :: letter :: s) = _
    rw [quoted?, hread, Option.bind_eq_bind, Option.bind_some]
    · cases quoted? s <;> rfl
    · exact fun _ _ _ _ _ he _ => hcode he
  | none =>
    dsimp only
    split
    · rename_i hcontrol
      have hread : Hex.read? (Hex.write 4 c.toNat) = some c.toNat :=
        Hex.read?_write (Nat.lt_trans hcontrol (by decide))
      have hcode : TextUnit.ofCode c.toNat = .char c := by
        rw [TextUnit.ofCode, if_neg (by omega), Char.ofNat_toNat]
      obtain ⟨w, x, y, z, hw⟩ : ∃ w x y z, Hex.write 4 c.toNat = [w, x, y, z] :=
        ⟨_, _, _, _, rfl⟩
      rw [hw] at hread ⊢
      show quoted? ('\\' :: 'u' :: w :: x :: y :: z :: s) = _
      rw [quoted?, hread, Option.bind_eq_bind, Option.bind_some, hcode]
      cases quoted? s <;> rfl
    · rename_i hplain
      refine quoted?_plain (fun he => ?_) (fun he => ?_) hplain s <;>
      · rw [he] at hletter
        cases hletter

theorem quoted?_flatMap_escape (s rest : List Char) :
    quoted? (s.flatMap escape ++ '"' :: rest) = some (s.map .char, rest) := by
  induction s with
  | nil => rfl
  | cons c s ih =>
    rw [List.flatMap_cons, List.append_assoc, quoted?_escape, ih]
    rfl

theorem TextUnit.assemble_map_char (s : List Char) : assemble (s.map .char) = some s := by
  induction s with
  | nil => rfl
  | cons c s ih => rw [List.map_cons, assemble, ih, Option.map_some]

/-! ## Numbers -/

/-- Nothing that could continue a number stands at the front of the text. -/
def EndsNumber (s : List Char) : Prop := ∀ c ∈ s.head?, c = ',' ∨ c = ']' ∨ c = '\x7d'

theorem EndsNumber.head {c : Char} {s : List Char} (h : EndsNumber (c :: s)) :
    c = ',' ∨ c = ']' ∨ c = '\x7d' := h c rfl

theorem digits?_append {run rest : List Char} (hne : run ≠ []) (hrun : ∀ c ∈ run, c.isDigit = true)
    (hrest : EndsNumber rest) : digits? (run ++ rest) = some (run, rest) := by
  have htake : rest.takeWhile Char.isDigit = [] ∧ rest.dropWhile Char.isDigit = rest := by
    cases rest with
    | nil => exact ⟨rfl, rfl⟩
    | cons c rest =>
      have hc : c.isDigit = false := by
        obtain rfl | rfl | rfl := hrest.head <;> rfl
      simp [hc]
  rw [digits?, List.takeWhile_append_of_pos hrun, List.dropWhile_append_of_pos hrun, htake.1,
    htake.2, List.append_nil]
  simp [hne]

/-- The first digit of a number is a zero only if it is the number zero. -/
theorem head?_toDigits {n : Nat} (hn : n ≠ 0) : (Nat.toDigits 10 n).head? ≠ some '0' := by
  induction n using Nat.strongRecOn with
  | ind n ih =>
    by_cases hlt : n < 10
    · have hdigit : ∀ m < 10, m ≠ 0 → Nat.digitChar m ≠ '0' := by decide
      rw [Nat.toDigits_of_lt_base hlt]
      simpa using hdigit n hlt hn
    · have hle : 10 ≤ n := Nat.le_of_not_lt hlt
      rw [Nat.toDigits_of_base_le (by decide) hle, List.head?_append_of_ne_nil _ Nat.toDigits_ne_nil]
      exact ih (n / 10) (Nat.div_lt_self (by omega) (by decide)) (by omega)

theorem exists_toDigits (n : Nat) :
    ∃ d ds, Nat.toDigits 10 n = d :: ds ∧ d.isDigit = true := by
  obtain ⟨d, ds, hdigits⟩ := List.exists_cons_of_ne_nil (Nat.toDigits_ne_nil (b := 10) (n := n))
  refine ⟨d, ds, hdigits, Nat.isDigit_of_mem_toDigits (b := 10) (n := n) (by decide) (by decide) ?_⟩
  rw [hdigits]
  exact List.mem_cons_self

theorem isGap_of_isDigit {c : Char} (h : c.isDigit = true) : isGap c = false := by
  simp only [isGap, Bool.or_eq_false_iff, beq_eq_false_iff_ne]
  refine ⟨⟨⟨?_, ?_⟩, ?_⟩, ?_⟩ <;> rintro rfl <;> cases h

theorem whole?_toDigits (n : Nat) {rest : List Char} (hrest : EndsNumber rest) :
    whole? (Nat.toDigits 10 n ++ rest) = some (Nat.toDigits 10 n, rest) := by
  by_cases hn : n = 0
  · subst hn
    rfl
  · have hhead := head?_toDigits hn
    rw [whole?]
    · have hdigits (c : Char) (hc : c ∈ Nat.toDigits 10 n) : c.isDigit = true :=
        Nat.isDigit_of_mem_toDigits (by decide) (by decide) hc
      exact digits?_append Nat.toDigits_ne_nil hdigits hrest
    · intro tail htail
      obtain ⟨d, ds, hdigits, -⟩ := exists_toDigits n
      rw [hdigits] at hhead htail
      obtain ⟨rfl, -⟩ := List.cons.inj htail
      exact hhead rfl

theorem fraction?_of_endsNumber {rest : List Char} (h : EndsNumber rest) :
    fraction? rest = some (false, rest) := by
  rw [fraction?]
  rintro tail rfl
  obtain ⟨⟨⟩⟩ | ⟨⟨⟩⟩ | ⟨⟨⟩⟩ := h.head

theorem exponent?_of_endsNumber {rest : List Char} (h : EndsNumber rest) :
    exponent? rest = some (false, rest) := by
  rw [exponent?]
  all_goals
    rintro tail rfl
    obtain ⟨⟨⟩⟩ | ⟨⟨⟩⟩ | ⟨⟨⟩⟩ := h.head

theorem unsigned?_toDigits (n : Nat) {rest : List Char} (hrest : EndsNumber rest) :
    unsigned? (Nat.toDigits 10 n ++ rest) = some (.natural n, rest) := by
  rw [unsigned?, whole?_toDigits n hrest]
  simp only [Option.bind_eq_bind, Option.bind_some, fraction?_of_endsNumber hrest,
    exponent?_of_endsNumber hrest]
  rw [Nat.ofDigitChars_ten_toDigits]
  rfl

/-! ## Tokens -/

namespace Token

/-- Whether the token is a number, which what stands behind it may continue. -/
def isNumber : Token → Bool
  | .natural _ | .otherNumber => true
  | _ => false

/-- Whether the token may stand behind a number. -/
def mayFollow : Token → Bool
  | .comma | .closeList | .closeObject => true
  | _ => false

theorem next?_of_isDigit {c : Char} (hc : c.isDigit = true) (s : List Char) :
    next? (c :: s) = unsigned? (c :: s) := by
  rw [next?]
  all_goals
    intros
    rename_i h
    cases h
    cases hc

theorem next?_text (s : String) (rest : List Char) :
    next? (spell (.text (some s)) ++ rest) = some (.text (some s), rest) := by
  have hspell : spell (.text (some s)) ++ rest = '"' :: (s.toList.flatMap escape ++ '"' :: rest) := by
    simp [spell]
  rw [hspell, next?, quoted?_flatMap_escape, Option.bind_eq_bind, Option.bind_some]
  dsimp only
  rw [TextUnit.assemble_map_char, Option.map_some, String.ofList_toList]
  rfl

/-- A token is read back from its spelling. -/
theorem next?_spell (t : Token) {rest : List Char} (h : t.isNumber = true → EndsNumber rest) :
    next? (t.spell ++ rest) = some (t, rest) := by
  cases t with
  | openList | closeList | openObject | closeObject | colon | comma | null => rfl
  | boolean b => cases b <;> rfl
  | natural n =>
    obtain ⟨d, ds, hdigits, hd⟩ := exists_toDigits n
    have hread := unsigned?_toDigits n (h rfl)
    rw [hdigits] at hread
    rw [spell, hdigits]
    exact (next?_of_isDigit hd _).trans hread
  | otherNumber =>
    have hread := unsigned?_toDigits 0 (h rfl)
    change (unsigned? ('0' :: rest)).map _ = _
    change unsigned? ('0' :: rest) = _ at hread
    rw [hread]
    rfl
  | text s =>
    cases s with
    | none => rfl
    | some s => exact next?_text s rest

/-- No token starts with a gap. -/
theorem spell_eq_cons (t : Token) : ∃ c s, t.spell = c :: s ∧ isGap c = false := by
  cases t with
  | boolean b => cases b <;> exact ⟨_, _, rfl, rfl⟩
  | natural n =>
    obtain ⟨d, ds, hdigits, hd⟩ := exists_toDigits n
    exact ⟨d, ds, hdigits, isGap_of_isDigit hd⟩
  | text s => cases s <;> exact ⟨_, _, rfl, rfl⟩
  | _ => exact ⟨_, _, rfl, rfl⟩

theorem read?_of_next? {c : Char} {s behind : List Char} {t : Token} (hc : isGap c = false)
    (h : next? (c :: s) = some (t, behind)) :
    read? (c :: s) = (read? behind).map (t :: ·) := by
  have hdrop : (c :: s).dropWhile isGap = c :: s := by rw [List.dropWhile_cons, hc]; rfl
  rw [read?]
  split
  · rename_i hs
    rw [hdrop] at hs
    cases hs
  · rename_i c' rest hs
    rw [hdrop] at hs
    obtain ⟨rfl, rfl⟩ := List.cons.inj hs
    split
    · rename_i hnone
      rw [h] at hnone
      cases hnone
    · rename_i token rest' hsome
      rw [h] at hsome
      cases hsome
      rfl

theorem read?_spell (t : Token) {rest : List Char} (h : t.isNumber = true → EndsNumber rest) :
    read? (t.spell ++ rest) = (read? rest).map (t :: ·) := by
  obtain ⟨c, s, hs, hc⟩ := t.spell_eq_cons
  have hnext := t.next?_spell h
  rw [hs] at hnext ⊢
  exact read?_of_next? hc hnext

/-! ## Lists of tokens -/

/-- Whether what stands at the front may follow a number. -/
def Follows : List Token → Prop
  | [] => True
  | t :: _ => t.mayFollow = true

/-- Behind every number there is nothing, or a token that may follow it. -/
def Apart : List Token → Prop
  | [] => True
  | t :: rest => (t.isNumber = true → Follows rest) ∧ Apart rest

theorem Apart.cons {t : Token} {rest : List Token} (ht : t.isNumber = false) (h : Apart rest) :
    Apart (t :: rest) := ⟨fun hn => absurd hn (by simp [ht]), h⟩

theorem Follows.endsNumber {tokens : List Token} (h : Follows tokens) :
    EndsNumber (tokens.flatMap spell) := by
  cases tokens with
  | nil => exact nofun
  | cons t rest =>
    cases t with
    | comma =>
      rintro c ⟨⟩
      exact .inl rfl
    | closeList =>
      rintro c ⟨⟩
      exact .inr (.inl rfl)
    | closeObject =>
      rintro c ⟨⟩
      exact .inr (.inr rfl)
    | _ => cases h

/-- Tokens that are kept apart are read back from what they spell. -/
theorem read?_spelled {tokens : List Token} (h : Apart tokens) :
    read? (tokens.flatMap spell) = some tokens := by
  induction tokens with
  | nil =>
    rw [List.flatMap_nil, read?]
    rfl
  | cons t rest ih =>
    rw [List.flatMap_cons, read?_spell t fun hn => (h.1 hn).endsNumber, ih h.2]
    rfl

end Token

end FacetedSearch.Json
