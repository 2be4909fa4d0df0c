import FacetedSearch.Proofs.Number.RoundTrip

/-!
# FacetedSearch.Proofs.Number.Canonical — which texts are read as numbers

A reader of terms takes more texts than encoding writes: digits may be capital letters, and a plus
sign may stand in the place of the first.  `Sortable.canonical` is the text that encoding would have
written instead.  A text is read as a number exactly if its canonical form is the term of the number
(`Sortable.decode_iff_canonical`), so that two texts may be read as one (`Sortable.decode_capital`).
-/

namespace FacetedSearch

namespace Hex

/-! ## Digits in either case -/

theorem toNat_lt_of_toLower {c : Char} (h : c.toLower.toNat < 128) : c.toNat < 128 := by
  unfold Char.toLower at h
  split at h
  · rename_i hupper
    have hle : c.toNat ≤ 'Z'.toNat := hupper.2
    exact Nat.lt_of_le_of_lt hle (by decide)
  · exact h

theorem bounds_of_value? {c : Char} {v : Nat} (h : value? c = some v) : c.toNat < 128 ∧ v < 16 := by
  unfold value? at h
  dsimp only at h
  split at h
  · cases h
    omega
  · split at h
    · cases h
      omega
    · split at h
      · cases h
        omega
      · cases h

/-- The digits of a value are its own one and the capital letter of that. -/
theorem value?_eq_some_iff {c : Char} {v : Nat} :
    value? c = some v ↔ v < 16 ∧ c.toLower = digit v := by
  have hascii : ∀ n < 128, ∀ v < 16,
      value? (Char.ofNat n) = some v ↔ (Char.ofNat n).toLower = digit v := by decide +kernel
  have hdigit : ∀ v < 16, (digit v).toNat < 128 := by decide
  constructor
  · intro h
    obtain ⟨hc, hv⟩ := bounds_of_value? h
    refine ⟨hv, ?_⟩
    rw [← Char.ofNat_toNat c] at h ⊢
    exact (hascii c.toNat hc v hv).mp h
  · rintro ⟨hv, h⟩
    have hc : c.toNat < 128 := toNat_lt_of_toLower (h ▸ hdigit v hv)
    rw [← Char.ofNat_toNat c] at h ⊢
    exact (hascii c.toNat hc v hv).mpr h

theorem utf8Size_of_value? {c : Char} {v : Nat} (h : value? c = some v) : c.utf8Size = 1 := by
  have hc : c.toNat < 128 := (bounds_of_value? h).1
  rw [Char.utf8Size_eq_one_iff, UInt32.le_iff_toNat_le]
  exact Nat.le_of_lt_succ hc

/-! ## Fixed-width digits -/

/-- The digits of a number do not show what lies beyond their width. -/
theorem write_add (w a n : Nat) : write w (a * Nat.pow 16 w + n) = write w n := by
  induction w generalizing a with
  | zero => rfl
  | succ w ih =>
    have hpos : 0 < Nat.pow 16 w := Nat.pow_pos (by decide)
    have hpow : a * Nat.pow 16 (w + 1) = a * 16 * Nat.pow 16 w := by
      rw [Nat.mul_assoc, Nat.mul_comm 16]
      rfl
    have hdigit : (a * 16 * Nat.pow 16 w + n) / Nat.pow 16 w % 16 = n / Nat.pow 16 w % 16 := by
      rw [Nat.mul_comm (a * 16), Nat.mul_add_div hpos, Nat.mul_add_mod_self_right]
    rw [hpow, write, write, hdigit, ih]

theorem readFrom_eq_some_iff {s : List Char} {acc r : Nat} :
    readFrom acc s = some r ↔ ∃ n < Nat.pow 16 s.length,
      s.map Char.toLower = write s.length n ∧ r = acc * Nat.pow 16 s.length + n := by
  induction s generalizing acc with
  | nil =>
    have hone : Nat.pow 16 ([] : List Char).length = 1 := rfl
    rw [readFrom, hone, Option.some.injEq]
    constructor
    · intro h
      exact ⟨0, by omega, rfl, by omega⟩
    · rintro ⟨n, hn, _, h⟩
      omega
  | cons c s ih =>
    have hpow : Nat.pow 16 (s.length + 1) = 16 * Nat.pow 16 s.length := Nat.mul_comm ..
    have hpos : 0 < Nat.pow 16 s.length := Nat.pow_pos (by decide)
    have hvalue (v n : Nat) : (16 * acc + v) * Nat.pow 16 s.length + n =
        acc * (16 * Nat.pow 16 s.length) + (v * Nat.pow 16 s.length + n) := by
      rw [Nat.add_mul, Nat.mul_comm 16 acc, Nat.mul_assoc, Nat.add_assoc]
    simp only [readFrom, List.length_cons, List.map_cons, write, Option.bind_eq_some_iff]
    constructor
    · rintro ⟨v, hc, h⟩
      obtain ⟨hv, hlower⟩ := value?_eq_some_iff.mp hc
      obtain ⟨n, hn, hs, hr⟩ := ih.mp h
      have hdigit : (v * Nat.pow 16 s.length + n) / Nat.pow 16 s.length % 16 = v := by
        rw [Nat.mul_comm v, Nat.mul_add_div hpos, Nat.div_eq_of_lt hn, Nat.add_zero,
          Nat.mod_eq_of_lt hv]
      refine ⟨v * Nat.pow 16 s.length + n, ?_, ?_, ?_⟩
      · have hmul : (v + 1) * Nat.pow 16 s.length ≤ 16 * Nat.pow 16 s.length :=
          Nat.mul_le_mul_right _ hv
        rw [Nat.succ_mul] at hmul
        omega
      · rw [hdigit, write_add, hs, hlower]
      · rw [hpow, hr, hvalue]
    · rintro ⟨n, hn, hs, hr⟩
      obtain ⟨hhead, htail⟩ := List.cons.inj hs
      have hsplit := mod_pow_succ s.length n
      rw [Nat.mod_eq_of_lt hn] at hsplit
      refine ⟨n / Nat.pow 16 s.length % 16,
        value?_eq_some_iff.mpr ⟨Nat.mod_lt _ (by decide), hhead⟩, ih.mpr ?_⟩
      refine ⟨n % Nat.pow 16 s.length, Nat.mod_lt _ hpos, ?_, ?_⟩
      · have hlow := write_add s.length (n / Nat.pow 16 s.length % 16) (n % Nat.pow 16 s.length)
        rw [← hsplit] at hlow
        exact htail.trans hlow
      · rw [hr, hpow, hvalue, ← hsplit]

theorem read?_eq_some_iff {s : List Char} {r : Nat} :
    read? s = some r ↔ r < Nat.pow 16 s.length ∧ s.map Char.toLower = write s.length r := by
  rw [read?, readFrom_eq_some_iff]
  constructor
  · rintro ⟨n, hn, hs, hr⟩
    rw [Nat.zero_mul, Nat.zero_add] at hr
    rw [hr]
    exact ⟨hn, hs⟩
  · rintro ⟨hr, hs⟩
    exact ⟨r, hr, hs, by omega⟩

/-- Digits that can be read are single bytes. -/
theorem byteCount_of_readFrom {s : List Char} {acc r : Nat} (h : readFrom acc s = some r) :
    Sortable.byteCount s = s.length := by
  induction s generalizing acc with
  | nil => rfl
  | cons c s ih =>
    obtain ⟨v, hc, h⟩ := Option.bind_eq_some_iff.mp h
    rw [Sortable.byteCount, utf8Size_of_value? hc, ih h, List.length_cons, Nat.add_comm]

/-- Fixed-width digits are read in either case. -/
theorem read?_lower_iff {s : List Char} {w r : Nat} :
    Sortable.byteCount s = w ∧ read? s = some r ↔
      r < Nat.pow 16 w ∧ s.map Char.toLower = write w r := by
  constructor
  · rintro ⟨hw, h⟩
    have hlength : w = s.length := hw.symm.trans (byteCount_of_readFrom h)
    rw [hlength]
    exact read?_eq_some_iff.mp h
  · rintro ⟨hr, hs⟩
    have hlength : s.length = w := by
      rw [← List.length_map Char.toLower, hs, length_write]
    have h : read? s = some r := read?_eq_some_iff.mpr (by rw [hlength]; exact ⟨hr, hs⟩)
    exact ⟨(byteCount_of_readFrom h).trans hlength, h⟩

/-- A zero in front stands for nothing. -/
theorem write_succ_eq_iff {w r : Nat} {s : List Char} :
    r < Nat.pow 16 (w + 1) ∧ '0' :: s = write (w + 1) r ↔ r < Nat.pow 16 w ∧ s = write w r := by
  have hpos : 0 < Nat.pow 16 w := Nat.pow_pos (by decide)
  have hsplit := mod_pow_succ w r
  have hzero : ∀ v < 16, '0' = digit v ↔ v = 0 := by decide
  have hpow : Nat.pow 16 (w + 1) = 16 * Nat.pow 16 w := Nat.mul_comm ..
  rw [write, List.cons.injEq, hzero _ (Nat.mod_lt _ (by decide))]
  constructor
  · rintro ⟨hr, hfirst, hs⟩
    rw [hfirst, Nat.mod_eq_of_lt hr, Nat.zero_mul, Nat.zero_add] at hsplit
    exact ⟨hsplit ▸ Nat.mod_lt r hpos, hs⟩
  · rintro ⟨hr, hs⟩
    exact ⟨by omega, by rw [Nat.div_eq_of_lt hr], hs⟩

end Hex

/-! ## Numbers of a rank -/

namespace Binary

variable {f : BinaryFormat}

theorem rank_ofRank {r : Nat} (hr : r < 2 * f.signWeight) : (ofRank r : Binary f).rank = r := by
  have hpattern : (ofRank r : Binary f).pattern =
      if f.signWeight ≤ r then r - f.signWeight else 2 * f.signWeight - 1 - r := by
    refine Nat.mod_eq_of_lt ?_
    split <;> omega
  unfold rank negative
  simp only [hpattern, decide_eq_true_eq]
  split <;> split <;> omega

end Binary

/-- Every rank is taken. -/
theorem Number.rank_ofRank {type : NumberType} {r : Nat} (hr : r < Nat.pow 16 type.width) :
    (ofRank type r).rank = r := by
  cases type with
  | int =>
    have hr : r < 4294967296 := hr
    show ((Int32.ofInt (r - 2147483648)).toInt + 2147483648).toNat = r
    rw [Int32.toInt_ofInt_of_le (by omega) (by omega)]
    omega
  | long =>
    have hr : r < 18446744073709551616 := hr
    show ((Int64.ofInt (r - 9223372036854775808)).toInt + 9223372036854775808).toNat = r
    rw [Int64.toInt_ofInt_of_le (by omega) (by omega)]
    omega
  | float => exact Binary.rank_ofRank hr
  | double => exact Binary.rank_ofRank hr

/-! ## Canonical forms -/

namespace Sortable

/-- Digits as encoding writes them: in lower case, and with a zero in the place of a plus sign in
front. -/
def spelled : List Char → List Char
  | '+' :: rest => '0' :: rest.map Char.toLower
  | digits => digits.map Char.toLower

/-- A text with the digits behind its first character as encoding writes them. -/
def canonical (text : String) : String :=
  match text.toList with
  | [] => ""
  | tag :: digits => String.ofList (tag :: spelled digits)

/-- Digits without the plus sign that may stand in front. -/
def unsigned (digits : List Char) : List Char :=
  if digits.head? = some '+' then digits.tail else digits

theorem rank_eq (type : NumberType) (text : String) :
    rank type text = payload type text >>= fun digits =>
      match Hex.read? (unsigned digits) with
      | some r => .ok r
      | none => .error (.sortableDigits text) := rfl

theorem spelled_of_ne {digits : List Char} (h : digits.head? ≠ some '+') :
    spelled digits = digits.map Char.toLower := by
  unfold spelled
  split
  · exact absurd rfl h
  · rfl

theorem read?_unsigned_iff {digits : List Char} {w r : Nat} :
    byteCount digits = w ∧ Hex.read? (unsigned digits) = some r ↔
      r < Nat.pow 16 w ∧ spelled digits = Hex.write w r := by
  by_cases hplus : digits.head? = some '+'
  · obtain ⟨rest, rfl⟩ := List.head?_eq_some_iff.mp hplus
    have hbytes : byteCount ('+' :: rest) = byteCount rest + 1 := Nat.add_comm ..
    rw [unsigned, if_pos hplus, List.tail_cons, hbytes]
    show _ ↔ r < Nat.pow 16 w ∧ '0' :: rest.map Char.toLower = Hex.write w r
    cases w with
    | zero => simp [Hex.write]
    | succ w => rw [Nat.add_right_cancel_iff, Hex.read?_lower_iff, Hex.write_succ_eq_iff]
  · rw [unsigned, if_neg hplus, spelled_of_ne hplus, Hex.read?_lower_iff]

/-- The rank of a text is the one whose digits its canonical form has. -/
theorem rank_eq_ok_iff {type : NumberType} {text : String} {r : Nat} :
    rank type text = .ok r ↔ r < Nat.pow 16 type.width ∧
      canonical text = String.ofList (type.tag :: Hex.write type.width r) := by
  rw [rank_eq]
  unfold payload canonical
  cases text.toList with
  | nil =>
    constructor
    · intro h
      cases h
    · rintro ⟨_, h⟩
      cases String.ofList_inj.mp (String.ofList_nil.trans h)
  | cons c digits =>
    dsimp only
    rw [String.ofList_inj, List.cons.injEq, and_left_comm, ← read?_unsigned_iff]
    constructor
    · intro h
      split at h
      · rename_i hpayload
        refine ⟨hpayload.1, hpayload.2, ?_⟩
        cases hread : Hex.read? (unsigned digits) with
        | none =>
          simp [bind, Except.bind, hread] at h
        | some n =>
          simp [bind, Except.bind, hread] at h
          rw [h]
      · cases h
    · rintro ⟨hc, hw, hread⟩
      rw [if_pos ⟨hc, hw⟩]
      simp [bind, Except.bind, hread]

/-- A text is read for a type exactly if its canonical form is the term of a number of the type. -/
theorem decodeAs_eq_ok_iff {type : NumberType} {text : String} {n : Number} :
    decodeAs type text = .ok n ↔ n.type = type ∧ canonical text = n.encode := by
  rw [decodeAs_eq]
  constructor
  · intro h
    cases hrank : rank type text with
    | error e =>
      rw [hrank] at h
      cases h
    | ok r =>
      rw [hrank] at h
      cases h
      obtain ⟨hr, hcanonical⟩ := rank_eq_ok_iff.mp hrank
      refine ⟨Number.type_ofRank type r, ?_⟩
      rw [hcanonical, Number.encode, Number.type_ofRank, Number.rank_ofRank hr]
  · rintro ⟨htype, hcanonical⟩
    subst htype
    have hrank : rank n.type text = .ok n.rank := rank_eq_ok_iff.mpr ⟨n.rank_lt, hcanonical⟩
    rw [hrank]
    exact congrArg Except.ok n.ofRank_rank

theorem decode_eq_ok_iff {text : String} {n : Number} :
    decode text = .ok n ↔ canonical text = n.encode := by
  constructor
  · intro h
    have hread (type : NumberType) (h : decodeAs type text = .ok n) : canonical text = n.encode :=
      (decodeAs_eq_ok_iff.mp h).2
    unfold decode at h
    split at h
    · exact hread .int h
    · exact hread .long h
    · exact hread .float h
    · exact hread .double h
    · cases h
  · intro h
    have hhead : text.toList.head? = some n.type.tag := by
      unfold canonical at h
      cases htext : text.toList with
      | nil =>
        rw [htext] at h
        have hnil := congrArg String.toList h
        rw [toList_encode] at hnil
        cases hnil
      | cons c digits =>
        rw [htext] at h
        have hcons := congrArg String.toList h
        rw [toList_encode, String.toList_ofList] at hcons
        rw [List.head?_cons, (List.cons.inj hcons).1]
    rw [decode_of_head? hhead]
    exact decodeAs_eq_ok_iff.mpr ⟨rfl, h⟩

/-! ## Refusals -/

theorem kind_of_rank {type : NumberType} {text : String} {e : Error}
    (h : rank type text = .error e) : e.kind = .parse := by
  rw [rank_eq] at h
  cases hpayload : payload type text with
  | error fault =>
    rw [hpayload] at h
    cases h
    unfold payload at hpayload
    split at hpayload
    · split at hpayload <;> cases hpayload
      rfl
    · cases hpayload
      rfl
  | ok digits =>
    rw [hpayload] at h
    simp only [bind, Except.bind] at h
    split at h <;> cases h
    rfl

theorem kind_of_decodeAs {type : NumberType} {text : String} {e : Error}
    (h : decodeAs type text = .error e) : e.kind = .parse := by
  rw [decodeAs_eq] at h
  cases hrank : rank type text with
  | error fault =>
    rw [hrank] at h
    cases h
    exact kind_of_rank hrank
  | ok r =>
    rw [hrank] at h
    cases h

theorem kind_of_decode {text : String} {e : Error} (h : decode text = .error e) :
    e.kind = .parse := by
  have hkind (type : NumberType) (h : decodeAs type text = .error e) : e.kind = .parse :=
    kind_of_decodeAs h
  unfold decode at h
  split at h
  · exact hkind .int h
  · exact hkind .long h
  · exact hkind .float h
  · exact hkind .double h
  · cases h
    rfl

/-! ## Texts in canonical form -/

/-- No plus sign stands behind the first character of a text, and no capital letter further on. -/
structure Plain (text : String) : Prop where
  unsigned : text.toList.tail.head? ≠ some '+'
  lower : ∀ c ∈ text.toList.tail, c.isUpper = false

theorem toLower_eq_self_iff {c : Char} : c.toLower = c ↔ c.isUpper = false := by
  unfold Char.toLower Char.isUpper
  split
  · rename_i hupper
    have hne : c.val + ('a'.val - 'A'.val) ≠ c.val := by simp
    refine iff_of_false (fun h => hne (congrArg Char.val h)) ?_
    rw [decide_eq_true hupper]
    exact Bool.noConfusion
  · rename_i hupper
    exact iff_of_true rfl (decide_eq_false hupper)

theorem map_toLower_eq_self_iff {digits : List Char} :
    digits.map Char.toLower = digits ↔ ∀ c ∈ digits, c.isUpper = false := by
  induction digits with
  | nil => simp
  | cons c digits ih =>
    rw [List.map_cons, List.cons.injEq, ih, toLower_eq_self_iff, List.forall_mem_cons]

theorem canonical_eq_self_iff {text : String} : canonical text = text ↔ Plain text := by
  have hplain : Plain text ↔ text.toList.tail.head? ≠ some '+' ∧
      ∀ c ∈ text.toList.tail, c.isUpper = false := ⟨fun h => ⟨h.1, h.2⟩, fun h => ⟨h.1, h.2⟩⟩
  rw [hplain, ← String.toList_inj, canonical]
  cases text.toList with
  | nil => simp
  | cons tag digits =>
    rw [String.toList_ofList, List.cons.injEq, List.tail_cons]
    by_cases hplus : digits.head? = some '+'
    · obtain ⟨rest, hrest⟩ := List.head?_eq_some_iff.mp hplus
      rw [hrest]
      simp [spelled]
    · rw [spelled_of_ne hplus, map_toLower_eq_self_iff]
      simp [hplus]

/-- The texts that are read as numbers.  A text is read for a type exactly if its canonical form is
the term of a number of that type, and by its tag if that is the term of any number; it is read as
that number.  Other texts are refused as not in the form they should have.  So a text that is read
is the term of its number unless it has a plus sign or a capital letter among its digits. -/
theorem decode_iff_canonical (text : String) :
    (∀ type n, decodeAs type text = .ok n ↔ n.type = type ∧ canonical text = n.encode) ∧
      (∀ n, decode text = .ok n ↔ canonical text = n.encode) ∧
      (∀ type e, decodeAs type text = .error e → e.kind = .parse) ∧
      (∀ e, decode text = .error e → e.kind = .parse) ∧
      ∀ n, decode text = .ok n → (n.encode = text ↔ Plain text) := by
  refine ⟨fun _ _ => decodeAs_eq_ok_iff, fun _ => decode_eq_ok_iff, fun _ _ => kind_of_decodeAs,
    fun _ => kind_of_decode, ?_⟩
  intro n h
  rw [← canonical_eq_self_iff, decode_eq_ok_iff.mp h]

/-- A capital letter is read like its small one, and a plus sign like a zero, although no term has
either. -/
theorem decode_capital :
    decode "i8000000A" = .ok (.int 10) ∧ decodeInt "i8000000A" = .ok 10 ∧
      (Number.int 10).encode = "i8000000a" ∧ decode "i8000000a" = .ok (.int 10) ∧
      (decode "l+00000000000000a").toOption.map Number.encode = some "l000000000000000a" := by
  have hsame (text : String) (h : canonical text = (Number.int 10).encode) :
      decode text = .ok (.int 10) := decode_eq_ok_iff.mpr h
  refine ⟨hsame _ ?_, rfl, ?_, hsame _ ?_, ?_⟩
  all_goals decide +kernel

end Sortable

end FacetedSearch
