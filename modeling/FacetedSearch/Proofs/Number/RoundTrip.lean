import FacetedSearch.Proofs.Number.Order

/-!
# FacetedSearch.Proofs.Number.RoundTrip — a term is read back as its number

The digits of a term fill the width of its type and spell the rank of the number
(`Sortable.rank_encode`), and a number is the one of its type and rank (`Number.ofRank_rank`).  So
reading undoes writing, for the type of the number and for no other (`Sortable.decoders_encode`).
-/

namespace FacetedSearch

namespace Hex

/-- Digits are single bytes, and none of them is a sign. -/
theorem digit_plain {v : Nat} (hv : v < 16) : (digit v).utf8Size = 1 ∧ digit v ≠ '+' := by
  have h : ∀ v < 16, (digit v).utf8Size = 1 ∧ digit v ≠ '+' := by decide
  exact h v hv

theorem byteCount_write (w n : Nat) : Sortable.byteCount (write w n) = w := by
  induction w with
  | zero => rfl
  | succ w ih =>
    rw [write, Sortable.byteCount, ih, (digit_plain (Nat.mod_lt _ (by decide))).1, Nat.add_comm]

theorem head?_write_ne (w n : Nat) : (write w n).head? ≠ some '+' := by
  cases w with
  | zero => nofun
  | succ w =>
    intro h
    exact (digit_plain (Nat.mod_lt _ (by decide))).2 (Option.some.inj h)

end Hex

namespace Binary

variable {f : BinaryFormat}

theorem ofPattern_pattern (x : Binary f) : ofPattern x.pattern = x :=
  pattern_inj.mp (Nat.mod_eq_of_lt x.pattern_lt)

/-- A number is the one of its rank. -/
theorem ofRank_rank (x : Binary f) : ofRank x.rank = x := by
  have hx := x.pattern_lt
  have hpattern : (if f.signWeight ≤ x.rank then x.rank - f.signWeight
      else 2 * f.signWeight - 1 - x.rank) = x.pattern := by
    rw [rank, negative]
    split <;> rename_i h <;> rw [decide_eq_true_iff] at h
    · rw [if_neg (by omega)]
      omega
    · rw [if_pos (by omega)]
      omega
  rw [ofRank, hpattern, ofPattern_pattern]

end Binary

namespace Number

/-- The number of a type with a rank. -/
def ofRank (type : NumberType) (r : Nat) : Number :=
  match type with
  | .int => .int (Int32.ofInt (r - 2147483648))
  | .long => .long (Int64.ofInt (r - 9223372036854775808))
  | .float => .float (Binary.ofRank r)
  | .double => .double (Binary.ofRank r)

theorem type_ofRank (type : NumberType) (r : Nat) : (ofRank type r).type = type := by
  cases type <;> rfl

/-- A number is the one of its type and rank. -/
theorem ofRank_rank (n : Number) : ofRank n.type n.rank = n := by
  cases n with
  | int v =>
    have hle := v.le_toInt
    have hvalue : ((v.toInt + 2147483648).toNat : Int) - 2147483648 = v.toInt := by omega
    show Number.int (Int32.ofInt (((v.toInt + 2147483648).toNat : Int) - 2147483648)) = _
    rw [hvalue, Int32.ofInt_toInt]
  | long v =>
    have hle := v.le_toInt
    have hvalue : ((v.toInt + 9223372036854775808).toNat : Int) - 9223372036854775808 = v.toInt := by
      omega
    show Number.long (Int64.ofInt
      (((v.toInt + 9223372036854775808).toNat : Int) - 9223372036854775808)) = _
    rw [hvalue, Int64.ofInt_toInt]
  | float x => exact congrArg Number.float x.ofRank_rank
  | double x => exact congrArg Number.double x.ofRank_rank

end Number

theorem NumberType.tag_inj {s t : NumberType} (h : s.tag = t.tag) : s = t := by
  cases s <;> cases t <;> first | rfl | exact absurd h (by decide)

namespace Sortable

/-- The number that a text is the term of among the numbers of one type. -/
def decodeAs (type : NumberType) (text : String) : Except Error Number :=
  match type with
  | .int => (decodeInt text).map .int
  | .long => (decodeLong text).map .long
  | .float => (decodeFloat text).map .float
  | .double => (decodeDouble text).map .double

theorem decodeAs_eq (type : NumberType) (text : String) :
    decodeAs type text = (rank type text).map (Number.ofRank type) := by
  cases type <;> simp only [decodeAs, decodeInt, decodeLong, decodeFloat, decodeDouble] <;>
    cases rank _ text <;> rfl

/-- The tag tells which type a text is read for. -/
theorem decode_of_head? {type : NumberType} {text : String}
    (h : text.toList.head? = some type.tag) : decode text = decodeAs type text := by
  unfold decode
  rw [h]
  cases type <;> rfl

theorem toList_encode (n : Number) :
    n.encode.toList = n.type.tag :: Hex.write n.type.width n.rank := by
  rw [Number.encode, String.toList_ofList]

/-- The digits behind the tag of a term spell the rank of its number. -/
theorem rank_encode (n : Number) : rank n.type n.encode = .ok n.rank := by
  have hpayload : payload n.type n.encode = .ok (Hex.write n.type.width n.rank) := by
    rw [payload, toList_encode]
    exact if_pos ⟨rfl, Hex.byteCount_write _ _⟩
  rw [rank, hpayload]
  dsimp only [bind, Except.bind]
  rw [if_neg (Hex.head?_write_ne _ _), Hex.read?_write n.rank_lt]

/-- The term of a number has no rank among the numbers of a type with another tag. -/
theorem rank_of_tag_ne {type : NumberType} {n : Number} (h : n.type.tag ≠ type.tag) :
    rank type n.encode = .error (.sortableWidth type.tag type.width n.encode) := by
  rw [rank, payload, toList_encode]
  simp only [h, false_and, if_false]
  rfl

theorem decodeInt_encode (v : Int32) : decodeInt (Number.int v).encode = .ok v := by
  have hrank : rank .int (Number.int v).encode = .ok (Number.int v).rank := rank_encode (.int v)
  rw [decodeInt, hrank]
  exact congrArg Except.ok (Number.int.inj (Number.ofRank_rank (.int v)))

/-- The decoder of a number's type reads the number off its term. -/
theorem decodeAs_encode (n : Number) : decodeAs n.type n.encode = .ok n := by
  rw [decodeAs_eq, rank_encode]
  exact congrArg Except.ok n.ofRank_rank

/-- Reading the term of a number gives the number. -/
theorem decode_encode (n : Number) : decode n.encode = .ok n := by
  have hhead : n.encode.toList.head? = some n.type.tag := by rw [toList_encode, List.head?_cons]
  rw [decode_of_head? hhead, decodeAs_encode]

/-- Reading undoes writing, for every pattern of every type.  The decoder of a number's type reads
the number off its term and so does the one that goes by the tag, while those of the other types
refuse the term as not in the form it should have.  So different numbers have different terms. -/
theorem decoders_encode (n : Number) :
    decodeAs n.type n.encode = .ok n ∧ decode n.encode = .ok n ∧
      (∀ type, type ≠ n.type →
        decodeAs type n.encode = .error (.sortableWidth type.tag type.width n.encode) ∧
          (Error.sortableWidth type.tag type.width n.encode).kind = .parse) ∧
      ∀ m : Number, m.encode = n.encode → m = n := by
  refine ⟨decodeAs_encode n, decode_encode n, ?_, ?_⟩
  · intro type htype
    have htag : n.type.tag ≠ type.tag := fun h => htype (NumberType.tag_inj h).symm
    rw [decodeAs_eq, rank_of_tag_ne htag]
    exact ⟨rfl, rfl⟩
  · intro m hterm
    have hm := decode_encode m
    rw [hterm, decode_encode n] at hm
    exact (Except.ok.inj hm).symm

end Sortable

end FacetedSearch
