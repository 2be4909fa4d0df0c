/-!
# FacetedSearch.Checksum — cyclic redundancy check of texts

The 32-bit check with the reflected polynomial `0xEDB88320`, over bytes and over lists of texts.  A
list of texts is summed as its length in four bytes, least significant first, and then each text in
UTF-8 with a zero byte behind it.  Different lists may have one checksum.
-/

namespace FacetedSearch.Checksum

/-- One bit of the remainder. -/
def shift (c : UInt32) : UInt32 :=
  if c &&& 1 = 1 then (c >>> 1) ^^^ 0xEDB88320 else c >>> 1

/-- One byte taken into the remainder. -/
def update (c : UInt32) (b : UInt8) : UInt32 := Nat.repeat shift 8 (c ^^^ b.toUInt32)

/-- The check of a list of bytes. -/
def ofBytes (bytes : List UInt8) : UInt32 := ~~~(bytes.foldl update 0xFFFFFFFF)

/-- The four bytes of a word, least significant first. -/
def wordBytes (n : Nat) : List UInt8 :=
  [UInt8.ofNat n, UInt8.ofNat (n / 256), UInt8.ofNat (n / 65536), UInt8.ofNat (n / 16777216)]

/-- The bytes of a text, with a zero byte behind them. -/
def textBytes (s : String) : List UInt8 := s.toUTF8.data.toList ++ [0]

/-- The check of a list of texts. -/
def ofTexts (texts : List String) : UInt32 :=
  ofBytes (wordBytes texts.length ++ texts.flatMap textBytes)

/-- The check value of the nine digits `123456789`. -/
example : ofBytes [49, 50, 51, 52, 53, 54, 55, 56, 57] = 0xCBF43926 := by
  decide +kernel

end FacetedSearch.Checksum
