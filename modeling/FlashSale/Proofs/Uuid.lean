import FlashSale.Uuid

/-!
# Reading identifiers

The text of an identifier is read as that identifier.
-/

namespace FlashSale.Uuid

theorem length_hyphenate {ds : List Char} (length : ds.length = 32) :
    (hyphenate ds).length = 36 := by
  simp [hyphenate, length]

/-- Taking the hyphens out gives the digits back. The reader takes the groups by their
places. -/
theorem ungroup_hyphenate {ds : List Char} (length : ds.length = 32) :
    (hyphenate ds).take 8 ++ ((hyphenate ds).drop 9).take 4 ++ ((hyphenate ds).drop 14).take 4 ++
      ((hyphenate ds).drop 19).take 4 ++ (hyphenate ds).drop 24 = ds := by
  have groups {a b c d e : List Char} (first : a.length = 8) (second : b.length = 4)
      (third : c.length = 4) (fourth : d.length = 4) :
      let g := a ++ '-' :: (b ++ '-' :: (c ++ '-' :: (d ++ '-' :: e)))
      g.take 8 ++ (g.drop 9).take 4 ++ (g.drop 14).take 4 ++ (g.drop 19).take 4 ++ g.drop 24 =
        a ++ b ++ c ++ d ++ e := by
    simp [List.drop_append, first, second, third, fourth, List.drop_of_length_le]
  refine (groups (by simp [length]) (by simp [length]) (by simp [length])
    (by simp [length])).trans ?_
  have first := List.take_append_drop 8 ds
  have second := List.take_append_drop 4 (ds.drop 8)
  have third := List.take_append_drop 4 (ds.drop 12)
  have fourth := List.take_append_drop 4 (ds.drop 16)
  simp only [List.drop_drop, List.append_assoc] at second third fourth ⊢
  rw [fourth, third, second, first]

/-- The text of an identifier is read as that identifier. -/
theorem ofString?_toString (u : Uuid) : ofString? u.toString = some u := by
  have length : (Digits.fixed 16 32 u.bits.toNat).length = 32 := Digits.length_fixed ..
  have value : Digits.value? 16 (Digits.fixed 16 32 u.bits.toNat) = some u.bits.toNat :=
    Digits.value?_fixed (by decide) (by decide) (by decide) u.bits.isLt
  have digits : ofDigits? (Digits.fixed 16 32 u.bits.toNat) = some u := by
    simp [ofDigits?, length, value]
  have grouped := length_hyphenate length
  simp only [ofString?, toString, String.toList_ofList, toChars, ofChars?, grouped, ofHyphenated?,
    ungroup_hyphenate length, digits]
  rfl

end FlashSale.Uuid
