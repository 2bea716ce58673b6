import MarkupCode.Proofs.Text.Lower

/-!
# What upper-casing yields

A character of an upper-case form is the character that was upper-cased, or it does not lie in front of
the letter `A`. So upper-casing brings no separator, line feed or hyphen into a text. Beyond ASCII this
rests on the tables.
-/

namespace MarkupCode.Text

theorem toUpper_of_lt : ∀ n < 128, (Char.ofNat n).toUpper = Char.ofNat n ∨
    65 ≤ (Char.ofNat n).toUpper.toNat := by
  decide

theorem upperExpansions_le :
    (upperExpansions.all fun e => e.2.all fun n => 65 ≤ (Char.ofNat n).toNat) = true := by
  decide +kernel

def Shift.isRaised (s : Shift) : Bool :=
  65 ≤ s.first + s.offset &&
    (s.imageLast < 0xd800 || 0xdfff < s.imageFirst && s.imageLast < 0x110000)

theorem upperShifts_isRaised : upperShifts.all Shift.isRaised = true := by
  decide +kernel

theorem le_of_image? {s : Shift} (hs : s ∈ upperShifts) {n m : Nat} (hm : s.image? n = some m) :
    65 ≤ (Char.ofNat m).toNat := by
  have hraised := List.all_eq_true.1 upperShifts_isRaised s hs
  obtain ⟨hfirst, hlast, -, hmn⟩ := Shift.image?_eq_some hm
  simp only [Shift.isRaised, Bool.or_eq_true, Bool.and_eq_true, decide_eq_true_eq] at hraised
  simp only [Shift.imageFirst, Shift.imageLast] at hraised
  have hvalid : m.isValidChar := by
    unfold Nat.isValidChar
    omega
  rw [toNat_ofNat hvalid]
  omega

theorem eq_or_le_of_mem_upper {c d : Char} (h : d ∈ upper c) : d = c ∨ 65 ≤ d.toNat := by
  unfold upper at h
  split at h
  · next hc =>
    have hupper := toUpper_of_lt c.toNat hc
    rw [Char.ofNat_toNat] at hupper
    rwa [List.mem_singleton.1 h]
  split at h
  · next cs hcs =>
    obtain ⟨n, hn, rfl⟩ := List.mem_map.1 h
    obtain ⟨before, after, hsplit, -⟩ := List.lookup_eq_some_iff.1 hcs
    have hmem : (c.toNat, cs) ∈ upperExpansions := by simp [hsplit]
    have hall := List.all_eq_true.1 upperExpansions_le _ hmem
    exact .inr (of_decide_eq_true (List.all_eq_true.1 hall n hn))
  · rw [List.mem_singleton.1 h]
    obtain he | ⟨s, hs, n, hn, he⟩ := shifted_mem upperShifts c
    · exact .inl he
    · rw [he]
      exact .inr (le_of_image? hs hn)

theorem notMem_upper {c d : Char} (hd : d.toNat < 65) (hc : c ≠ d) : d ∉ upper c := by
  intro h
  obtain rfl | h := eq_or_le_of_mem_upper h
  · exact hc rfl
  · omega

end MarkupCode.Text
