import MarkupCode.Text.Case

/-!
# Lower-case texts stay as they are

The lower-case form of a text has only characters that are their own lower-case forms, wherever they
stand, so taking it twice is taking it once. For the characters beyond ASCII this rests on the table:
no shift leads into a run that another one moves.
-/

namespace MarkupCode.Text

def IsLowered (c : Char) : Prop := ∀ before after, lowerChar before c after = [c]

theorem lowerFrom_of_lowered {s : Text} (h : ∀ c ∈ s, IsLowered c) (before : Text) :
    lowerFrom before s = s := by
  induction s generalizing before with
  | nil => rfl
  | cons c s ih =>
    rw [lowerFrom, h c List.mem_cons_self, ih fun d hd => h d (List.mem_cons_of_mem c hd)]
    rfl

theorem lower_of_lowered {s : Text} (h : ∀ c ∈ s, IsLowered c) : lower s = s :=
  lowerFrom_of_lowered h []

/-! ### ASCII -/

theorem toLower_of_lt : ∀ n < 128, (Char.ofNat n).toLower.toNat < 128 ∧
    (Char.ofNat n).toLower.toLower = (Char.ofNat n).toLower := by
  decide

theorem isLowered_of_ascii {c : Char} (h : c.toNat < 128) (hc : c.toLower = c) : IsLowered c := by
  intro before after
  rw [lowerChar, if_pos h, hc]

theorem isLowered_toLower {c : Char} (h : c.toNat < 128) : IsLowered c.toLower := by
  have hc := toLower_of_lt c.toNat h
  rw [Char.ofNat_toNat] at hc
  exact isLowered_of_ascii hc.1 hc.2

/-! ### Beyond ASCII -/

def Shift.imageFirst (s : Shift) : Nat := (s.first + s.offset).toNat

def Shift.imageLast (s : Shift) : Nat := (s.last + s.offset).toNat

/-- The images of one shift are no characters that another one moves: their runs are apart, or the other
one takes every second character and the images are out of step with it. -/
def Shift.misses (s t : Shift) : Bool :=
  Nat.blt s.imageLast t.first || Nat.blt t.last s.imageFirst ||
    (s.stride == 2 || s.first == s.last) && t.stride == 2 && (s.imageFirst + t.first) % 2 == 1

def Shift.avoids (s : Shift) (n : Nat) : Bool := s.imageLast < n || n < s.imageFirst

/-- The images of a shift are characters beyond ASCII, or the one image is `k`. -/
def Shift.isSettled (s : Shift) : Bool :=
  0 < s.first + s.offset && (128 ≤ s.imageFirst || s.first == s.last && s.imageFirst == 107) &&
    (s.imageLast < 0xd800 || 0xdfff < s.imageFirst && s.imageLast < 0x110000) &&
      s.avoids 'İ'.toNat && s.avoids 'Σ'.toNat

theorem lowerShifts_misses : (lowerShifts.all fun s => lowerShifts.all s.misses) = true := by
  decide +kernel

theorem lowerShifts_isSettled : lowerShifts.all Shift.isSettled = true := by
  decide +kernel

theorem toNat_ofNat {n : Nat} (h : n.isValidChar) : (Char.ofNat n).toNat = n := by
  rw [Char.ofNat, dif_pos h]
  rfl

theorem Shift.image?_eq_some {s : Shift} {n m : Nat} (h : s.image? n = some m) :
    s.first ≤ n ∧ n ≤ s.last ∧ (n - s.first) % s.stride = 0 ∧ (n + s.offset).toNat = m := by
  unfold Shift.image? at h
  split at h
  · next hn =>
    simp only [Bool.and_eq_true, decide_eq_true_eq, beq_iff_eq] at hn
    exact ⟨hn.1.1, hn.1.2, hn.2, Option.some.inj h⟩
  · cases h

theorem Shift.image?_of_misses {s t : Shift} (h : s.misses t) (hpos : 0 < s.first + s.offset)
    {n m : Nat} (hm : s.image? n = some m) : t.image? m = none := by
  cases hk : t.image? m with
  | none => rfl
  | some k =>
    obtain ⟨hn1, hn2, hn3, rfl⟩ := Shift.image?_eq_some hm
    obtain ⟨hm1, hm2, hm3, -⟩ := Shift.image?_eq_some hk
    simp only [Shift.misses, Shift.imageFirst, Shift.imageLast, Nat.blt_eq, Bool.or_eq_true,
      Bool.and_eq_true, beq_iff_eq] at h
    obtain (h | h) | ⟨⟨hs, ht⟩, hodd⟩ := h
    · omega
    · omega
    · rw [ht] at hm3
      obtain hs | hs := hs
      · rw [hs] at hn3
        omega
      · omega

/-- What a shift leads to is the lower-case form of itself. -/
theorem isLowered_of_image? {s : Shift} (hs : s ∈ lowerShifts) {n m : Nat}
    (hm : s.image? n = some m) : IsLowered (Char.ofNat m) := by
  have hmiss := List.all_eq_true.1 (List.all_eq_true.1 lowerShifts_misses s hs)
  have hset := List.all_eq_true.1 lowerShifts_isSettled s hs
  obtain ⟨hn1, hn2, -, hmn⟩ := Shift.image?_eq_some hm
  simp only [Shift.isSettled, Shift.avoids, Bool.or_eq_true, Bool.and_eq_true, decide_eq_true_eq,
    beq_iff_eq] at hset
  obtain ⟨⟨⟨⟨hpos, hlow⟩, hvalid⟩, hI⟩, hS⟩ := hset
  simp only [Shift.imageFirst, Shift.imageLast] at hlow hvalid hI hS
  have hv : m.isValidChar := by
    unfold Nat.isValidChar
    omega
  have hnat := toNat_ofNat hv
  by_cases hk : m < 128
  · have : m = 107 := by omega
    subst this
    exact isLowered_of_ascii (by decide) (by decide)
  · intro before after
    have hnone : lowerShifts.findSome? (·.image? m) = none := by
      rw [List.findSome?_eq_none_iff]
      exact fun t ht => Shift.image?_of_misses (hmiss t ht) hpos hm
    rw [lowerChar, hnat, if_neg hk, if_neg, if_neg, shifted, hnat, hnone]
    · rfl
    · intro e
      rw [e] at hnat
      omega
    · intro e
      rw [e] at hnat
      omega

theorem isLowered_of_mem_lowerChar {before after : Text} {c d : Char}
    (h : d ∈ lowerChar before c after) : IsLowered d := by
  unfold lowerChar at h
  split at h
  · next hc =>
    rw [List.mem_singleton.1 h]
    exact isLowered_toLower hc
  split at h
  · simp only [List.mem_cons, List.not_mem_nil, or_false] at h
    obtain rfl | rfl := h <;> exact fun _ _ => rfl
  split at h
  · rw [List.mem_singleton.1 h]
    split <;> exact fun _ _ => rfl
  · next hc hI hS =>
    rw [List.mem_singleton.1 h]
    obtain he | ⟨s, hs, n, hn, he⟩ := shifted_mem lowerShifts c
    · intro before after
      rw [he, lowerChar, if_neg hc, if_neg hI, if_neg hS, he]
    · rw [he]
      exact isLowered_of_image? hs hn

theorem isLowered_of_mem_lowerFrom {before s : Text} {d : Char} (h : d ∈ lowerFrom before s) :
    IsLowered d := by
  induction s generalizing before with
  | nil => cases h
  | cons c s ih =>
    obtain h | h := List.mem_append.1 h
    · exact isLowered_of_mem_lowerChar h
    · exact ih h

theorem lower_lower (s : Text) : lower (lower s) = lower s :=
  lower_of_lowered fun _ h => isLowered_of_mem_lowerFrom h

end MarkupCode.Text
