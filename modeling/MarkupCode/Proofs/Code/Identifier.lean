import MarkupCode.Code.Identifier
import MarkupCode.Proofs.Text.Runs
import MarkupCode.Proofs.Text.Upper

/-!
# What an identifier keeps of a name

An identifier is made of the pieces of a name between its runs of hyphens, has no hyphen itself, and stays
what it is when made again. Of an ASCII name without capital letters it keeps the canonical form and
nothing else: with its capitals spelled out it is that form, and from that form it can be made. So two
attributes share their identifier exactly when the canonical forms of their names are the same.
-/

namespace MarkupCode.Code

/-! ### Pieces between hyphens -/

theorem joinHyphens_append {p : Text} (h : '-' ∉ p) (s : Text) :
    joinHyphens false (p ++ s) = p ++ joinHyphens false s := by
  induction p with
  | nil => rfl
  | cons c p ih =>
    have hc : c ≠ '-' := fun e => h (by simp [e])
    have hp : '-' ∉ p := fun m => h (List.mem_cons_of_mem c m)
    simp [joinHyphens, hc, ih hp]

theorem joinHyphens_run (b : Bool) (k : Nat) (s : Text) :
    joinHyphens b (List.replicate (k + 1) '-' ++ s) = joinHyphens true s := by
  induction k generalizing b with
  | zero => rfl
  | succ k ih => exact ih true

/-- Also a line feed is its own upper-case form. -/
theorem joinHyphens_cons_of_ne {c : Char} (hc : c ≠ '-') (s : Text) :
    joinHyphens true (c :: s) = Text.upper c ++ joinHyphens false s := by
  rw [joinHyphens, if_neg hc]
  split
  · rfl
  · next h =>
    obtain rfl : c = '\n' := by simpa using h
    rfl

theorem joinHyphens_capitalised {p : Text} (h : '-' ∉ p) {s : Text}
    (hs : p ≠ [] ∨ s = []) :
    joinHyphens true (p ++ s) = capitalised p ++ joinHyphens false s := by
  cases p with
  | nil =>
    obtain rfl : s = [] := hs.resolve_left (· rfl)
    rfl
  | cons c p =>
    have hc : c ≠ '-' := fun e => h (by simp [e])
    have hp : '-' ∉ p := fun m => h (List.mem_cons_of_mem c m)
    rw [List.cons_append, joinHyphens_cons_of_ne hc, joinHyphens_append hp, capitalised,
      List.append_assoc]

/-- What becomes of a text at the beginning of a name and behind a run of hyphens. -/
theorem joinHyphens_eq_pieces (s : Text) :
    joinHyphens false s = joinCapitalised (Text.runPieces '-' s) ∧
      (s.head? ≠ some '-' →
        joinHyphens true s = ((Text.runPieces '-' s).map capitalised).flatten) := by
  induction s using Text.runs_induction '-' with
  | piece p hp =>
    rw [Text.runPieces_of_notMem hp]
    refine ⟨by simpa [joinCapitalised] using joinHyphens_of_no_hyphen hp, fun _ => ?_⟩
    simpa [joinHyphens] using joinHyphens_capitalised (s := []) hp (.inr rfl)
  | run p k s hp hs ih =>
    have hbehind := ih.2 hs
    rw [Text.runPieces_append_run hp k hs]
    refine ⟨?_, fun hhead => ?_⟩
    · rw [joinHyphens_append hp, joinHyphens_run, hbehind, joinCapitalised]
    · have hne : p ≠ [] := by
        rintro rfl
        exact hhead rfl
      rw [joinHyphens_capitalised hp (.inl hne), joinHyphens_run, hbehind, List.map_cons,
        List.flatten_cons]

theorem hyphen_notMem_capitalised {p : Text} (h : '-' ∉ p) : '-' ∉ capitalised p := by
  cases p with
  | nil => exact h
  | cons c p =>
    obtain ⟨hc, hp⟩ := not_or.1 (mt List.mem_cons.2 h)
    have hupper : '-' ∉ Text.upper c := Text.notMem_upper (by decide) (Ne.symm hc)
    exact fun hmem => (List.mem_append.1 hmem).elim hupper hp

theorem hyphen_notMem_joinCapitalised {ps : List Text} (h : ∀ p ∈ ps, '-' ∉ p) :
    '-' ∉ joinCapitalised ps := by
  cases ps with
  | nil => exact List.not_mem_nil
  | cons first others =>
    obtain ⟨hfirst, hothers⟩ := List.forall_mem_cons.1 h
    have hrest : '-' ∉ (others.map capitalised).flatten := by
      rintro hmem
      obtain ⟨q, hq, hmem⟩ := List.mem_flatten.1 hmem
      obtain ⟨p, hp, rfl⟩ := List.mem_map.1 hq
      exact hyphen_notMem_capitalised (hothers p hp) hmem
    exact fun hmem => (List.mem_append.1 hmem).elim hfirst hrest

theorem hyphen_notMem_camelCase (name : Text) : '-' ∉ camelCase name := by
  rw [camelCase_eq_joinHyphens, (joinHyphens_eq_pieces name).1]
  exact hyphen_notMem_joinCapitalised (Text.separator_notMem_runPieces name)

/-- The first piece of a name and the others with their first letter in upper case, whatever characters
they are made of. -/
theorem camelCase_eq_joinCapitalised (name : Text) :
    camelCase name = joinCapitalised (Text.runPieces '-' name) ∧ '-' ∉ camelCase name ∧
      camelCase (camelCase name) = camelCase name ∧
      ('-' ∉ name → joinHyphens false name = name) := by
  have hnone := hyphen_notMem_camelCase name
  refine ⟨?_, hnone, if_neg hnone, joinHyphens_of_no_hyphen⟩
  rw [camelCase_eq_joinHyphens, (joinHyphens_eq_pieces name).1]

/-! ### Canonical names -/

def IsUncapitalised (name : Text) : Prop := ∀ c ∈ name, c.toNat < 128 ∧ ¬('A' ≤ c ∧ c ≤ 'Z')

instance (name : Text) : Decidable (IsUncapitalised name) :=
  List.decidableBAll _ name

/-- A small letter follows every hyphen. -/
def isJoined : Text → Bool
  | [] => true
  | c :: rest => (c ≠ '-' || rest.head?.any isSmallLetter) && isJoined rest

theorem spelled_append (s t : Text) : spelled (s ++ t) = spelled s ++ spelled t :=
  List.flatMap_append

theorem spelled_cons (c : Char) (s : Text) : spelled (c :: s) = spelled [c] ++ spelled s :=
  spelled_append [c] s

theorem spelled_toUpper_of_lt : ∀ n < 128, ¬('A' ≤ Char.ofNat n ∧ Char.ofNat n ≤ 'Z') →
    spelled [(Char.ofNat n).toUpper] =
      if isSmallLetter (Char.ofNat n) then ['-', Char.ofNat n] else [Char.ofNat n] := by
  decide

theorem spelled_upper {c : Char} (hascii : c.toNat < 128) (hc : ¬('A' ≤ c ∧ c ≤ 'Z')) :
    spelled (Text.upper c) = if isSmallLetter c then ['-', c] else [c] := by
  have hspelled := spelled_toUpper_of_lt c.toNat hascii
  rw [Char.ofNat_toNat] at hspelled
  rw [Text.upper, if_pos hascii, hspelled hc]

theorem canonical_cons_of_ne {c : Char} (hc : c ≠ '-') (s : Text) :
    canonical (c :: s) = c :: canonical s := by
  rw [canonical, if_neg fun h => hc h.1]

theorem canonical_hyphen (s : Text) :
    canonical ('-' :: s) = if s.head?.any isSmallLetter then '-' :: canonical s else canonical s := by
  rw [canonical]
  cases s.head?.any isSmallLetter <;> simp

/-- A scan that comes from a hyphen spells the hyphen before a small letter. -/
theorem spelled_joinHyphens {s : Text} (h : IsUncapitalised s) :
    spelled (joinHyphens false s) = canonical s ∧
      spelled (joinHyphens true s) = canonical ('-' :: s) := by
  induction s with
  | nil => exact ⟨rfl, rfl⟩
  | cons c s ih =>
    obtain ⟨⟨hascii, hc⟩, hs⟩ := List.forall_mem_cons.1 h
    obtain ⟨ihFalse, ihTrue⟩ := ih hs
    by_cases hhyphen : c = '-'
    · subst hhyphen
      refine ⟨ihTrue, ?_⟩
      have hnot : ¬(('-' :: s).head?.any isSmallLetter) = true := show ¬isSmallLetter '-' = true by decide
      rw [canonical_hyphen ('-' :: s), if_neg hnot]
      exact ihTrue
    · have hsame : spelled [c] = [c] := by simp [spelled, hc]
      constructor
      · rw [joinHyphens, if_neg hhyphen, Bool.false_and, if_neg Bool.false_ne_true, spelled_cons, hsame,
          ihFalse, canonical_cons_of_ne hhyphen]
        rfl
      · rw [joinHyphens_cons_of_ne hhyphen, spelled_append, spelled_upper hascii hc, ihFalse,
          canonical_hyphen, canonical_cons_of_ne hhyphen]
        split
        · next hsmall => rw [if_pos (by simpa using hsmall)]; rfl
        · next hsmall => rw [if_neg (by simpa using hsmall)]; rfl

theorem upper_toLower_of_lt : ∀ n < 128, ('A' ≤ Char.ofNat n ∧ Char.ofNat n ≤ 'Z') →
    (Char.ofNat n).toLower ≠ '-' ∧ Text.upper (Char.ofNat n).toLower = [Char.ofNat n] := by
  decide

theorem upper_toLower {c : Char} (h : 'A' ≤ c ∧ c ≤ 'Z') :
    c.toLower ≠ '-' ∧ Text.upper c.toLower = [c] := by
  have hlt : c.toNat < 128 := Nat.lt_of_le_of_lt (show c.toNat ≤ 'Z'.toNat from h.2) (by decide)
  have hupper := upper_toLower_of_lt c.toNat hlt
  rw [Char.ofNat_toNat] at hupper
  exact hupper h

/-- Capitals that are spelled out are read back. -/
theorem joinHyphens_spelled {s : Text} (h : '-' ∉ s) : joinHyphens false (spelled s) = s := by
  induction s with
  | nil => rfl
  | cons c s ih =>
    obtain ⟨hc, hs⟩ := not_or.1 (mt List.mem_cons.2 h)
    rw [spelled_cons]
    by_cases hcapital : 'A' ≤ c ∧ c ≤ 'Z'
    · obtain ⟨hne, hupper⟩ := upper_toLower hcapital
      have hspelled : spelled [c] = ['-', c.toLower] := by simp [spelled, hcapital]
      rw [hspelled]
      change joinHyphens true (c.toLower :: spelled s) = _
      rw [joinHyphens_cons_of_ne hne, hupper, ih hs]
      rfl
    · have hspelled : spelled [c] = [c] := by simp [spelled, hcapital]
      have hnone : '-' ∉ [c] := by simpa using hc
      rw [hspelled, joinHyphens_append hnone, ih hs]
      rfl

theorem spelled_camelCase {name : Text} (h : IsUncapitalised name) :
    spelled (camelCase name) = canonical name := by
  rw [camelCase_eq_joinHyphens, (spelled_joinHyphens h).1]

/-- The identifier of a name can be made from its canonical form. -/
theorem joinHyphens_canonical {name : Text} (h : IsUncapitalised name) :
    joinHyphens false (canonical name) = camelCase name := by
  rw [← spelled_camelCase h, joinHyphens_spelled (hyphen_notMem_camelCase name)]

theorem camelCase_eq_iff {a b : Text} (ha : IsUncapitalised a) (hb : IsUncapitalised b) :
    camelCase a = camelCase b ↔ canonical a = canonical b := by
  constructor
  · intro h
    rw [← spelled_camelCase ha, ← spelled_camelCase hb, h]
  · intro h
    rw [← joinHyphens_canonical ha, ← joinHyphens_canonical hb, h]

theorem identifier_eq_iff (a b : Text) : identifier a = identifier b ↔ camelCase a = camelCase b := by
  simp [identifier]

theorem canonical_of_isJoined {name : Text} (h : isJoined name = true) : canonical name = name := by
  induction name with
  | nil => rfl
  | cons c name ih =>
    obtain ⟨hc, hname⟩ : (c ≠ '-' || name.head?.any isSmallLetter) = true ∧ isJoined name = true :=
      Bool.and_eq_true_iff.1 h
    rw [canonical, if_neg, ih hname]
    rintro ⟨rfl, hnot⟩
    simp_all

/-! ### Identifiers in an attribute list -/

def HasIdentifier (code ident : Text) : Prop :=
  code = ident ∨ ∃ value, code = ident ++ " \"".toList ++ escape value ++ ['"']

theorem hasIdentifier_attributeCode (name value : Text) :
    HasIdentifier (attributeCode name value) (identifier name) := by
  unfold attributeCode
  split
  · exact .inl rfl
  · exact .inr ⟨value, rfl⟩

theorem name_ne_of_nodup {attrs : Attributes} (h : (attrs.map Prod.fst).Nodup) {i j : Nat}
    {a b : Text × Text} (ha : attrs[i]? = some a) (hb : attrs[j]? = some b) (hij : i ≠ j) :
    a.1 ≠ b.1 := by
  intro hname
  have hi : (attrs.map Prod.fst)[i]? = some a.1 := by rw [List.getElem?_map, ha]; rfl
  have hj : (attrs.map Prod.fst)[j]? = some a.1 := by rw [List.getElem?_map, hb, hname]; rfl
  obtain ⟨hlt, -⟩ := List.getElem?_eq_some_iff.1 hi
  exact hij ((List.getElem?_inj hlt h).1 (hi.trans hj.symm))

/-- Two names without capital letters have the same identifier exactly when their canonical forms are the
same, and the canonical form is the identifier with its capitals spelled out. In a list of attributes the
codes have these identifiers; where a small letter follows every hyphen, all of them are different. -/
theorem camelCase_eq_iff_and_identifiers :
    (∀ a b, IsUncapitalised a → IsUncapitalised b →
      (camelCase a = camelCase b ↔ canonical a = canonical b) ∧ spelled (camelCase a) = canonical a) ∧
    ∀ attrs : Attributes, (∀ a ∈ attrs, IsUncapitalised a.1) →
      ∀ (i j : Nat) (a b : Text × Text), attrs[i]? = some a → attrs[j]? = some b →
        (∃ code, (attributeCodes attrs)[i]? = some code ∧ HasIdentifier code (identifier a.1)) ∧
        (identifier a.1 = identifier b.1 ↔ canonical a.1 = canonical b.1) ∧
        ((attrs.map Prod.fst).Nodup → (∀ a ∈ attrs, isJoined a.1 = true) → i ≠ j →
          identifier a.1 ≠ identifier b.1) := by
  refine ⟨fun a b ha hb => ⟨camelCase_eq_iff ha hb, spelled_camelCase ha⟩, ?_⟩
  intro attrs hattrs i j a b ha hb
  have hmemA := List.mem_of_getElem? ha
  have hmemB := List.mem_of_getElem? hb
  have hiff : identifier a.1 = identifier b.1 ↔ canonical a.1 = canonical b.1 :=
    (identifier_eq_iff a.1 b.1).trans (camelCase_eq_iff (hattrs a hmemA) (hattrs b hmemB))
  refine ⟨⟨attributeCode a.1 a.2, ?_, hasIdentifier_attributeCode a.1 a.2⟩, hiff, ?_⟩
  · rw [attributeCodes, List.getElem?_map, ha]
    rfl
  · intro hnodup hjoined hij hsame
    have hcanonical := hiff.1 hsame
    rw [canonical_of_isJoined (hjoined a hmemA), canonical_of_isJoined (hjoined b hmemB)] at hcanonical
    exact name_ne_of_nodup hnodup ha hb hij hcanonical

def alikeAttributes : Attributes := [("data--x-".toList, ['1']), ("data-x".toList, ['2'])]

def joinedAttributes : Attributes := [("data-x".toList, ['1']), ("datax".toList, ['2'])]

theorem camelCase_eq_iff_and_identifiers_data :
    (IsUncapitalised "data--x-".toList ∧ IsUncapitalised "data-x".toList) ∧
    (camelCase "data--x-".toList = camelCase "data-x".toList ∧
      spelled (camelCase "data--x-".toList) = "data-x".toList) ∧
    (∀ a ∈ alikeAttributes, IsUncapitalised a.1) ∧
    identifier "data--x-".toList = identifier "data-x".toList ∧
    ((∀ a ∈ joinedAttributes, IsUncapitalised a.1) ∧ (joinedAttributes.map Prod.fst).Nodup ∧
      ∀ a ∈ joinedAttributes, isJoined a.1 = true) ∧
    identifier "data-x".toList ≠ identifier "datax".toList := by
  have hnames : IsUncapitalised "data--x-".toList ∧ IsUncapitalised "data-x".toList := by decide
  have halike : ∀ a ∈ alikeAttributes, IsUncapitalised a.1 := by decide
  have hjoined : (∀ a ∈ joinedAttributes, IsUncapitalised a.1) ∧
      (joinedAttributes.map Prod.fst).Nodup ∧ ∀ a ∈ joinedAttributes, isJoined a.1 = true := by decide
  obtain ⟨hiff, hspelled⟩ := camelCase_eq_iff_and_identifiers.1 _ _ hnames.1 hnames.2
  obtain ⟨-, hsame, -⟩ := camelCase_eq_iff_and_identifiers.2 alikeAttributes halike 0 1 _ _ rfl rfl
  obtain ⟨-, -, hapart⟩ :=
    camelCase_eq_iff_and_identifiers.2 joinedAttributes hjoined.1 0 1 _ _ rfl rfl
  exact ⟨hnames, ⟨hiff.2 (by decide), hspelled.trans (by decide)⟩, halike, hsame.2 (by decide), hjoined,
    hapart hjoined.2.1 hjoined.2.2 (by decide)⟩

end MarkupCode.Code
