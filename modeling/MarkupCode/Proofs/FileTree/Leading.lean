import MarkupCode.FileTree.Change
import MarkupCode.Outcome
import MarkupCode.Proofs.Text.Line

/-!
# Where paths lead

Without links a path leads to the same location in every tree in which its way passes through folders, so
what it leads to stays where folders are added. A path that leads to an old item only after folders were
added has gone up from a place where nothing was: it takes a detour.
-/

namespace MarkupCode

namespace Path

def IsRegular (p : Path) : Prop := '\x00' ∉ p.text ∧ FileTree.size p.text < FileTree.pathSizeLimit

/-- The text of the beginning of a path is a dot or begins the path's text. -/
theorem text_beginning (a : Anchor) (before behind : List Text) :
    text ⟨a, before⟩ = ['.'] ∨ text ⟨a, before⟩ <+: text ⟨a, before ++ behind⟩ := by
  rcases Decidable.em (behind = []) with rfl | hbehind
  · rw [List.append_nil]
    exact .inr (List.prefix_refl _)
  have hall : text ⟨a, before ++ behind⟩ = a.text ++ ['/'].intercalate (before ++ behind) := by
    cases a with
    | home => obtain ⟨n, ns, rfl⟩ := List.exists_cons_of_ne_nil hbehind; cases before <;> rfl
    | root => rfl
    | doubleRoot => rfl
  rcases Decidable.em (before = []) with rfl | hbefore
  · cases a with
    | home => exact .inl rfl
    | root => exact .inr (hall ▸ List.prefix_append _ _)
    | doubleRoot => exact .inr (hall ▸ List.prefix_append _ _)
  · have hbeginning : text ⟨a, before⟩ = a.text ++ ['/'].intercalate before := by
      obtain ⟨n, ns, rfl⟩ := List.exists_cons_of_ne_nil hbefore
      cases a <;> rfl
    rw [hall, hbeginning, Text.intercalate_append hbefore hbehind, List.append_assoc ([_].intercalate _),
      ← List.append_assoc a.text]
    exact .inr (List.prefix_append _ _)

theorem IsRegular.beginning {a : Anchor} {before behind : List Text}
    (h : IsRegular ⟨a, before ++ behind⟩) : IsRegular ⟨a, before⟩ := by
  rcases text_beginning a before behind with hdot | ⟨rest, hrest⟩
  · unfold IsRegular
    rw [hdot]
    decide
  · unfold IsRegular at h
    rw [← hrest, FileTree.size, Text.encode, List.flatMap_append, List.length_append] at h
    obtain ⟨hnull, hsize⟩ := h
    exact ⟨fun hmem => hnull (List.mem_append_left _ hmem),
      Nat.lt_of_le_of_lt (Nat.le_add_right _ _) hsize⟩

end Path

namespace FileTree

def onward (l : Location) (name : Text) : Location := if name = upDots then l.tail else name :: l

def origin (t : FileTree) (p : Path) : Location := if p.anchor = .home then t.home else []

/-- Names lead from one location to another, through folders. -/
def Passes (t : FileTree) (l : Location) (names : List Text) (m : Location) : Prop :=
  match names with
  | [] => l = m
  | name :: names =>
    t.item? l = some .folder ∧ (name = upDots ∨ size name ≤ maxNameSize) ∧
      t.Passes (onward l name) names m

/-- Names lead from a location, through folders, to where nothing is. -/
def Lacks (t : FileTree) (l : Location) (names : List Text) : Prop :=
  match names with
  | [] => t.item? l = none
  | name :: names =>
    t.item? l = none ∨
      t.item? l = some .folder ∧ (name = upDots ∨ size name ≤ maxNameSize) ∧
        t.Lacks (onward l name) names

variable {t t' : FileTree}

theorem step_of_none {l : t.Place} (h : t.item? l.1 = none) (name : Text) :
    t.step l name = .error .missing := by
  unfold step
  split
  · rfl
  · next h' => rw [h] at h'; cases h'
  · next h' => rw [h] at h'; cases h'

theorem item?_of_step_missing {l : t.Place} {name : Text} (h : t.step l name = .error .missing) :
    t.item? l.1 = none := by
  unfold step at h
  split at h
  · next h' => exact h'
  · cases h
  · split at h
    · cases h
    · split at h <;> cases h

theorem of_step_ok {l q : t.Place} {name : Text} (h : t.step l name = .ok q) :
    t.item? l.1 = some .folder ∧ (name = upDots ∨ size name ≤ maxNameSize) ∧
      onward l.1 name = q.1 := by
  unfold step at h
  unfold onward
  split at h
  · cases h
  · cases h
  · next hl =>
    split at h
    · next hup =>
      cases h
      exact ⟨hl, .inl hup, if_pos hup⟩
    · next hup =>
      split at h
      · cases h
      · next hlong =>
        cases h
        exact ⟨hl, .inr (Nat.not_lt.1 hlong), if_neg hup⟩

theorem exists_step_ok {l : t.Place} {name : Text} (hl : t.item? l.1 = some .folder)
    (hname : name = upDots ∨ size name ≤ maxNameSize) :
    ∃ q, t.step l name = .ok q ∧ q.1 = onward l.1 name := by
  unfold step onward
  split
  · next h => rw [hl] at h; cases h
  · next h => rw [hl] at h; cases h
  · by_cases hup : name = upDots
    · rw [if_pos hup, if_pos hup]
      exact ⟨_, rfl, rfl⟩
    · rw [if_neg hup, if_neg hup, if_neg (Nat.not_lt.2 (hname.resolve_left hup))]
      exact ⟨_, rfl, rfl⟩

theorem exists_walk_ok_iff (l : t.Place) (names : List Text) (m : Location) :
    (∃ q, t.walk l names = .ok q ∧ q.1 = m) ↔ t.Passes l.1 names m := by
  induction names generalizing l with
  | nil =>
    constructor
    · rintro ⟨q, h, rfl⟩
      cases h
      rfl
    · exact fun h => ⟨l, rfl, h⟩
  | cons name names ih =>
    constructor
    · rintro ⟨q, h, hq⟩
      obtain ⟨k, hk, hrest⟩ := Outcome.exists_of_bind_ok h
      obtain ⟨hl, hname, hon⟩ := of_step_ok hk
      exact ⟨hl, hname, hon ▸ (ih k).1 ⟨q, hrest, hq⟩⟩
    · rintro ⟨hl, hname, hrest⟩
      obtain ⟨k, hk, hon⟩ := exists_step_ok hl hname
      obtain ⟨q, hq, hm⟩ := (ih k).2 (hon ▸ hrest)
      exact ⟨q, Outcome.bind_eq_ok_iff.2 ⟨k, hk, hq⟩, hm⟩

def start (t : FileTree) (p : Path) : t.Place := if p.anchor = .home then t.homePlace else t.rootPlace

theorem start_val (t : FileTree) (p : Path) : (t.start p).1 = t.origin p := by
  unfold start origin
  split <;> rfl

theorem locate_of_isRegular {p : Path} (h : p.IsRegular) : t.locate p = t.walk (t.start p) p.names := by
  unfold locate
  rw [if_neg h.1, if_neg (Nat.not_le.2 h.2)]
  rfl

theorem isRegular_of_locate {p : Path} (hnull : t.locate p ≠ .error .nullCharacter)
    (hlong : t.locate p ≠ .error .nameTooLong) : p.IsRegular := by
  have hnotNull : '\x00' ∉ p.text := fun h => hnull (if_pos h)
  refine ⟨hnotNull, Nat.lt_of_not_le fun h => hlong ?_⟩
  unfold locate
  rw [if_neg hnotNull, if_pos h]

theorem leadsTo_iff {p : Path} {m : Location} :
    t.LeadsTo p m ↔ p.IsRegular ∧ t.Passes (t.origin p) p.names m := by
  rw [← start_val, ← exists_walk_ok_iff]
  constructor
  · rintro ⟨q, hq, hm⟩
    have hregular : p.IsRegular := isRegular_of_locate (t := t) (by simp [hq]) (by simp [hq])
    exact ⟨hregular, q, by rw [← locate_of_isRegular hregular, hq], hm⟩
  · rintro ⟨hregular, q, hq, hm⟩
    exact ⟨q, by rw [locate_of_isRegular hregular, hq], hm⟩

def itemThere (t : FileTree) (l : t.Place) : Except FileFault Item :=
  match t.item? l.1 with
  | some i => .ok i
  | none => .error .missing

theorem itemThere_of_some {l : t.Place} {i : Item} (h : t.item? l.1 = some i) : t.itemThere l = .ok i := by
  rw [itemThere, h]

theorem itemThere_eq_missing_iff (l : t.Place) :
    t.itemThere l = .error .missing ↔ t.item? l.1 = none := by
  unfold itemThere
  cases t.item? l.1 <;> simp

theorem find_eq_bind (t : FileTree) (p : Path) : t.find p = t.locate p >>= t.itemThere := rfl

theorem LeadsTo.find {p : Path} {m : Location} {i : Item} (h : t.LeadsTo p m) (hi : t.item? m = some i) :
    t.find p = .ok i := by
  obtain ⟨place, hplace, rfl⟩ := h
  rw [find_eq_bind, hplace]
  exact itemThere_of_some hi

theorem exists_of_find_ok {p : Path} {i : Item} (h : t.find p = .ok i) :
    ∃ m, t.LeadsTo p m ∧ t.item? m = some i := by
  obtain ⟨place, hplace, hi⟩ := Outcome.exists_of_bind_ok h
  split at hi
  · next hitem =>
    cases hi
    exact ⟨place.1, ⟨place, hplace, rfl⟩, hitem⟩
  · cases hi

theorem item?_of_file? {l : Location} {content : Text.Bytes} (h : t.file? l = some content) :
    t.item? l = some (.file content) := by
  unfold file? at h
  split at h
  · next hitem =>
    cases h
    exact hitem
  · cases h

theorem LeadsTo.contains {p : Path} {m : Location} {i : Item} (h : t.LeadsTo p m)
    (hi : t.item? m = some i) : t.contains p = .ok true := by
  unfold FileTree.contains
  rw [h.find hi]

theorem Passes.mono (hfolder : ∀ l, t.item? l = some .folder → t'.item? l = some .folder)
    {l m : Location} {names : List Text} (h : t.Passes l names m) : t'.Passes l names m := by
  induction names generalizing l with
  | nil => exact h
  | cons name names ih =>
    obtain ⟨hl, hname, hrest⟩ := h
    exact ⟨hfolder l hl, hname, ih hrest⟩

theorem Passes.unique {l m m' : Location} {names : List Text} (h : t.Passes l names m)
    (h' : t'.Passes l names m') : m = m' := by
  induction names generalizing l with
  | nil => exact h.symm.trans h'
  | cons name names ih => exact ih h.2.2 h'.2.2

/-- What a path leads to stays where more folders are. -/
theorem LeadsTo.mono (hhome : t'.home = t.home)
    (hfolder : ∀ l, t.item? l = some .folder → t'.item? l = some .folder) {p : Path} {m : Location}
    (h : t.LeadsTo p m) : t'.LeadsTo p m := by
  obtain ⟨hregular, hpasses⟩ := leadsTo_iff.1 h
  have horigin : t'.origin p = t.origin p := by unfold origin; rw [hhome]
  exact leadsTo_iff.2 ⟨hregular, horigin ▸ hpasses.mono hfolder⟩

theorem LeadsTo.unique (hhome : t'.home = t.home) {p : Path} {m m' : Location} (h : t.LeadsTo p m)
    (h' : t'.LeadsTo p m') : m = m' := by
  have horigin : t'.origin p = t.origin p := by unfold origin; rw [hhome]
  exact (leadsTo_iff.1 h).2.unique (horigin ▸ (leadsTo_iff.1 h').2)

theorem lacks_of_none {l : Location} (h : t.item? l = none) (names : List Text) : t.Lacks l names := by
  cases names with
  | nil => exact h
  | cons name names => exact .inl h

theorem walk_missing_iff (l : t.Place) (names : List Text) :
    t.walk l names >>= t.itemThere = .error .missing ↔ t.Lacks l.1 names := by
  induction names generalizing l with
  | nil => exact itemThere_eq_missing_iff l
  | cons name names ih =>
    rw [walk]
    cases hstep : t.step l name with
    | ok k =>
      obtain ⟨hl, hname, hon⟩ := of_step_ok hstep
      have hsome : t.item? l.1 ≠ none := by simp [hl]
      exact (ih k).trans (by simp [Lacks, hl, hname, hon])
    | error f =>
      change Except.error f = .error .missing ↔ _
      rw [Except.error.injEq]
      constructor
      · rintro rfl
        exact .inl (item?_of_step_missing hstep)
      · rintro (hnone | ⟨hl, hname, -⟩)
        · rw [step_of_none hnone] at hstep
          exact (Except.error.inj hstep).symm
        · obtain ⟨k, hk, -⟩ := exists_step_ok hl hname
          rw [hk] at hstep
          cases hstep

theorem find_eq_missing_iff {p : Path} :
    t.find p = .error .missing ↔ p.IsRegular ∧ t.Lacks (t.origin p) p.names := by
  rw [← start_val, ← walk_missing_iff]
  constructor
  · intro h
    have hregular : p.IsRegular := by
      apply isRegular_of_locate (t := t)
      · intro hnull
        rw [find_eq_bind, hnull] at h
        cases h
      · intro hlong
        rw [find_eq_bind, hlong] at h
        cases h
    exact ⟨hregular, by rw [← locate_of_isRegular hregular, ← find_eq_bind, h]⟩
  · rintro ⟨hregular, h⟩
    rw [find_eq_bind, locate_of_isRegular hregular, h]

/-- Names that lead to a folder and on from there to nothing. -/
theorem Lacks.passes {l m : Location} {before : List Text} {last : Text}
    (h : t.Lacks l (before ++ [last])) (hpasses : t.Passes l before m) (hm : t.item? m = some .folder) :
    t.Passes l (before ++ [last]) (onward m last) ∧ t.item? (onward m last) = none := by
  induction before generalizing l with
  | nil =>
    obtain rfl : l = m := hpasses
    rcases h with hnone | ⟨hl, hname, hnone⟩
    · rw [hnone] at hm
      cases hm
    · exact ⟨⟨hl, hname, rfl⟩, hnone⟩
  | cons name before ih =>
    obtain ⟨hl, hname, hrest⟩ := hpasses
    rcases h with hnone | ⟨-, -, hlacks⟩
    · rw [hnone] at hl
      cases hl
    · obtain ⟨hall, hnone⟩ := ih hlacks hrest
      exact ⟨⟨hl, hname, hall⟩, hnone⟩

/-- Where a path leads to nothing but its parent to a folder, the path leads to a place in that folder. -/
theorem exists_leadsTo_of_missing {p : Path} (h : t.find p = .error .missing)
    (hparent : t.find p.parent = .ok .folder) : ∃ l, t.LeadsTo p l ∧ t.item? l = none := by
  obtain ⟨hregular, hlacks⟩ := find_eq_missing_iff.1 h
  obtain ⟨m, hm, hfolder⟩ := exists_of_find_ok hparent
  have hpasses : t.Passes (t.origin p) p.names.dropLast m := (leadsTo_iff.1 hm).2
  rcases Decidable.em (p.names = []) with hnil | hne
  · have hsame : p.parent = p := by
      obtain ⟨a, names⟩ := p
      obtain rfl : names = [] := hnil
      rfl
    rw [hsame, h] at hparent
    cases hparent
  · rw [← List.dropLast_concat_getLast hne] at hlacks
    obtain ⟨hall, hnone⟩ := hlacks.passes hpasses hfolder
    rw [List.dropLast_concat_getLast hne] at hall
    exact ⟨_, leadsTo_iff.2 ⟨hregular, hall⟩, hnone⟩

/-- Names without two dots lead downwards, so where they lead to an item there is one at their beginning. -/
theorem Passes.item?_ne_none {l m : Location} {names : List Text} (h : t'.Passes l names m)
    (hup : upDots ∉ names) (hm : t.item? m ≠ none) : t.item? l ≠ none := by
  induction names generalizing l with
  | nil => rwa [show l = m from h]
  | cons name names ih =>
    have hname : name ≠ upDots := fun e => hup (e ▸ List.mem_cons_self)
    have hbelow := ih h.2.2 fun hmem => hup (List.mem_cons_of_mem _ hmem)
    rw [onward, if_neg hname] at hbelow
    rw [show t.item? l = some .folder from t.item?_tail hbelow]
    exact Option.some_ne_none _

/-- Where names lead to an item of the smaller tree, they do so in that tree, or they go up from where it
has nothing. -/
theorem Passes.passes_or_lacks (hkept : ∀ l i, t.item? l = some i → t'.item? l = some i)
    {l m : Location} {names : List Text} (h : t'.Passes l names m) (hm : t.item? m ≠ none) :
    t.Passes l names m ∨
      ∃ before behind, names = before ++ upDots :: behind ∧ t.Lacks l before := by
  induction names generalizing l with
  | nil => exact .inl h
  | cons name names ih =>
    cases hitem : t.item? l with
    | none =>
      have hup : upDots ∈ name :: names :=
        Decidable.of_not_not fun hup => h.item?_ne_none hup hm hitem
      obtain ⟨before, behind, hsplit⟩ := List.append_of_mem hup
      exact .inr ⟨before, behind, hsplit, lacks_of_none hitem before⟩
    | some i =>
      obtain ⟨hl, hname, hrest⟩ := h
      have hfolder : some i = some .folder := (hkept l i hitem).symm.trans hl
      rw [hfolder] at hitem
      rcases ih hrest with hpasses | ⟨before, behind, rfl, hlacks⟩
      · exact .inl ⟨hitem, hname, hpasses⟩
      · exact .inr ⟨name :: before, behind, rfl, .inr ⟨hitem, hname, hlacks⟩⟩

/-- A path that leads to an item of the smaller tree does so in that tree, or it takes a detour there. -/
theorem LeadsTo.leadsTo_or_detours (hhome : t'.home = t.home)
    (hkept : ∀ l i, t.item? l = some i → t'.item? l = some i) {p : Path} {m : Location}
    (h : t'.LeadsTo p m) (hm : t.item? m ≠ none) : t.LeadsTo p m ∨ t.Detours p := by
  obtain ⟨hregular, hpasses⟩ := leadsTo_iff.1 h
  have horigin : t'.origin p = t.origin p := by unfold origin; rw [hhome]
  rw [horigin] at hpasses
  rcases hpasses.passes_or_lacks hkept hm with hpasses | ⟨before, behind, hnames, hlacks⟩
  · exact .inl (leadsTo_iff.2 ⟨hregular, hpasses⟩)
  · obtain ⟨a, names⟩ := p
    obtain rfl : names = before ++ upDots :: behind := hnames
    have htake : Path.take ⟨a, before ++ upDots :: behind⟩ before.length = ⟨a, before⟩ :=
      congrArg (Path.mk a) List.take_left
    refine .inr ⟨before.length, by simp, by simp, ?_⟩
    rw [htake]
    exact find_eq_missing_iff.2 ⟨hregular.beginning, hlacks⟩

theorem not_detours_of_notMem {p : Path} (h : upDots ∉ p.names) : ¬t.Detours p := by
  rintro ⟨n, -, hn, -⟩
  exact h (List.mem_of_getElem? hn)

end FileTree
end MarkupCode
