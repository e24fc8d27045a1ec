/-!
# Texts

A text is a list of characters, so lengths, cuts and comparisons all count code points. The order
on texts is the lexicographic order of code points; sorted listings use it.

Main statements: `le_trans`, `le_total` and `le_antisymm` say that the order is a linear order, which
makes a sorted list of texts unique (`sorted_eq_of_perm`).
-/

namespace CommandShell

/-- A sequence of characters. -/
abbrev Text := List Char

namespace Text

/-- Whether `part` occurs in `t` as a run of neighbouring characters. -/
def includes : Text → Text → Bool
  | [], part => part.isEmpty
  | c :: rest, part => part.isPrefixOf (c :: rest) || includes rest part

/-- The parts of `t` between its dots; a text without a dot is its own only segment. -/
def segments (t : Text) : List Text :=
  t.splitOn '.'

/-- The parts in order, with `separator` between neighbours. -/
def join (separator : Text) (parts : List Text) : Text :=
  separator.intercalate parts

/-- The lexicographic order of code points. -/
def le : Text → Text → Bool
  | [], _ => true
  | _ :: _, [] => false
  | c :: a, d :: b => c.toNat < d.toNat || (c.toNat == d.toNat && le a b)

/-- The texts in ascending order. -/
def sorted (ts : List Text) : List Text :=
  ts.mergeSort le

/-- `t` filled up with spaces on the right to `width` characters. -/
def padRight (width : Nat) (t : Text) : Text :=
  t ++ List.replicate (width - t.length) ' '

/-- Whether the code point of `c` lies in one of the closed ranges. -/
def inRanges (ranges : List (Nat × Nat)) (c : Char) : Bool :=
  ranges.any fun r => r.1 ≤ c.toNat && c.toNat ≤ r.2

theorem le_trans (a b c : Text) (hab : le a b = true) (hbc : le b c = true) : le a c = true := by
  induction a generalizing b c with
  | nil => rfl
  | cons x a ih =>
    match b, c with
    | [], _ => simp [le] at hab
    | _ :: _, [] => simp [le] at hbc
    | y :: b, z :: c =>
      simp only [le, Bool.or_eq_true, decide_eq_true_eq, Bool.and_eq_true, beq_iff_eq] at hab hbc ⊢
      rcases hab with h | ⟨h, hab⟩
      · left
        rcases hbc with h' | ⟨h', _⟩ <;> omega
      · rcases hbc with h' | ⟨h', hbc⟩
        · left
          omega
        · exact Or.inr ⟨by omega, ih b c hab hbc⟩

theorem le_total (a b : Text) : (le a b || le b a) = true := by
  induction a generalizing b with
  | nil => rfl
  | cons x a ih =>
    match b with
    | [] => simp [le]
    | y :: b =>
      have h := ih b
      simp only [le, Bool.or_eq_true, decide_eq_true_eq, Bool.and_eq_true, beq_iff_eq] at h ⊢
      rcases Nat.lt_trichotomy x.toNat y.toNat with hxy | hxy | hxy
      · exact Or.inl (Or.inl hxy)
      · exact h.imp (fun h => Or.inr ⟨hxy, h⟩) (fun h => Or.inr ⟨hxy.symm, h⟩)
      · exact Or.inr (Or.inl hxy)

theorem le_antisymm (a b : Text) (hab : le a b = true) (hba : le b a = true) : a = b := by
  induction a generalizing b with
  | nil =>
    match b with
    | [] => rfl
    | _ :: _ => simp [le] at hba
  | cons x a ih =>
    match b with
    | [] => simp [le] at hab
    | y :: b =>
      simp only [le, Bool.or_eq_true, decide_eq_true_eq, Bool.and_eq_true, beq_iff_eq] at hab hba
      have hxy : x.toNat = y.toNat := by omega
      have hab : le a b = true := by
        rcases hab with h | h
        · omega
        · exact h.2
      have hba : le b a = true := by
        rcases hba with h | h
        · omega
        · exact h.2
      rw [Char.toNat_inj.1 hxy, ih b hab hba]

theorem sorted_perm (ts : List Text) : (sorted ts).Perm ts :=
  List.mergeSort_perm ts le

theorem sorted_ascending (ts : List Text) : (sorted ts).Pairwise fun a b => le a b = true :=
  List.pairwise_mergeSort le_trans le_total ts

/-- Texts of which no two are equal are sorted into strictly ascending order. -/
theorem sorted_strictly {ts : List Text} (h : ts.Nodup) :
    (sorted ts).Pairwise fun a b => le a b = true ∧ a ≠ b :=
  (sorted_ascending ts).and ((sorted_perm ts).nodup_iff.2 h)

theorem sorted_eq_of_perm {ts us : List Text} (h : ts.Perm us) : sorted ts = sorted us := by
  have hsame : (sorted ts).Perm (sorted us) :=
    (sorted_perm ts).trans (h.trans (sorted_perm us).symm)
  exact hsame.eq_of_pairwise (fun a b _ _ => le_antisymm a b) (sorted_ascending ts)
    (sorted_ascending us)

end Text

end CommandShell
