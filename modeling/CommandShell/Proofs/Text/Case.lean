import CommandShell.Text.Case

/-!
# Texts in lower case

A text is its own lower-case form exactly if each of its characters is: the capital sigma, whose
form depends on its neighbours, is in no such text. So every part of such a text is one too.
-/

namespace CommandShell.Text

variable {t part : Text} {c : Char}

theorem toNat_ne_capitalSigma (h : lowerChar c = [c]) : c.toNat ≠ 0x3a3 := by
  intro hsigma
  have hc : c = Char.ofNat 0x3a3 := by rw [← hsigma, Char.ofNat_toNat]
  rw [hc] at h
  exact absurd h (by decide +kernel)

/-- Neither form of a small sigma is the capital one. -/
theorem smallSigma_ne (final : Bool) (h : c.toNat = 0x3a3) :
    Char.ofNat (if final then 0x3c2 else 0x3c3) ≠ c := by
  rintro rfl
  revert h
  cases final <;> decide

theorem lowerChar_eq_cons (c : Char) :
    ∃ first others, lowerChar c = first :: others ∧ (first = c → others = []) := by
  rw [lowerChar]
  split
  · next hdotted =>
    refine ⟨'i', [Char.ofNat 0x307], rfl, ?_⟩
    rintro rfl
    exact absurd hdotted (by decide)
  · exact ⟨_, [], rfl, fun _ => rfl⟩

theorem lowerFrom_eq_self_iff {afterCased : Bool} :
    lowerFrom afterCased t = t ↔ ∀ c ∈ t, lowerChar c = [c] := by
  induction t generalizing afterCased with
  | nil => simp [lowerFrom]
  | cons c t ih =>
    rw [lowerFrom, List.forall_mem_cons]
    by_cases hsigma : c.toNat = 0x3a3
    · rw [if_pos hsigma]
      refine iff_of_false (fun heq => ?_) fun h => toNat_ne_capitalSigma h.1 hsigma
      exact smallSigma_ne _ hsigma (List.cons.inj heq).1
    · rw [if_neg hsigma]
      obtain ⟨first, others, himage, hothers⟩ := lowerChar_eq_cons c
      rw [himage]
      constructor
      · intro heq
        obtain ⟨rfl, htail⟩ := List.cons.inj heq
        rw [hothers rfl] at htail ⊢
        exact ⟨rfl, ih.1 htail⟩
      · rintro ⟨hself, ht⟩
        rw [hself]
        exact congrArg (c :: ·) (ih.2 ht)

/-- A text is its own lower-case form exactly if each of its characters is one. -/
theorem lower_eq_self_iff : t.lower = t ↔ ∀ c ∈ t, lowerChar c = [c] :=
  lowerFrom_eq_self_iff

theorem lower_of_isInfix (h : t.lower = t) (hpart : part <:+: t) : part.lower = part :=
  lower_eq_self_iff.2 fun c hc => lower_eq_self_iff.1 h c (hpart.subset hc)

end CommandShell.Text
