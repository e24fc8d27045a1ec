import Mathlib.Tactic.ByContra
import CommandShell.Arguments

/-!
# Arguments of one token

A token that stands alone is an option exactly if it begins with two dashes and has more than two
characters; every other one is a positional argument.
-/

namespace CommandShell

namespace Item

/-- The token names an option, with or without a value of its own. -/
def NamesOption (token : Text) : Prop := ['-', '-'] <+: token ∧ 2 < token.length

instance (token : Text) : Decidable (NamesOption token) :=
  inferInstanceAs (Decidable (_ ∧ _))

variable {token : Text}

theorem optionBody?_eq_none_iff : optionBody? token = none ↔ ¬ NamesOption token := by
  rw [NamesOption]
  fun_cases optionBody? token with
  | case1 c rest => simp
  | case2 token hshape =>
    simp only [true_iff, not_and]
    rintro ⟨rest, rfl⟩ hlength
    cases rest with
    | nil => simp at hlength
    | cons c rest => exact hshape c rest rfl

theorem not_namesOption_of_head? (h : token.head? ≠ some '-') : ¬ NamesOption token := by
  rintro ⟨⟨rest, rfl⟩, -⟩
  exact h rfl

end Item

theorem Arguments.positional_singleton (token : Text) :
    (ofTokens [token]).positional = if Item.NamesOption token then [] else [token] := by
  rw [ofTokens, Item.ofTokens]
  cases hbody : Item.optionBody? token with
  | none =>
    rw [if_neg (Item.optionBody?_eq_none_iff.1 hbody)]
    rfl
  | some body =>
    have hnames : Item.NamesOption token := by
      by_contra hnot
      rw [Item.optionBody?_eq_none_iff.2 hnot] at hbody
      contradiction
    rw [if_pos hnames]
    cases hsplit : Item.splitEquals? body <;> simp only [hsplit] <;> rfl

end CommandShell
