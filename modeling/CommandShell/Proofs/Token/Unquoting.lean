import CommandShell.Proofs.Token.Quoting

/-!
# What unquoting leaves

A content between quotes may itself begin or end with quotes, be empty or hold line feeds. Main
statement: unquoting gives the content back exactly if it has no quote at either end and, as the
value of an option, is not empty and holds no line feed; a token that is not written with a pair of
quotes around its content is left as it is.
-/

namespace CommandShell.Token

/-- Neither the first character nor the last one is a quote. -/
def BareEnds (t : Text) : Prop := t.head? ≠ some quote ∧ t.getLast? ≠ some quote

instance (t : Text) : Decidable (BareEnds t) :=
  inferInstanceAs (Decidable (t.head? ≠ some quote ∧ t.getLast? ≠ some quote))

namespace Item

/-- The item has a pair of quotes around its content; the name of an option has no equals sign. -/
def IsPaired : Item → Prop
  | bare _ => False
  | quoted _ => True
  | option _ stem _ => stem ≠ [] ∧ '=' ∉ stem

/-- What unquoting makes of an item. -/
def remnant : Item → Text
  | bare t => t
  | quoted content => trimQuotes content
  | option double stem value =>
    if value ≠ [] ∧ '\n' ∉ value then optionName double stem ++ '=' :: trimQuotes value
    else written (option double stem value)

/-- Nothing but the pair of quotes is taken off the item. -/
def KeepsContent : Item → Prop
  | bare _ => True
  | quoted content => BareEnds content
  | option _ _ value => value ≠ [] ∧ '\n' ∉ value ∧ BareEnds value

end Item

variable {t raw : Text} {item : Item}

/-! ## Pairs of quotes -/

theorem trimQuotes_eq_self_iff : trimQuotes t = t ↔ BareEnds t := by
  have hend : ∀ x : Option Char, (∀ c, x = some c → (c == quote) = false) ↔ x ≠ some quote :=
    fun x => ⟨fun h hx => by simpa using h quote hx,
      fun h c hc => beq_false_of_ne fun he => h (he ▸ hc)⟩
  rw [trimQuotes, Text.trim_eq_self_iff, hend, hend, BareEnds]

theorem exists_content_of_isWrapped (hwrapped : isWrapped t = true) (hlength : 2 ≤ t.length) :
    ∃ content, t = quote :: (content ++ [quote]) := by
  rw [isWrapped, Bool.and_eq_true, beq_iff_eq, beq_iff_eq] at hwrapped
  obtain ⟨hhead, hlast⟩ := hwrapped
  obtain ⟨rest, rfl⟩ := List.head?_eq_some_iff.1 hhead
  obtain ⟨front, hfront⟩ := List.getLast?_eq_some_iff.1 hlast
  cases front with
  | nil =>
    rw [hfront] at hlength
    contradiction
  | cons c content =>
    rw [List.cons_append, List.cons_eq_cons] at hfront
    exact ⟨content, by rw [hfront.2]⟩

/-- One quote alone is both of its ends, but it is not balanced. -/
theorem two_le_length_of_isWrapped (hwrapped : isWrapped t = true)
    (hbalanced : t.count quote % 2 = 0) : 2 ≤ t.length := by
  match t with
  | [] => contradiction
  | [c] =>
    rw [isWrapped, Bool.and_eq_true, beq_iff_eq] at hwrapped
    obtain rfl : c = quote := Option.some.inj hwrapped.1
    rw [List.count_singleton_self] at hbalanced
    contradiction
  | _ :: _ :: rest => exact Nat.le_add_left 2 rest.length

/-! ## Items -/

theorem unquote_of_isPaired (h : item.IsPaired) : unquote item.written = item.remnant := by
  cases item with
  | bare t => exact h.elim
  | quoted content => exact unquote_pair content
  | option double stem value =>
    obtain ⟨hdash, hlength, hequals⟩ := optionName_spec double h.1 h.2
    rw [Item.remnant]
    split
    · next hvalue =>
      rw [unquote, Item.written, quotedOption?_of_name hdash hlength hequals hvalue.1 hvalue.2]
      simp only [trimQuotes_pair]
    · next hvalue =>
      have hnone : quotedOption? (Item.option double stem value).written = none := by
        rw [Item.written, quotedOption?_append hequals]
        refine if_neg fun hoption => hvalue ⟨?_, fun hmem => ?_⟩
        · rintro rfl
          exact absurd hoption.2.2.2.1 (by decide)
        · exact hoption.2.2.2.2 (by simp [hmem])
      have hwrapped : isWrapped (Item.option double stem value).written = false := by
        rw [isWrapped, Item.written, List.head?_append, hdash]
        rfl
      rw [unquote, hnone]
      simp [hwrapped]

theorem remnant_eq_token_iff (h : item.IsPaired) :
    item.remnant = item.token ↔ item.KeepsContent := by
  cases item with
  | bare t => exact h.elim
  | quoted content => exact trimQuotes_eq_self_iff
  | option double stem value =>
    rw [Item.remnant, Item.KeepsContent, ← trimQuotes_eq_self_iff, ← and_assoc]
    split
    · next hvalue =>
      rw [Item.token, List.append_cancel_left_eq, List.cons_eq_cons]
      simp [hvalue]
    · next hvalue =>
      refine iff_of_false (fun he => ?_) fun hkeeps => hvalue hkeeps.1
      -- the pair of quotes is still there
      have hlength := congrArg List.length he
      simp only [Item.written, Item.token, List.length_append, List.length_cons] at hlength
      omega

/-- A token that unquoting takes for one in quotes is written as an item in quotes. -/
theorem unquote_of_forall_ne (hbalanced : raw.count quote % 2 = 0)
    (h : ∀ item : Item, item.IsPaired → raw ≠ item.written) : unquote raw = raw := by
  have hwrapped : isWrapped raw = false := by
    rw [Bool.eq_false_iff]
    intro hwrapped
    obtain ⟨content, hcontent⟩ := exists_content_of_isWrapped hwrapped
      (two_le_length_of_isWrapped hwrapped hbalanced)
    exact h (.quoted content) trivial hcontent
  have hoption : quotedOption? raw = none := by
    rw [Option.eq_none_iff_forall_ne_some]
    rintro ⟨name, value⟩ hoption
    obtain ⟨hraw, hequals, hdash, hlength, hvalue, hlong⟩ := eq_append_of_quotedOption? hoption
    obtain ⟨stem, rfl⟩ := List.head?_eq_some_iff.1 hdash
    obtain ⟨content, rfl⟩ := exists_content_of_isWrapped hvalue (by omega)
    have hstem : '=' ∉ stem := fun hmem => hequals (List.mem_cons_of_mem _ hmem)
    refine h (.option false stem content) ⟨?_, hstem⟩ hraw
    rintro rfl
    contradiction
  rw [unquote, hoption]
  simp [hwrapped]

/-! ## Tokens of a line -/

/--
What unquoting makes of a token of a line whose quotes are balanced. If the token is an item in a
pair of quotes, it is the remnant of that item, which is its content, or its name and its content,
exactly if the content has no quote at either end and, in an option, is not empty and holds no line
feed. Any other token stays as it is.
-/
theorem pair_alone_taken_off_iff {line raw : Text} {i : Nat}
    (hraw : (cut line.strip)[i]? = some raw) (hbalanced : raw.count quote % 2 = 0) :
    ∃ token, (ofLine line)[i]? = some token ∧
      (∀ item : Item, item.IsPaired → raw = item.written →
        token = item.remnant ∧ (token = item.token ↔ item.KeepsContent)) ∧
      ((∀ item : Item, item.IsPaired → raw ≠ item.written) → token = raw) := by
  refine ⟨unquote raw, by rw [ofLine, List.getElem?_map, hraw]; rfl, ?_,
    unquote_of_forall_ne hbalanced⟩
  rintro item hitem rfl
  rw [unquote_of_isPaired hitem]
  exact ⟨rfl, remnant_eq_token_iff hitem⟩

/-- Of the quotes around a quoted text two pairs go, and those around no value stay. -/
theorem pair_alone_taken_off_iff_nested :
    let line := "--k=\x22\x22 \x22\x22a\x22\x22".toList
    let option : Item := .option true ['k'] []
    let nested : Item := .quoted "\x22a\x22".toList
    ((cut (Text.strip line))[0]? = some option.written ∧
      option.written.count quote % 2 = 0 ∧ option.IsPaired ∧
      (ofLine line)[0]? = some option.written ∧ option.token = "--k=".toList) ∧
    ((cut (Text.strip line))[1]? = some nested.written ∧
      nested.written.count quote % 2 = 0 ∧ nested.IsPaired ∧
      (ofLine line)[1]? = some ['a'] ∧ nested.token = "\x22a\x22".toList) := by
  intro line option nested
  have hoption : (cut (Text.strip line))[0]? = some option.written := by decide
  have hnested : (cut (Text.strip line))[1]? = some nested.written := by decide
  have hoptionPaired : option.IsPaired := ⟨by decide, by decide⟩
  have hnestedPaired : nested.IsPaired := trivial
  obtain ⟨token, htoken, hpaired, -⟩ := pair_alone_taken_off_iff hoption (by decide)
  obtain ⟨other, hother, hotherPaired, -⟩ := pair_alone_taken_off_iff hnested (by decide)
  rw [(hpaired option hoptionPaired rfl).1] at htoken
  rw [(hotherPaired nested hnestedPaired rfl).1] at hother
  exact ⟨⟨hoption, by decide, hoptionPaired, htoken, rfl⟩,
    ⟨hnested, by decide, hnestedPaired, hother, rfl⟩⟩

end CommandShell.Token
