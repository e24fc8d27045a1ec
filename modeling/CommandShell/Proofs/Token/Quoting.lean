import CommandShell.Proofs.Token.Written

/-!
# Quoting

A token can be written in a line as it is, between double quotes, or as an option whose value stands
between double quotes. Main statement: cutting the line undoes the writing, whatever blanks stand
between the items and around them.
-/

namespace CommandShell.Token

/-- The text can be written in a line without quotes. -/
structure IsBare (t : Text) : Prop where
  ne_nil : t ≠ []
  no_blank : ∀ c ∈ t, Text.isBlank c = false
  no_quote : quote ∉ t

instance (t : Text) : Decidable (IsBare t) :=
  decidable_of_iff (t ≠ [] ∧ (t.all fun c => !Text.isBlank c) = true ∧ quote ∉ t)
    ⟨fun h => ⟨h.1, by simpa using h.2.1, h.2.2⟩,
      fun h => ⟨h.ne_nil, by simpa using h.no_blank, h.no_quote⟩⟩

/-- What one token is written as. -/
inductive Item where
  | bare (t : Text)
  | quoted (content : Text)
  | option (double : Bool) (stem value : Text)
  deriving DecidableEq, Repr

namespace Item

/-- The name of an option, with its one or two dashes. -/
def optionName (double : Bool) (stem : Text) : Text :=
  (if double then "--".toList else "-".toList) ++ stem

/-- How an item stands in a line. -/
def written : Item → Text
  | bare t => t
  | quoted content => quote :: (content ++ [quote])
  | option double stem value => optionName double stem ++ '=' :: quote :: (value ++ [quote])

/-- The token that an item is read as. -/
def token : Item → Text
  | bare t => t
  | quoted content => content
  | option double stem value => optionName double stem ++ '=' :: value

/--
What can be written: a bare text, any content without quotes, and an option whose name has no
blank, quote or equals sign and whose value has no quote or line feed and is not empty.
-/
def WellFormed : Item → Prop
  | bare t => IsBare t
  | quoted content => quote ∉ content
  | option _ stem value =>
    (IsBare stem ∧ '=' ∉ stem) ∧ value ≠ [] ∧ quote ∉ value ∧ '\n' ∉ value

end Item

variable {t content rest : Text} {c : Char}

/-! ## Items are not cut -/

theorem closes_append_of_bare (hblank : ∀ c ∈ t, Text.isBlank c = false) (hquote : quote ∉ t)
    (rest : Text) : closes false (t ++ rest) = closes false rest := by
  induction t with
  | nil => rfl
  | cons c t ih =>
    obtain ⟨hc, hblank⟩ := List.forall_mem_cons.1 hblank
    rw [List.mem_cons, not_or] at hquote
    rw [List.cons_append, closes, if_neg (Ne.symm hquote.1), ih hblank hquote.2]
    simp [hc]

/-- Whatever stands between two quotes is closed by the second one. -/
theorem closes_content (h : quote ∉ content) : closes true (content ++ [quote]) = true := by
  induction content with
  | nil => rfl
  | cons c content ih =>
    rw [List.mem_cons, not_or] at h
    rw [List.cons_append, closes, if_neg (Ne.symm h.1), ih h.2]
    rfl

theorem closes_wrapped (h : quote ∉ content) :
    closes false (quote :: (content ++ [quote])) = true := by
  rw [closes, if_pos rfl, Bool.not_false, closes_content h]
  decide

theorem IsBare.unbroken (h : IsBare t) : Unbroken t := by
  refine ⟨h.ne_nil, ?_⟩
  rw [← List.append_nil t, closes_append_of_bare h.no_blank h.no_quote]
  rfl

theorem optionName_isBare (double : Bool) {stem : Text} (h : IsBare stem) :
    IsBare (Item.optionName double stem) := by
  have hdash : Text.isBlank '-' = false ∧ quote ≠ '-' := by decide
  refine ⟨?_, ?_, ?_⟩
  · simp [Item.optionName, h.ne_nil]
  · intro c hc
    rcases List.mem_append.1 hc with hc | hc
    · have hc : c = '-' := by cases double <;> simpa using hc
      rw [hc]
      exact hdash.1
    · exact h.no_blank c hc
  · intro hc
    rcases List.mem_append.1 hc with hc | hc
    · have hc : quote = '-' := by cases double <;> simpa using hc
      exact hdash.2 hc
    · exact h.no_quote hc

theorem Item.WellFormed.unbroken {item : Item} (h : item.WellFormed) : Unbroken item.written := by
  cases item with
  | bare t => exact IsBare.unbroken h
  | quoted content => exact ⟨List.cons_ne_nil _ _, closes_wrapped h⟩
  | option double stem value =>
    obtain ⟨⟨hstem, -⟩, -, hquote, -⟩ := h
    have hname := optionName_isBare double hstem
    refine ⟨by simp [Item.written], ?_⟩
    rw [Item.written, closes_append_of_bare hname.no_blank hname.no_quote, closes,
      if_neg (by decide), closes_wrapped hquote]
    decide

/-! ## Items are unquoted -/

/-- The pair around a content goes together with all quotes at the ends of the content. -/
theorem trimQuotes_pair (content : Text) :
    trimQuotes (quote :: (content ++ [quote])) = trimQuotes content := by
  rw [trimQuotes, trimQuotes, Text.trim, Text.trim, List.dropWhile_cons_of_pos (by decide),
    List.dropWhile_append]
  split
  · next hempty =>
    rw [List.isEmpty_iff.1 hempty]
    rfl
  · exact List.rdropWhile_concat_pos _ _ quote (by decide)

theorem trimQuotes_of_not_mem (h : quote ∉ content) : trimQuotes content = content := by
  have hkept : ∀ c ∈ content, (c == quote) = false := fun c hc =>
    beq_false_of_ne fun he => h (he ▸ hc)
  exact Text.trim_eq_self_iff.2 ⟨fun c hc => hkept c (List.mem_of_mem_head? hc),
    fun c hc => hkept c (List.mem_of_getLast? hc)⟩

theorem isWrapped_wrapped (content : Text) : isWrapped (quote :: (content ++ [quote])) = true := by
  have hlast : (quote :: (content ++ [quote])).getLast? = some quote :=
    List.getLast?_concat (l := quote :: content)
  rw [isWrapped, hlast]
  rfl

theorem isWrapped_eq_false (h : quote ∉ t) : isWrapped t = false := by
  by_contra hwrapped
  rw [Bool.not_eq_false, isWrapped, Bool.and_eq_true, beq_iff_eq] at hwrapped
  exact h (List.mem_of_mem_head? hwrapped.1)

/-- Without a quote there is nothing to take off. -/
theorem unquote_of_not_mem (h : quote ∉ t) : unquote t = t := by
  have hvalue : quote ∉ (t.dropWhile (· != '=')).drop 1 := fun hmem =>
    h ((List.dropWhile_suffix _).mem (List.mem_of_mem_drop hmem))
  have hnone : quotedOption? t = none := by
    rw [quotedOption?]
    refine if_neg fun hoption => ?_
    rw [isWrapped_eq_false hvalue] at hoption
    exact Bool.false_ne_true hoption.2.2.1
  rw [unquote, hnone]
  simp [isWrapped_eq_false h]

theorem IsBare.written (h : IsBare t) : Written t :=
  ⟨h.unbroken, unquote_of_not_mem h.no_quote⟩

/-- A quoted content is no option, even if it looks like one. -/
theorem quotedOption?_quote_cons (rest : Text) : quotedOption? (quote :: rest) = none := by
  rw [quotedOption?]
  refine if_neg fun hoption => ?_
  rw [List.takeWhile_cons_of_pos (by decide)] at hoption
  exact absurd (Option.some.inj hoption.1) (by decide)

theorem unquote_pair (content : Text) :
    unquote (quote :: (content ++ [quote])) = trimQuotes content := by
  rw [unquote, quotedOption?_quote_cons]
  simp only [isWrapped_wrapped, if_true]
  exact trimQuotes_pair content

theorem unquote_quoted (h : quote ∉ content) :
    unquote (quote :: (content ++ [quote])) = content := by
  rw [unquote_pair, trimQuotes_of_not_mem h]

/-- What stands behind the first equals sign decides whether a name is that of a quoted option. -/
theorem quotedOption?_append {name : Text} (hequals : '=' ∉ name) (value : Text) :
    quotedOption? (name ++ '=' :: value) =
      if name.head? = some '-' ∧ 2 ≤ name.length ∧ isWrapped value ∧ 3 ≤ value.length ∧
          ¬ value.contains '\n' then some (name, value)
      else none := by
  have hkept : ∀ c ∈ name, (c != '=') = true := fun c hc =>
    bne_iff_ne.2 fun he => hequals (he ▸ hc)
  have hname : (name ++ '=' :: value).takeWhile (· != '=') = name := by
    rw [List.takeWhile_append_of_pos hkept, List.takeWhile_cons_of_neg (by decide),
      List.append_nil]
  have hrest : ((name ++ '=' :: value).dropWhile (· != '=')).drop 1 = value := by
    rw [List.dropWhile_append_of_pos hkept, List.dropWhile_cons_of_neg (by decide)]
    rfl
  rw [quotedOption?]
  simp only [hname, hrest]

theorem quotedOption?_of_name {name value : Text} (hdash : name.head? = some '-')
    (hlength : 2 ≤ name.length) (hequals : '=' ∉ name) (hvalue : value ≠ [])
    (hfeed : '\n' ∉ value) :
    quotedOption? (name ++ '=' :: quote :: (value ++ [quote])) =
      some (name, quote :: (value ++ [quote])) := by
  have hlong : 3 ≤ (quote :: (value ++ [quote])).length := by
    have hpos := List.length_pos_of_ne_nil hvalue
    simp only [List.length_cons, List.length_append, List.length_nil]
    omega
  have hline : ¬ (quote :: (value ++ [quote])).contains '\n' = true := by
    have hquote : '\n' ≠ quote := by decide
    simp [hfeed, hquote]
  rw [quotedOption?_append hequals]
  exact if_pos ⟨hdash, hlength, isWrapped_wrapped value, hlong, hline⟩

/-- An option name is at least as long as it must be, and it ends at the equals sign. -/
theorem optionName_spec (double : Bool) {stem : Text} (hstem : stem ≠ []) (hequals : '=' ∉ stem) :
    (Item.optionName double stem).head? = some '-' ∧
      2 ≤ (Item.optionName double stem).length ∧ '=' ∉ Item.optionName double stem := by
  have hpos := List.length_pos_of_ne_nil hstem
  cases double
  · exact ⟨rfl, by simp [Item.optionName]; omega, by simp [Item.optionName, hequals]⟩
  · exact ⟨rfl, by simp [Item.optionName], by simp [Item.optionName, hequals]⟩

theorem Item.WellFormed.unquote {item : Item} (h : item.WellFormed) :
    Token.unquote item.written = item.token := by
  cases item with
  | bare t => exact unquote_of_not_mem h.no_quote
  | quoted content => exact unquote_quoted h
  | option double stem value =>
    obtain ⟨⟨hstem, hequals⟩, hvalue, hquote, hfeed⟩ := h
    obtain ⟨hdash, hlength, hname⟩ := optionName_spec double hstem.ne_nil hequals
    rw [Token.unquote, written, quotedOption?_of_name hdash hlength hname hvalue hfeed]
    simp only [trimQuotes_pair, trimQuotes_of_not_mem hquote]
    rfl

/-! ## Lines of items -/

/-- A line of items, each with what stands in front of it, and of what stands behind them. -/
def Item.line (items : List (Text × Item)) (trail : Text) : Text :=
  spread (items.map (Prod.map id Item.written)) trail

/--
Cutting a line undoes its writing: the tokens of well-formed items, with blanks around them and at
least one between two of them, are what the items stand for, in order.
-/
theorem ofLine_undoes_quoting {items : List (Text × Item)} {trail : Text}
    (hitems : ∀ i ∈ items, i.2.WellFormed) (hgaps : ∀ i ∈ items, IsGap i.1)
    (hbetween : ∀ i ∈ items.tail, i.1 ≠ []) (htrail : IsGap trail) :
    ofLine (Item.line items trail) = items.map fun i => i.2.token := by
  have hapart : Apart (items.map (Prod.map id Item.written)) trail := by
    refine ⟨List.forall_mem_map.2 hgaps, ?_, htrail⟩
    rw [← List.map_tail]
    exact List.forall_mem_map.2 hbetween
  have hunbroken : ∀ p ∈ items.map (Prod.map id Item.written), Unbroken p.2 :=
    List.forall_mem_map.2 fun i hi => (hitems i hi).unbroken
  rw [Item.line, ofLine_spread hapart hunbroken, List.map_map]
  exact List.map_congr_left fun i hi => (hitems i hi).unquote

/-- A dotted name, an empty content, a content like an option, and an option, in odd blanks. -/
theorem ofLine_undoes_quoting_mixed :
    let items : List (Text × Item) :=
      [(['\t'], .bare "dbg.echo".toList), (['\u00a0', '\n'], .quoted []),
        ([' '], .quoted "--a=\u2003b\n".toList), (['\u3000'], .option true ['k'] "= x".toList)]
    Item.line items [' '] =
        "\tdbg.echo\u00a0\n\x22\x22 \x22--a=\u2003b\n\x22\u3000--k=\x22= x\x22 ".toList ∧
      ofLine (Item.line items [' ']) =
        ["dbg.echo".toList, [], "--a=\u2003b\n".toList, "--k== x".toList] := by
  intro items
  have hitems : ∀ i ∈ items, i.2.WellFormed := by
    intro i hi
    simp only [items, List.mem_cons, List.not_mem_nil, or_false] at hi
    rcases hi with rfl | rfl | rfl | rfl
    · show IsBare "dbg.echo".toList
      decide
    · exact List.not_mem_nil
    · show quote ∉ "--a=\u2003b\n".toList
      decide
    · exact ⟨⟨by decide, by decide⟩, by decide, by decide, by decide⟩
  refine ⟨by decide, ?_⟩
  exact ofLine_undoes_quoting hitems (by decide) (by decide) (by decide)

end CommandShell.Token
