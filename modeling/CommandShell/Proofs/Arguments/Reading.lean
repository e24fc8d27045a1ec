import Mathlib.Data.List.Induction
import CommandShell.Proofs.Arguments

/-!
# How tokens read as items

The grammar of items is stated apart from the function that reads them: what a token may look like
to be positional, an option with its value behind an equals sign, an option whose value is the next
token, or a flag. Main statement: tokens read in exactly one way, which uses up every token, and the
arguments hold the positional tokens of that reading and for each option the value it is given last.
-/

namespace CommandShell

namespace Item

/-- What can stand behind two dashes and name an option without a value of its own. -/
def IsName (key : Text) : Prop := key ≠ [] ∧ '=' ∉ key

/-- The ways in which tokens read as items, from left to right. -/
inductive Reads : List Text → List Item → Prop where
  | done : Reads [] []
  | positional {token : Text} {rest : List Text} {items : List Item}
    (htoken : ¬['-', '-'] <+: token ∨ token = ['-', '-']) (others : Reads rest items) :
    Reads (token :: rest) (.positional token :: items)
  | inlined {key value : Text} {rest : List Text} {items : List Item}
    (hkey : '=' ∉ key) (others : Reads rest items) :
    Reads ((['-', '-'] ++ key ++ '=' :: value) :: rest) (.inlined key value :: items)
  | separate {key value : Text} {rest : List Text} {items : List Item}
    (hkey : IsName key) (hvalue : ¬['-'] <+: value) (others : Reads rest items) :
    Reads ((['-', '-'] ++ key) :: value :: rest) (.separate key value :: items)
  | flag {key : Text} {rest : List Text} {items : List Item}
    (hkey : IsName key) (hnext : ∀ next, rest.head? = some next → ['-'] <+: next)
    (others : Reads rest items) :
    Reads ((['-', '-'] ++ key) :: rest) (.flag key :: items)

/-- The tokens that an item is read from. -/
def written : Item → List Text
  | .positional token => [token]
  | .inlined key value => [['-', '-'] ++ key ++ '=' :: value]
  | .separate key value => [['-', '-'] ++ key, value]
  | .flag key => [['-', '-'] ++ key]

/-- Among the items is one that gives `key` the value, and no item after it gives `key` another. -/
def GivenLast (items : List Item) (key : Text) (value : OptionValue) : Prop :=
  ∃ before item after, items = before ++ item :: after ∧ item.option? = some (key, value) ∧
    ∀ later ∈ after, ∀ other, later.option? ≠ some (key, other)

variable {token next body key value : Text} {tokens rest : List Text} {items : List Item}

/-! ## One token -/

theorem optionBody?_eq_some_iff :
    optionBody? token = some body ↔ body ≠ [] ∧ token = ['-', '-'] ++ body := by
  fun_cases optionBody? token with
  | case1 c rest =>
    constructor
    · intro h
      obtain rfl := Option.some.inj h
      exact ⟨List.cons_ne_nil c rest, rfl⟩
    · rintro ⟨-, h⟩
      exact congrArg some (List.cons.inj (List.cons.inj h).2).2
  | case2 token hshape =>
    refine iff_of_false (Option.some_ne_none body).symm ?_
    rintro ⟨hne, rfl⟩
    obtain ⟨c, rest, rfl⟩ := List.exists_cons_of_ne_nil hne
    exact hshape c rest rfl

/-- A token is positional unless something stands behind two dashes. -/
theorem positional_iff :
    optionBody? token = none ↔ ¬['-', '-'] <+: token ∨ token = ['-', '-'] := by
  rw [optionBody?_eq_none_iff, NamesOption, not_and_or]
  refine or_congr_right' fun hdashes => ?_
  obtain ⟨rest, rfl⟩ := not_not.1 hdashes
  rw [List.append_right_eq_self, List.length_append, ← List.length_eq_zero_iff]
  show ¬2 < 2 + rest.length ↔ rest.length = 0
  omega

theorem splitEquals?_eq_none_iff : splitEquals? body = none ↔ '=' ∉ body := by
  rw [splitEquals?]
  split
  · next h => simpa using h
  · next h => simpa using h

/-- A body is cut at its first equals sign. -/
theorem splitEquals?_append (hkey : '=' ∉ key) (value : Text) :
    splitEquals? (key ++ '=' :: value) = some (key, value) := by
  have hkept : ∀ c ∈ key, (c != '=') = true := fun c hc =>
    bne_iff_ne.2 fun heq => hkey (heq ▸ hc)
  rw [splitEquals?, if_pos (by simp), List.takeWhile_append_of_pos hkept,
    List.dropWhile_append_of_pos hkept]
  simp

theorem splitEquals?_eq_some_iff :
    splitEquals? body = some (key, value) ↔ '=' ∉ key ∧ body = key ++ '=' :: value := by
  constructor
  · intro h
    have hmem : '=' ∈ body := by
      by_contra hnot
      rw [splitEquals?_eq_none_iff.2 hnot] at h
      contradiction
    obtain ⟨front, rest, rfl, hfront⟩ := List.eq_append_cons_of_mem hmem
    rw [splitEquals?_append hfront] at h
    obtain ⟨rfl, rfl⟩ := Prod.mk.inj (Option.some.inj h)
    exact ⟨hfront, rfl⟩
  · rintro ⟨hkey, rfl⟩
    exact splitEquals?_append hkey value

theorem isValue_iff : isValue token = true ↔ ¬['-'] <+: token := by
  cases token with
  | nil => simp [isValue]
  | cons c rest =>
    rw [isValue, bne_iff_ne, ne_eq, List.head?_cons, Option.some.injEq, List.cons_prefix_cons,
      eq_comm, and_iff_left List.nil_prefix]

/-! ## The first item -/

theorem ofTokens_positional (h : ¬['-', '-'] <+: token ∨ token = ['-', '-'])
    (rest : List Text) : ofTokens (token :: rest) = .positional token :: ofTokens rest := by
  have hbody := positional_iff.2 h
  cases rest <;> simp [ofTokens, hbody]

theorem ofTokens_inlined (hkey : '=' ∉ key) (value : Text) (rest : List Text) :
    ofTokens ((['-', '-'] ++ key ++ '=' :: value) :: rest) =
      .inlined key value :: ofTokens rest := by
  have hbody : optionBody? (['-', '-'] ++ key ++ '=' :: value) = some (key ++ '=' :: value) :=
    optionBody?_eq_some_iff.2 ⟨by simp, by simp⟩
  cases rest <;> simp only [ofTokens, hbody, splitEquals?_append hkey]

theorem optionBody?_name (h : IsName key) : optionBody? (['-', '-'] ++ key) = some key :=
  optionBody?_eq_some_iff.2 ⟨h.1, rfl⟩

theorem ofTokens_separate (hkey : IsName key) (hvalue : ¬['-'] <+: value) (rest : List Text) :
    ofTokens ((['-', '-'] ++ key) :: value :: rest) = .separate key value :: ofTokens rest := by
  simp only [ofTokens, optionBody?_name hkey, splitEquals?_eq_none_iff.2 hkey.2,
    isValue_iff.2 hvalue, if_true]

theorem ofTokens_flag (hkey : IsName key)
    (hnext : ∀ next, rest.head? = some next → ['-'] <+: next) :
    ofTokens ((['-', '-'] ++ key) :: rest) = .flag key :: ofTokens rest := by
  cases rest with
  | nil => simp only [ofTokens, optionBody?_name hkey, splitEquals?_eq_none_iff.2 hkey.2]
  | cons next rest =>
    have hnot : isValue next = false := by
      rw [Bool.eq_false_iff, ne_eq, isValue_iff, not_not]
      exact hnext next rfl
    simp only [ofTokens, optionBody?_name hkey, splitEquals?_eq_none_iff.2 hkey.2, hnot,
      Bool.false_eq_true, if_false]

/-! ## Readings -/

theorem isName_of_split (hbody : optionBody? token = some body)
    (hsplit : splitEquals? body = none) : IsName body ∧ token = ['-', '-'] ++ body :=
  ⟨⟨(optionBody?_eq_some_iff.1 hbody).1, splitEquals?_eq_none_iff.1 hsplit⟩,
    (optionBody?_eq_some_iff.1 hbody).2⟩

theorem eq_of_split (hbody : optionBody? token = some body)
    (hsplit : splitEquals? body = some (key, value)) :
    '=' ∉ key ∧ token = ['-', '-'] ++ key ++ '=' :: value := by
  obtain ⟨hkey, rfl⟩ := splitEquals?_eq_some_iff.1 hsplit
  refine ⟨hkey, ?_⟩
  rw [List.append_assoc]
  exact (optionBody?_eq_some_iff.1 hbody).2

/-- Tokens read as the items that are computed. -/
theorem reads_ofTokens (tokens : List Text) : Reads tokens (ofTokens tokens) := by
  fun_induction ofTokens tokens with
  | case1 => exact .done
  | case2 token hbody => exact .positional (positional_iff.1 hbody) .done
  | case3 token body hbody key value hsplit =>
    obtain ⟨hkey, rfl⟩ := eq_of_split hbody hsplit
    exact .inlined hkey .done
  | case4 token body hbody hsplit =>
    obtain ⟨hkey, rfl⟩ := isName_of_split hbody hsplit
    exact .flag hkey (fun _ hnone => by contradiction) .done
  | case5 token next rest hbody ih => exact .positional (positional_iff.1 hbody) ih
  | case6 token next rest body hbody key value hsplit ih =>
    obtain ⟨hkey, rfl⟩ := eq_of_split hbody hsplit
    exact .inlined hkey ih
  | case7 token next rest body hbody hsplit hvalue ih =>
    obtain ⟨hkey, rfl⟩ := isName_of_split hbody hsplit
    exact .separate hkey (isValue_iff.1 hvalue) ih
  | case8 token next rest body hbody hsplit hvalue ih =>
    obtain ⟨hkey, rfl⟩ := isName_of_split hbody hsplit
    refine .flag hkey (fun value hnext => ?_) ih
    obtain rfl := Option.some.inj hnext
    rwa [isValue_iff, not_not] at hvalue

/-- There is no other reading, since the first tokens settle the first item. -/
theorem Reads.eq_ofTokens (h : Reads tokens items) : items = ofTokens tokens := by
  induction h with
  | done => rfl
  | positional htoken _ ih => rw [ofTokens_positional htoken, ih]
  | inlined hkey _ ih => rw [ofTokens_inlined hkey, ih]
  | separate hkey hvalue _ ih => rw [ofTokens_separate hkey hvalue, ih]
  | flag hkey hnext _ ih => rw [ofTokens_flag hkey hnext, ih]

/-- Each token is part of one item, and the items keep the order of the tokens. -/
theorem Reads.written_eq (h : Reads tokens items) : items.flatMap written = tokens := by
  induction h with
  | done => rfl
  | positional _ _ ih => exact congrArg _ ih
  | inlined _ _ ih => exact congrArg _ ih
  | separate _ _ _ ih => exact congrArg (fun others => _ :: _ :: others) ih
  | flag _ _ _ ih => exact congrArg _ ih

/-! ## What is given last -/

theorem not_givenLast_nil {value : OptionValue} : ¬GivenLast [] key value := by
  rintro ⟨before, item, after, hitems, -⟩
  exact List.append_ne_nil_of_right_ne_nil before (List.cons_ne_nil item after) hitems.symm

/-- One more item decides for its own key and for no other. -/
theorem givenLast_concat {item : Item} {value : OptionValue} :
    GivenLast (items ++ [item]) key value ↔
      item.option? = some (key, value) ∨
        (∀ other, item.option? ≠ some (key, other)) ∧ GivenLast items key value := by
  constructor
  · rintro ⟨before, given, after, hitems, hgiven, hafter⟩
    rcases List.eq_nil_or_concat after with rfl | ⟨after, last, rfl⟩
    · obtain ⟨-, hlast⟩ := List.append_inj' hitems rfl
      obtain rfl := List.singleton_inj.1 hlast
      exact Or.inl hgiven
    · rw [List.concat_eq_append] at hitems hafter
      rw [← List.cons_append, ← List.append_assoc] at hitems
      obtain ⟨rfl, hlast⟩ := List.append_inj' hitems rfl
      obtain rfl := List.singleton_inj.1 hlast
      rw [List.forall_mem_append, List.forall_mem_singleton] at hafter
      exact Or.inr ⟨hafter.2, before, given, after, rfl, hgiven, hafter.1⟩
  · rintro (hgiven | ⟨hother, before, given, after, rfl, hgiven, hafter⟩)
    · exact ⟨items, item, [], rfl, hgiven, List.forall_mem_nil _⟩
    · refine ⟨before, given, after ++ [item], by simp, hgiven, ?_⟩
      rw [List.forall_mem_append, List.forall_mem_singleton]
      exact ⟨hafter, hother⟩

end Item

namespace Arguments

variable {options : List (Text × OptionValue)} {items : List Item} {key other : Text}
  {value given : OptionValue}

/-! ## Options -/

theorem keys_put (options : List (Text × OptionValue)) (key : Text) (value : OptionValue) :
    (put options key value).map Prod.fst =
      if key ∈ options.map Prod.fst then options.map Prod.fst
      else options.map Prod.fst ++ [key] := by
  induction options with
  | nil => rfl
  | cons first options ih =>
    obtain ⟨k, v⟩ := first
    rw [put]
    by_cases hkey : k = key
    · simp [hkey]
    · rw [if_neg hkey, List.map_cons, ih]
      by_cases hmem : key ∈ options.map Prod.fst <;> simp [hmem, Ne.symm hkey]

theorem nodup_keys_put (h : (options.map Prod.fst).Nodup) (key : Text) (value : OptionValue) :
    ((put options key value).map Prod.fst).Nodup := by
  rw [keys_put]
  split
  · exact h
  · next hnew =>
    exact (List.perm_append_singleton key _).nodup_iff.2 (List.nodup_cons.2 ⟨hnew, h⟩)

theorem mem_put_iff (h : (options.map Prod.fst).Nodup) :
    (other, given) ∈ put options key value ↔
      other = key ∧ given = value ∨ other ≠ key ∧ (other, given) ∈ options := by
  induction options with
  | nil => simp [put]
  | cons first options ih =>
    obtain ⟨k, v⟩ := first
    obtain ⟨hnew, hrest⟩ := List.nodup_cons.1 h
    rw [put]
    by_cases hkey : k = key
    · subst hkey
      have hother : (other, given) ∈ options → other ≠ k := by
        rintro hmem rfl
        exact hnew (List.mem_map.2 ⟨_, hmem, rfl⟩)
      rw [if_pos rfl, List.mem_cons, List.mem_cons, Prod.mk.injEq, Prod.mk.injEq]
      constructor
      · rintro (hput | hmem)
        · exact Or.inl hput
        · exact Or.inr ⟨hother hmem, Or.inr hmem⟩
      · rintro (hput | ⟨hne, ⟨rfl, -⟩ | hmem⟩)
        · exact Or.inl hput
        · contradiction
        · exact Or.inr hmem
    · rw [if_neg hkey, List.mem_cons, List.mem_cons, ih hrest, Prod.mk.injEq]
      constructor
      · rintro (⟨rfl, rfl⟩ | hput | ⟨hother, hmem⟩)
        · exact Or.inr ⟨hkey, Or.inl ⟨rfl, rfl⟩⟩
        · exact Or.inl hput
        · exact Or.inr ⟨hother, Or.inr hmem⟩
      · rintro (hput | ⟨hother, hfirst | hmem⟩)
        · exact Or.inr (Or.inl hput)
        · exact Or.inl hfirst
        · exact Or.inr (Or.inr ⟨hother, hmem⟩)

/-- The options that items come to. -/
def gathered (items : List Item) : List (Text × OptionValue) :=
  (items.filterMap Item.option?).foldl (fun options o => put options o.1 o.2) []

theorem gathered_concat (items : List Item) (item : Item) :
    gathered (items ++ [item]) =
      match item.option? with
      | some (key, value) => put (gathered items) key value
      | none => gathered items := by
  rw [gathered, List.filterMap_append, List.foldl_append]
  cases hoption : item.option? with
  | none => simp [hoption, gathered]
  | some given => simp [hoption, gathered]

theorem nodup_keys_gathered (items : List Item) : ((gathered items).map Prod.fst).Nodup := by
  induction items using List.reverseRecOn with
  | nil => exact List.nodup_nil
  | append_singleton items item ih =>
    rw [gathered_concat]
    split
    · exact nodup_keys_put ih _ _
    · exact ih

/-- The options hold for each key the value that it is given last. -/
theorem mem_gathered_iff : (key, value) ∈ gathered items ↔ Item.GivenLast items key value := by
  induction items using List.reverseRecOn with
  | nil => exact iff_of_false List.not_mem_nil Item.not_givenLast_nil
  | append_singleton items item ih =>
    rw [gathered_concat, Item.givenLast_concat]
    cases hoption : item.option? with
    | none => simp [ih]
    | some given =>
      obtain ⟨k, v⟩ := given
      have hsame : some (k, v) = some (key, value) ↔ key = k ∧ value = v := by
        rw [Option.some.injEq, Prod.mk.injEq, eq_comm (a := k), eq_comm (a := v)]
      have hother : (∀ other, some (k, v) ≠ some (key, other)) ↔ key ≠ k := by
        constructor
        · rintro hnot rfl
          exact hnot v rfl
        · rintro hne other heq
          exact hne (Prod.mk.inj (Option.some.inj heq)).1.symm
      rw [hsame, hother, ← ih]
      exact mem_put_iff (nodup_keys_gathered items)

/--
Splitting the arguments accounts for every token. Tokens read as items in exactly one way, and what
the items are read from makes up the tokens, in their order, each once. The positional arguments are
the positional items in order. The options hold each key once, with the value of the last item that
gives the key one (a flag gives it no text), and no key that no item gives.
-/
theorem arguments_account_for_tokens (tokens : List Text) :
    ∃ items, Item.Reads tokens items ∧ (∀ others, Item.Reads tokens others → others = items) ∧
      items.flatMap Item.written = tokens ∧
      (ofTokens tokens).positional = items.filterMap Item.positional? ∧
      ((ofTokens tokens).options.map Prod.fst).Nodup ∧
      ∀ key value, (key, value) ∈ (ofTokens tokens).options ↔ Item.GivenLast items key value := by
  have hreads := Item.reads_ofTokens tokens
  refine ⟨Item.ofTokens tokens, hreads, ?_, hreads.written_eq, rfl, ?_, ?_⟩
  · intro others hothers
    exact hothers.eq_ofTokens
  · show ((gathered (Item.ofTokens tokens)).map Prod.fst).Nodup
    exact nodup_keys_gathered _
  · intro key value
    show (key, value) ∈ gathered (Item.ofTokens tokens) ↔ _
    exact mem_gathered_iff

/-- Shapes that are near to each other, and a key that is given three times. -/
example : ofTokens (["--", "--=v", "--k=", "-", "--k", "-5", "--k", "x"].map String.toList) =
    ⟨[([], .text ['v']), (['k'], .text ['x'])], [['-', '-'], ['-'], ['-', '5']]⟩ := by
  decide

end Arguments

end CommandShell
