import CommandShell.Proofs.Token.Cut

/-!
# Lines written out of tokens

A text that keeps its blanks inside quotes and closes its quotes is not cut where it stands in a
line. So a line that is such texts with blanks between them is cut back into these texts, and they
are its tokens unless unquoting changes them.
-/

namespace CommandShell.Token

/--
Whether a text has no blank outside quotes and no quote open at its end; `quoted` says whether a
quote is open in front of it.
-/
def closes (quoted : Bool) : Text → Bool
  | [] => !quoted
  | c :: rest => (quoted || !Text.isBlank c) && closes (if c = quote then !quoted else quoted) rest

/-- The text is not empty, and a line that it stands in is not cut inside it. -/
structure Unbroken (t : Text) : Prop where
  ne_nil : t ≠ []
  closes : closes false t = true

/-- The text is a token of any line that it stands in between blanks. -/
structure Written (t : Text) : Prop extends Unbroken t where
  unquote : unquote t = t

/-- The text holds nothing but blanks. -/
def IsGap (t : Text) : Prop := ∀ c ∈ t, Text.isBlank c = true

instance (t : Text) : Decidable (IsGap t) :=
  decidable_of_iff (t.all Text.isBlank = true) List.all_eq_true

/-- The line of some texts, each with what stands in front of it, and of what stands behind them. -/
def spread (parts : List (Text × Text)) (trail : Text) : Text :=
  parts.flatMap (fun p => p.1 ++ p.2) ++ trail

/-- Nothing but blanks stands around the texts, and at least one between two of them. -/
structure Apart (parts : List (Text × Text)) (trail : Text) : Prop where
  gaps : ∀ p ∈ parts, IsGap p.1
  between : ∀ p ∈ parts.tail, p.1 ≠ []
  trail : IsGap trail

variable {t gap trail : Text} {ts : List Text} {quoted : Bool} {c : Char}

theorem spread_cons (p : Text × Text) (parts : List (Text × Text)) (trail : Text) :
    spread (p :: parts) trail = p.1 ++ (p.2 ++ spread parts trail) := by
  simp [spread]

/-! ## Cutting -/

theorem pieces_append {rest first : Text} {others : List Text} (h : closes quoted t = true)
    (hrest : pieces false rest = first :: others) :
    pieces quoted (t ++ rest) = (t ++ first) :: others := by
  induction t generalizing quoted with
  | nil =>
    obtain rfl : quoted = false := by simpa [closes] using h
    exact hrest
  | cons c t ih =>
    rw [closes, Bool.and_eq_true] at h
    have hkept : ¬ (Text.isBlank c && !quoted) = true := by
      cases quoted <;> simp_all
    rw [List.cons_append, pieces, if_neg hkept, ih h.2]
    rfl

theorem cutByQuotes_of_unbroken (h : Unbroken t) : cutByQuotes t = [t] := by
  have hpieces : pieces false (t ++ []) = [t ++ []] := pieces_append h.closes rfl
  rw [List.append_nil] at hpieces
  rw [cutByQuotes, hpieces]
  simp [h.ne_nil]

theorem cutByQuotes_append (h : Unbroken t) (hc : Text.isBlank c = true) (rest : Text) :
    cutByQuotes (t ++ c :: rest) = t :: cutByQuotes rest := by
  have hrest : pieces false (c :: rest) = [] :: pieces false rest := by simp [pieces, hc]
  have hpieces : pieces false (t ++ c :: rest) = (t ++ []) :: pieces false rest :=
    pieces_append h.closes hrest
  rw [List.append_nil] at hpieces
  rw [cutByQuotes, hpieces]
  simp [cutByQuotes, h.ne_nil]

theorem cutByQuotes_gap_append (hgap : IsGap gap) (rest : Text) :
    cutByQuotes (gap ++ rest) = cutByQuotes rest := by
  induction gap with
  | nil => rfl
  | cons c gap ih =>
    obtain ⟨hc, hgap⟩ := List.forall_mem_cons.1 hgap
    rw [← ih hgap, cutByQuotes, List.cons_append, pieces]
    simp [hc, cutByQuotes]

theorem cutByQuotes_append_gap_append (h : Unbroken t) (hgap : IsGap gap) (hne : gap ≠ [])
    (rest : Text) : cutByQuotes (t ++ (gap ++ rest)) = t :: cutByQuotes rest := by
  obtain ⟨c, gap, rfl⟩ := List.exists_cons_of_ne_nil hne
  obtain ⟨hc, hgap⟩ := List.forall_mem_cons.1 hgap
  rw [List.cons_append, cutByQuotes_append h hc, cutByQuotes_gap_append hgap]

/-! ## Stripping -/

theorem Unbroken.head? (h : Unbroken t) (hc : t.head? = some c) : Text.isBlank c = false := by
  obtain ⟨rest, rfl⟩ : ∃ rest, t = c :: rest := List.head?_eq_some_iff.1 hc
  have hcloses := h.closes
  rw [Token.closes, Bool.and_eq_true] at hcloses
  simpa using hcloses.1

theorem getLast?_of_closes (h : closes quoted t = true) (hc : t.getLast? = some c) :
    Text.isBlank c = false := by
  induction t generalizing quoted with
  | nil => contradiction
  | cons d t ih =>
    rw [closes, Bool.and_eq_true] at h
    cases t with
    | cons e t => exact ih h.2 hc
    | nil =>
      obtain rfl : d = c := Option.some.inj hc
      -- a blank at the end would stand inside a quote that is not closed
      by_cases hquote : d = quote
      · rw [hquote]
        decide
      · rw [if_neg hquote, closes] at h
        cases quoted <;> simp_all

theorem Unbroken.exists_getLast? (h : Unbroken t) :
    ∃ c, t.getLast? = some c ∧ Text.isBlank c = false := by
  have hlast := List.getLast?_eq_some_getLast h.ne_nil
  exact ⟨_, hlast, getLast?_of_closes h.closes hlast⟩

theorem dropEnd_append_of_unbroken (front : Text) (h : Unbroken t) (rest : Text) :
    Text.dropEnd (front ++ (t ++ rest)) Text.isBlank =
      front ++ (t ++ rest.dropEnd Text.isBlank) := by
  obtain ⟨c, hlast, hkept⟩ := h.exists_getLast?
  have hfront : (front ++ t).getLast? = some c := by
    rw [List.getLast?_append_of_ne_nil _ h.ne_nil, hlast]
  rw [← List.append_assoc, Text.dropEnd_append hfront hkept, List.append_assoc]

theorem strip_append (h : Unbroken t) (rest : Text) :
    (t ++ rest).strip = t ++ rest.dropEnd Text.isBlank := by
  have hfront : (t ++ rest).dropWhile Text.isBlank = t ++ rest := by
    refine Text.dropWhile_eq_self fun c hc => h.head? ?_
    rwa [List.head?_append_of_ne_nil _ h.ne_nil] at hc
  rw [Text.strip, Text.trim, hfront]
  exact dropEnd_append_of_unbroken [] h rest

theorem strip_gap_append (hgap : IsGap gap) (rest : Text) : (gap ++ rest).strip = rest.strip := by
  rw [Text.strip, Text.trim, List.dropWhile_append_of_pos hgap]
  rfl

theorem dropEnd_of_isGap (hgap : IsGap gap) : gap.dropEnd Text.isBlank = [] :=
  List.rdropWhile_eq_nil_iff.2 hgap

/-! ## Texts with blanks around them -/

/-- What is stripped at the end of a line is no part of the last text in it. -/
theorem cutByQuotes_spread (h : Unbroken t) {parts : List (Text × Text)}
    (hparts : ∀ p ∈ parts, IsGap p.1 ∧ p.1 ≠ [] ∧ Unbroken p.2) (htrail : IsGap trail) :
    cutByQuotes (t ++ (spread parts trail).dropEnd Text.isBlank) = t :: parts.map (·.2) := by
  induction parts generalizing t with
  | nil =>
    change cutByQuotes (t ++ trail.dropEnd Text.isBlank) = [t]
    rw [dropEnd_of_isGap htrail, List.append_nil, cutByQuotes_of_unbroken h]
  | cons p parts ih =>
    obtain ⟨⟨hgap, hne, hp⟩, hparts⟩ := List.forall_mem_cons.1 hparts
    rw [spread_cons, dropEnd_append_of_unbroken p.1 hp,
      cutByQuotes_append_gap_append h hgap hne, ih hp hparts]
    rfl

/-- Texts that are not cut are cut out of any line in which they stand apart. -/
theorem cutByQuotes_strip_spread {parts : List (Text × Text)} (h : Apart parts trail)
    (hparts : ∀ p ∈ parts, Unbroken p.2) :
    cutByQuotes (spread parts trail).strip = parts.map (·.2) := by
  cases parts with
  | nil =>
    change cutByQuotes (trail.strip) = []
    have hblank : trail.strip = [] := by
      rw [← List.append_nil trail, strip_gap_append h.trail]
      rfl
    rw [hblank]
    rfl
  | cons p parts =>
    obtain ⟨hp, hparts⟩ := List.forall_mem_cons.1 hparts
    obtain ⟨hgap, hgaps⟩ := List.forall_mem_cons.1 h.gaps
    rw [spread_cons, strip_gap_append hgap, strip_append hp]
    refine cutByQuotes_spread hp (fun q hq => ?_) h.trail
    exact ⟨hgaps q hq, h.between q hq, hparts q hq⟩

/-! ## Tokens -/

/-- The tokens of a line are the texts that stand apart in it, unquoted. -/
theorem ofLine_spread {parts : List (Text × Text)} (h : Apart parts trail)
    (hparts : ∀ p ∈ parts, Unbroken p.2) :
    ofLine (spread parts trail) = parts.map fun p => Token.unquote p.2 := by
  rw [ofLine, cut_eq_cutByQuotes, cutByQuotes_strip_spread h hparts, List.map_map]
  rfl

theorem join_eq_spread (t : Text) (ts : List Text) :
    Text.join [' '] (t :: ts) = spread (([], t) :: ts.map fun u => ([' '], u)) [] := by
  induction ts generalizing t with
  | nil => simp [spread, Text.join_singleton]
  | cons u ts ih =>
    rw [Text.join_cons_cons, ih]
    simp [spread]

theorem dropEnd_spread {parts : List (Text × Text)} (h : ∀ p ∈ parts, Unbroken p.2) :
    (spread parts []).dropEnd Text.isBlank = spread parts [] := by
  induction parts with
  | nil => rfl
  | cons p parts ih =>
    obtain ⟨hp, hparts⟩ := List.forall_mem_cons.1 h
    rw [spread_cons, dropEnd_append_of_unbroken p.1 hp, ih hparts]

theorem strip_join (h : ∀ t ∈ ts, Unbroken t) :
    (Text.join [' '] ts).strip = Text.join [' '] ts := by
  cases ts with
  | nil => rfl
  | cons t ts =>
    obtain ⟨ht, hts⟩ := List.forall_mem_cons.1 h
    rw [join_eq_spread, spread_cons, List.nil_append, strip_append ht,
      dropEnd_spread (List.forall_mem_map.2 hts)]

theorem ofLine_join_of_unbroken (h : ∀ t ∈ ts, Unbroken t) :
    ofLine (Text.join [' '] ts) = ts.map Token.unquote := by
  cases ts with
  | nil => rfl
  | cons t ts =>
    have hapart : Apart (([], t) :: ts.map fun u => ([' '], u)) [] := by
      refine ⟨?_, ?_, by simp [IsGap]⟩
      · simp [IsGap, show Text.isBlank ' ' = true from by decide]
      · simp
    rw [join_eq_spread, ofLine_spread hapart (by simpa using h)]
    simp

/-- Tokens that are written one after another are read back as they are. -/
theorem ofLine_join (h : ∀ t ∈ ts, Written t) : ofLine (Text.join [' '] ts) = ts := by
  rw [ofLine_join_of_unbroken fun t ht => (h t ht).toUnbroken]
  exact (List.map_congr_left fun t ht => (h t ht).unquote).trans (List.map_id ts)

end CommandShell.Token
