import CommandShell.Proofs.Token.Quoting

/-!
# The runs of a line

A character is kept in a token if it is no blank or if an odd number of quotes stands in front of
it. Main statement: before they are unquoted, the tokens of a line are the maximal runs of kept
characters of the stripped line, in their order; on a line without quotes the tokens are its words.
-/

namespace CommandShell.Token

/-- Whether a quote is open behind the text. -/
def opensQuote (t : Text) : Bool := t.count quote % 2 == 1

/-- The text has a character at `i`, which is no blank or stands inside quotes. -/
def Kept (t : Text) (i : Nat) : Prop :=
  ∃ c, t[i]? = some c ∧ (Text.isBlank c = false ∨ opensQuote (t.take i) = true)

/-- The characters from `start` up to `stop` are kept, and their neighbours are not. -/
structure IsRun (t : Text) (start stop : Nat) : Prop where
  lt : start < stop
  kept : ∀ i, start ≤ i → i < stop → Kept t i
  left : start = 0 ∨ ¬ Kept t (start - 1)
  right : ¬ Kept t stop

/-- The characters of `t` at the places from `run.1` up to `run.2`. -/
def slice (t : Text) (run : Nat × Nat) : Text := (t.take run.2).drop run.1

/-- Where pieces stand in a text, one place apart, of which the first begins at `start`. -/
def spans (start : Nat) : List Text → List (Nat × Nat)
  | [] => []
  | piece :: others =>
    (start, start + piece.length) :: spans (start + piece.length + 1) others

/--
A possibly empty stretch of kept characters that cannot be made longer, among the places that do not
come before `first`.
-/
structure IsStretch (t : Text) (first start stop : Nat) : Prop where
  first_le : first ≤ start
  le : start ≤ stop
  le_length : stop ≤ t.length
  kept : ∀ i, start ≤ i → i < stop → Kept t i
  left : start = first ∨ ¬ Kept t (start - 1)
  right : ¬ Kept t stop

variable {t front rest : Text} {c : Char} {i start stop : Nat} {run : Nat × Nat}

/-! ## Kept characters -/

theorem opensQuote_concat (front : Text) (c : Char) :
    opensQuote (front ++ [c]) = if c = quote then !opensQuote front else opensQuote front := by
  rw [opensQuote, opensQuote, List.count_append]
  split
  · next h =>
    rw [h, List.count_singleton_self]
    rcases Nat.mod_two_eq_zero_or_one (front.count quote) with hmod | hmod <;>
      simp [Nat.add_mod, hmod]
  · next h => rw [List.count_singleton, beq_false_of_ne h]; rfl

theorem Kept.lt_length (h : Kept t i) : i < t.length := by
  obtain ⟨c, hc, -⟩ := h
  exact (List.getElem?_eq_some_iff.1 hc).1

/-- The test by which a text is cut is whether its first character is kept. -/
theorem kept_length_iff :
    Kept (front ++ c :: rest) front.length ↔
      ¬ (Text.isBlank c && !opensQuote front) = true := by
  have hc : (front ++ c :: rest)[front.length]? = some c := by simp
  have hfront : (front ++ c :: rest).take front.length = front := List.take_left
  simp only [Kept, hc, hfront, Option.some.injEq, exists_eq_left']
  cases Text.isBlank c <;> cases opensQuote front <;> simp

/-! ## Where the pieces of a text stand -/

theorem spans_ordered (start : Nat) (pieces : List Text) :
    (∀ run ∈ spans start pieces, start ≤ run.1) ∧
      (spans start pieces).Pairwise fun a b => a.2 < b.1 := by
  induction pieces generalizing start with
  | nil => exact ⟨by simp [spans], List.Pairwise.nil⟩
  | cons piece others ih =>
    obtain ⟨hlater, hpairwise⟩ := ih (start + piece.length + 1)
    refine ⟨?_, List.pairwise_cons.2 ⟨?_, hpairwise⟩⟩
    · rw [spans, List.forall_mem_cons]
      exact ⟨Nat.le_refl start, fun run hrun => by have := hlater run hrun; omega⟩
    · exact fun run hrun => hlater run hrun

theorem pieces_of_not_kept (h : ¬ Kept (front ++ c :: rest) front.length) :
    pieces (opensQuote front) (c :: rest) =
      [] :: pieces (opensQuote (front ++ [c])) rest := by
  rw [kept_length_iff, not_not] at h
  have hquote : c ≠ quote := by
    rintro rfl
    exact absurd (Bool.and_eq_true_iff.1 h).1 (by decide)
  rw [pieces, if_pos h, opensQuote_concat, if_neg hquote]

/-- A kept character stands in front of the first piece of the rest. -/
theorem exists_pieces_of_kept (h : Kept (front ++ c :: rest) front.length) :
    ∃ first others, pieces (opensQuote (front ++ [c])) rest = first :: others ∧
      pieces (opensQuote front) (c :: rest) = (c :: first) :: others := by
  obtain ⟨first, others, hpieces, -, -⟩ := pieces_isInfix (opensQuote (front ++ [c])) rest
  refine ⟨first, others, hpieces, ?_⟩
  rw [pieces, if_neg (kept_length_iff.1 h), ← opensQuote_concat, hpieces]

theorem spans_cons_cons (start : Nat) (c : Char) (first : Text) (others : List Text) :
    spans start ((c :: first) :: others) =
      (start, start + 1 + first.length) :: spans (start + 1 + first.length + 1) others := by
  have hstop : start + (c :: first).length = start + 1 + first.length := by
    rw [List.length_cons]
    omega
  rw [spans, hstop]

/-- Where the pieces of the end `rest` of a text stand in the text. -/
def places (front rest : Text) : List (Nat × Nat) :=
  spans front.length (pieces (opensQuote front) rest)

theorem places_of_not_kept (h : ¬ Kept (front ++ c :: rest) front.length) :
    places front (c :: rest) = (front.length, front.length) :: places (front ++ [c]) rest := by
  rw [places, places, pieces_of_not_kept h, List.length_append]
  rfl

/-- The first place begins one character earlier, and the others stay. -/
theorem exists_places_of_kept (h : Kept (front ++ c :: rest) front.length) :
    ∃ stop others, places (front ++ [c]) rest = (front.length + 1, stop) :: others ∧
      places front (c :: rest) = (front.length, stop) :: others ∧
      front.length < stop ∧ ∀ run ∈ others, stop < run.1 := by
  obtain ⟨first, others, hrest, hpieces⟩ := exists_pieces_of_kept h
  refine ⟨_, _, ?_, ?_, ?_, (spans_ordered (front.length + 1 + first.length + 1) others).1⟩
  · rw [places, hrest, List.length_append]
    rfl
  · rw [places, hpieces, spans_cons_cons]
  · omega

/-! ## The stretches of a text -/

theorem isStretch_iff_of_not_kept {first : Nat} (hfirst : first < t.length) (h : ¬ Kept t first) :
    IsStretch t first start stop ↔
      start = first ∧ stop = first ∨ IsStretch t (first + 1) start stop := by
  constructor
  · intro hs
    have hle := hs.first_le
    have hstop := hs.le
    rcases Nat.eq_or_lt_of_le hle with rfl | hlt
    · by_cases hempty : stop = first
      · exact Or.inl ⟨rfl, hempty⟩
      · exact absurd (hs.kept first (Nat.le_refl _) (by omega)) h
    · exact Or.inr ⟨hlt, hstop, hs.le_length, hs.kept, Or.inr (hs.left.resolve_left (by omega)),
        hs.right⟩
  · rintro (⟨rfl, rfl⟩ | hs)
    · exact ⟨Nat.le_refl _, Nat.le_refl _, hfirst.le, fun i hi hlt => by omega, Or.inl rfl, h⟩
    · have hle := hs.first_le
      refine ⟨by omega, hs.le, hs.le_length, hs.kept, Or.inr ?_, hs.right⟩
      rcases hs.left with rfl | hleft
      · exact h
      · exact hleft

theorem isStretch_first_iff_of_kept {first : Nat} (h : Kept t first) :
    IsStretch t first first stop ↔ IsStretch t (first + 1) (first + 1) stop := by
  constructor
  · intro hs
    have hle := hs.le
    have hne : first ≠ stop := by
      rintro rfl
      exact hs.right h
    exact ⟨Nat.le_refl _, by omega, hs.le_length, fun i hi => hs.kept i (by omega), Or.inl rfl,
      hs.right⟩
  · intro hs
    have hle := hs.le
    refine ⟨Nat.le_refl _, by omega, hs.le_length, fun i hi hlt => ?_, Or.inl rfl, hs.right⟩
    rcases Nat.eq_or_lt_of_le hi with rfl | hi
    · exact h
    · exact hs.kept i hi hlt

/-- Behind a kept character no other stretch begins. -/
theorem isStretch_later_iff_of_kept {first : Nat} (h : Kept t first) (hlater : first < start) :
    IsStretch t first start stop ↔ start ≠ first + 1 ∧ IsStretch t (first + 1) start stop := by
  constructor
  · intro hs
    have hleft := hs.left.resolve_left (by omega)
    refine ⟨?_, hlater, hs.le, hs.le_length, hs.kept, Or.inr hleft, hs.right⟩
    rintro rfl
    exact hleft h
  · rintro ⟨hne, hs⟩
    exact ⟨hlater.le, hs.le, hs.le_length, hs.kept, Or.inr (hs.left.resolve_left hne), hs.right⟩

/-- The first stretch begins one character earlier, and the others stay. -/
theorem mem_stretches_iff_of_kept {first last : Nat} {others : List (Nat × Nat)}
    (h : Kept t first) (hlast : first < last) (hothers : ∀ run ∈ others, last < run.1)
    (hnext : ∀ start stop,
      (start, stop) ∈ (first + 1, last) :: others ↔ IsStretch t (first + 1) start stop) :
    (start, stop) ∈ (first, last) :: others ↔ IsStretch t first start stop := by
  have hbehind : ∀ start ≤ first + 1, ∀ stop, (start, stop) ∉ others :=
    fun start hstart stop hmem => by have := hothers _ hmem; omega
  simp only [List.mem_cons, Prod.mk.injEq] at hnext
  rw [List.mem_cons, Prod.mk.injEq]
  rcases Nat.lt_trichotomy start first with hearlier | rfl | hlater
  · refine iff_of_false (not_or.2 ⟨by omega, hbehind start (by omega) stop⟩) fun hs => ?_
    have := hs.first_le
    omega
  · rw [isStretch_first_iff_of_kept h, ← hnext]
    simp [hbehind]
  · rw [isStretch_later_iff_of_kept h hlater, ← hnext]
    constructor
    · rintro (⟨he, -⟩ | hmem)
      · omega
      · exact ⟨fun he => hbehind start he.le stop hmem, Or.inr hmem⟩
    · rintro ⟨hne, ⟨he, -⟩ | hmem⟩
      · exact absurd he hne
      · exact Or.inr hmem

/-- The pieces of the end of a text are its stretches from there on. -/
theorem mem_places_iff (front rest : Text) (start stop : Nat) :
    (start, stop) ∈ places front rest ↔ IsStretch (front ++ rest) front.length start stop := by
  induction rest generalizing front start stop with
  | nil =>
    rw [List.append_nil, places, pieces, spans, spans, List.mem_singleton, Prod.mk.injEq]
    constructor
    · rintro ⟨rfl, rfl⟩
      exact ⟨Nat.le_refl _, Nat.le_refl _, Nat.le_refl _,
        fun i hi hlt => absurd hi (by simpa using hlt), Or.inl rfl,
        fun h => Nat.lt_irrefl _ h.lt_length⟩
    · intro h
      have hfirst := h.first_le
      have hle := h.le
      have hlength := h.le_length
      exact ⟨by omega, by simp; omega⟩
  | cons c rest ih =>
    have hnext := ih (front ++ [c])
    rw [List.append_assoc, List.singleton_append, List.length_append,
      List.length_singleton] at hnext
    by_cases h : Kept (front ++ c :: rest) front.length
    · obtain ⟨last, others, hrest, hplaces, hlast, hlater⟩ := exists_places_of_kept h
      rw [hrest] at hnext
      rw [hplaces]
      exact mem_stretches_iff_of_kept h hlast hlater hnext
    · have hlength : front.length < (front ++ c :: rest).length := by simp
      rw [places_of_not_kept h, List.mem_cons, Prod.mk.injEq, hnext,
        isStretch_iff_of_not_kept hlength h]

/-- Every kept character stands in a stretch. -/
theorem exists_mem_places (front rest : Text) (hi : front.length ≤ i)
    (h : Kept (front ++ rest) i) : ∃ run ∈ places front rest, run.1 ≤ i ∧ i < run.2 := by
  induction rest generalizing front with
  | nil =>
    have hlt := h.lt_length
    rw [List.append_nil] at hlt
    omega
  | cons c rest ih =>
    have hnext := ih (front ++ [c])
    rw [List.append_assoc, List.singleton_append, List.length_append,
      List.length_singleton] at hnext
    by_cases hkept : Kept (front ++ c :: rest) front.length
    · obtain ⟨last, others, hrest, hplaces, hlast, -⟩ := exists_places_of_kept hkept
      rw [hplaces]
      rcases Nat.eq_or_lt_of_le hi with rfl | hi
      · exact ⟨_, List.mem_cons_self, Nat.le_refl _, hlast⟩
      · rw [hrest] at hnext
        obtain ⟨run, hrun, hin⟩ := hnext hi h
        rcases List.mem_cons.1 hrun with rfl | hrun
        · exact ⟨_, List.mem_cons_self, by omega, hin.2⟩
        · exact ⟨run, List.mem_cons_of_mem _ hrun, hin⟩
    · rw [places_of_not_kept hkept]
      have hne : i ≠ front.length := fun he => hkept (he ▸ h)
      obtain ⟨run, hrun, hin⟩ := hnext (by omega) h
      exact ⟨run, List.mem_cons_of_mem _ hrun, hin⟩

theorem slice_cons (rest : Text) (c : Char) (h : front.length < stop) :
    slice (front ++ c :: rest) (front.length, stop) =
      c :: slice (front ++ c :: rest) (front.length + 1, stop) := by
  obtain ⟨count, rfl⟩ := Nat.exists_eq_add_of_lt h
  have htake : (front ++ c :: rest).take (front.length + count + 1) =
      front ++ c :: rest.take count := by
    rw [Nat.add_assoc, List.take_length_add_append, List.take_succ_cons]
  rw [slice, slice, htake, List.drop_left, List.drop_length_add_append]
  rfl

/-- The pieces are what stands in the text in their places. -/
theorem map_slice_places (front rest : Text) :
    (places front rest).map (slice (front ++ rest)) = pieces (opensQuote front) rest := by
  induction rest generalizing front with
  | nil => simp [places, pieces, spans, slice]
  | cons c rest ih =>
    have hnext := ih (front ++ [c])
    rw [List.append_assoc, List.singleton_append] at hnext
    by_cases h : Kept (front ++ c :: rest) front.length
    · obtain ⟨first, others, hrest, hpieces⟩ := exists_pieces_of_kept h
      obtain ⟨stop, behind, hlater, hplaces, hstop, -⟩ := exists_places_of_kept h
      rw [hlater, hrest, List.map_cons] at hnext
      obtain ⟨hfirst, hbehind⟩ := List.cons_eq_cons.1 hnext
      rw [hplaces, hpieces, List.map_cons, hbehind, slice_cons rest c hstop, hfirst]
    · rw [places_of_not_kept h, pieces_of_not_kept h, List.map_cons, hnext]
      simp [slice]

/-! ## The tokens of a line -/

theorem isRun_iff (t : Text) (start stop : Nat) :
    IsRun t start stop ↔ start < stop ∧ IsStretch t 0 start stop := by
  constructor
  · intro h
    have hlast := (h.kept (stop - 1) (by have := h.lt; omega) (by have := h.lt; omega)).lt_length
    exact ⟨h.lt, Nat.zero_le _, h.lt.le, by omega, h.kept, h.left, h.right⟩
  · rintro ⟨hlt, h⟩
    exact ⟨hlt, h.kept, h.left, h.right⟩

/-- Where the pieces of a text stand that are not empty. -/
def runs (t : Text) : List (Nat × Nat) :=
  (places [] t).filter fun run => run.1 < run.2

theorem mem_runs_iff (t : Text) (run : Nat × Nat) : run ∈ runs t ↔ IsRun t run.1 run.2 := by
  rw [runs, List.mem_filter, isRun_iff, and_comm, decide_eq_true_eq]
  exact and_congr_right fun _ => mem_places_iff [] t run.1 run.2

theorem runs_ordered (t : Text) : (runs t).Pairwise fun a b => a.2 < b.1 :=
  (spans_ordered 0 _).2.sublist List.filter_sublist

theorem kept_iff_exists_run (t : Text) (i : Nat) :
    Kept t i ↔ ∃ run ∈ runs t, run.1 ≤ i ∧ i < run.2 := by
  constructor
  · intro h
    obtain ⟨run, hrun, hin⟩ := exists_mem_places [] t (Nat.zero_le i) h
    exact ⟨run, List.mem_filter.2 ⟨hrun, by simp; omega⟩, hin⟩
  · rintro ⟨run, hrun, hle, hlt⟩
    exact ((mem_runs_iff t run).1 hrun).kept i hle hlt

theorem cutByQuotes_eq_map_runs (t : Text) : cutByQuotes t = (runs t).map (slice t) := by
  have hslice : (places [] t).map (slice t) = pieces false t := map_slice_places [] t
  have hempty : ∀ run ∈ places [] t, (!(slice t run).isEmpty) = decide (run.1 < run.2) := by
    intro run hrun
    have hlength := ((mem_places_iff [] t run.1 run.2).1 hrun).le_length
    rw [List.nil_append] at hlength
    rw [Bool.eq_iff_iff, decide_eq_true_eq, Bool.not_eq_true', List.isEmpty_eq_false_iff,
      ← List.length_pos_iff, slice, List.length_drop, List.length_take_of_le hlength]
    omega
  rw [cutByQuotes, ← hslice, List.filter_map, runs]
  exact congrArg _ (List.filter_congr hempty)

/-- On a line without quotes the tokens are the words. -/
theorem ofLine_eq_words {line : Text} (h : quote ∉ line) : ofLine line = line.words := by
  have hstrip : quote ∉ line.strip := fun hmem => h ((Text.strip_isInfix line).mem hmem)
  have hword : ∀ token ∈ cutByQuotes line.strip, unquote token = token := fun token htoken =>
    unquote_of_not_mem fun hmem => hstrip ((infix_of_mem_cutByQuotes htoken).mem hmem)
  rw [ofLine, cut_eq_cutByQuotes, List.map_congr_left hword, List.map_id',
    cutByQuotes_eq_words hstrip, Text.words_strip]

/--
A line is cut exactly at the blanks that stand outside quotes: the tokens before unquoting are the
maximal runs of kept characters of the stripped line, one after another, so that each kept character
is in one of them and no other character is in any. A dotted text without quotes is cut the same way
at its blanks alone, and the tokens of a line without quotes are its words.
-/
theorem cut_at_blanks_outside_quotes (line : Text) :
    (∃ runs : List (Nat × Nat),
      (∀ run, run ∈ runs ↔ IsRun line.strip run.1 run.2) ∧
      runs.Pairwise (fun a b => a.2 < b.1) ∧
      (∀ i, Kept line.strip i ↔ ∃ run ∈ runs, run.1 ≤ i ∧ i < run.2) ∧
      cut line.strip = runs.map (slice line.strip)) ∧
    ('.' ∈ line → quote ∉ line → cut line = line.words ∧ line.words = cutByQuotes line) ∧
    (quote ∉ line → ofLine line = line.words) := by
  refine ⟨⟨runs line.strip, mem_runs_iff _, runs_ordered _, kept_iff_exists_run _, ?_⟩, ?_,
    ofLine_eq_words⟩
  · rw [cut_eq_cutByQuotes, cutByQuotes_eq_map_runs]
  · intro _ hquote
    rw [cut_eq_cutByQuotes, cutByQuotes_eq_words hquote]
    exact ⟨rfl, rfl⟩

/-- Dotted words between blanks of several kinds. -/
theorem cut_at_blanks_outside_quotes_dotted :
    let line := "\ta.b\u2003 c\n".toList
    ('.' ∈ line ∧ quote ∉ line) ∧
      (cut line = Text.words line ∧ Text.words line = cutByQuotes line) ∧
      ofLine line = ["a.b".toList, "c".toList] := by
  intro line
  have hdot : '.' ∈ line := by decide
  have hquote : quote ∉ line := by decide
  obtain ⟨-, hdotted, hwords⟩ := cut_at_blanks_outside_quotes line
  exact ⟨⟨hdot, hquote⟩, hdotted hdot hquote, (hwords hquote).trans (by decide)⟩

end CommandShell.Token
