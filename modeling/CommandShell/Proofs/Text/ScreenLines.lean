import CommandShell.Proofs.Text.Parts
import CommandShell.Text.Lines

/-!
# Lines on a screen

Text that holds no line boundary stands on one line. Main statements: a line feed behind a text that
does not end with a line boundary ends its last line and does nothing else, so texts of that kind
with line feeds between them have the lines of each, one text after another; and the lines of a text
are the only ones that make it up with a line end behind each but the last.
-/

namespace CommandShell.Text

/-- The text ends with a character, and this one is no line boundary. -/
def EndsInLine (t : Text) : Prop := ∃ c, t.getLast? = some c ∧ isLineBoundary c = false

variable {t : Text} {c : Char}

theorem EndsInLine.ne_nil (h : EndsInLine t) : t ≠ [] := by
  rintro rfl
  obtain ⟨c, hc, -⟩ := h
  contradiction

theorem EndsInLine.tail (h : EndsInLine (c :: t)) (ht : t ≠ []) : EndsInLine t := by
  obtain ⟨d, hd, hline⟩ := h
  obtain ⟨e, rest, rfl⟩ := List.exists_cons_of_ne_nil ht
  exact ⟨d, hd, hline⟩

theorem EndsInLine.append (h : EndsInLine t) (front : Text) : EndsInLine (front ++ t) := by
  obtain ⟨c, hc, hline⟩ := h
  exact ⟨c, by rw [List.getLast?_append_of_ne_nil _ (EndsInLine.ne_nil ⟨c, hc, hline⟩), hc], hline⟩

/-- Every line boundary is a blank. -/
theorem isLineBoundary_eq_false (h : isBlank c = false) : isLineBoundary c = false := by
  rw [Bool.eq_false_iff]
  intro hc
  rw [isLineBoundary, inRanges, List.any_eq_true] at hc
  obtain ⟨r, hr, hrange⟩ := hc
  rw [isBlank, inRanges, List.any_eq_false] at h
  simp only [List.mem_cons, List.not_mem_nil, or_false] at hr
  rw [Bool.and_eq_true, decide_eq_true_eq, decide_eq_true_eq] at hrange
  rcases hr with rfl | rfl | rfl | rfl
  · exact h (0x09, 0x0d) (by simp) (by simp at hrange ⊢; omega)
  · exact h (0x1c, 0x20) (by simp) (by simp at hrange ⊢; omega)
  · exact h (0x85, 0x85) (by simp) (by simp at hrange ⊢; omega)
  · exact h (0x2028, 0x2029) (by simp) (by simp at hrange ⊢; omega)

theorem isLineBoundary_eq_false_of_all {t : Text} (h : t.all (!isLineBoundary ·) = true) :
    ∀ c ∈ t, isLineBoundary c = false := by
  intro c hc
  have hclear := List.all_eq_true.1 h c hc
  rwa [Bool.not_eq_true'] at hclear

/-! ## Line after line -/

theorem screenLines_ne_nil (h : t ≠ []) : screenLines t ≠ [] := by
  fun_cases screenLines t with
  | case1 => exact absurd rfl h
  | case2 rest => simp
  | case3 c rest => simp
  | case4 c rest => cases screenLines rest <;> simp [consFirst]

/-- A character that is no line boundary goes to the first line. -/
theorem screenLines_cons (hc : isLineBoundary c = false) (rest : Text) :
    screenLines (c :: rest) = consFirst c (screenLines rest) := by
  rw [screenLines, if_neg (by simp [hc])]
  rintro after rfl -
  exact absurd hc (by decide)

theorem screenLines_of_forall (hne : t ≠ []) (h : ∀ c ∈ t, isLineBoundary c = false) :
    screenLines t = [t] := by
  induction t with
  | nil => exact absurd rfl hne
  | cons c t ih =>
    obtain ⟨hc, ht⟩ := List.forall_mem_cons.1 h
    rw [screenLines_cons hc]
    by_cases hnil : t = []
    · rw [hnil]
      rfl
    · rw [ih hnil ht]
      rfl

theorem consFirst_append (c : Char) {lines : List Text} (h : lines ≠ []) (more : List Text) :
    consFirst c (lines ++ more) = consFirst c lines ++ more := by
  obtain ⟨first, others, rfl⟩ := List.exists_cons_of_ne_nil h
  rfl

/-- A line feed behind a text ends its last line. -/
theorem screenLines_append_lineFeed {a : Text} (h : EndsInLine a) (b : Text) :
    screenLines (a ++ '\n' :: b) = screenLines a ++ screenLines b := by
  fun_induction screenLines a with
  | case1 => exact absurd rfl h.ne_nil
  | case2 rest ih =>
    have hrest : EndsInLine rest := by
      obtain ⟨c, hc, hline⟩ := h
      cases rest with
      | nil =>
        obtain rfl : '\n' = c := Option.some.inj hc
        exact absurd hline (by decide)
      | cons d rest => exact ⟨c, hc, hline⟩
    exact congrArg ([] :: ·) (ih hrest)
  | case3 c rest hreturn hboundary ih =>
    have hne : rest ≠ [] := by
      rintro rfl
      obtain ⟨d, hd, hline⟩ := h
      obtain rfl : c = d := Option.some.inj hd
      rw [hboundary] at hline
      contradiction
    obtain ⟨d, rest, rfl⟩ := List.exists_cons_of_ne_nil hne
    have hhead : ∀ after, c = '\r' → d :: (rest ++ '\n' :: b) = '\n' :: after → False := by
      rintro after hc heq
      obtain ⟨rfl, -⟩ := List.cons.inj heq
      exact hreturn rest hc rfl
    rw [List.cons_append, screenLines, if_pos hboundary, ih (h.tail hne)]
    · rfl
    · exact hhead
  | case4 c rest hreturn hboundary ih =>
    rw [List.cons_append, screenLines_cons (by simpa using hboundary)]
    by_cases hnil : rest = []
    · rw [hnil]
      rfl
    · rw [ih (h.tail hnil), consFirst_append c (screenLines_ne_nil hnil)]

/-- Texts with line feeds between them have the lines of each. -/
theorem screenLines_join {ts : List Text} (h : ∀ t ∈ ts, EndsInLine t) :
    screenLines (join ['\n'] ts) = ts.flatMap screenLines := by
  induction ts with
  | nil => rfl
  | cons t ts ih =>
    obtain ⟨ht, hts⟩ := List.forall_mem_cons.1 h
    cases ts with
    | nil => rw [join_singleton, List.flatMap_singleton]
    | cons u ts =>
      rw [join_cons_cons, List.singleton_append, screenLines_append_lineFeed ht, ih hts]
      rfl

/-- What stands in front of a text without a line boundary in between is on its first line. -/
theorem exists_screenLines_append {front : Text} (hne : front ≠ [])
    (h : ∀ c ∈ front, isLineBoundary c = false) (t : Text) :
    ∃ first others, screenLines (front ++ t) = (front ++ first) :: others := by
  induction front with
  | nil => exact absurd rfl hne
  | cons c front ih =>
    obtain ⟨hc, hfront⟩ := List.forall_mem_cons.1 h
    rw [List.cons_append, screenLines_cons hc]
    by_cases hnil : front = []
    · rw [hnil, List.nil_append]
      cases screenLines t with
      | nil => exact ⟨[], [], rfl⟩
      | cons first others => exact ⟨first, others, rfl⟩
    · obtain ⟨first, others, hlines⟩ := ih hnil hfront
      rw [hlines]
      exact ⟨first, others, rfl⟩

/-! ## The lines that make up a text -/

/-- What ends a line on a screen: one character, or a carriage return and a line feed together. -/
def IsLineEnd (ending : Text) : Prop :=
  ending = ['\r', '\n'] ∨ ∃ c, ending = [c] ∧ isLineBoundary c = true

/-- A text stands on lines: a line end follows each of them except perhaps the last one, which is
not empty then. A carriage return ends a line alone only where no line feed follows it. -/
inductive StandsOn : Text → List Text → Prop where
  | nothing : StandsOn [] []
  | last {line : Text} (hne : line ≠ []) (hline : ∀ c ∈ line, isLineBoundary c = false) :
    StandsOn line [line]
  | ended {line ending rest : Text} {lines : List Text}
    (hline : ∀ c ∈ line, isLineBoundary c = false) (hending : IsLineEnd ending)
    (hreturn : ending = ['\r'] → rest.head? ≠ some '\n') (others : StandsOn rest lines) :
    StandsOn (line ++ ending ++ rest) (line :: lines)

variable {line ending rest : Text} {lines : List Text}

theorem StandsOn.cons (h : StandsOn t lines) (hc : isLineBoundary c = false) :
    StandsOn (c :: t) (consFirst c lines) := by
  cases h with
  | nothing => exact .last (List.cons_ne_nil c []) (List.forall_mem_singleton.2 hc)
  | last hne hline => exact .last (List.cons_ne_nil c t) (List.forall_mem_cons.2 ⟨hc, hline⟩)
  | ended hline hending hreturn others =>
    exact .ended (List.forall_mem_cons.2 ⟨hc, hline⟩) hending hreturn others

theorem standsOn_screenLines (t : Text) : StandsOn t (screenLines t) := by
  fun_induction screenLines t with
  | case1 => exact .nothing
  | case2 rest ih =>
    show StandsOn ([] ++ ['\r', '\n'] ++ rest) _
    exact .ended (List.forall_mem_nil _) (Or.inl rfl) (by simp) ih
  | case3 c rest hreturn hboundary ih =>
    show StandsOn ([] ++ [c] ++ rest) _
    refine .ended (List.forall_mem_nil _) (Or.inr ⟨c, rfl, hboundary⟩) (fun hc hhead => ?_) ih
    obtain ⟨after, rfl⟩ := List.head?_eq_some_iff.1 hhead
    exact hreturn after (List.singleton_inj.1 hc) rfl
  | case4 c rest hreturn hboundary ih => exact ih.cons (by simpa using hboundary)

theorem screenLines_append_ending (hline : ∀ c ∈ line, isLineBoundary c = false)
    (hending : IsLineEnd ending) (hreturn : ending = ['\r'] → rest.head? ≠ some '\n') :
    screenLines (line ++ ending ++ rest) = line :: screenLines rest := by
  induction line with
  | nil =>
    rcases hending with rfl | ⟨c, rfl, hboundary⟩
    · rfl
    · show screenLines (c :: rest) = _
      rw [screenLines, if_pos hboundary]
      rintro after rfl rfl
      exact hreturn rfl rfl
  | cons c line ih =>
    obtain ⟨hc, hline⟩ := List.forall_mem_cons.1 hline
    rw [List.cons_append, List.cons_append, screenLines_cons hc, ih hline]
    rfl

/-- A text stands on its lines and on no others. -/
theorem standsOn_iff : StandsOn t lines ↔ screenLines t = lines := by
  constructor
  · intro h
    induction h with
    | nothing => rfl
    | last hne hline => exact screenLines_of_forall hne hline
    | ended hline hending hreturn _ ih => rw [screenLines_append_ending hline hending hreturn, ih]
  · rintro rfl
    exact standsOn_screenLines t

theorem isLineBoundary_of_mem_screenLines (hline : line ∈ screenLines t) :
    ∀ c ∈ line, isLineBoundary c = false := by
  have h := standsOn_screenLines t
  generalize screenLines t = lines at h hline
  induction h with
  | nothing => contradiction
  | last _ hclear =>
    obtain rfl := List.mem_singleton.1 hline
    exact hclear
  | ended hclear _ _ _ ih =>
    rcases List.mem_cons.1 hline with rfl | hline
    · exact hclear
    · exact ih hline

/-- Lines with line feeds between them are read again as they are. -/
theorem screenLines_join_lines
    (h : ∀ line ∈ lines, line ≠ [] ∧ ∀ c ∈ line, isLineBoundary c = false) :
    screenLines (join ['\n'] lines) = lines := by
  have hends : ∀ line ∈ lines, EndsInLine line := by
    intro line hline
    obtain ⟨hne, hclear⟩ := h line hline
    exact ⟨line.getLast hne, List.getLast?_eq_some_getLast hne, hclear _ (List.getLast_mem hne)⟩
  have hone : ∀ line ∈ lines, screenLines line = [line] := fun line hline =>
    screenLines_of_forall (h line hline).1 (h line hline).2
  rw [screenLines_join hends, List.flatMap_congr hone, List.flatMap_singleton']

end CommandShell.Text
