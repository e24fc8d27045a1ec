import CommandShell.Proofs.Text.Parts
import CommandShell.Token

/-!
# Where the tokens of a line come from

Cutting takes runs of neighbouring characters out of a line, and both ways of cutting agree on a
line without quotes. Unquoting takes an inner part of such a run unless the token writes an option;
so a token that does not begin with a dash can be read off the line as it stands.
-/

namespace CommandShell.Token

theorem pieces_isInfix (quoted : Bool) (t : Text) :
    ∃ first others, pieces quoted t = first :: others ∧ first <+: t ∧
      ∀ piece ∈ others, piece <:+: t := by
  induction t generalizing quoted with
  | nil => exact ⟨[], [], rfl, List.prefix_rfl, by simp⟩
  | cons c t ih =>
    rw [pieces]
    split
    · obtain ⟨first, others, hpieces, hfirst, hothers⟩ := ih quoted
      refine ⟨[], pieces quoted t, rfl, List.nil_prefix, ?_⟩
      intro piece hpiece
      rw [hpieces, List.mem_cons] at hpiece
      refine List.infix_cons ?_
      rcases hpiece with rfl | hpiece
      · exact hfirst.isInfix
      · exact hothers piece hpiece
    · obtain ⟨first, others, hpieces, hfirst, hothers⟩ := ih (if c = quote then !quoted else quoted)
      rw [hpieces]
      refine ⟨c :: first, others, rfl, List.cons_prefix_cons.2 ⟨rfl, hfirst⟩, ?_⟩
      exact fun piece hpiece => List.infix_cons (hothers piece hpiece)

theorem infix_of_mem_cutByQuotes {t token : Text} (h : token ∈ cutByQuotes t) : token <:+: t := by
  obtain ⟨first, others, hpieces, hfirst, hothers⟩ := pieces_isInfix false t
  have hmem := (List.mem_filter.1 h).1
  rw [hpieces, List.mem_cons] at hmem
  rcases hmem with rfl | hmem
  · exact hfirst.isInfix
  · exact hothers token hmem

/-! ## Lines without quotes -/

theorem pieces_eq_splitOnP {t : Text} (h : quote ∉ t) :
    pieces false t = t.splitOnP Text.isBlank := by
  induction t with
  | nil => rfl
  | cons c t ih =>
    rw [List.mem_cons, not_or] at h
    rw [pieces, List.splitOnP_cons_eq_if_modifyHead, ih h.2, if_neg (Ne.symm h.1), ih h.2]
    by_cases hc : Text.isBlank c = true
    · simp [hc]
    · have hne := List.splitOnP_ne_nil Text.isBlank t
      obtain ⟨first, others, hsplit⟩ := List.exists_cons_of_ne_nil hne
      simp [hc, hsplit]

theorem cutByQuotes_eq_words {t : Text} (h : quote ∉ t) : cutByQuotes t = t.words := by
  rw [cutByQuotes, pieces_eq_splitOnP h, Text.words]

/-- The two ways of cutting a line never disagree. -/
theorem cut_eq_cutByQuotes (t : Text) : cut t = cutByQuotes t := by
  rw [cut]
  split
  · next h =>
    rw [cutByQuotes_eq_words]
    simpa using (Bool.and_eq_true_iff.1 h).2
  · rfl

/-! ## Unquoting -/

/-- The parts of a quoted option make up the token. -/
theorem eq_append_of_quotedOption? {t name value : Text}
    (h : quotedOption? t = some (name, value)) :
    t = name ++ '=' :: value ∧ '=' ∉ name ∧ name.head? = some '-' ∧ 2 ≤ name.length ∧
      isWrapped value = true ∧ 3 ≤ value.length := by
  rw [quotedOption?] at h
  split at h
  · next hoption =>
    obtain ⟨hdash, hlength, hwrapped, hlong, -⟩ := hoption
    rw [Option.some.injEq, Prod.mk.injEq] at h
    obtain ⟨rfl, rfl⟩ := h
    refine ⟨?_, fun hmem => ?_, hdash, hlength, hwrapped, hlong⟩
    · have hbehind := List.head?_dropWhile_not (· != '=') t
      cases hdrop : t.dropWhile (· != '=') with
      | nil =>
        rw [hdrop] at hlong
        contradiction
      | cons c value =>
        rw [hdrop] at hbehind
        obtain rfl : c = '=' := by simpa using hbehind
        rw [List.drop_one, List.tail_cons, ← hdrop, List.takeWhile_append_dropWhile]
    · exact absurd (List.mem_takeWhile_imp hmem) (by decide)
  · contradiction

theorem unquote_isInfix {t : Text} (h : (unquote t).head? ≠ some '-') : unquote t <:+: t := by
  rw [unquote] at h ⊢
  split
  · next name value hoption =>
    rw [hoption] at h
    obtain ⟨-, -, hdash, -⟩ := eq_append_of_quotedOption? hoption
    refine absurd ?_ h
    rw [List.head?_append, hdash]
    rfl
  · split
    · exact Text.trim_isInfix t _
    · exact List.infix_rfl

theorem infix_of_mem_ofLine {line token : Text} (h : token ∈ ofLine line)
    (hdash : token.head? ≠ some '-') : token <:+: line := by
  obtain ⟨raw, hraw, rfl⟩ := List.mem_map.1 h
  rw [cut_eq_cutByQuotes] at hraw
  have hstrip : raw <:+: line.strip := infix_of_mem_cutByQuotes hraw
  exact (unquote_isInfix hdash).trans (hstrip.trans (Text.strip_isInfix line))

theorem ofLine_strip (line : Text) : ofLine line.strip = ofLine line := by
  rw [ofLine, ofLine, Text.strip_strip]

/-! ## Lines that are not blank -/

/-- The first piece of a text that begins with no blank is a token. -/
theorem cutByQuotes_ne_nil {t : Text} {c : Char} (h : t.head? = some c)
    (hc : Text.isBlank c = false) : cutByQuotes t ≠ [] := by
  obtain ⟨rest, rfl⟩ : ∃ rest, t = c :: rest := List.head?_eq_some_iff.1 h
  obtain ⟨first, others, hpieces, -, -⟩ := pieces_isInfix (if c = quote then !false else false) rest
  have hfirst : c :: first ∈ cutByQuotes (c :: rest) := by
    rw [cutByQuotes, pieces, if_neg (by simp [hc]), hpieces]
    exact List.mem_filter.2 ⟨List.mem_cons_self, rfl⟩
  exact List.ne_nil_of_mem hfirst

theorem ofLine_ne_nil {line : Text} (h : line.strip ≠ []) : ofLine line ≠ [] := by
  obtain ⟨c, rest, hline⟩ := List.exists_cons_of_ne_nil h
  have hhead : line.strip.head? = some c := by rw [hline]; rfl
  rw [ofLine, cut_eq_cutByQuotes, ne_eq, List.map_eq_nil_iff]
  exact cutByQuotes_ne_nil hhead (Text.head?_strip hhead)

end CommandShell.Token
