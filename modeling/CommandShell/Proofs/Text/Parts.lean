import Mathlib.Data.List.DropRight
import CommandShell.Text.Blank
import CommandShell.Text.Word

/-!
# Parts of a text

A text includes its runs of neighbouring characters. Stripping yields such a run, one that neither
begins nor ends with a blank, and it leaves exactly such texts alone; the words of a text stay the
same. No character is both a blank and a word character, so a word is stripped; nor is a digit
blank.
-/

namespace CommandShell.Text

/-- Two lists of ranges of which no two meet hold no character in common. -/
theorem inRanges_disjoint {rs ss : List (Nat × Nat)}
    (h : (rs.all fun r => ss.all fun s => r.2 < s.1 || s.2 < r.1) = true) {c : Char}
    (hr : inRanges rs c = true) : inRanges ss c = false := by
  rw [Bool.eq_false_iff]
  intro hs
  obtain ⟨r, hrm, hrc⟩ := List.any_eq_true.1 hr
  obtain ⟨s, hsm, hsc⟩ := List.any_eq_true.1 hs
  have hrs := List.all_eq_true.1 (List.all_eq_true.1 h r hrm) s hsm
  simp only [Bool.and_eq_true, decide_eq_true_eq, Bool.or_eq_true] at hrc hsc hrs
  omega

theorem isBlank_eq_false_of_isWordChar {c : Char} (h : isWordChar c = true) :
    isBlank c = false := by
  rw [isWordChar, Bool.or_eq_true] at h
  rcases h with h | h
  · rw [eq_of_beq h]
    decide
  · exact inRanges_disjoint (by decide +kernel) h

theorem isWordChar_eq_false_of_isBlank {c : Char} (h : isBlank c = true) :
    isWordChar c = false := by
  rw [Bool.eq_false_iff]
  intro hw
  rw [isBlank_eq_false_of_isWordChar hw] at h
  exact Bool.false_ne_true h

theorem toNat_of_isDigit {c : Char} (h : c.isDigit = true) : 48 ≤ c.toNat ∧ c.toNat ≤ 57 := by
  rw [Char.isDigit, Bool.and_eq_true, decide_eq_true_eq, decide_eq_true_eq, ge_iff_le,
    UInt32.le_iff_toNat_le, UInt32.le_iff_toNat_le] at h
  exact h

theorem isBlank_eq_false_of_isDigit {c : Char} (h : c.isDigit = true) :
    isBlank c = false := by
  have hranges : inRanges [(48, 57)] c = true := by
    simp only [inRanges, List.any_cons, List.any_nil, Bool.or_false, Bool.and_eq_true,
      decide_eq_true_eq]
    exact toNat_of_isDigit h
  exact inRanges_disjoint (by decide +kernel) hranges

theorem lineFeed_not_mem_of_word {t : Text} (h : ∀ c ∈ t, isWordChar c = true) : '\n' ∉ t :=
  fun hm => absurd (h _ hm) (by decide +kernel)

theorem includes_iff {t part : Text} : t.includes part = true ↔ part <:+: t := by
  induction t with
  | nil => simp [includes]
  | cons c t ih =>
    rw [includes, Bool.or_eq_true, ih, List.isPrefixOf_iff_prefix, List.infix_cons_iff]

theorem join_singleton (separator part : Text) : join separator [part] = part :=
  List.intercalate_singleton

theorem join_cons_cons (separator part next : Text) (parts : List Text) :
    join separator (part :: next :: parts) =
      part ++ (separator ++ join separator (next :: parts)) :=
  List.intercalate_cons_cons.trans (List.append_assoc _ _ _)

theorem exists_join_cons (separator part : Text) (parts : List Text) :
    ∃ rest, join separator (part :: parts) = part ++ rest := by
  cases parts with
  | nil => exact ⟨[], by rw [join_singleton, List.append_nil]⟩
  | cons next parts => exact ⟨_, join_cons_cons separator part next parts⟩

theorem mem_join {c : Char} {separator : Text} {parts : List Text}
    (h : c ∈ join separator parts) : c ∈ separator ∨ ∃ part ∈ parts, c ∈ part := by
  induction parts with
  | nil => contradiction
  | cons part parts ih =>
    cases parts with
    | nil =>
      rw [join_singleton] at h
      exact Or.inr ⟨part, List.mem_cons_self, h⟩
    | cons next parts =>
      rw [join_cons_cons, List.mem_append, List.mem_append] at h
      rcases h with h | h | h
      · exact Or.inr ⟨part, List.mem_cons_self, h⟩
      · exact Or.inl h
      · exact (ih h).imp_right fun ⟨other, hother, hc⟩ => ⟨other, List.mem_cons_of_mem _ hother, hc⟩

theorem mem_join_of_mem {c : Char} {part : Text} {parts : List Text} (separator : Text)
    (hpart : part ∈ parts) (hc : c ∈ part) : c ∈ join separator parts := by
  induction parts with
  | nil => contradiction
  | cons first parts ih =>
    cases parts with
    | nil =>
      obtain rfl := List.mem_singleton.1 hpart
      rwa [join_singleton]
    | cons next parts =>
      rw [join_cons_cons, List.mem_append, List.mem_append]
      rcases List.mem_cons.1 hpart with rfl | hpart
      · exact Or.inl hc
      · exact Or.inr (Or.inr (ih hpart))

/-! ## Both ends of a text -/

theorem dropEnd_isPrefix (t : Text) (drop : Char → Bool) : t.dropEnd drop <+: t :=
  List.rdropWhile_prefix drop t

theorem getLast?_dropEnd {t : Text} {drop : Char → Bool} {c : Char}
    (h : (t.dropEnd drop).getLast? = some c) : drop c = false := by
  rw [dropEnd, List.getLast?_reverse] at h
  have hc := List.head?_dropWhile_not drop t.reverse
  rw [h] at hc
  simpa using hc

theorem dropEnd_eq_self {t : Text} {drop : Char → Bool}
    (h : ∀ c, t.getLast? = some c → drop c = false) : t.dropEnd drop = t := by
  refine List.rdropWhile_eq_self_iff.2 fun hl => ?_
  simp [h _ (List.getLast?_eq_some_getLast hl)]

theorem dropWhile_eq_self {t : Text} {drop : Char → Bool}
    (h : ∀ c, t.head? = some c → drop c = false) : t.dropWhile drop = t := by
  cases t with
  | nil => rfl
  | cons c t => exact List.dropWhile_cons_of_neg (by simp [h c rfl])

/-- What is dropped at the end of a text goes no further than a character that is kept. -/
theorem dropEnd_append {t : Text} {drop : Char → Bool} {c : Char} (hc : t.getLast? = some c)
    (hkept : drop c = false) (rest : Text) :
    (t ++ rest).dropEnd drop = t ++ rest.dropEnd drop := by
  rw [dropEnd, List.reverse_append, List.dropWhile_append]
  split
  · next hempty =>
    have hrest : rest.dropEnd drop = [] := by
      rw [dropEnd, List.isEmpty_iff.1 hempty, List.reverse_nil]
    have ht : t.dropEnd drop = t := dropEnd_eq_self fun d hd => by
      rw [hc] at hd
      rwa [← Option.some.inj hd]
    rw [hrest, List.append_nil]
    exact ht
  · rw [List.reverse_append, List.reverse_reverse]
    rfl

theorem dropEnd_eq_nil_iff {t : Text} {drop : Char → Bool} :
    t.dropEnd drop = [] ↔ ∀ c ∈ t, drop c = true :=
  List.rdropWhile_eq_nil_iff

/-- What is dropped at the end of a text stays within a part of which something is kept. -/
theorem dropEnd_append_of_ne_nil (t : Text) {rest : Text} {drop : Char → Bool}
    (h : rest.dropEnd drop ≠ []) : (t ++ rest).dropEnd drop = t ++ rest.dropEnd drop := by
  have hkept : ¬(rest.reverse.dropWhile drop).isEmpty = true := by
    rw [List.isEmpty_iff]
    intro hnil
    exact h (by rw [dropEnd, hnil, List.reverse_nil])
  rw [dropEnd, List.reverse_append, List.dropWhile_append, if_neg hkept, List.reverse_append,
    List.reverse_reverse]
  rfl

/-- A part of which nothing is kept is dropped whole. -/
theorem dropEnd_append_of_forall (t : Text) {rest : Text} {drop : Char → Bool}
    (h : ∀ c ∈ rest, drop c = true) : (t ++ rest).dropEnd drop = t.dropEnd drop := by
  have hnone : (rest.reverse.dropWhile drop).isEmpty = true := by
    rw [List.isEmpty_iff, List.dropWhile_eq_nil_iff]
    exact fun c hc => h c (List.mem_reverse.1 hc)
  rw [dropEnd, List.reverse_append, List.dropWhile_append, if_pos hnone]
  rfl

theorem trim_isInfix (t : Text) (drop : Char → Bool) : t.trim drop <:+: t :=
  (dropEnd_isPrefix _ _).isInfix.trans (List.dropWhile_suffix _).isInfix

theorem head?_trim {t : Text} {drop : Char → Bool} {c : Char} (h : (t.trim drop).head? = some c) :
    drop c = false := by
  obtain ⟨rest, hrest⟩ := dropEnd_isPrefix (t.dropWhile drop) drop
  have hc := List.head?_dropWhile_not drop t
  have hhead : (t.dropWhile drop).head? = some c := by
    rw [← hrest, List.head?_append]
    change ((t.trim drop).head?.or _) = _
    rw [h]
    rfl
  rw [hhead] at hc
  simpa using hc

/-- A text is left alone exactly if there is nothing to trim at either end. -/
theorem trim_eq_self_iff {t : Text} {drop : Char → Bool} :
    t.trim drop = t ↔
      (∀ c, t.head? = some c → drop c = false) ∧ ∀ c, t.getLast? = some c → drop c = false := by
  constructor
  · intro h
    exact ⟨fun c hc => head?_trim (h.symm ▸ hc), fun c hc => getLast?_dropEnd (h.symm ▸ hc)⟩
  · rintro ⟨hhead, hlast⟩
    rw [trim, dropWhile_eq_self hhead, dropEnd_eq_self hlast]

/-! ## Stripping -/

theorem strip_isInfix (t : Text) : t.strip <:+: t :=
  trim_isInfix t isBlank

theorem head?_strip {t : Text} {c : Char} (h : t.strip.head? = some c) : isBlank c = false :=
  head?_trim h

/-- Stripping keeps the first character of a text unless it is blank. -/
theorem head?_strip_of_head? {t : Text} {c : Char} (h : t.head? = some c)
    (hc : isBlank c = false) : t.strip.head? = some c := by
  obtain ⟨rest, rfl⟩ : ∃ rest, t = c :: rest := List.head?_eq_some_iff.1 h
  have hstrip : strip (c :: rest) = dropEnd (c :: rest) isBlank := by
    rw [strip, trim, List.dropWhile_cons_of_neg (by simp [hc])]
  rw [hstrip]
  rcases List.prefix_cons_iff.1 (dropEnd_isPrefix (c :: rest) isBlank) with hnil | ⟨tail, htail, -⟩
  · have hblank := List.rdropWhile_eq_nil_iff.1 hnil c List.mem_cons_self
    rw [hc] at hblank
    exact absurd hblank Bool.false_ne_true
  · rw [htail]
    rfl

theorem getLast?_strip {t : Text} {c : Char} (h : t.strip.getLast? = some c) :
    isBlank c = false :=
  getLast?_dropEnd h

/-- A text with no blank at either end is its own strip. -/
theorem strip_eq_self {t : Text} (hhead : ∀ c, t.head? = some c → isBlank c = false)
    (hlast : ∀ c, t.getLast? = some c → isBlank c = false) : t.strip = t :=
  trim_eq_self_iff.2 ⟨hhead, hlast⟩

@[simp] theorem strip_strip (t : Text) : t.strip.strip = t.strip :=
  strip_eq_self (fun _ => head?_strip) (fun _ => getLast?_strip)

/-- Nothing is left of blanks alone. -/
theorem strip_eq_nil_iff {t : Text} : t.strip = [] ↔ ∀ c ∈ t, isBlank c = true := by
  constructor
  · intro hnil
    rw [← List.dropWhile_eq_nil_iff]
    by_contra hne
    obtain ⟨c, rest, hcons⟩ := List.exists_cons_of_ne_nil hne
    have hblank := List.rdropWhile_eq_nil_iff.1 hnil c (by rw [hcons]; exact List.mem_cons_self)
    have hhead := List.head?_dropWhile_not isBlank t
    rw [hcons] at hhead
    simp [hblank] at hhead
  · intro hblank
    rw [strip, trim, List.dropWhile_eq_nil_iff.2 hblank]
    rfl

theorem head?_of_strip_eq_self {t : Text} (h : t.strip = t) {c : Char} (hc : t.head? = some c) :
    isBlank c = false :=
  head?_strip (h.symm ▸ hc)

theorem getLast?_of_strip_eq_self {t : Text} (h : t.strip = t) {c : Char}
    (hc : t.getLast? = some c) : isBlank c = false :=
  getLast?_strip (h.symm ▸ hc)

/-- A text without blanks is its own strip; so is a marker. -/
theorem strip_eq_self_of_word {t : Text} (h : ∀ c ∈ t, isWordChar c = true) : t.strip = t :=
  strip_eq_self
    (fun _ hc => isBlank_eq_false_of_isWordChar (h _ (List.mem_of_head? hc)))
    (fun _ hc => isBlank_eq_false_of_isWordChar (h _ (List.mem_of_getLast? hc)))

/-! ## Words -/

theorem words_append_cons {c : Char} (hc : isBlank c = true) (t rest : Text) :
    words (t ++ c :: rest) = words t ++ words rest := by
  rw [words, List.splitOnP_append_cons t rest hc, List.filter_append]
  rfl

theorem words_blanks_append {gap : Text} (h : ∀ c ∈ gap, isBlank c = true) (t : Text) :
    words (gap ++ t) = words t := by
  induction gap with
  | nil => rfl
  | cons c gap ih =>
    obtain ⟨hc, h⟩ := List.forall_mem_cons.1 h
    rw [← ih h]
    exact words_append_cons hc [] (gap ++ t)

theorem words_append_blanks (t : Text) {gap : Text} (h : ∀ c ∈ gap, isBlank c = true) :
    words (t ++ gap) = words t := by
  cases gap with
  | nil => rw [List.append_nil]
  | cons c gap =>
    obtain ⟨hc, h⟩ := List.forall_mem_cons.1 h
    have hnone : words gap = [] := by
      rw [← List.append_nil gap, words_blanks_append h]
      rfl
    rw [words_append_cons hc, hnone, List.append_nil]

theorem exists_append_dropEnd (t : Text) (drop : Char → Bool) :
    ∃ rest, t = t.dropEnd drop ++ rest ∧ ∀ c ∈ rest, drop c = true :=
  ⟨t.rtakeWhile drop, List.rdropWhile_append_rtakeWhile.symm,
    fun _ => List.mem_rtakeWhile_imp⟩

theorem words_dropEnd (t : Text) : words (t.dropEnd isBlank) = words t := by
  obtain ⟨trail, htrail, hblank⟩ := exists_append_dropEnd t isBlank
  calc words (t.dropEnd isBlank)
      = words (t.dropEnd isBlank ++ trail) := (words_append_blanks _ hblank).symm
    _ = words t := congrArg words htrail.symm

@[simp] theorem words_strip (t : Text) : t.strip.words = t.words := by
  have hfront : ∀ c ∈ t.takeWhile isBlank, isBlank c = true := fun c hc =>
    List.mem_takeWhile_imp hc
  calc words t.strip
      = words (t.dropWhile isBlank) := words_dropEnd _
    _ = words (t.takeWhile isBlank ++ t.dropWhile isBlank) := (words_blanks_append hfront _).symm
    _ = words t := by rw [List.takeWhile_append_dropWhile]

/-- A text without blanks is a word. -/
theorem words_of_forall {t : Text} (hne : t ≠ []) (h : ∀ c ∈ t, isBlank c = false) :
    words t = [t] := by
  rw [words, List.splitOnP_eq_singleton h]
  exact List.filter_cons_of_pos (by simpa using hne)

/-- With blanks between them, texts have the words of each. -/
theorem words_join {separator : Text} (hne : separator ≠ [])
    (hblank : ∀ c ∈ separator, isBlank c = true) (parts : List Text) :
    words (join separator parts) = parts.flatMap words := by
  obtain ⟨c, gap, rfl⟩ := List.exists_cons_of_ne_nil hne
  obtain ⟨hc, hgap⟩ := List.forall_mem_cons.1 hblank
  induction parts with
  | nil => rfl
  | cons part parts ih =>
    cases parts with
    | nil => rw [join_singleton, List.flatMap_singleton]
    | cons next parts =>
      rw [join_cons_cons, List.cons_append, words_append_cons hc, words_blanks_append hgap, ih]
      rfl

end CommandShell.Text
