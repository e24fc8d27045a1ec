import CommandShell.Proofs.Match.Resolution
import CommandShell.Proofs.Number.Binary64

/-!
# The choice among the known commands

The candidates for a text are the commands whose score is positive and reaches the share of the best
score; so the best commands are always among them, and the order of the commands does not matter.
Main statement: what a text is resolved to depends only on which commands are known, and it is
unknown only if it is blank or resembles none of them.
-/

namespace CommandShell.Match

/-- The names that come out of looking for a command. -/
def Resolution.names : Resolution → List Text
  | unknown => []
  | one name => [name]
  | several names => names

/-- What the candidates for a text come to. -/
def Resolution.ofCandidates : List Text → Resolution
  | [] => unknown
  | [only] => one only
  | found => several (Text.sorted found)

/-- The score that a command has to reach to be a candidate beside a best one of this score. -/
def threshold (highest : Rat) : Rat := Binary64.round (highest * candidateShare)

/-- The best score that a command has for a text. -/
def bestScore (text : Text) (commands : List Text) : Rat :=
  best (commands.map (score text))

variable {text c : Text} {commands others names : List Text} {scores more : List Rat} {s : Rat}

/-! ## Scores -/

theorem score_nonneg (text command : Text) : 0 ≤ score text command := by
  rw [score]
  split
  · exact Binary64.round_nonneg _
  · rw [editScore]
    split
    · exact le_rfl
    · dsimp only
      split
      · exact le_rfl
      · split
        · exact Binary64.round_nonneg _
        · norm_num

/-- Rounding cannot lift the threshold above the best score. -/
theorem threshold_le (h : 0 ≤ s) : threshold s ≤ s := by
  have hshare : |candidateShare - 8 / 10| ≤ 8 / 10 / 2 ^ 53 :=
    Binary64.abs_round_sub_le (by norm_num)
  obtain ⟨hlow, hhigh⟩ := abs_le.1 hshare
  rcases h.eq_or_lt with rfl | hpos
  · rw [threshold, zero_mul, Binary64.round_of_nonpos le_rfl]
  · have hproduct : 0 < s * candidateShare := mul_pos hpos (by norm_num at hlow; linarith)
    have hround := (abs_le.1 (Binary64.abs_round_sub_le hproduct)).2
    have hsmall : s * candidateShare ≤ s * (9 / 10) :=
      mul_le_mul_of_nonneg_left (by norm_num at hhigh; linarith) h
    rw [threshold]
    norm_num at hround
    linarith

/-! ## The best score -/

theorem foldl_highest (scores : List Rat) (start : Rat) :
    let highest := scores.foldl (fun highest s => if highest < s then s else highest) start
    start ≤ highest ∧ (∀ s ∈ scores, s ≤ highest) ∧ (highest = start ∨ highest ∈ scores) := by
  induction scores generalizing start with
  | nil => simp
  | cons s scores ih =>
    dsimp only
    rw [List.foldl_cons, List.forall_mem_cons, List.mem_cons]
    split
    · next hlt =>
      obtain ⟨hstart, hall, hmem⟩ := ih s
      exact ⟨hlt.le.trans hstart, ⟨hstart, hall⟩, Or.inr hmem⟩
    · next hle =>
      obtain ⟨hstart, hall, hmem⟩ := ih start
      exact ⟨hstart, ⟨(not_lt.1 hle).trans hstart, hall⟩, hmem.imp_right Or.inr⟩

theorem best_eq_zero_or_mem (scores : List Rat) : best scores = 0 ∨ best scores ∈ scores :=
  (foldl_highest scores 0).2.2

theorem best_nonneg (scores : List Rat) : 0 ≤ best scores :=
  (foldl_highest scores 0).1

theorem le_best (h : s ∈ scores) : s ≤ best scores :=
  (foldl_highest scores 0).2.1 s h

/-- Scores that are not positive do not matter for the best one, nor does the order. -/
theorem best_le_best (h : ∀ s ∈ scores, 0 < s → s ∈ more) : best scores ≤ best more := by
  rcases best_eq_zero_or_mem scores with hzero | hmem
  · rw [hzero]
    exact best_nonneg more
  · rcases (best_nonneg scores).eq_or_lt with hzero | hpos
    · rw [← hzero]
      exact best_nonneg more
    · exact le_best (h _ hmem hpos)

theorem bestScore_perm (h : others.Perm commands) :
    bestScore text others = bestScore text commands := by
  have hscores := h.map (score text)
  exact le_antisymm (best_le_best fun s hs _ => hscores.mem_iff.1 hs)
    (best_le_best fun s hs _ => hscores.mem_iff.2 hs)

theorem score_le_bestScore (h : c ∈ commands) : score text c ≤ bestScore text commands :=
  le_best (List.mem_map_of_mem h)

theorem exists_score_eq_bestScore (h : 0 < bestScore text commands) :
    ∃ c ∈ commands, score text c = bestScore text commands := by
  rcases best_eq_zero_or_mem (commands.map (score text)) with hzero | hmem
  · exact absurd hzero h.ne'
  · exact List.mem_map.1 hmem

/-! ## Candidates -/

theorem candidates_eq_filter (text : Text) (commands : List Text) :
    candidates text commands = commands.filter fun c =>
      0 < score text c ∧ threshold (bestScore text commands) ≤ score text c := by
  have hpositive : (commands.map fun c => (c, score text c)).filter (fun p => 0 < p.2) =
      (commands.filter fun c => 0 < score text c).map fun c => (c, score text c) := by
    rw [List.filter_map]
    rfl
  have hbest : best ((commands.filter fun c => 0 < score text c).map (score text)) =
      bestScore text commands := by
    refine le_antisymm (best_le_best fun s hs _ => ?_) (best_le_best fun s hs hpos => ?_)
    · exact (List.filter_sublist.map _).subset hs
    · obtain ⟨c, hc, rfl⟩ := List.mem_map.1 hs
      exact List.mem_map_of_mem (List.mem_filter.2 ⟨hc, decide_eq_true hpos⟩)
  have hnames : (Prod.fst ∘ fun c => (c, score text c)) = id := rfl
  have hscores : (Prod.snd ∘ fun c => (c, score text c)) = score text := rfl
  simp only [candidates, hpositive, List.map_map, hscores, hbest, List.filter_map,
    List.filter_filter, hnames, List.map_id]
  refine List.filter_congr fun c _ => ?_
  rw [Bool.decide_and, Bool.and_comm]
  rfl

theorem mem_candidates_iff :
    c ∈ candidates text commands ↔ c ∈ commands ∧ 0 < score text c ∧
      threshold (bestScore text commands) ≤ score text c := by
  rw [candidates_eq_filter, List.mem_filter, decide_eq_true_eq]

theorem candidates_perm (h : others.Perm commands) :
    (candidates text others).Perm (candidates text commands) := by
  rw [candidates_eq_filter, candidates_eq_filter, bestScore_perm h]
  exact h.filter _

/-- The best commands are candidates, so there are candidates unless nothing scores. -/
theorem candidates_eq_nil_iff :
    candidates text commands = [] ↔ ∀ c ∈ commands, score text c = 0 := by
  rw [List.eq_nil_iff_forall_not_mem]
  constructor
  · intro hnone c hc
    by_contra hne
    have hpos : 0 < bestScore text commands :=
      ((score_nonneg text c).lt_of_ne' hne).trans_le (score_le_bestScore hc)
    obtain ⟨top, htop, hscore⟩ := exists_score_eq_bestScore hpos
    rw [← hscore] at hpos
    refine hnone top (mem_candidates_iff.2 ⟨htop, hpos, ?_⟩)
    rw [← hscore]
    exact threshold_le hpos.le
  · intro hzero c hc
    obtain ⟨hmem, hpos, -⟩ := mem_candidates_iff.1 hc
    exact hpos.ne' (hzero c hmem)

/-! ## Resolutions -/

theorem ofCandidates_perm {left right : List Text} (h : left.Perm right) :
    Resolution.ofCandidates left = Resolution.ofCandidates right := by
  match left, right with
  | [], right => rw [h.nil_eq]
  | [only], right => rw [List.singleton_perm.1 h]
  | a :: b :: left, [] => exact absurd h.length_eq (by simp)
  | a :: b :: left, [c] => exact absurd h.length_eq (by simp)
  | a :: b :: left, c :: d :: right =>
    rw [Resolution.ofCandidates, Resolution.ofCandidates, Text.sorted_eq_of_perm h] <;> simp

theorem names_ofCandidates_perm (found : List Text) :
    (Resolution.ofCandidates found).names.Perm found := by
  match found with
  | [] => rfl
  | [only] => rfl
  | a :: b :: found => exact Text.sorted_perm _

theorem ofCandidates_eq_unknown_iff {found : List Text} :
    Resolution.ofCandidates found = .unknown ↔ found = [] := by
  match found with
  | [] => simp [Resolution.ofCandidates]
  | [only] => simp [Resolution.ofCandidates]
  | a :: b :: found => simp [Resolution.ofCandidates]

theorem resolve_of_mem (hne : text.strip ≠ []) (h : text.strip ∈ commands) :
    resolve text commands = .one text.strip :=
  resolve_eq_one_iff.2 ⟨hne, Or.inl ⟨h, rfl⟩⟩

theorem resolve_of_blank (h : text.strip = []) (commands : List Text) :
    resolve text commands = .unknown := by
  simp [resolve, h]

theorem resolve_of_not_mem (hne : text.strip ≠ []) (h : text.strip ∉ commands) :
    resolve text commands = .ofCandidates (candidates text.strip commands) := by
  rw [resolve]
  simp only [List.isEmpty_iff, hne, List.contains_iff_mem, h, if_false]
  rfl

theorem resolve_eq_unknown_iff :
    resolve text commands = .unknown ↔
      text.strip = [] ∨ text.strip ∉ commands ∧ ∀ c ∈ commands, score text.strip c = 0 := by
  by_cases hne : text.strip = []
  · exact iff_of_true (resolve_of_blank hne commands) (Or.inl hne)
  · by_cases hmem : text.strip ∈ commands
    · rw [resolve_of_mem hne hmem]
      simp [hne, hmem]
    · rw [resolve_of_not_mem hne hmem, ofCandidates_eq_unknown_iff, candidates_eq_nil_iff]
      simp [hne, hmem]

theorem resolve_perm (h : others.Perm commands) :
    resolve text others = resolve text commands := by
  by_cases hne : text.strip = []
  · rw [resolve_of_blank hne, resolve_of_blank hne]
  · by_cases hmem : text.strip ∈ commands
    · rw [resolve_of_mem hne hmem, resolve_of_mem hne (h.mem_iff.2 hmem)]
    · rw [resolve_of_not_mem hne hmem, resolve_of_not_mem hne (mt h.mem_iff.1 hmem),
        ofCandidates_perm (candidates_perm h)]

/-- The names that a text is resolved to, unless it is one itself, are the candidates. -/
theorem mem_names_resolve_iff (hne : text.strip ≠ []) (h : text.strip ∉ commands) :
    c ∈ (resolve text commands).names ↔ c ∈ candidates text.strip commands := by
  rw [resolve_of_not_mem hne h]
  exact (names_ofCandidates_perm _).mem_iff

/-- Some command has the best score, unless none is a candidate. -/
theorem exists_best (h : candidates text commands ≠ []) :
    ∃ top ∈ commands, 0 < score text top ∧ score text top = bestScore text commands := by
  obtain ⟨c, hc⟩ := List.exists_mem_of_ne_nil _ h
  obtain ⟨hmem, hpos, -⟩ := mem_candidates_iff.1 hc
  obtain ⟨top, htop, hscore⟩ := exists_score_eq_bestScore (hpos.trans_le (score_le_bestScore hmem))
  exact ⟨top, htop, hscore ▸ hpos.trans_le (score_le_bestScore hmem), hscore⟩

/--
What a text is resolved to is a choice among the known commands. It is unknown exactly if it is
blank, or is no command itself and scores zero with all of them. Otherwise it is itself if it is a
command; and if not, what comes out are the commands that score and reach the threshold beside a
best one, all best ones among them. Several names are two or more, in strictly ascending order. In
whichever order the commands come, the outcome is the same.
-/
theorem resolve_chooses_best (hunique : commands.Nodup) (text : Text) :
    (resolve text commands = .unknown ↔
      text.strip = [] ∨ text.strip ∉ commands ∧ ∀ c ∈ commands, score text.strip c = 0) ∧
    (text.strip ≠ [] → text.strip ∈ commands → resolve text commands = .one text.strip) ∧
    (resolve text commands ≠ .unknown → text.strip ∉ commands →
      ∃ top ∈ commands, (∀ c ∈ commands, score text.strip c ≤ score text.strip top) ∧
        (∀ c, c ∈ (resolve text commands).names ↔ c ∈ commands ∧ 0 < score text.strip c ∧
          threshold (score text.strip top) ≤ score text.strip c) ∧
        ∀ c ∈ commands, score text.strip c = score text.strip top →
          c ∈ (resolve text commands).names) ∧
    (∀ names, resolve text commands = .several names → 2 ≤ names.length ∧
      names.Pairwise fun a b => Text.le a b = true ∧ a ≠ b) ∧
    ∀ others, others.Perm commands → resolve text others = resolve text commands := by
  refine ⟨resolve_eq_unknown_iff, resolve_of_mem, fun hknown hmem => ?_,
    fun names hnames => ?_, fun others => resolve_perm⟩
  · have hne : text.strip ≠ [] := fun hblank => hknown (resolve_of_blank hblank commands)
    rw [resolve_of_not_mem hne hmem, ne_eq, ofCandidates_eq_unknown_iff] at hknown
    obtain ⟨top, htop, hpos, hbest⟩ := exists_best hknown
    have hnames : ∀ c, c ∈ (resolve text commands).names ↔ c ∈ commands ∧
        0 < score text.strip c ∧ threshold (score text.strip top) ≤ score text.strip c := by
      intro c
      rw [mem_names_resolve_iff hne hmem, mem_candidates_iff, hbest]
    refine ⟨top, htop, fun c hc => hbest ▸ score_le_bestScore hc, hnames, fun c hc hscore => ?_⟩
    rw [hnames, hscore]
    exact ⟨hc, hpos, threshold_le hpos.le⟩
  · obtain ⟨hlength, -, hascending⟩ := listed_of_resolve_eq_several hunique hnames
    exact ⟨hlength, hascending⟩

/-- A padded text in the other case, a best command, one that is near it and one far behind. -/
theorem resolve_chooses_best_shouting :
    let commands := ["log.all".toList, "logs".toList, "sys.log".toList, "dog".toList]
    let text := " LOG\t".toList
    commands.Nodup ∧
      (Text.strip text ∉ commands ∧ resolve text commands ≠ .unknown) ∧
      "sys.log".toList ∈ (resolve text commands).names ∧
      "logs".toList ∈ (resolve text commands).names ∧
      "dog".toList ∉ (resolve text commands).names ∧
      commands.reverse.Perm commands ∧ resolve text commands.reverse = resolve text commands := by
  intro commands text
  have hunique : commands.Nodup := by decide
  have hnew : Text.strip text ∉ commands := by decide
  obtain ⟨hunknown, -, hchoice, -, hperm⟩ := resolve_chooses_best hunique text
  have hknown : resolve text commands ≠ .unknown := by
    rw [ne_eq, hunknown]
    decide +kernel
  obtain ⟨top, htop, hbest, hnames, -⟩ := hchoice hknown hnew
  have hsuffix : ∀ c ∈ commands,
      score (Text.strip text) c ≤ score (Text.strip text) "sys.log".toList := by
    decide +kernel
  have hscore := le_antisymm (hsuffix top htop) (hbest _ (by decide))
  rw [hscore] at hnames
  simp only [hnames]
  have hreverse := commands.reverse_perm
  exact ⟨hunique, ⟨hnew, hknown⟩, by decide +kernel, by decide +kernel, by decide +kernel,
    hreverse, hperm _ hreverse⟩

end CommandShell.Match
