import CommandShell.Proofs.Shell.Dispatch
import CommandShell.Proofs.Text.ScreenLines

/-!
# What the listings hold

The plain listing, the help text and the listing of a namespace each put a question of its own to
the registry. Main statement: each holds the visible commands it is about in ascending order, every
one of them once, and no hidden one. The plain listing fills rows of four, and the help text says
from one column on what the commands are about.
-/

namespace CommandShell

/-! ## Visible names in order -/

namespace Registry

/-- The names are those of the visible commands of a kind, in strictly ascending order. -/
structure Enumerates (r : Registry) (kind : Text → Prop) (names : List Text) : Prop where
  ascending : names.Pairwise fun a b => Text.le a b = true ∧ a ≠ b
  mem_iff : ∀ name, name ∈ names ↔ kind name ∧ ∃ d ∈ r.commands, d.name = name ∧ d.hidden = false
  no_hidden : ∀ d ∈ r.commands, d.hidden = true → d.name ∉ names

variable {r : Registry} {kind : Text → Prop} {names others : List Text}

/-- Names in ascending order, each of them once, are all there is to show. -/
theorem enumerates_of_ascending
    (hascending : names.Pairwise fun a b => Text.le a b = true ∧ a ≠ b)
    (hmem : ∀ name, name ∈ names ↔ kind name ∧ name ∈ r.visibleNames) :
    r.Enumerates kind names where
  ascending := hascending
  mem_iff name := by rw [hmem, mem_visibleNames_iff]
  no_hidden d hd hhidden hname := by
    rw [hidden_of_mem_visibleNames hd ((hmem d.name).1 hname).2] at hhidden
    contradiction

/-- There is one way to enumerate the commands of a kind. -/
theorem Enumerates.unique (hnames : r.Enumerates kind names) (hothers : r.Enumerates kind others) :
    names = others := by
  have hperm : names.Perm others :=
    (List.perm_ext_iff_of_nodup (hnames.ascending.imp And.right)
      (hothers.ascending.imp And.right)).2 fun name => by rw [hnames.mem_iff, hothers.mem_iff]
  refine hperm.eq_of_pairwise (fun a b _ _ hab hba => ?_) hnames.ascending hothers.ascending
  exact absurd (Text.le_antisymm a b hab.1 hba.1) hab.2

/-- There are commands of a kind exactly if one is among all that are visible. -/
theorem Enumerates.ne_nil_iff (hnames : r.Enumerates kind names)
    (hothers : r.Enumerates (fun _ => True) others) : names ≠ [] ↔ ∃ name ∈ others, kind name := by
  constructor
  · intro hsome
    obtain ⟨name, hname⟩ := List.exists_mem_of_ne_nil _ hsome
    obtain ⟨hkind, hvisible⟩ := (hnames.mem_iff name).1 hname
    exact ⟨name, (hothers.mem_iff name).2 ⟨trivial, hvisible⟩, hkind⟩
  · rintro ⟨name, hname, hkind⟩
    obtain ⟨-, hvisible⟩ := (hothers.mem_iff name).1 hname
    exact List.ne_nil_of_mem ((hnames.mem_iff name).2 ⟨hkind, hvisible⟩)

theorem enumerates_sorted_filter (r : Registry) (test : Text → Bool) :
    r.Enumerates (test · = true) (Text.sorted (r.visibleNames.filter test)) := by
  have hdistinct : (r.visibleNames.filter test).Nodup := visibleNames_nodup.filter test
  refine enumerates_of_ascending (Text.sorted_strictly hdistinct) fun name => ?_
  rw [(Text.sorted_perm _).mem_iff, List.mem_filter, and_comm]

theorem enumerates_sorted (r : Registry) :
    r.Enumerates (fun _ => True) (Text.sorted r.visibleNames) := by
  have hall := r.enumerates_sorted_filter fun _ => true
  rw [List.filter_true] at hall
  simpa using hall

theorem enumerates_descriptors (r : Registry) :
    r.Enumerates (fun _ => True) ((r.descriptors false).map (·.name)) :=
  enumerates_of_ascending (List.pairwise_map.2 (r.descriptors_ascending false)) fun name => by
    rw [← r.visibleNames_perm.mem_iff, true_and]

/-- The help text and the plain listing agree, although they ask the registry differently. -/
theorem map_name_descriptors (r : Registry) :
    (r.descriptors false).map (·.name) = Text.sorted r.visibleNames :=
  r.enumerates_descriptors.unique r.enumerates_sorted

end Registry

namespace Shell

variable {shell : Shell} {grid : List (List Text)} {names : List Text} {line word : Text}

/-! ## Rows of four -/

/-- Rows that are filled one after another, four names in each. -/
structure FilledRows (grid : List (List Text)) : Prop where
  full : ∀ row ∈ grid.dropLast, row.length = 4
  last : ∀ row ∈ grid.getLast?, 1 ≤ row.length ∧ row.length ≤ 4

theorem FilledRows.cons {row : List Text} (hrow : row.length = 4) (h : FilledRows grid) :
    FilledRows (row :: grid) := by
  cases grid with
  | nil => exact ⟨by simp, by simp [hrow]⟩
  | cons next others =>
    refine ⟨?_, by simpa using h.last⟩
    rw [List.dropLast_cons_of_ne_nil (List.cons_ne_nil next others)]
    exact List.forall_mem_cons.2 ⟨hrow, h.full⟩

theorem filledRows_rows (names : List Text) : FilledRows (rows names) := by
  fun_induction rows names with
  | case1 a b c d rest ih => exact ih.cons rfl
  | case2 => exact ⟨by simp, by simp⟩
  | case3 names hmany hnone =>
    have hlength : 1 ≤ names.length ∧ names.length ≤ 4 := by
      match names with
      | [] => exact absurd rfl hnone
      | [_] | [_, _] | [_, _, _] => simp
      | a :: b :: c :: d :: rest => exact absurd rfl (hmany a b c d rest)
    exact ⟨by simp, by simpa using hlength⟩

theorem flatten_rows (names : List Text) : (rows names).flatten = names := by
  fun_induction rows names with
  | case1 a b c d rest ih => rw [List.flatten_cons, ih]; rfl
  | case2 => rfl
  | case3 names _ _ => exact List.flatten_singleton

/-- A row of the plain listing. -/
def rowText (row : List Text) : Text := "  ".toList ++ Text.join "  ".toList row

theorem words_rowText (row : List Text) : (rowText row).words = row.flatMap Text.words := by
  have hspaces : ∀ c ∈ "  ".toList, Text.isBlank c = true := List.all_eq_true.1 (by decide)
  rw [rowText, Text.words_blanks_append hspaces, Text.words_join (by decide) hspaces]

/-- A text that sets names out in rows under a heading. Names without blanks are read off it again,
line by line and word by word. -/
structure Tabulates (names : List Text) (grid : List (List Text)) (text : Text) : Prop where
  in_order : grid.flatten = names
  filled : FilledRows grid
  written : text = Text.join ['\n'] ("Available commands:".toList :: grid.map rowText)
  readable : (∀ name ∈ names, name ≠ [] ∧ ∀ c ∈ name, Text.isBlank c = false) →
    (Text.screenLines text).tail.map Text.words = grid

theorem isLineBoundary_of_mem_rowText {row : List Text}
    (h : ∀ name ∈ row, ∀ c ∈ name, Text.isBlank c = false) :
    ∀ c ∈ rowText row, Text.isLineBoundary c = false := by
  have hspaces : ∀ c ∈ "  ".toList, Text.isLineBoundary c = false :=
    Text.isLineBoundary_eq_false_of_all (by decide)
  intro c hc
  rcases List.mem_append.1 hc with hc | hc
  · exact hspaces c hc
  · rcases Text.mem_join hc with hc | ⟨name, hname, hc⟩
    · exact hspaces c hc
    · exact Text.isLineBoundary_eq_false (h name hname c hc)

theorem tabulates_rows (names : List Text) :
    Tabulates names (rows names)
      (Text.join ['\n'] ("Available commands:".toList :: (rows names).map rowText)) where
  in_order := flatten_rows names
  filled := filledRows_rows names
  written := rfl
  readable := by
    intro hnames
    have hname : ∀ row ∈ rows names, ∀ name ∈ row, name ∈ names := fun row hrow name hname =>
      flatten_rows names ▸ List.mem_flatten.2 ⟨row, hrow, hname⟩
    have hlines : ∀ line ∈ "Available commands:".toList :: (rows names).map rowText,
        line ≠ [] ∧ ∀ c ∈ line, Text.isLineBoundary c = false := by
      refine List.forall_mem_cons.2
        ⟨⟨by decide, ?_⟩, List.forall_mem_map.2 fun row hrow => ⟨?_, ?_⟩⟩
      · exact Text.isLineBoundary_eq_false_of_all (by decide)
      · exact List.append_ne_nil_of_left_ne_nil (by decide) _
      · exact isLineBoundary_of_mem_rowText fun name h => (hnames name (hname row hrow name h)).2
    have hwords : ∀ row ∈ rows names, (rowText row).words = row := by
      intro row hrow
      have hone : ∀ name ∈ row, name.words = [name] := fun name h =>
        Text.words_of_forall (hnames name (hname row hrow name h)).1
          (hnames name (hname row hrow name h)).2
      rw [words_rowText, List.flatMap_congr hone, List.flatMap_singleton']
    rw [Text.screenLines_join_lines hlines, List.tail_cons, List.map_map]
    exact (List.map_congr_left hwords).trans (List.map_id _)

/-- Five names leave one for a second row. -/
example : (rows [['a'], ['b'], ['c'], ['d'], ['e']]).map rowText =
    ["  a  b  c  d".toList, "  e".toList] := by
  decide

/-! ## Rows of the help text -/

/-- A row that says from a column on what is to be said of a name. Blanks at its end are left out;
where nothing is said, these are the blanks that the name itself ends with. -/
structure Explains (column : Nat) (entry : Text × Text) (row : Text) : Prop where
  said : entry.2.strip ≠ [] → ∃ gap, 2 ≤ gap ∧
    let front := "    ".toList ++ entry.1 ++ List.replicate gap ' '
    front.length = column ∧ row = front ++ entry.2.dropEnd Text.isBlank
  unsaid : entry.2.strip = [] → row = Text.dropEnd ("    ".toList ++ entry.1) Text.isBlank
  readable : row.words = entry.1.words ++ entry.2.words

theorem helpRow_eq (width : Nat) (name about : Text) :
    helpRow width (name, about) =
      Text.dropEnd
        ("    ".toList ++ name ++ List.replicate (width - name.length + 2) ' ' ++ about)
        Text.isBlank := by
  rw [List.replicate_add]
  simp [helpRow, Text.padRight]

theorem explains_helpRow {width : Nat} {name : Text} (h : name.length ≤ width) (about : Text) :
    Explains (width + 6) (name, about) (helpRow width (name, about)) := by
  have hspaces : ∀ n, ∀ c ∈ List.replicate n ' ', Text.isBlank c = true := fun n c hc => by
    rw [List.eq_of_mem_replicate hc]
    decide
  have hnothing : about.strip = [] ↔ about.dropEnd Text.isBlank = [] := by
    rw [Text.strip_eq_nil_iff, Text.dropEnd_eq_nil_iff]
  rw [helpRow_eq]
  constructor
  case said =>
    intro hsaid
    refine ⟨width - name.length + 2, by omega, ?_, ?_⟩
    · rw [List.length_append, List.length_append, List.length_replicate]
      show 4 + name.length + (width - name.length + 2) = width + 6
      omega
    · exact Text.dropEnd_append_of_ne_nil _ fun hnil => hsaid (hnothing.2 hnil)
  case unsaid =>
    intro hunsaid
    rw [List.append_assoc, Text.dropEnd_append_of_forall]
    intro c hc
    rcases List.mem_append.1 hc with hc | hc
    · exact hspaces _ c hc
    · exact Text.strip_eq_nil_iff.1 hunsaid c hc
  case readable =>
    have hmargin : ∀ c ∈ "    ".toList, Text.isBlank c = true := hspaces 4
    rw [Text.words_dropEnd, List.append_assoc, List.append_assoc,
      Text.words_blanks_append hmargin, List.replicate_succ, List.cons_append,
      Text.words_append_cons (by decide), Text.words_blanks_append (hspaces _)]

/-- A name that ends in a blank, and nothing to say of it. -/
example : helpRow 4 ("a ".toList, [' ']) = "    a".toList := by decide

/-- The help text has a row for every entry, and the longest name decides on the column. -/
theorem explains_helpText (shell : Shell) :
    ∃ column rows, List.Forall₂ (Explains column) shell.helpEntries rows ∧
      shell.helpText = Text.join ['\n']
        (["USAGE:".toList,
          "    ".toList ++ shell.settings.promptSymbol ++ " <command> [args...]".toList, [],
          "COMMANDS:".toList] ++ rows) := by
  let lengths := shell.helpEntries.map fun e => e.1.length
  refine ⟨lengths.foldl max 0 + 6, shell.helpEntries.map (helpRow (lengths.foldl max 0)), ?_, rfl⟩
  rw [List.forall₂_map_right_iff, List.forall₂_same]
  rintro ⟨name, about⟩ hentry
  have hlength : name.length ∈ lengths := List.mem_map_of_mem (f := fun e => e.1.length) hentry
  refine explains_helpRow ?_ about
  rw [List.foldl_max]
  exact (List.le_max?_getD_of_mem hlength).trans (Nat.le_max_right _ _)

/-! ## Namespaces -/

/-- A word that is no command's name has as members the visible names that go on with a dot. -/
theorem enumerates_namespaceMembers (hdot : '.' ∉ word) (hspace : ' ' ∉ word)
    (hname : word ∉ shell.registry.commands.map (·.name)) :
    shell.registry.Enumerates (word ++ ['.'] <+: ·) (shell.namespaceMembers word) := by
  have hmembers : shell.namespaceMembers word =
      Text.sorted (shell.registry.visibleNames.filter fun n => (word ++ ['.']).isPrefixOf n) := by
    rw [namespaceMembers, if_neg]
    simp only [Bool.or_eq_true, List.contains_iff_mem, Registry.has_eq_true_iff, not_or]
    exact ⟨⟨hdot, hspace⟩, hname⟩
  have hkind : (word ++ ['.'] <+: ·) = fun n => (word ++ ['.']).isPrefixOf n = true :=
    funext fun _ => propext List.isPrefixOf_iff_prefix.symm
  rw [hmembers, hkind]
  exact shell.registry.enumerates_sorted_filter _

/-- The shell answers a word with a namespace listing exactly if the word has members. -/
theorem exists_decision_eq_listing_iff (hne : line.strip ≠ []) (hspace : ' ' ∉ line.strip)
    (hverb : ∀ v : Verb, line.strip ∉ v.spellings) :
    (∃ listed, shell.decision (.line line) =
        .answer (.result (.ofText (namespaceListing line.strip listed)))) ↔
      shell.namespaceMembers line.strip ≠ [] := by
  rw [decision, if_neg (by simpa using hne)]
  cases hreading : shell.reading line.strip with
  | verb v => exact absurd (reading_eq_verb_iff.1 hreading) (hverb v)
  | members names =>
    obtain ⟨-, hnames, hmembers⟩ := reading_eq_members_iff.1 hreading
    exact ⟨fun _ => hmembers ▸ hnames, fun _ => ⟨names, rfl⟩⟩
  | command =>
    have hquestion : line.strip ≠ ['?'] := fun h => hverb .help (h ▸ by decide)
    constructor
    · rintro ⟨listed, hlisted⟩
      refine absurd hlisted (decisionOfTokens_ne_text (fun others => ?_) _)
      exact (namespaceListing_ne_listing listed others hspace hquestion).symm
    · intro hmembers
      exact absurd (namespaceMembers_ne_nil_iff.1 hmembers) (reading_eq_command_iff.1 hreading).2

/-! ## The three listings -/

/--
Every visible command is listed once. Take the visible names in ascending order. The text for `tab`
shows them in rows of four, of which only the last may be shorter. The help text has a row for each
in the same order, and then one for `help` and one for `quit`; whatever is said on these rows begins
in one column. For a line that, once stripped, has no dot and no space and is neither a verb nor the
name of a command, the listing of a namespace comes up exactly if a visible name begins with the
line and a dot, and it holds the names that do, in ascending order again. A command that is run for
the line may return any text, so this is said of evaluations that run none. Hidden names are in none
of the three.
-/
theorem visible_commands_listed_once (shell : Shell) :
    ∃ names, shell.registry.Enumerates (fun _ => True) names ∧
      (∃ grid, Tabulates names grid shell.commandListing) ∧
      (∃ (commands : List Descriptor) (column : Nat) (rows : List Text),
        (∀ d ∈ commands, d ∈ shell.registry.commands) ∧ commands.map (·.name) = names ∧
        List.Forall₂ (Explains column)
          (commands.map (fun d => (d.name, d.about)) ++
            [("help".toList, "Show this help.".toList),
              ("quit".toList, "Leave the session.".toList)]) rows ∧
        shell.helpText = Text.join ['\n']
          (["USAGE:".toList,
            "    ".toList ++ shell.settings.promptSymbol ++ " <command> [args...]".toList, [],
            "COMMANDS:".toList] ++ rows)) ∧
      (∀ line answer s,
        (line.strip = "tab".toList → shell.evaluateLine answer line s =
          some (.result (.ofText shell.commandListing),
            { s with lastInput := some line.strip })) ∧
        (line.strip ∈ ["help".toList, "?".toList] → shell.evaluateLine answer line s =
          some (.result (.ofText shell.helpText), { s with lastInput := some line.strip }))) ∧
      ∀ line, line.strip ≠ [] → '.' ∉ line.strip → ' ' ∉ line.strip →
        line.strip ∉ shell.registry.commands.map (·.name) →
        (∀ v : Verb, line.strip ∉ v.spellings) →
        (∀ depth s outcome after,
          shell.evaluate depth (.line line) s = some (outcome, after) →
          after.journal = s.journal →
          ((∃ listed, outcome = .result (.ofText (namespaceListing line.strip listed))) ↔
            ∃ name ∈ names, line.strip ++ ['.'] <+: name)) ∧
        ∃ members, shell.registry.Enumerates (line.strip ++ ['.'] <+: ·) members ∧
          (members ≠ [] → ∀ answer s, shell.evaluateLine answer line s =
            some (.result (.ofText (namespaceListing line.strip members)),
              { s with lastInput := some line.strip })) := by
  have hnames := shell.registry.enumerates_sorted
  refine ⟨_, hnames, ⟨_, tabulates_rows _⟩, ?_, ?_, ?_⟩
  · obtain ⟨column, rows, hrows, htext⟩ := explains_helpText shell
    refine ⟨shell.registry.descriptors false, column, rows, fun d hd => ?_,
      shell.registry.map_name_descriptors, hrows, htext⟩
    exact (List.mem_filter.1 ((shell.registry.descriptors_perm false).mem_iff.1 hd)).1
  · intro line answer s
    constructor
    · intro htab
      exact evaluateLine_of_verb (v := .list) (by simp [Verb.spellings, htab]) answer s
    · intro hhelp
      exact evaluateLine_of_verb (v := .help) hhelp answer s
  · intro line hne hdot hspace hname hverb
    have hmembers := enumerates_namespaceMembers hdot hspace hname
    refine ⟨fun depth s outcome after hevaluate hquiet => ?_, _, hmembers, fun hsome answer s => ?_⟩
    · rw [← hmembers.ne_nil_iff hnames, ← exists_decision_eq_listing_iff hne hspace hverb]
      rcases journal_of_evaluate hevaluate with ⟨hdecision, -⟩ | ⟨d, tokens, own, -, hjournal⟩
      · simp only [hdecision, Decision.answer.injEq]
      · rw [hquiet] at hjournal
        simp at hjournal
    · exact evaluateLine_of_members hne (reading_eq_members_iff.2 ⟨hverb, hsome, rfl⟩) answer s

end Shell

end CommandShell
