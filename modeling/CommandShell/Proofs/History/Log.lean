import Mathlib.Data.List.Induction
import CommandShell.Proofs.Shell.Retrigger

/-!
# The history is the end of a log

A history is appended to, flushed, and asked for its entries, in any order. The log of such a run is
every line that was appended since the last flush, stripped; nothing is ever taken from it. Main
statement: a history holds the end of the log that its cap leaves room for, and its answers are read
off that. The history of a reachable session is one of these, of lines that are to be recorded.
-/

namespace CommandShell

namespace History

/-- What a history can be asked to do. -/
inductive Operation where
  | append (line : Text)
  | flush
  | get (index : Int)
  | size
  | numbered
  deriving DecidableEq, Repr

/-- What an operation answers. -/
inductive Reply where
  | done
  | entry (found : Except Failure Text)
  | size (n : Nat)
  | rows (numbered : List (Nat × Text))

/-- The answer of an operation, and the history after it. -/
def perform (h : History) : Operation → Reply × History
  | .append line => (.done, h.append line)
  | .flush => (.done, h.flush)
  | .get index => (.entry (h.get index), h)
  | .size => (.size h.size, h)
  | .numbered => (.rows h.numbered, h)

/-- The history after some operations. -/
def after (h : History) (operations : List Operation) : History :=
  operations.foldl (fun h operation => (h.perform operation).2) h

/-- The line that an operation appends, stripped. -/
def Operation.appended? : Operation → Option Text
  | .append line => some line.strip
  | .flush | .get _ | .size | .numbered => none

/-- The lines that operations append after the last flush among them. -/
def logOf (operations : List Operation) : List Text :=
  (operations.reverse.takeWhile (· != .flush)).reverse.filterMap Operation.appended?

/-- Operations lead from a history to the other, and append only lines that are to be recorded. -/
def Becomes (h later : History) : Prop :=
  ∃ operations, later = h.after operations ∧
    ∀ line, .append line ∈ operations → admits line = true

variable {h mid later : History} {operations : List Operation}

/-! ## The log -/

theorem logOf_concat_append (operations : List Operation) (line : Text) :
    logOf (operations ++ [.append line]) = logOf operations ++ [line.strip] := by
  simp [logOf, Operation.appended?]

theorem logOf_concat_flush (operations : List Operation) :
    logOf (operations ++ [.flush]) = [] := by
  simp [logOf]

theorem logOf_concat_query (operations : List Operation) {query : Operation}
    (hflush : query ≠ .flush) (hquery : query.appended? = none) :
    logOf (operations ++ [query]) = logOf operations := by
  simp [logOf, hflush, hquery]

/-! ## The end of the log -/

@[simp] theorem keep_nil (cap : Nat) : keep cap [] = [] := by
  rw [keep]
  split
  · rfl
  · exact List.drop_nil

theorem length_keep_le {cap : Nat} (hcap : cap ≠ 0) (entries : List Text) :
    (keep cap entries).length ≤ cap := by
  rw [keep, if_neg hcap, List.length_drop]
  omega

/-- What a trimmed list loses to the next line, the untrimmed one loses too. -/
theorem keep_keep_concat (cap : Nat) (entries : List Text) (line : Text) :
    keep cap (keep cap entries ++ [line]) = keep cap (entries ++ [line]) := by
  by_cases hcap : cap = 0
  · simp [keep, hcap]
  · have hle : entries.length - cap ≤ entries.length := by omega
    simp only [keep, if_neg hcap]
    rw [← List.drop_append_of_le_length hle, List.drop_drop, List.length_drop,
      List.length_append, List.length_singleton]
    congr 1
    omega

theorem after_concat (h : History) (operations : List Operation) (operation : Operation) :
    h.after (operations ++ [operation]) = ((h.after operations).perform operation).2 := by
  rw [after, List.foldl_append]
  rfl

/-- The entries after operations are what the cap leaves of their log. -/
theorem after_empty (cap : Nat) (operations : List Operation) :
    (empty cap).after operations = ⟨cap, keep cap (logOf operations)⟩ := by
  induction operations using List.reverseRecOn with
  | nil => exact congrArg (mk cap) (keep_nil cap).symm
  | append_singleton operations operation ih =>
    rw [after_concat, ih]
    cases operation with
    | append line =>
      rw [logOf_concat_append, ← keep_keep_concat]
      rfl
    | flush =>
      rw [logOf_concat_flush, keep_nil]
      rfl
    | get index => rw [logOf_concat_query operations (by simp) rfl]; rfl
    | size => rw [logOf_concat_query operations (by simp) rfl]; rfl
    | numbered => rw [logOf_concat_query operations (by simp) rfl]; rfl

/-! ## What is answered -/

theorem get_of_getElem? {n : Nat} {entry : Text} (hn : h.entries[n]? = some entry) :
    h.get n = .ok entry := by
  show h.get (.ofNat n) = .ok entry
  rw [get, hn]

theorem get_of_not_lt {index : Int} (hindex : ¬ (0 ≤ index ∧ index < h.entries.length)) :
    h.get index = .error (.indexOutOfRange index) := by
  cases index with
  | ofNat n =>
    have hnone : h.entries[n]? = none := by
      rw [List.getElem?_eq_none_iff]
      have hn : (Int.ofNat n) = (n : Int) := rfl
      omega
    rw [get, hnone]
  | negSucc n => rfl

theorem numbered_eq (h : History) :
    h.numbered = (List.range h.entries.length).zip h.entries := by
  rw [numbered]
  refine List.ext_getElem (by simp) fun n hn hn' => ?_
  simp

/-! ## The history of a session -/

theorem Becomes.refl (h : History) : h.Becomes h := ⟨[], rfl, by simp⟩

theorem Becomes.trans (h₁ : h.Becomes mid) (h₂ : mid.Becomes later) : h.Becomes later := by
  obtain ⟨first, rfl, hfirst⟩ := h₁
  obtain ⟨second, rfl, hsecond⟩ := h₂
  refine ⟨first ++ second, ?_, fun line hline => ?_⟩
  · rw [after, after, after, List.foldl_append]
  · rcases List.mem_append.1 hline with hline | hline
    · exact hfirst line hline
    · exact hsecond line hline

theorem becomes_record (h : History) (line : Text) : h.Becomes (h.record line) := by
  rw [record]
  split
  · next hadmits =>
    refine ⟨[.append line], rfl, fun other hother => ?_⟩
    obtain rfl : other = line := by simpa using hother
    exact hadmits
  · exact .refl h

theorem becomes_flush (h : History) : h.Becomes h.flush := ⟨[.flush], rfl, by simp⟩

end History

theorem Session.Evolves.becomes {s after : Session} (h : s.Evolves after) :
    s.history.Becomes after.history := by
  induction h with
  | trans _ _ ih₁ ih₂ => exact ih₁.trans ih₂
  | recorded s line => exact s.history.becomes_record line
  | flushed s => exact s.history.becomes_flush
  | scripted _ _ ih => exact ih
  | _ => exact .refl _

theorem Shell.Reachable.becomes {shell : Shell} {s : Session} (h : shell.Reachable s) :
    (History.empty shell.settings.historySize).Becomes s.history :=
  h.of_evolves (fun s => (History.empty shell.settings.historySize).Becomes s.history)
    (fun _ => .refl _) (fun _ _ hs => hs) fun hevolves hs => hs.trans hevolves.becomes

namespace History

/--
A history after any operations, for any cap, where a cap that is not positive keeps everything. The
entries are the lines appended since the last flush, stripped, and of these the last ones that the
cap leaves room for. They are numbered from zero on, oldest first. The entry of every number is
found; any other number is refused, and no question changes anything. The history of a session that
can be reached comes of such operations, by which only lines to be recorded are appended: every
entry is stripped and holds none of the words that keep a line out.
-/
theorem history_is_end_of_log (cap : Int) (operations : List Operation) :
    let h := (empty cap.toNat).after operations
    let log := logOf operations
    h.entries = (if 0 < cap then log.drop (log.length - cap.toNat) else log) ∧
    (0 < cap → (h.entries.length : Int) ≤ cap) ∧
    h.perform .size = (.size h.entries.length, h) ∧
    h.perform .numbered = (.rows ((List.range h.entries.length).zip h.entries), h) ∧
    (∀ (n : Nat) (entry : Text), h.entries[n]? = some entry →
      h.perform (.get n) = (.entry (.ok entry), h)) ∧
    (∀ index : Int, ¬ (0 ≤ index ∧ index < h.entries.length) →
      h.perform (.get index) = (.entry (.error (.indexOutOfRange index)), h) ∧
        (Failure.indexOutOfRange index).kind = "IndexError".toList) ∧
    ∀ (shell : Shell) (s : Session), shell.Reachable s →
      (∃ recorded, s.history = (empty shell.settings.historySize).after recorded ∧
        ∀ line, .append line ∈ recorded → admits line = true) ∧
      ∀ entry ∈ s.history.entries, entry.strip = entry ∧
        ∀ word ∈ ["history", "redo", "flush", "help"], ¬ word.toList <:+: entry := by
  intro h log
  have hafter : h = ⟨cap.toNat, keep cap.toNat log⟩ := after_empty cap.toNat operations
  have hentries : h.entries = keep cap.toNat log := congrArg entries hafter
  refine ⟨?_, ?_, rfl, ?_, ?_, ?_, ?_⟩
  · rw [hentries, keep]
    by_cases hcap : 0 < cap
    · rw [if_neg (by omega), if_pos hcap]
    · rw [if_pos (by omega), if_neg hcap]
  · intro hcap
    have hpos : cap.toNat ≠ 0 := by omega
    have hle := length_keep_le hpos log
    rw [hentries]
    omega
  · rw [perform, numbered_eq]
  · intro n entry hn
    rw [perform, get_of_getElem? hn]
  · intro index hindex
    rw [perform, get_of_not_lt hindex]
    exact ⟨rfl, rfl⟩
  · intro shell s hs
    refine ⟨hs.becomes, fun entry hentry => ?_⟩
    obtain ⟨hstrip, hadmits⟩ := hs.admitted entry hentry
    refine ⟨hstrip, fun word hword => ?_⟩
    have hmeta : word.toList ∈ metaWords := List.mem_map_of_mem hword
    rw [← hstrip]
    exact not_isInfix_of_admits hadmits hmeta

/-- Of three lines with blanks around them the last two are kept, and there is no third entry. -/
theorem history_is_end_of_log_capped :
    let operations : List Operation := [.append " a".toList, .append "b	".toList, .append "c".toList]
    let h := (empty 2).after operations
    h.entries = ["b".toList, "c".toList] ∧ (0 : Int) < 2 ∧ (h.entries.length : Int) ≤ 2 ∧
      h.perform (.get 1) = (.entry (.ok "c".toList), h) ∧
      h.perform (.get 2) = (.entry (.error (.indexOutOfRange 2)), h) ∧
      Shell.bare.Reachable Shell.afterHist ∧
      ∀ entry ∈ Shell.afterHist.history.entries,
        ∀ word ∈ ["history", "redo", "flush", "help"], ¬ word.toList <:+: entry := by
  intro operations h
  have reachable : Shell.bare.Reachable Shell.afterHist :=
    .evaluated (.start _) Shell.bare_evaluate_hist
  obtain ⟨hentries, hle, -, -, hget, hrefused, hsession⟩ := history_is_end_of_log 2 operations
  have hlog : h.entries = ["b".toList, "c".toList] := hentries.trans (by decide +kernel)
  have hsecond : h.entries[1]? = some "c".toList := by rw [hlog]; rfl
  have hthird : ¬ ((0 : Int) ≤ 2 ∧ (2 : Int) < h.entries.length) := by rw [hlog]; decide
  refine ⟨hlog, by decide, hle (by decide), hget 1 _ hsecond, (hrefused 2 hthird).1, reachable, ?_⟩
  exact fun entry hentry => ((hsession _ _ reachable).2 entry hentry).2

end History

end CommandShell
