import CommandShell.Proofs.Command.Exchange
import CommandShell.Proofs.Input.Upcoming
import CommandShell.Proofs.Shell.Depth

/-!
# Reading line by line

A program that reads its input by lines gets the lines to come one after another, whichever way it
asks for each, and is told of the end of input from then on.
-/

namespace CommandShell

namespace Request

/-- Whether a line is read to answer a request. -/
def readsLine : Request → Bool
  | .prompt _ | .ask _ | .promptTerminal _ | .readLine => true
  | _ => false

/-- Whether a request is answered at once and reads a line, if it reads anything. -/
def byLine : Request → Bool
  | .read _ => false
  | r => !r.nests

end Request

/-- The answer tells of the line, or of the end of input if there is none. -/
def Exchange.Yields : Exchange → Option Text → Prop
  | ⟨.prompt _, _, answer, _⟩, line => answer = line.map Text.chomp
  | ⟨.ask _, _, answer, _⟩, line => answer = line.map Text.chomp
  | ⟨.promptTerminal _, _, answer, _⟩, line => answer = line.map Text.chomp
  | ⟨.readLine, _, answer, _⟩, line => answer = line.getD []
  | _, _ => False

/-- The exchanges that read a line. -/
def lineReads (exchanges : List Exchange) : List Exchange :=
  exchanges.filter fun e => e.request.readsLine

/-- Each read yields the line of its own number, and all reads after the last line the end. -/
def YieldInOrder (reads : List Exchange) (lines : List Text) : Prop :=
  ∀ (k : Nat) (e : Exchange), reads[k]? = some e → e.Yields lines[k]?

theorem YieldInOrder.nil (lines : List Text) : YieldInOrder [] lines := by
  intro k e he
  simp at he

theorem YieldInOrder.cons {e : Exchange} {reads : List Exchange} {lines : List Text}
    (hfirst : e.Yields lines.head?) (hrest : YieldInOrder reads lines.tail) :
    YieldInOrder (e :: reads) lines := by
  intro k read hread
  cases k with
  | zero =>
    obtain rfl := Option.some.inj hread
    rwa [List.head?_eq_getElem?] at hfirst
  | succ k =>
    have hyields := hrest k read hread
    rwa [List.getElem?_tail] at hyields

namespace Shell

variable {shell : Shell} {depth : Nat} {r : Request} {s after : Session} {a : r.Answer}

/-- A read yields the first of the lines to come. -/
theorem answer_readsLine (hr : r.readsLine = true) (hs : s.terminal.ByLines)
    (h : shell.answer depth r s = some (a, after)) :
    Exchange.Yields ⟨r, s, a, after⟩ s.terminal.upcoming.head? ∧
      after.terminal.upcoming = s.terminal.upcoming.tail := by
  rw [answer_eq] at h
  cases r with
  | prompt text =>
    obtain ⟨rfl, rfl⟩ := Prod.mk.inj (Option.some.inj h)
    exact Terminal.prompt_eq hs text
  | ask text =>
    obtain ⟨rfl, rfl⟩ := Prod.mk.inj (Option.some.inj h)
    exact Terminal.ask_eq hs text
  | promptTerminal text =>
    obtain ⟨rfl, rfl⟩ := Prod.mk.inj (Option.some.inj h)
    exact Terminal.promptTerminal_eq hs text
  | readLine =>
    obtain ⟨rfl, rfl⟩ := Prod.mk.inj (Option.some.inj h)
    exact Terminal.readLine_eq s.terminal
  | _ => contradiction

theorem answer_upcoming (hr : r.byLine = true) (hread : r.readsLine = false)
    (h : shell.answer depth r s = some (a, after)) :
    after.terminal.upcoming = s.terminal.upcoming := by
  rw [answer_eq] at h
  cases r with
  | echo text =>
    obtain ⟨-, rfl⟩ := Prod.mk.inj (Option.some.inj h)
    exact Terminal.upcoming_write _ .screen _
  | print outcome =>
    obtain ⟨written, hprint⟩ := print_withScreen shell outcome s
    rw [serve, hprint] at h
    obtain ⟨-, rfl⟩ := Prod.mk.inj (Option.some.inj h)
    rfl
  | script path =>
    obtain ⟨-, rfl⟩ := Prod.mk.inj (Option.some.inj h)
    rfl
  | look =>
    obtain ⟨-, rfl⟩ := Prod.mk.inj (Option.some.inj h)
    rfl
  | flush =>
    obtain ⟨-, rfl⟩ := Prod.mk.inj (Option.some.inj h)
    rfl
  | _ => contradiction

/-- However a request by lines is answered, it takes one of the lines to come or none. -/
theorem answer_byLines (hr : r.byLine = true) (hs : s.terminal.ByLines)
    (h : shell.answer depth r s = some (a, after)) : after.terminal.ByLines := by
  have hinstalled := (answer_evolving shell depth h).moves.installed
  refine ⟨?_, ?_⟩
  · rw [Terminal.active_of_installed hinstalled, Terminal.input_of_installed hinstalled, hs.active]
  · intro line hline
    cases hread : r.readsLine with
    | true =>
      rw [(answer_readsLine hread hs h).2] at hline
      exact hs.lines line (List.mem_of_mem_tail hline)
    | false =>
      rw [answer_upcoming hr hread h] at hline
      exact hs.lines line hline

/-- The reads of a program yield the lines to come in order, and the run leaves the others. -/
theorem lineReads_exchanges {answer : Answerer} (hanswer : answer.Within (shell.answer depth))
    {p : Program α} (hp : p.Only (·.byLine = true)) {s : Session} (hs : s.terminal.ByLines) :
    YieldInOrder (lineReads (p.exchanges answer s)) s.terminal.upcoming ∧
    ∀ result after, p.run answer s = some (result, after) →
      after.terminal.upcoming = s.terminal.upcoming.drop
        (lineReads (p.exchanges answer s)).length := by
  induction p generalizing s with
  | done a =>
    refine ⟨.nil _, ?_⟩
    intro result after hrun
    obtain ⟨-, rfl⟩ := Prod.mk.inj (Option.some.inj hrun)
    rfl
  | fail f =>
    refine ⟨.nil _, ?_⟩
    intro result after hrun
    obtain ⟨-, rfl⟩ := Prod.mk.inj (Option.some.inj hrun)
    rfl
  | call request next ih =>
    rw [Program.exchanges, Program.run]
    cases hreply : answer request s with
    | none => exact ⟨.nil _, fun _ _ hrun => by contradiction⟩
    | some reply =>
      obtain ⟨a, mid⟩ := reply
      obtain ⟨hyields, hleft⟩ := ih a (hp.2 a) (answer_byLines hp.1 hs (hanswer hreply))
      cases hread : request.readsLine with
      | true =>
        obtain ⟨hfirst, htail⟩ := answer_readsLine hread hs (hanswer hreply)
        rw [htail] at hyields hleft
        have hreads : lineReads (⟨request, s, a, mid⟩ :: (next a).exchanges answer mid) =
            ⟨request, s, a, mid⟩ :: lineReads ((next a).exchanges answer mid) :=
          List.filter_cons_of_pos hread
        simp only [hreads]
        refine ⟨.cons hfirst hyields, ?_⟩
        intro result after hrun
        rw [hleft result after hrun, List.length_cons, List.drop_tail]
      | false =>
        have hsame := answer_upcoming hp.1 hread (hanswer hreply)
        have hreads : lineReads (⟨request, s, a, mid⟩ :: (next a).exchanges answer mid) =
            lineReads ((next a).exchanges answer mid) :=
          List.filter_cons_of_neg (by simp [hread])
        simp only [hreads]
        rw [← hsame]
        exact ⟨hyields, hleft⟩

end Shell

end CommandShell
