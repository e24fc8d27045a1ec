import CommandShell.Proofs.Text.Parts
import CommandShell.Text.Numeral

/-!
# Numerals read back

A numeral of decimal digits stands for a number, and zeros in front of it change nothing. Main
statement: a number that was filled up with zeros is read back, if that makes no more digits than
a numeral may have.
-/

namespace CommandShell.Text

variable {t : Text}

/-- The text holds nothing but decimal digits of the basic alphabet. -/
def AllDigits (t : Text) : Prop := ∀ c ∈ t, c.isDigit = true

theorem allDigits_ofNat (n : Nat) : AllDigits (ofNat n) := fun _ hc =>
  Nat.isDigit_of_mem_toDigits (by decide) (by decide) hc

theorem allDigits_ofNatPadded (width n : Nat) : AllDigits (ofNatPadded width n) := by
  intro c hc
  rcases List.mem_append.1 hc with hc | hc
  · rw [List.eq_of_mem_replicate hc]
    decide
  · exact allDigits_ofNat n c hc

theorem ofNat_ne_nil (n : Nat) : ofNat n ≠ [] :=
  List.ne_nil_of_length_pos Nat.length_toDigits_pos

theorem ofNatPadded_ne_nil (width n : Nat) : ofNatPadded width n ≠ [] :=
  List.append_ne_nil_of_right_ne_nil _ (ofNat_ne_nil n)

/-- Filled up numerals that fit are all of one width. -/
theorem length_ofNatPadded {width n : Nat} (h : (ofNat n).length ≤ width) :
    (ofNatPadded width n).length = width := by
  rw [ofNatPadded, List.length_append, List.length_replicate]
  omega

theorem length_ofNat_mono {m n : Nat} (h : m ≤ n) : (ofNat m).length ≤ (ofNat n).length := by
  have hpos : 0 < (ofNat n).length := Nat.length_toDigits_pos
  have hn : n < 10 ^ (ofNat n).length :=
    (Nat.length_toDigits_le_iff (by decide) hpos).1 (Nat.le_refl _)
  exact (Nat.length_toDigits_le_iff (by decide) hpos).2 (by omega)

/-! ## Reading -/

theorem digitValue?_of_isDigit {c : Char} (h : c.isDigit = true) :
    digitValue? c = some (c.toNat - '0'.toNat) := by
  obtain ⟨hle, hge⟩ := toNat_of_isDigit h
  have hfirst : (48 ≤ c.toNat && c.toNat < 48 + 10) = true := by
    rw [Bool.and_eq_true, decide_eq_true_eq, decide_eq_true_eq]
    omega
  have hfind : zeroDigits.find? (fun z => z ≤ c.toNat && c.toNat < z + 10) = some 48 :=
    List.find?_cons_of_pos hfirst
  rw [digitValue?, hfind]
  rfl

theorem ne_of_isDigit {c d : Char} (h : c.isDigit = true) (hd : d.isDigit = false) : c ≠ d := by
  rintro rfl
  rw [h] at hd
  contradiction

theorem readDigits_of_allDigits (h : AllDigits t) {afterDigit : Bool}
    (hfirst : t = [] → afterDigit = true) :
    readDigits digitValue? afterDigit t = some (t.map fun c => c.toNat - '0'.toNat) := by
  induction t generalizing afterDigit with
  | nil => rw [readDigits, if_pos (hfirst rfl), List.map_nil]
  | cons c t ih =>
    obtain ⟨hc, ht⟩ := List.forall_mem_cons.1 h
    have hscore : c ≠ '_' := ne_of_isDigit hc rfl
    rw [readDigits, if_neg hscore, digitValue?_of_isDigit hc]
    simp only [ih ht fun _ => rfl, Option.map_some, List.map_cons]

theorem digitsValue_map (t : Text) :
    digitsValue (t.map fun c => c.toNat - '0'.toNat) = Nat.ofDigitChars 10 t 0 := by
  rw [digitsValue, List.foldl_map]
  rfl

theorem readNat_of_allDigits (h : AllDigits t) (hne : t ≠ []) (hlength : t.length ≤ digitLimit) :
    readNat t = some (Nat.ofDigitChars 10 t 0) := by
  rw [readNat, readDigits_of_allDigits h fun hnil => absurd hnil hne]
  simp only [List.length_map]
  rw [if_pos hlength, digitsValue_map]

theorem trim_of_allDigits (h : AllDigits t) : t.trim isNumeralBlank = t := by
  have hkept : ∀ c ∈ t, isNumeralBlank c = false := fun c hc => by
    rw [isNumeralBlank, isBlank_eq_false_of_isDigit (h c hc), Bool.false_and]
  have hfront : t.dropWhile isNumeralBlank = t :=
    dropWhile_eq_self fun c hc => hkept c (List.mem_of_head? hc)
  rw [trim, hfront]
  exact dropEnd_eq_self fun c hc => hkept c (List.mem_of_getLast? hc)

theorem readInt_of_allDigits (h : AllDigits t) (hne : t ≠ []) (hlength : t.length ≤ digitLimit) :
    readInt t = some (Int.ofNat (Nat.ofDigitChars 10 t 0)) := by
  obtain ⟨c, rest, rfl⟩ := List.exists_cons_of_ne_nil hne
  have hc : c.isDigit = true := h c List.mem_cons_self
  have hminus : c ≠ '-' := ne_of_isDigit hc rfl
  have hplus : c ≠ '+' := ne_of_isDigit hc rfl
  have hunsigned : readSigned (c :: rest) = (readNat (c :: rest)).map Int.ofNat := by
    rw [readSigned]
    · exact fun others heq => hminus (List.cons.inj heq).1
    · exact fun others heq => hplus (List.cons.inj heq).1
  rw [readInt, trim_of_allDigits h, hunsigned, readNat_of_allDigits h hne hlength]
  rfl

theorem ofDigitChars_replicate_zero (k : Nat) : Nat.ofDigitChars 10 (List.replicate k '0') 0 = 0 := by
  induction k with
  | zero => rfl
  | succ k ih =>
    rw [List.replicate_succ, Nat.ofDigitChars_cons]
    exact ih

/-- A number that was filled up with zeros is read back. -/
theorem readInt_ofNatPadded {width n : Nat} (h : (ofNatPadded width n).length ≤ digitLimit) :
    readInt (ofNatPadded width n) = some n := by
  have hvalue : Nat.ofDigitChars 10 (ofNatPadded width n) 0 = n := by
    rw [ofNatPadded, Nat.ofDigitChars_append, ofDigitChars_replicate_zero]
    exact Nat.ofDigitChars_toDigits (by decide) (by decide)
  rw [readInt_of_allDigits (allDigits_ofNatPadded width n) (ofNatPadded_ne_nil width n) h, hvalue]
  rfl

/-- Zeros in front change no number. -/
example : readInt "0042".toList = some 42 := by decide

end CommandShell.Text
