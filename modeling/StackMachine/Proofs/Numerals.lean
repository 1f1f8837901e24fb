import Mathlib.Algebra.Group.Nat.Defs
import Mathlib.Data.Int.Notation
import Mathlib.Tactic.Common
import StackMachine.Numeral

/-!
Which texts are numerals. A text denotes a word if behind at most one sign it has digits, at least
one of them, that count up to the word; it is misread for the first thing that is wrong with it.
Reading decides between the two. The value of some digits is at most that of these and more, so it
is enough that the value of all of them is in range.
-/

namespace StackMachine

section

variable {ε α β : Type} {f : α → β} {x : Except ε α}

lemma map_eq_ok_iff {y : β} : x.map f = .ok y ↔ ∃ a, x = .ok a ∧ f a = y := by
  cases x <;> simp [Except.map]

lemma map_eq_error_iff {e : ε} : x.map f = .error e ↔ x = .error e := by
  cases x <;> simp [Except.map]

end

namespace Numeral

theorem text_eq_toString (n : ℤ) : text n = toString n := by
  cases n with
  | ofNat n => rfl
  | negSucc n =>
    change String.ofList ('-' :: Nat.toDigits 10 (n + 1)) =
      "-" ++ String.ofList (Nat.toDigits 10 (n + 1))
    rw [String.ofList_cons]
    rfl

/-! ### The grammar -/

def negative (text : List Char) : Bool :=
  text.head? = some '-'

/-- The text behind its sign. -/
def body (text : List Char) : List Char :=
  if text.head? = some '-' ∨ text.head? = some '+' then text.tail else text

/-- The value of some digits. -/
def value (digits : List Char) : ℕ :=
  Nat.ofDigitChars 10 digits 0

/-- The largest absolute value that a word of the sign of the text has. -/
def limit (text : List Char) : ℕ :=
  if negative text then 2 ^ 63 else 2 ^ 63 - 1

/-- What is wrong with a text whose value is beyond the limit. -/
def overflow (text : List Char) : ReadError :=
  if negative text then .tooSmall else .tooLarge

/-- The text is a numeral of the word. -/
structure Literal (text : List Char) (word : Int64) : Prop where
  ne_nil : body text ≠ []
  digits : ∀ c ∈ body text, c.isDigit
  value : word.toInt = if negative text then -(value (body text) : ℤ) else value (body text)

/-- The text is no numeral of a word, and this is the first thing wrong with it. -/
inductive Misread (text : List Char) : ReadError → Prop
  | empty : text = [] → Misread text .empty
  | noDigit : text ≠ [] → body text = [] → Misread text .invalidDigit
  | badDigit {good rest : List Char} {c : Char} : body text = good ++ c :: rest →
      (∀ x ∈ good, x.isDigit) → value good ≤ limit text → ¬ c.isDigit → Misread text .invalidDigit
  | overflow {good rest : List Char} {c : Char} : body text = good ++ c :: rest →
      (∀ x ∈ good, x.isDigit) → value good ≤ limit text → c.isDigit →
      limit text < value (good ++ [c]) → Misread text (overflow text)

/-! ### Reading digits -/

lemma digit?_of_isDigit {c : Char} (h : c.isDigit) : digit? c = some (c.toNat - '0'.toNat) :=
  if_pos h

lemma digit?_of_not_isDigit {c : Char} (h : ¬ c.isDigit) : digit? c = none :=
  if_neg h

lemma le_ofDigitChars (digits : List Char) (n : ℕ) : n ≤ Nat.ofDigitChars 10 digits n := by
  induction digits generalizing n with
  | nil => exact Nat.le_of_eq Nat.ofDigitChars_nil.symm
  | cons c rest ih =>
    rw [Nat.ofDigitChars_cons]
    have hrest := ih (10 * n + (c.toNat - '0'.toNat))
    omega

section

variable {bound : ℕ} {error : ReadError} {n : ℕ} {digits : List Char}

lemma magnitude_eq_ok_iff (hn : n ≤ bound) {k : ℕ} :
    magnitude bound error n digits = .ok k ↔
      (∀ c ∈ digits, c.isDigit) ∧ k = Nat.ofDigitChars 10 digits n ∧ k ≤ bound := by
  induction digits generalizing n with
  | nil =>
    simp only [magnitude, Nat.ofDigitChars_nil, Except.ok.injEq]
    constructor
    · rintro rfl
      exact ⟨by simp, rfl, hn⟩
    · rintro ⟨-, rfl, -⟩
      rfl
  | cons c rest ih =>
    by_cases hc : c.isDigit
    · simp only [magnitude, digit?_of_isDigit hc, Nat.ofDigitChars_cons]
      by_cases hle : 10 * n + (c.toNat - '0'.toNat) ≤ bound
      · rw [if_pos hle, ih hle]
        simp [hc]
      · rw [if_neg hle]
        -- the digits that follow do not make it less
        have hgrow := le_ofDigitChars rest (10 * n + (c.toNat - '0'.toNat))
        refine iff_of_false (by simp) ?_
        rintro ⟨-, rfl, hk⟩
        omega
    · simp only [magnitude, digit?_of_not_isDigit hc]
      exact iff_of_false (by simp) fun h => hc (h.1 c (List.mem_cons_self ..))

lemma exists_place_cons {c : Char} {rest : List Char} {P : List Char → Char → Prop} :
    (∃ good d tail, c :: rest = good ++ d :: tail ∧ P good d) ↔
      P [] c ∨ ∃ good d tail, rest = good ++ d :: tail ∧ P (c :: good) d := by
  constructor
  · rintro ⟨good, d, tail, heq, hP⟩
    cases good with
    | nil =>
      cases heq
      exact Or.inl hP
    | cons x good =>
      cases heq
      exact Or.inr ⟨good, d, tail, rfl, hP⟩
  · rintro (hP | ⟨good, d, tail, rfl, hP⟩)
    · exact ⟨[], c, rest, rfl, hP⟩
    · exact ⟨c :: good, d, tail, rfl, hP⟩

lemma magnitude_eq_error_iff (hn : n ≤ bound) {e : ReadError} :
    magnitude bound error n digits = .error e ↔
      ∃ good c rest, digits = good ++ c :: rest ∧ (∀ x ∈ good, x.isDigit) ∧
        Nat.ofDigitChars 10 good n ≤ bound ∧
        (¬ c.isDigit ∧ e = .invalidDigit ∨
          c.isDigit ∧ bound < Nat.ofDigitChars 10 (good ++ [c]) n ∧ e = error) := by
  induction digits generalizing n with
  | nil => simp [magnitude]
  | cons c rest ih =>
    rw [exists_place_cons]
    by_cases hc : c.isDigit
    · simp only [magnitude, digit?_of_isDigit hc]
      by_cases hle : 10 * n + (c.toNat - '0'.toNat) ≤ bound
      · -- the place is in the rest
        rw [if_pos hle, ih hle, or_iff_right]
        · simp only [List.cons_append, Nat.ofDigitChars_cons, List.forall_mem_cons, hc, true_and]
        · rintro ⟨-, -, ⟨hbad, -⟩ | ⟨-, hlt, -⟩⟩
          · exact hbad hc
          · rw [List.nil_append, Nat.ofDigitChars_cons, Nat.ofDigitChars_nil] at hlt
            omega
      · -- the place is here, and none behind it is within the bound
        rw [if_neg hle]
        constructor
        · intro h
          cases h
          refine Or.inl ⟨by simp, by simpa using hn, Or.inr ⟨hc, ?_, rfl⟩⟩
          rw [List.nil_append, Nat.ofDigitChars_cons, Nat.ofDigitChars_nil]
          omega
        · rintro (⟨-, -, ⟨hbad, -⟩ | ⟨-, -, rfl⟩⟩ | ⟨good, d, tail, -, -, hgood, -⟩)
          · exact absurd hc hbad
          · rfl
          · have hgrow := le_ofDigitChars good (10 * n + (c.toNat - '0'.toNat))
            rw [Nat.ofDigitChars_cons] at hgood
            omega
    · -- the place is here, at a character that is no digit
      simp only [magnitude, digit?_of_not_isDigit hc]
      constructor
      · intro h
        cases h
        exact Or.inl ⟨by simp, by simpa using hn, Or.inl ⟨hc, rfl⟩⟩
      · rintro (⟨-, -, ⟨-, rfl⟩ | ⟨hdigit, -⟩⟩ | ⟨good, d, tail, -, hgood, -⟩)
        · rfl
        · exact absurd hdigit hc
        · exact absurd (hgood c (List.mem_cons_self ..)) hc

lemma unsigned_of_ne_nil (h : digits ≠ []) :
    unsigned bound error digits = magnitude bound error 0 digits := by
  cases digits with
  | nil => exact absurd rfl h
  | cons c rest => rfl

end

/-! ### Reading numerals -/

variable {text : List Char} {word : Int64}

lemma read_of_ne_nil (h : text ≠ []) :
    read text = (unsigned (limit text) (overflow text) (body text)).map fun (n : ℕ) =>
      Int64.ofInt (if negative text then -(n : ℤ) else n) := by
  cases text with
  | nil => exact absurd rfl h
  | cons c rest =>
    by_cases hminus : c = '-'
    · subst hminus
      rfl
    by_cases hplus : c = '+'
    · subst hplus
      rfl
    have hneg : negative (c :: rest) = false := by simp [negative, hminus]
    have hbody : body (c :: rest) = c :: rest := by simp [body, hminus, hplus]
    rw [hbody, limit, overflow, hneg, read]
    · rfl
    · simp
    · simpa using hminus
    · simpa using hplus

/-- A word has the sign of the text and an absolute value if this is within the limit, and then there
is one such word. -/
lemma toInt_eq_iff {n : ℕ} :
    word.toInt = (if negative text then -(n : ℤ) else n) ↔
      n ≤ limit text ∧ Int64.ofInt (if negative text then -(n : ℤ) else n) = word := by
  have hrange : n ≤ limit text ↔
      -2 ^ 63 ≤ (if negative text then -(n : ℤ) else n) ∧
        (if negative text then -(n : ℤ) else n) < 2 ^ 63 := by
    rw [limit]
    split_ifs <;> omega
  rw [hrange]
  constructor
  · intro h
    rw [← h]
    exact ⟨⟨word.le_toInt, word.toInt_lt⟩, Int64.ofInt_toInt word⟩
  · rintro ⟨⟨hge, hlt⟩, rfl⟩
    exact Int64.toInt_ofInt_of_le hge hlt

lemma body_nil : body [] = [] := rfl

/-- **A text is read as a word if and only if it is a numeral of it.** -/
theorem read_eq_ok_iff : read text = .ok word ↔ Literal text word := by
  -- a sign alone is no numeral, nor is the empty text
  by_cases hbody : body text = []
  · refine iff_of_false ?_ fun h => h.ne_nil hbody
    by_cases h : text = []
    · simp [h, read]
    · rw [read_of_ne_nil h, hbody]
      exact fun h => nomatch h
  have h : text ≠ [] := by
    rintro rfl
    exact hbody body_nil
  rw [read_of_ne_nil h, unsigned_of_ne_nil hbody]
  constructor
  · intro hread
    obtain ⟨n, hn, hword⟩ := map_eq_ok_iff.1 hread
    obtain ⟨hdigits, rfl, hle⟩ := (magnitude_eq_ok_iff (Nat.zero_le _)).1 hn
    exact ⟨hbody, hdigits, toInt_eq_iff.2 ⟨hle, hword⟩⟩
  · rintro ⟨-, hdigits, hvalue⟩
    obtain ⟨hle, rfl⟩ := toInt_eq_iff.1 hvalue
    rw [(magnitude_eq_ok_iff (Nat.zero_le _)).2 ⟨hdigits, rfl, hle⟩]
    rfl

/-- **Else it is misread**, for the first thing that is wrong with it. -/
theorem read_eq_error_iff {e : ReadError} : read text = .error e ↔ Misread text e := by
  by_cases h : text = []
  · subst h
    constructor
    · intro hread
      cases hread
      exact .empty rfl
    · intro hmis
      cases hmis with
      | empty => rfl
      | noDigit h => exact absurd rfl h
      | badDigit h => simp [body_nil] at h
      | overflow h => simp [body_nil] at h
  rw [read_of_ne_nil h, map_eq_error_iff]
  by_cases hbody : body text = []
  · rw [hbody]
    constructor
    · intro hread
      cases hread
      exact .noDigit h hbody
    · intro hmis
      cases hmis with
      | empty hnil => exact absurd hnil h
      | noDigit => rfl
      | badDigit hplace => simp [hbody] at hplace
      | overflow hplace => simp [hbody] at hplace
  -- there is something behind the sign, and a first place that is wrong
  rw [unsigned_of_ne_nil hbody, magnitude_eq_error_iff (Nat.zero_le _)]
  constructor
  · rintro ⟨good, c, rest, hplace, hgood, hle, ⟨hc, rfl⟩ | ⟨hc, hlt, rfl⟩⟩
    · exact .badDigit hplace hgood hle hc
    · exact .overflow hplace hgood hle hc hlt
  · intro hmis
    cases hmis with
    | empty hnil => exact absurd hnil h
    | noDigit _ hnil => exact absurd hnil hbody
    | badDigit hplace hgood hle hc => exact ⟨_, _, _, hplace, hgood, hle, .inl ⟨hc, rfl⟩⟩
    | overflow hplace hgood hle hc hlt => exact ⟨_, _, _, hplace, hgood, hle, .inr ⟨hc, hlt, rfl⟩⟩

/-! ### What is written -/

lemma eq_minus_or_isDigit_of_mem_chars {c : Char} {n : ℤ} (h : c ∈ chars n) :
    c = '-' ∨ c.isDigit := by
  cases n with
  | ofNat n => exact .inr (Nat.isDigit_of_mem_toDigits (by decide) (by decide) h)
  | negSucc n =>
    rcases List.mem_cons.1 h with rfl | h
    · exact .inl rfl
    · exact .inr (Nat.isDigit_of_mem_toDigits (by decide) (by decide) h)

end Numeral

end StackMachine
