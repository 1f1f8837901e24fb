import Mathlib.Algebra.Group.Int.Defs
import Mathlib.Data.List.TakeWhile
import StackMachine.Proofs.Numerals

/-!
Numerals of integers. A text spells an integer, which may be no word, if behind at most one sign it has
digits only, at least one of them. The digits of a text are read one by one, and the reading ends where
they exceed the limit; since more digits do not make a value less, it comes to the same to look at the
integer of all the leading digits first, and at what is behind them only if that is a word. What is
written for an integer spells it, and no text spells two.
-/

namespace StackMachine

namespace Numeral

/-- The text spells the integer: there is at most one sign, and behind it are digits, at least one. -/
inductive Spells : List Char → ℤ → Prop
  | bare {digits : List Char} : digits ≠ [] → (∀ c ∈ digits, c.isDigit) →
      Spells digits (value digits)
  | plus {digits : List Char} : digits ≠ [] → (∀ c ∈ digits, c.isDigit) →
      Spells ('+' :: digits) (value digits)
  | minus {digits : List Char} : digits ≠ [] → (∀ c ∈ digits, c.isDigit) →
      Spells ('-' :: digits) (-value digits)

/-- The digits behind the sign of a text, up to the first character that is no digit. -/
def leadingDigits (text : List Char) : List Char :=
  (body text).takeWhile Char.isDigit

/-- What the leading digits of a text denote, with its sign. -/
def leading (text : List Char) : ℤ :=
  if negative text then -value (leadingDigits text) else value (leadingDigits text)

example : leading "-12x7".toList = -12 := by decide

/-- Behind its sign the text has digits only, at least one of them. -/
def wellFormed (text : List Char) : Bool :=
  !(body text).isEmpty && (body text).all Char.isDigit

variable {text : List Char} {word : Int64} {n : ℤ}

/-! ### The leading digits -/

/-- A digit is no sign, so digits are their own body. -/
lemma body_of_digits {digits : List Char} (h : ∀ c ∈ digits, c.isDigit) :
    negative digits = false ∧ body digits = digits := by
  cases digits with
  | nil => exact ⟨rfl, rfl⟩
  | cons c rest =>
    have hc := h c (List.mem_cons_self ..)
    have hminus : c ≠ '-' := by
      rintro rfl
      simp at hc
    have hplus : c ≠ '+' := by
      rintro rfl
      simp at hc
    simp [negative, body, hminus, hplus]

lemma wellFormed_iff : wellFormed text ↔ body text ≠ [] ∧ ∀ c ∈ body text, c.isDigit := by
  simp [wellFormed]

lemma leadingDigits_of_digits (h : ∀ c ∈ body text, c.isDigit) : leadingDigits text = body text :=
  List.takeWhile_eq_self_iff.2 h

/-- What a text spells is what its leading digits denote, if there are no others behind them. -/
lemma spells_iff : Spells text n ↔ wellFormed text ∧ n = leading text := by
  rw [wellFormed_iff, and_assoc]
  constructor
  · intro h
    cases h with
    | bare hne hdigits =>
      obtain ⟨hneg, hbody⟩ := body_of_digits hdigits
      rw [leading, leadingDigits_of_digits (by rwa [hbody]), hbody, hneg]
      exact ⟨hne, hdigits, rfl⟩
    | @plus digits hne hdigits =>
      have hbody : body ('+' :: digits) = digits := rfl
      rw [leading, leadingDigits_of_digits (by rwa [hbody]), hbody]
      exact ⟨hne, hdigits, rfl⟩
    | @minus digits hne hdigits =>
      have hbody : body ('-' :: digits) = digits := rfl
      rw [leading, leadingDigits_of_digits (by rwa [hbody]), hbody]
      exact ⟨hne, hdigits, rfl⟩
  · rintro ⟨hne, hdigits, rfl⟩
    rw [leading, leadingDigits_of_digits hdigits]
    cases text with
    | nil => exact absurd body_nil hne
    | cons c rest =>
      -- whether there is a sign is told by the first character
      by_cases hminus : c = '-'
      · subst hminus
        exact .minus hne hdigits
      by_cases hplus : c = '+'
      · subst hplus
        exact .plus hne hdigits
      · have hneg : negative (c :: rest) = false := by simp [negative, hminus]
        have hbody : body (c :: rest) = c :: rest := by simp [body, hminus, hplus]
        rw [hneg]
        rw [hbody] at hne hdigits ⊢
        exact .bare hne hdigits

lemma literal_iff_spells : Literal text word ↔ Spells text word.toInt := by
  rw [spells_iff, wellFormed_iff]
  constructor
  · rintro ⟨hne, hdigits, hvalue⟩
    rw [leading, leadingDigits_of_digits hdigits]
    exact ⟨⟨hne, hdigits⟩, hvalue⟩
  · rintro ⟨⟨hne, hdigits⟩, hvalue⟩
    rw [leading, leadingDigits_of_digits hdigits] at hvalue
    exact ⟨hne, hdigits, hvalue⟩

/-! ### Reading by the leading digits -/

lemma magnitude_eq {bound n : ℕ} {error : ReadError} {digits : List Char} (hn : n ≤ bound) :
    magnitude bound error n digits =
      if bound < Nat.ofDigitChars 10 (digits.takeWhile Char.isDigit) n then .error error
      else if digits.all Char.isDigit then .ok (Nat.ofDigitChars 10 digits n)
      else .error .invalidDigit := by
  induction digits generalizing n with
  | nil => simp [magnitude, hn]
  | cons c rest ih =>
    by_cases hc : c.isDigit
    · rw [List.takeWhile_cons_of_pos hc]
      simp only [magnitude, digit?_of_isDigit hc, Nat.ofDigitChars_cons, List.all_cons, hc,
        Bool.true_and]
      by_cases hle : 10 * n + (c.toNat - '0'.toNat) ≤ bound
      · rw [if_pos hle, ih hle]
      · -- the value is too large already, and no digit makes it less
        have hgrow := le_ofDigitChars (rest.takeWhile Char.isDigit) (10 * n + (c.toNat - '0'.toNat))
        rw [if_neg hle, if_pos (by omega)]
    · rw [List.takeWhile_cons_of_neg hc, Nat.ofDigitChars_nil, if_neg (by omega), if_neg (by simp [hc])]
      simp only [magnitude, digit?_of_not_isDigit hc]

/-- **What a text is read as**, by its leading digits and what is behind them. -/
theorem read_eq (h : text ≠ []) :
    read text =
      if 2 ^ 63 - 1 < leading text then .error .tooLarge
      else if leading text < -2 ^ 63 then .error .tooSmall
      else if wellFormed text then .ok (Int64.ofInt (leading text))
      else .error .invalidDigit := by
  -- with either sign there is one limit that the leading digits can exceed
  have hlimit : read text =
      if limit text < value (leadingDigits text) then .error (overflow text)
      else if wellFormed text then .ok (Int64.ofInt (leading text))
      else .error .invalidDigit := by
    rw [read_of_ne_nil h]
    by_cases hbody : body text = []
    · simp [leadingDigits, wellFormed, hbody, value, unsigned, Except.map]
    rw [unsigned_of_ne_nil hbody, magnitude_eq (Nat.zero_le _)]
    by_cases hlt : limit text < value (leadingDigits text)
    · rw [if_pos hlt]
      exact congrArg _ (if_pos hlt)
    rw [if_neg hlt]
    refine (congrArg _ (if_neg hlt)).trans ?_
    have hall : (body text).all Char.isDigit = wellFormed text := by simp [wellFormed, hbody]
    rw [hall]
    by_cases hwell : wellFormed text
    · rw [if_pos hwell, if_pos hwell, leading,
        leadingDigits_of_digits (wellFormed_iff.1 hwell).2]
      rfl
    · rw [if_neg hwell, if_neg hwell]
      rfl
  by_cases hneg : negative text
  · have hleading : leading text = -value (leadingDigits text) := if_pos hneg
    have hiff : limit text < value (leadingDigits text) ↔ leading text < -2 ^ 63 := by
      rw [hleading, limit, if_pos hneg]
      omega
    simp only [hlimit, hiff, overflow, if_pos hneg]
    exact (if_neg (by omega)).symm
  · have hleading : leading text = value (leadingDigits text) := if_neg hneg
    have hiff : limit text < value (leadingDigits text) ↔ 2 ^ 63 - 1 < leading text := by
      rw [hleading, limit, if_neg hneg]
      omega
    have hge : ¬ leading text < -2 ^ 63 := by omega
    simp only [hlimit, hiff, overflow, if_neg hneg, if_neg hge]

/-! ### What is wrong with a text -/

variable {cause : ReadError}

lemma cause_eq_empty_iff (h : read text = .error cause) : cause = .empty ↔ text = [] := by
  by_cases hnil : text = []
  · subst hnil
    cases h
    exact iff_of_true rfl rfl
  · refine iff_of_false ?_ hnil
    rintro rfl
    rw [read_eq hnil] at h
    split_ifs at h <;> cases h

lemma cause_of_spells (h : read text = .error cause) (hn : Spells text n) :
    (cause = .tooLarge ↔ 2 ^ 63 - 1 < n) ∧ (cause = .tooSmall ↔ n < -2 ^ 63) := by
  obtain ⟨hwell, rfl⟩ := spells_iff.1 hn
  have hne : text ≠ [] := by
    rintro rfl
    exact absurd hwell (by decide)
  rw [read_eq hne, if_pos hwell] at h
  split_ifs at h with hlarge hsmall
  · cases h
    exact ⟨iff_of_true rfl hlarge, iff_of_false nofun (by omega)⟩
  · cases h
    exact ⟨iff_of_false nofun hlarge, iff_of_true rfl hsmall⟩

/-- A text that spells none is refused for the size of what its leading digits denote, or else for what
is behind them. -/
lemma read_of_not_spells (hne : text ≠ []) (h : ∀ n, ¬ Spells text n) :
    read text = .error (if 2 ^ 63 - 1 < leading text then .tooLarge
      else if leading text < -2 ^ 63 then .tooSmall else .invalidDigit) := by
  have hill : ¬ wellFormed text := fun hwell => h _ (spells_iff.2 ⟨hwell, rfl⟩)
  rw [read_eq hne, if_neg hill]
  split_ifs <;> rfl

lemma exists_read_iff :
    (∃ word, read text = .ok word) ↔ ∃ n, Spells text n ∧ -2 ^ 63 ≤ n ∧ n ≤ 2 ^ 63 - 1 := by
  simp only [read_eq_ok_iff, literal_iff_spells]
  constructor
  · rintro ⟨word, h⟩
    exact ⟨_, h, word.le_toInt, Int.le_sub_one_of_lt word.toInt_lt⟩
  · rintro ⟨n, h, hge, hle⟩
    have hword : (Int64.ofInt n).toInt = n :=
      Int64.toInt_ofInt_of_le hge (Int.lt_of_le_sub_one hle)
    exact ⟨Int64.ofInt n, by rwa [hword]⟩

/-! ### Reading what is written -/

lemma Spells.unique {m : ℤ} (h : Spells text m) (h' : Spells text n) : m = n :=
  (spells_iff.1 h).2.trans (spells_iff.1 h').2.symm

lemma spells_chars (n : ℤ) : Spells (chars n) n := by
  have hspells : ∀ n : ℕ, Nat.toDigits 10 n ≠ [] ∧ (∀ c ∈ Nat.toDigits 10 n, c.isDigit) ∧
      value (Nat.toDigits 10 n) = n := fun n =>
    ⟨Nat.toDigits_ne_nil, fun _ => Nat.isDigit_of_mem_toDigits (by decide) (by decide),
      Nat.ofDigitChars_ten_toDigits⟩
  cases n with
  | ofNat n =>
    obtain ⟨hne, hdigits, hvalue⟩ := hspells n
    have hbare := Spells.bare hne hdigits
    rwa [hvalue] at hbare
  | negSucc n =>
    obtain ⟨hne, hdigits, hvalue⟩ := hspells (n + 1)
    have hminus := Spells.minus hne hdigits
    rwa [hvalue] at hminus

theorem literal_chars (word : Int64) : Literal (chars word.toInt) word :=
  literal_iff_spells.2 (spells_chars word.toInt)

lemma chars_injective : Function.Injective chars := by
  intro m n h
  have hm := spells_chars m
  rw [h] at hm
  exact hm.unique (spells_chars n)

end Numeral

end StackMachine
