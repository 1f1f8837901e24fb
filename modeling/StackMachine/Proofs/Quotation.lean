import Mathlib.Data.List.Forall2
import Mathlib.Tactic.Common
import StackMachine.Text.Quoted

/-!
Quoted texts. Each character is written in one of three ways, which are told apart by what is behind
the backslash, and the number in an escape ends at its brace. So the written form of a character can be
split off whatever follows it, and texts that are quoted alike are alike, whichever characters are
hidden. A line feed is always escaped, so a quoted text is one line. Which characters are unprintable
is a matter of tables; of some blocks it is known without them.
-/

namespace StackMachine

lemma append_cons_inj {sep : Char} {front front' back back' : List Char} (h : sep ∉ front)
    (h' : sep ∉ front') (heq : front ++ sep :: back = front' ++ sep :: back') :
    front = front' ∧ back = back' := by
  induction front generalizing front' with
  | nil =>
    cases front' with
    | nil => exact ⟨rfl, List.tail_eq_of_cons_eq heq⟩
    | cons c front' =>
      have hsep : sep = c := List.head_eq_of_cons_eq heq
      exact absurd (hsep ▸ List.mem_cons_self ..) h'
  | cons c front ih =>
    cases front' with
    | nil =>
      have hsep : c = sep := List.head_eq_of_cons_eq heq
      exact absurd (hsep ▸ List.mem_cons_self ..) h
    | cons d front' =>
      obtain ⟨hc, hrest⟩ := List.cons.inj heq
      have hcut := ih (fun hmem => h (List.mem_cons_of_mem _ hmem))
        (fun hmem => h' (List.mem_cons_of_mem _ hmem)) hrest
      rw [hc, hcut.1]
      exact ⟨rfl, hcut.2⟩

/-! ### Digits -/

section

variable {base m n : ℕ}

lemma digitChar_inj (hm : m < 16) (hn : n < 16) (h : Nat.digitChar m = Nat.digitChar n) : m = n := by
  have hall : ∀ a < 16, ∀ b < 16, Nat.digitChar a = Nat.digitChar b → a = b := by decide
  exact hall m hm n hn h

lemma exists_digitChar_of_mem {c : Char} (hbase : 1 < base) (h : c ∈ Nat.toDigits base n) :
    ∃ k < base, c = Nat.digitChar k := by
  induction n using Nat.base_induction base hbase with
  | single m hm =>
    rw [Nat.toDigits_of_lt_base hm, List.mem_singleton] at h
    exact ⟨m, hm, h⟩
  | digit m k hk hm ih =>
    rw [← Nat.toDigits_append_toDigits hbase hm hk, Nat.toDigits_of_lt_base hk] at h
    rcases List.mem_append.1 h with h | h
    · exact ih h
    · exact ⟨k, hk, List.mem_singleton.1 h⟩

/-- A number of more than one digit is read off the digits before the last one and that one. -/
lemma toDigits_injective (hbase : 1 < base) (hle : base ≤ 16) :
    Function.Injective (Nat.toDigits base) := by
  intro m
  induction m using Nat.strongRecOn with
  | ind m ih =>
    intro n h
    have hpos : ∀ k, 0 < (Nat.toDigits base k).length := fun k => Nat.length_toDigits_pos
    rw [Nat.toDigits_eq_if hbase, Nat.toDigits_eq_if (n := n) hbase] at h
    -- both have one digit, or both have more
    split_ifs at h with hm hn hn
    · exact digitChar_inj (by omega) (by omega) (List.cons.inj h).1
    · have hlength := congrArg List.length h
      have hfront := hpos (n / base)
      simp only [List.length_append, List.length_singleton] at hlength
      omega
    · have hlength := congrArg List.length h
      have hfront := hpos (m / base)
      simp only [List.length_append, List.length_singleton] at hlength
      omega
    · obtain ⟨hfront, hlast⟩ := List.append_inj' h rfl
      have hdiv := ih (m / base) (Nat.div_lt_self (by omega) hbase) hfront
      have hmod : m % base = n % base :=
        digitChar_inj (Nat.lt_of_lt_of_le (Nat.mod_lt _ (by omega)) hle)
          (Nat.lt_of_lt_of_le (Nat.mod_lt _ (by omega)) hle) (List.cons.inj hlast).1
      rw [← Nat.div_add_mod m base, hdiv, hmod, Nat.div_add_mod]

lemma ne_of_mem_toDigits_sixteen {c : Char} (h : c ∈ Nat.toDigits 16 n) : c ≠ '\x7d' ∧ c ≠ '\n' := by
  obtain ⟨k, hk, rfl⟩ := exists_digitChar_of_mem (by decide) h
  have hall : ∀ k < 16, Nat.digitChar k ≠ '\x7d' ∧ Nat.digitChar k ≠ '\n' := by decide
  exact hall k hk

end

/-! ### Escapes -/

namespace Text

/-- The characters with an escape of their own, and what is behind the backslash. -/
def shortEscapes : List (Char × Char) :=
  [('\x00', '0'), ('\t', 't'), ('\r', 'r'), ('\n', 'n'), ('"', '"'), ('\\', '\\')]

/-- How a character is written if those of `hidden` are shown by their numbers. -/
inductive Written (hidden : Char → Bool) (c : Char) : List Char → Prop
  | short {k : Char} : (c, k) ∈ shortEscapes → Written hidden c ['\\', k]
  | number : (∀ k, (c, k) ∉ shortEscapes) → hidden c = true →
      Written hidden c ('\\' :: 'u' :: '\x7b' :: (Nat.toDigits 16 c.toNat ++ ['\x7d']))
  | plain : (∀ k, (c, k) ∉ shortEscapes) → hidden c = false → Written hidden c [c]

/-- The quoted text has the characters of the text as they are written, between quotation marks. -/
def Quotes (hidden : Char → Bool) (text quoted : String) : Prop :=
  ∃ codes, List.Forall₂ (Written hidden) text.toList codes ∧
    quoted.toList = '"' :: (codes.flatten ++ ['"'])

variable {hidden : Char → Bool} {c d : Char} {code code' rest rest' : List Char}

lemma ne_of_no_short (h : ∀ k, (c, k) ∉ shortEscapes) : ∀ x ∈ shortEscapes, c ≠ x.1 := by
  rintro x hx rfl
  exact h x.2 hx

lemma escape_of_no_short (h : ∀ k, (c, k) ∉ shortEscapes) :
    escape hidden c =
      if hidden c then ['\\', 'u', '\x7b'] ++ Nat.toDigits 16 c.toNat ++ ['\x7d'] else [c] := by
  have hne := ne_of_no_short h
  simp only [shortEscapes, List.forall_mem_cons] at hne
  obtain ⟨h0, ht, hr, hn, hquote, hslash, -⟩ := hne
  rw [escape, if_neg h0, if_neg ht, if_neg hr, if_neg hn, if_neg hquote, if_neg hslash]

lemma written_escape (hidden : Char → Bool) (c : Char) : Written hidden c (escape hidden c) := by
  unfold escape
  split_ifs with h0 ht hr hn hquote hslash hnumber
  · exact .short (by simp [shortEscapes, h0])
  · exact .short (by simp [shortEscapes, ht])
  · exact .short (by simp [shortEscapes, hr])
  · exact .short (by simp [shortEscapes, hn])
  · exact .short (by simp [shortEscapes, hquote])
  · exact .short (by simp [shortEscapes, hslash])
  · exact .number (by simp [shortEscapes, *]) hnumber
  · exact .plain (by simp [shortEscapes, *]) (by simpa using hnumber)

lemma Written.eq_escape (h : Written hidden c code) : code = escape hidden c := by
  cases h with
  | short hk =>
    simp only [shortEscapes, List.mem_cons, List.not_mem_nil, or_false, Prod.mk.injEq] at hk
    rcases hk with ⟨rfl, rfl⟩ | ⟨rfl, rfl⟩ | ⟨rfl, rfl⟩ | ⟨rfl, rfl⟩ | ⟨rfl, rfl⟩ | ⟨rfl, rfl⟩ <;> rfl
  | number hno hnumber =>
    rw [escape_of_no_short hno, if_pos hnumber]
    rfl
  | plain hno hplain => rw [escape_of_no_short hno, if_neg (by simp [hplain])]

lemma Written.ne_nil (h : Written hidden c code) : code ≠ [] := by
  cases h <;> simp

lemma Written.newline_not_mem (h : Written hidden c code) : '\n' ∉ code := by
  cases h with
  | @short k hk =>
    have hall : ∀ escaped ∈ shortEscapes, '\n' ≠ escaped.2 := by decide
    simpa using hall _ hk
  | number =>
    have hdigits : '\n' ∉ Nat.toDigits 16 c.toNat :=
      fun hmem => (ne_of_mem_toDigits_sixteen hmem).2 rfl
    simpa using hdigits
  | plain hno => simpa using (ne_of_no_short hno ('\n', 'n') (by decide)).symm

/-- What is written for a character can be split off a text in one way. -/
lemma Written.append_inj (h : Written hidden c code) (h' : Written hidden d code')
    (heq : code ++ rest = code' ++ rest') : c = d ∧ rest = rest' := by
  have hshort : ∀ x ∈ shortEscapes, x.2 ≠ 'u' ∧ ∀ y ∈ shortEscapes, x.2 = y.2 → x.1 = y.1 := by
    decide
  cases h with
  | short hk =>
    cases h' with
    | short hk' =>
      simp only [List.cons_append, List.nil_append, List.cons.injEq, true_and] at heq
      exact ⟨(hshort _ hk).2 _ hk' heq.1, heq.2⟩
    | number =>
      simp only [List.cons_append, List.nil_append, List.cons.injEq, true_and] at heq
      exact absurd heq.1 (hshort _ hk).1
    | plain hno =>
      have hslash := ne_of_no_short hno ('\\', '\\') (by decide)
      exact absurd (List.head_eq_of_cons_eq heq).symm hslash
  | number =>
    cases h' with
    | short hk' =>
      simp only [List.cons_append, List.nil_append, List.cons.injEq, true_and] at heq
      exact absurd heq.1.symm (hshort _ hk').1
    | number =>
      simp only [List.cons_append, List.nil_append, List.append_assoc, List.cons.injEq,
        true_and] at heq
      obtain ⟨hdigits, hrest⟩ := append_cons_inj
        (fun hmem => (ne_of_mem_toDigits_sixteen hmem).1 rfl)
        (fun hmem => (ne_of_mem_toDigits_sixteen hmem).1 rfl) heq
      exact ⟨Char.toNat_inj.1 (toDigits_injective (by decide) (by decide) hdigits), hrest⟩
    | plain hno =>
      have hslash := ne_of_no_short hno ('\\', '\\') (by decide)
      exact absurd (List.head_eq_of_cons_eq heq).symm hslash
  | plain hno =>
    have hslash := ne_of_no_short hno ('\\', '\\') (by decide)
    cases h' with
    | short => exact absurd (List.head_eq_of_cons_eq heq) hslash
    | number => exact absurd (List.head_eq_of_cons_eq heq) hslash
    | plain => exact List.cons.inj heq

/-! ### Quoted texts -/

lemma flatMap_escape_inj {text text' : List Char}
    (heq : text.flatMap (escape hidden) = text'.flatMap (escape hidden)) : text = text' := by
  induction text generalizing text' with
  | nil =>
    cases text' with
    | nil => rfl
    | cons d text' =>
      have hnil := (List.append_eq_nil_iff.1 heq.symm).1
      exact absurd hnil (written_escape hidden d).ne_nil
  | cons c text ih =>
    cases text' with
    | nil =>
      have hnil := (List.append_eq_nil_iff.1 heq).1
      exact absurd hnil (written_escape hidden c).ne_nil
    | cons d text' =>
      obtain ⟨rfl, hrest⟩ := (written_escape hidden c).append_inj (written_escape hidden d) heq
      rw [ih hrest]

lemma toList_quoteWith (text : String) :
    (quoteWith hidden text).toList = '"' :: (text.toList.flatMap (escape hidden) ++ ['"']) := by
  simp [quoteWith]

lemma quotes_iff {text quoted : String} :
    Quotes hidden text quoted ↔ quoted = quoteWith hidden text := by
  rw [← String.toList_inj, toList_quoteWith, List.flatMap_def]
  constructor
  · rintro ⟨codes, hcodes, hquoted⟩
    have heq : text.toList.map (escape hidden) = codes :=
      List.forall₂_eq_eq_eq ▸ List.forall₂_map_left_iff.2 (hcodes.imp fun _ _ h => h.eq_escape.symm)
    rw [hquoted, heq]
  · intro hquoted
    refine ⟨text.toList.map (escape hidden), ?_, hquoted⟩
    rw [List.forall₂_map_right_iff, List.forall₂_same]
    exact fun c _ => written_escape hidden c

/-- **Texts that are quoted alike are alike**, whichever characters are hidden. -/
theorem quoteWith_injective (hidden : Char → Bool) : Function.Injective (quoteWith hidden) := by
  intro text text' h
  have hlist := congrArg String.toList h
  rw [toList_quoteWith, toList_quoteWith] at hlist
  exact String.toList_inj.1 (flatMap_escape_inj (List.append_cancel_right (List.cons.inj hlist).2))

lemma newline_not_mem_quoteWith (hidden : Char → Bool) (text : String) :
    '\n' ∉ (quoteWith hidden text).toList := by
  have hescapes : '\n' ∉ text.toList.flatMap (escape hidden) := by
    intro hmem
    obtain ⟨c, -, hc⟩ := List.mem_flatMap.1 hmem
    exact (written_escape hidden c).newline_not_mem hc
  rw [toList_quoteWith]
  simpa using hescapes

/-! ### Unprintable characters -/

/-- What is known of unprintable characters by their blocks. Below the combining marks they are the
control characters, the no-break space and the soft hyphen; in the areas for private use and in the last
planes there are only such; and there are none among the ideographs and the syllables of Hangul. -/
structure FollowsBlocks (hidden : Char → Bool) : Prop where
  latin : ∀ c, c.toNat < 0x300 →
    (hidden c = true ↔ c.toNat < 0x20 ∨ 0x7f ≤ c.toNat ∧ c.toNat ≤ 0xa0 ∨ c.toNat = 0xad)
  privateUse : ∀ c, 0xe000 ≤ c.toNat ∧ c.toNat ≤ 0xf8ff ∨ 0xe0000 ≤ c.toNat → hidden c = true
  ideograph : ∀ c, 0x4e00 ≤ c.toNat ∧ c.toNat ≤ 0x9fff ∨ 0xac00 ≤ c.toNat ∧ c.toNat ≤ 0xd7a3 ∨
    0x20000 ≤ c.toNat ∧ c.toNat ≤ 0x2a6df → hidden c = false

section

variable {ranges : Array (ℕ × ℕ)} {low high : ℕ}

lemma inRanges_iff :
    inRanges ranges c = true ↔ ∃ r ∈ ranges.toList, r.1 ≤ c.toNat ∧ c.toNat ≤ r.2 := by
  simp [inRanges, ← Array.any_toList]

variable (low high) in
lemma inRanges_of_mem (h : (low, high) ∈ ranges.toList) (hc : low ≤ c.toNat ∧ c.toNat ≤ high) :
    inRanges ranges c = true :=
  inRanges_iff.2 ⟨_, h, hc⟩

lemma not_inRanges_of_gap (h : ∀ r ∈ ranges.toList, r.2 < low ∨ high < r.1)
    (hc : low ≤ c.toNat ∧ c.toNat ≤ high) : inRanges ranges c = false := by
  rw [Bool.eq_false_iff, ne_eq, inRanges_iff]
  rintro ⟨r, hr, hrange⟩
  have hgap := h r hr
  omega

end

theorem isUnprintable_followsBlocks : FollowsBlocks isUnprintable where
  latin c hc := by
    -- only the first three ranges of the table begin so low
    have hfirst : ∀ r ∈ unprintableLow.toList, r.1 < 0x300 →
        r ∈ [(0, 0x1f), (0x7f, 0xa0), (0xad, 0xad)] := by decide +kernel
    have hmem : ∀ r ∈ [(0, 0x1f), (0x7f, 0xa0), (0xad, 0xad)], r ∈ unprintableLow.toList := by
      decide +kernel
    rw [isUnprintable, if_pos (by omega), inRanges_iff]
    constructor
    · rintro ⟨r, hr, hrange⟩
      have hknown := hfirst r hr (by omega)
      simp only [List.mem_cons, List.not_mem_nil, or_false] at hknown
      rcases hknown with rfl | rfl | rfl <;> simp only at hrange <;> omega
    · rintro (h | h | h)
      · exact ⟨_, hmem (0, 0x1f) (by decide), by simp only; omega⟩
      · exact ⟨_, hmem (0x7f, 0xa0) (by decide), by simp only; omega⟩
      · exact ⟨_, hmem (0xad, 0xad) (by decide), by simp only; omega⟩
  privateUse c hc := by
    unfold isUnprintable
    rcases hc with hc | hc
    · rw [if_neg (by omega), if_pos (by omega)]
      exact inRanges_of_mem 0xd7fc 0xf8ff (by decide +kernel) (by omega)
    · have hlast : c.toNat ≤ 0x10ffff := by
        have hvalid := c.valid
        rcases hvalid with h | h <;> simp only [Char.toNat] <;> omega
      rw [if_neg (by omega), if_neg (by omega)]
      exact inRanges_of_mem 0x3347a 0x10ffff (by decide +kernel) (by omega)
  ideograph c hc := by
    unfold isUnprintable
    rcases hc with hc | hc | hc
    · rw [if_neg (by omega), if_pos (by omega)]
      exact not_inRanges_of_gap (by decide +kernel) hc
    · rw [if_neg (by omega), if_pos (by omega)]
      exact not_inRanges_of_gap (by decide +kernel) hc
    · rw [if_neg (by omega), if_neg (by omega)]
      exact not_inRanges_of_gap (by decide +kernel) hc

end Text

end StackMachine
