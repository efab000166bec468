import Switchboard.Json.Doc

/-!
# What is written is read again

* `lex_chars` — the text of a value splits into the tokens that it was made of;
* `Parser.run_tokens` — these tokens make the value again;
* `Reading.ofText_compact` — so a text that was written holds the value it was written for, and
  nothing behind it.
-/

set_option autoImplicit false

namespace Switchboard.Json

/-! ## Strings -/

theorem hexValue?_hexDigit : ∀ n < 16, hexValue? (hexDigit n) = some n := by decide

theorem toNat_not_surrogate (c : Char) : c.toNat < 0xD800 ∨ 0xDFFF < c.toNat := by
  rcases c.valid with h | ⟨h, -⟩
  · exact .inl h
  · exact .inr h

/-- Whole characters are never taken for halves. -/
theorem pairSurrogates_toNat (s : List Char) : pairSurrogates (s.map Char.toNat) = some s := by
  induction s with
  | nil => rfl
  | cons c s ih =>
    have hc := toNat_not_surrogate c
    rw [List.map_cons, pairSurrogates.eq_def]
    dsimp only
    rw [if_neg (by omega), if_neg (by omega), ih, Option.map_some, Char.ofNat_toNat]

namespace Lexer

theorem run_cons (s : Lexer) (c : Char) (text : List Char) :
    s.run (c :: text) = (s.step c).2 ++ (s.step c).1.run text := rfl

/-- Inside a string, what stands for a character is read as the character. -/
theorem run_escape (c : Char) (read : List Nat) (rest : List Char) :
    (string read).run (escape c ++ rest) = (string (c.toNat :: read)).run rest := by
  unfold escape
  split
  · subst_vars; rfl
  split
  · subst_vars; rfl
  split
  · subst_vars; rfl
  split
  · subst_vars; rfl
  split
  · subst_vars; rfl
  split
  · subst_vars; rfl
  split
  · subst_vars; rfl
  split
  · rename_i h
    have h₁ := hexValue?_hexDigit (c.toNat / 16) (by omega)
    have h₂ : hexValue? (hexDigit c.toNat) = some (c.toNat % 16) := by
      rw [← hexValue?_hexDigit (c.toNat % 16) (by omega), hexDigit, hexDigit, Nat.mod_mod]
    have hc : 16 * (c.toNat / 16) + c.toNat % 16 = c.toNat := by omega
    have h₀ : hexValue? '0' = some 0 := rfl
    simp [run_cons, step, unescape, h₀, h₁, h₂, hc]
  · rename_i h₁ h₂ _ _ _ _ _ h₃
    simp [run_cons, step, h₁, h₂, h₃]

theorem run_escapes (s : List Char) (read : List Nat) (rest : List Char) :
    (string read).run (s.flatMap escape ++ rest) =
      (string ((s.map Char.toNat).reverse ++ read)).run rest := by
  induction s generalizing read with
  | nil => rfl
  | cons c s ih =>
    rw [List.flatMap_cons, List.append_assoc, run_escape, ih]
    simp

theorem run_quote (s rest : List Char) :
    between.run (quote s ++ rest) = .string (some s) :: between.run rest := by
  have hs : between.run (quote s ++ rest) = (string []).run (s.flatMap escape ++ '"' :: rest) := by
    simp [quote, run_cons, step, start]
  rw [hs, run_escapes]
  simp [run_cons, step, pairSurrogates_toNat]

end Lexer

/-! ## Numbers -/

theorem digitChar_ne_zero : ∀ n < 10, n ≠ 0 → Nat.digitChar n ≠ '0' := by decide

/-- Only zero is written with a leading zero. -/
theorem head_toDigits_ne_zero {n : Nat} (hn : n ≠ 0) : (Nat.toDigits 10 n).head? ≠ some '0' := by
  induction n using Nat.strongRecOn with
  | ind n ih =>
    rw [Nat.toDigits_eq_if (by decide)]
    split
    · rename_i h
      simpa using digitChar_ne_zero n h hn
    · have hq : n / 10 ≠ 0 := by omega
      rw [List.head?_append, Option.or_of_isSome (by simp [Nat.toDigits_ne_nil])]
      exact ih (n / 10) (by omega) hq

/-- A value may end before this text: there is no more, or the container goes on or ends. -/
def EndsBefore (rest : List Char) : Prop :=
  ∀ c text, rest = c :: text → c = ',' ∨ c = ']' ∨ c = '\x7d'

namespace Lexer

theorem run_number_end {p : NumberPart} (hp : p = .zero ∨ p = .whole) (read : List Char)
    {rest : List Char} (h : EndsBefore rest) :
    (number p read).run rest = .number read.reverse :: between.run rest := by
  cases rest with
  | nil => rcases hp with rfl | rfl <;> rfl
  | cons c text =>
    rcases h c text rfl with rfl | rfl | rfl <;> rcases hp with rfl | rfl <;> rfl

theorem run_digits {digits : List Char} (hd : ∀ c ∈ digits, c.isDigit) (read : List Char)
    {rest : List Char} (h : EndsBefore rest) :
    (number .whole read).run (digits ++ rest) =
      .number (read.reverse ++ digits) :: between.run rest := by
  induction digits generalizing read with
  | nil => simpa using run_number_end (.inr rfl) read h
  | cons c digits ih =>
    have hc := hd c (by simp)
    have hstep : (number .whole read).step c = (number .whole (c :: read), []) := by
      simp [step, NumberPart.next?, hc]
    rw [List.cons_append, run_cons, hstep, List.nil_append,
      ih (fun d hd' => hd d (List.mem_cons_of_mem c hd'))]
    simp

theorem start_of_isDigit {c : Char} (hd : c.isDigit) (h₀ : c ≠ '0') :
    start c = (number .whole [c], []) := by
  have hne : ∀ x : Char, x.isDigit = false → c ≠ x := by
    rintro x hx rfl
    rw [hd] at hx
    cases hx
  simp (disch := decide) [start, hd, h₀, hne]

/-- A natural number is read from any place that takes its digits. -/
theorem run_toDigits (s : Lexer) (read : List Char)
    (hzero : s.step '0' = (number .zero ('0' :: read), []))
    (hwhole : ∀ c : Char, c.isDigit → c ≠ '0' → s.step c = (number .whole (c :: read), []))
    (n : Nat) {rest : List Char} (h : EndsBefore rest) :
    s.run (Nat.toDigits 10 n ++ rest) =
      .number (read.reverse ++ Nat.toDigits 10 n) :: between.run rest := by
  by_cases hn : n = 0
  · subst hn
    rw [Nat.toDigits_zero, List.singleton_append, run_cons, hzero, List.nil_append,
      run_number_end (.inl rfl) _ h, List.reverse_cons]
  · have hd : ∀ c ∈ Nat.toDigits 10 n, c.isDigit := fun c hc =>
      Nat.isDigit_of_mem_toDigits (by decide) (by decide) hc
    have h₀ := head_toDigits_ne_zero hn
    cases hds : Nat.toDigits 10 n with
    | nil => exact absurd hds Nat.toDigits_ne_nil
    | cons c ds =>
      rw [hds] at hd h₀
      have hc : c ≠ '0' := fun he => h₀ (congrArg some he)
      rw [List.cons_append, run_cons, hwhole c (hd c (by simp)) hc, List.nil_append,
        run_digits (fun d hd' => hd d (List.mem_cons_of_mem c hd')) _ h]
      simp

theorem run_decimal (n : Int) {rest : List Char} (h : EndsBefore rest) :
    between.run (decimal n ++ rest) = .number (decimal n) :: between.run rest := by
  unfold decimal
  split
  · refine run_toDigits (number .minus ['-']) ['-'] rfl ?_ n.natAbs h
    intro c hd h₀
    simp [step, NumberPart.next?, hd, h₀]
  · exact run_toDigits between [] rfl (fun c => start_of_isDigit) n.natAbs h

end Lexer

/-! ## Values -/

/-- The spelling of tokens. -/
def spell (tokens : List Token) : List Char := tokens.flatMap Token.chars

@[simp] theorem spell_cons (t : Token) (tokens : List Token) :
    spell (t :: tokens) = t.chars ++ spell tokens := rfl

@[simp] theorem spell_append (xs ys : List Token) : spell (xs ++ ys) = spell xs ++ spell ys :=
  List.flatMap_append

theorem endsBefore_nil : EndsBefore [] := by
  intro c text h
  cases h

theorem endsBefore_itemTokens (xs : List Json) (rest : List Char) :
    EndsBefore (spell (itemTokens xs) ++ rest) := by
  intro c text h
  cases xs <;> cases h <;> simp

theorem endsBefore_fieldTokens (fields : List (String × Json)) (rest : List Char) :
    EndsBefore (spell (fieldTokens fields) ++ rest) := by
  intro c text h
  cases fields <;> cases h <;> simp

namespace Lexer

theorem run_mark {t : Token} (ht : t = .openBracket ∨ t = .openBrace ∨ t = .comma)
    (rest : List Char) : between.run (t.chars ++ rest) = t :: between.run rest := by
  rcases ht with rfl | rfl | rfl <;> rfl

theorem run_field (key : String) (tokens : List Token) (rest : List Char) :
    between.run (spell (.string (some key.toList) :: .colon :: tokens) ++ rest) =
      .string (some key.toList) :: .colon :: between.run (spell tokens ++ rest) := by
  rw [spell_cons, List.append_assoc]
  exact run_quote key.toList _

mutual

/-- The text of a value splits into its tokens, whatever ends the value. -/
theorem run_tokens : ∀ (v : Json) {rest : List Char}, EndsBefore rest →
    between.run (spell v.tokens ++ rest) = v.tokens ++ between.run rest
  | .null, _, _ => rfl
  | .bool true, _, _ => rfl
  | .bool false, _, _ => rfl
  | .int n, _, h => by simpa [tokens, spell, Token.chars] using run_decimal n h
  | .string s, rest, _ => by simpa [tokens, spell, Token.chars] using run_quote s.toList rest
  | .array [], _, _ => rfl
  | .array (x :: xs), rest, h => by
    have hx := run_tokens x (endsBefore_itemTokens xs rest)
    have hxs := run_itemTokens xs h
    rw [tokens, spell_cons, List.append_assoc, run_mark (by simp), spell_append, List.append_assoc,
      hx, hxs]
    simp
  | .object [], _, _ => rfl
  | .object ((key, x) :: fields), rest, h => by
    have hx := run_tokens x (endsBefore_fieldTokens fields rest)
    have hfields := run_fieldTokens fields h
    rw [tokens, spell_cons, List.append_assoc, run_mark (by simp), run_field, spell_append,
      List.append_assoc, hx, hfields]
    simp

theorem run_itemTokens : ∀ (xs : List Json) {rest : List Char}, EndsBefore rest →
    between.run (spell (itemTokens xs) ++ rest) = itemTokens xs ++ between.run rest
  | [], _, _ => rfl
  | x :: xs, rest, h => by
    have hx := run_tokens x (endsBefore_itemTokens xs rest)
    have hxs := run_itemTokens xs h
    rw [itemTokens, spell_cons, List.append_assoc, run_mark (by simp), spell_append,
      List.append_assoc, hx, hxs]
    simp

theorem run_fieldTokens : ∀ (fields : List (String × Json)) {rest : List Char}, EndsBefore rest →
    between.run (spell (fieldTokens fields) ++ rest) = fieldTokens fields ++ between.run rest
  | [], _, _ => rfl
  | (key, x) :: fields, rest, h => by
    have hx := run_tokens x (endsBefore_fieldTokens fields rest)
    have hfields := run_fieldTokens fields h
    rw [fieldTokens, spell_cons, List.append_assoc, run_mark (by simp), run_field, spell_append,
      List.append_assoc, hx, hfields]
    simp

end

end Lexer

theorem lex_chars (v : Json) : lex v.chars = v.tokens := by
  have h := Lexer.run_tokens v endsBefore_nil
  rw [List.append_nil] at h
  exact h.trans (List.append_nil _)

/-! ## From the tokens back to the value -/

namespace Parser

theorem run_cons (p : Parser) (t : Token) (tokens : List Token) :
    p.run (t :: tokens) = (p.step t).run tokens := rfl

theorem run_append (p : Parser) (xs ys : List Token) : p.run (xs ++ ys) = (p.run xs).run ys :=
  List.foldl_append

/-- A value never starts with the end of an array. -/
theorem run_item (v : Json) (stack : List Frame) :
    (inside .item stack).run v.tokens = (inside .value stack).run v.tokens := by
  cases v with
  | array xs => cases xs <;> rfl
  | object fields => cases fields <;> rfl
  | _ => rfl

mutual

/-- The tokens of a value put the value in its place. -/
theorem run_tokens : ∀ (v : Json) (stack : List Frame),
    (inside .value stack).run v.tokens = place v.toDoc stack
  | .null, _ => rfl
  | .bool _, _ => rfl
  | .int _, _ => rfl
  | .string s, stack => by
    simp [tokens, toDoc, run, step, value, Token.scalar?]
  | .array [], _ => rfl
  | .array (x :: xs), stack => by
    rw [tokens, run_cons]
    change (inside .item (.items [] :: stack)).run _ = _
    rw [run_append, run_item, run_tokens x]
    exact run_itemTokens xs [toDoc x] stack
  | .object [], _ => rfl
  | .object ((key, x) :: fields), stack => by
    rw [tokens, run_cons, run_cons, run_cons]
    change (inside .value (.field [] (keyOf (some key.toList)) :: stack)).run _ = _
    rw [run_append, run_tokens x]
    have hfields := run_fieldTokens fields [(.text key, toDoc x)] stack
    simpa [toDoc, fieldDocs, place, keyOf] using hfields

theorem run_itemTokens : ∀ (xs : List Json) (read : List Doc) (stack : List Frame),
    (inside .more (.items read :: stack)).run (itemTokens xs) =
      place (.array (read.reverse ++ itemDocs xs)) stack
  | [], _, _ => by simp [itemTokens, itemDocs, run, step]
  | x :: xs, read, stack => by
    rw [itemTokens, run_cons]
    change (inside .value (.items read :: stack)).run _ = _
    rw [run_append, run_tokens x]
    have hxs := run_itemTokens xs (toDoc x :: read) stack
    simpa [itemDocs, place] using hxs

theorem run_fieldTokens : ∀ (fields : List (String × Json)) (read : List (Key × Doc))
    (stack : List Frame),
    (inside .more (.fields read :: stack)).run (fieldTokens fields) =
      place (.object (read.reverse ++ fieldDocs fields)) stack
  | [], _, _ => by simp [fieldTokens, fieldDocs, run, step]
  | (key, x) :: fields, read, stack => by
    rw [fieldTokens, run_cons, run_cons, run_cons]
    change (inside .value (.field read (keyOf (some key.toList)) :: stack)).run _ = _
    rw [run_append, run_tokens x]
    have hfields := run_fieldTokens fields ((.text key, toDoc x) :: read) stack
    simpa [fieldDocs, place, keyOf] using hfields

end

end Parser

/-- **What is written is read again**: the text of a value holds the value, and nothing else. -/
theorem Reading.ofText_compact (v : Json) : Reading.ofText v.compact = ⟨v.toDoc, true⟩ := by
  unfold ofText Json.compact
  rw [String.toList_ofList, lex_chars, Parser.start, Parser.run_tokens]
  rfl

end Switchboard.Json
