import Mathlib.Data.List.Infix
import Switchboard.IdentityError

/-!
# One line of plain text

What is made of an error text before it is shown: every tag and every run of white space becomes one
space, the ends are trimmed, and what is too long is cut. None of these steps undoes what an earlier
one has done. In particular no tag arises where another one is taken away, since what a `<` would need
for a tag, a `>` further on but not at once, can only get lost.

* `Text.OpensTag`, `Text.opensTag_cons_iff` — where a tag begins.
* `Text.tag_induction` — a text read from the left, tag by tag, with one equation of `stripTags` for
  each case.
* `Text.IsPlain` — the normal form. `Text.isPlain_plain` and `Text.plain_eq_self` say that it is
  reached, and that nothing else is done to it.
* `IdentityError.compact_eq_self_iff` — the texts that are shown as they are.
* `IdentityError.compact_is_normal` — what is shown is such a text.
-/

set_option autoImplicit false

namespace Switchboard

namespace Text

variable {c d : Char} {s t : List Char}

/-! ## Tags -/

/-- A tag: a `<`, one or more characters other than `>`, and a `>`. -/
def IsTag (s : List Char) : Prop := ∃ inner, inner ≠ [] ∧ '>' ∉ inner ∧ s = '<' :: (inner ++ ['>'])

/-- A tag begins where the text does. -/
def OpensTag (s : List Char) : Prop := ∃ t, t <+: s ∧ IsTag t

/-- No part of the text is a tag. -/
def TagFree (s : List Char) : Prop := ∀ t, t <:+: s → ¬ IsTag t

/-- **Where a tag begins**: at a `<`, after which a `>` comes, but not at once. -/
theorem opensTag_cons_iff : OpensTag (c :: s) ↔ c = '<' ∧ '>' ∈ s ∧ s.head? ≠ some '>' := by
  constructor
  · rintro ⟨_, ⟨rest, hrest⟩, inner, hne, hinner, rfl⟩
    obtain ⟨rfl, rfl⟩ := List.cons.inj hrest
    cases inner with
    | nil => exact absurd rfl hne
    | cons d inner =>
      have hd : d ≠ '>' := fun h => hinner (h ▸ List.mem_cons_self)
      exact ⟨rfl, by simp, by simpa using hd⟩
  · rintro ⟨rfl, hmem, hhead⟩
    obtain ⟨inner, rest, rfl, hinner⟩ := List.eq_append_cons_of_mem hmem
    refine ⟨'<' :: (inner ++ ['>']), ⟨rest, by simp⟩, inner, ?_, hinner, rfl⟩
    rintro rfl
    exact hhead rfl

theorem tagFree_nil : TagFree [] := by
  rintro t ht ⟨inner, -, -, rfl⟩
  cases List.eq_nil_of_infix_nil ht

theorem tagFree_cons_iff : TagFree (c :: s) ↔ ¬ OpensTag (c :: s) ∧ TagFree s := by
  constructor
  · intro h
    exact ⟨fun ⟨t, ht, htag⟩ => h t ht.isInfix htag,
      fun t ht => h t (ht.trans (List.suffix_cons c s).isInfix)⟩
  · rintro ⟨hopens, hs⟩ t ht htag
    rcases List.infix_cons_iff.1 ht with hpre | hin
    · exact hopens ⟨t, hpre, htag⟩
    · exact hs t hin htag

theorem TagFree.part (h : TagFree s) (ht : t <:+: s) : TagFree t :=
  fun u hu => h u (hu.trans ht)

theorem tagFree_of_not_mem (h : '>' ∉ s) : TagFree s := by
  rintro t ht ⟨inner, -, -, rfl⟩
  exact h (ht.subset (by simp))

/-- What has no `>` closes no tag. -/
theorem TagFree.append (h : TagFree s) (ht : '>' ∉ t) : TagFree (s ++ t) := by
  induction s with
  | nil => exact tagFree_of_not_mem ht
  | cons c s ih =>
    rw [tagFree_cons_iff] at h
    rw [List.cons_append, tagFree_cons_iff]
    refine ⟨fun hopens => h.1 ?_, ih h.2⟩
    rw [opensTag_cons_iff] at hopens ⊢
    obtain ⟨rfl, hmem, hhead⟩ := hopens
    have hs : '>' ∈ s := (List.mem_append.1 hmem).resolve_right ht
    rw [List.head?_append_of_ne_nil _ (List.ne_nil_of_mem hs)] at hhead
    exact ⟨rfl, hs, hhead⟩

/-! ## Taking the tags out -/

/-- A text read from the left: it begins with a tag, or with a character that begins none. -/
theorem tag_induction {P : List Char → Prop} (nil : P [])
    (tag : ∀ t s, IsTag t → P s → P (t ++ s))
    (char : ∀ c s, ¬ OpensTag (c :: s) → P s → P (c :: s)) (s : List Char) : P s := by
  induction hn : s.length using Nat.strong_induction_on generalizing s with
  | _ n ih =>
    subst hn
    cases s with
    | nil => exact nil
    | cons c s =>
      by_cases hopens : OpensTag (c :: s)
      · obtain ⟨t, ⟨rest, hrest⟩, htag⟩ := hopens
        rw [← hrest] at ih ⊢
        refine tag t rest htag (ih _ ?_ rest rfl)
        obtain ⟨inner, -, -, rfl⟩ := htag
        simp
        omega
      · exact char c s hopens (ih _ (Nat.lt_succ_self _) s rfl)

/-- Without a `>` nothing that is held turns out to be a tag. -/
theorem stripTagsFrom_of_not_mem (h : '>' ∉ s) (held : List Char) :
    stripTagsFrom (some held) s = '<' :: (held.reverse ++ s) := by
  induction s generalizing held with
  | nil => simp [stripTagsFrom]
  | cons c s ih =>
    have hc : c ≠ '>' := fun hc => h (hc ▸ List.mem_cons_self)
    have hs := ih fun hs => h (List.mem_cons_of_mem c hs)
    cases held <;> simp [stripTagsFrom, hc, hs]

/-- The first `>` closes the tag that is held. -/
theorem stripTagsFrom_append (h : '>' ∉ t) {held : List Char} (hne : held.reverse ++ t ≠ []) :
    stripTagsFrom (some held) (t ++ '>' :: s) = ' ' :: stripTags s := by
  induction t generalizing held with
  | nil =>
    cases held with
    | nil => exact absurd rfl hne
    | cons d held => simp [stripTagsFrom, stripTags]
  | cons c t ih =>
    have hc : c ≠ '>' := fun hc => h (hc ▸ List.mem_cons_self)
    have ht : stripTagsFrom (some (c :: held)) (t ++ '>' :: s) = ' ' :: stripTags s :=
      ih (fun ht => h (List.mem_cons_of_mem c ht)) (by simp)
    cases held <;> simpa [stripTagsFrom, hc] using ht

theorem stripTags_of_not_mem (h : '>' ∉ s) : stripTags s = s := by
  induction s with
  | nil => rfl
  | cons c s ih =>
    have hs : '>' ∉ s := fun hs => h (List.mem_cons_of_mem c hs)
    by_cases hc : c = '<'
    · simp [stripTags, stripTagsFrom, hc, stripTagsFrom_of_not_mem hs]
    · simpa [stripTags, stripTagsFrom, hc] using ih hs

/-- **A tag becomes a space.** -/
theorem stripTags_tag (ht : IsTag t) (s : List Char) : stripTags (t ++ s) = ' ' :: stripTags s := by
  obtain ⟨inner, hne, hinner, rfl⟩ := ht
  have h : stripTagsFrom (some []) (inner ++ '>' :: s) = ' ' :: stripTags s :=
    stripTagsFrom_append hinner (by simpa using hne)
  simpa [stripTags, stripTagsFrom] using h

/-- **A character that begins no tag stays.** -/
theorem stripTags_cons (h : ¬ OpensTag (c :: s)) : stripTags (c :: s) = c :: stripTags s := by
  by_cases hc : c = '<'
  · subst hc
    by_cases hmem : '>' ∈ s
    · have hhead : s.head? = some '>' := by
        by_contra hhead
        exact h (opensTag_cons_iff.2 ⟨rfl, hmem, hhead⟩)
      obtain ⟨rest, rfl⟩ := List.head?_eq_some_iff.1 hhead
      simp [stripTags, stripTagsFrom]
    · rw [stripTags_of_not_mem hmem, stripTags_of_not_mem (by simpa using hmem)]
  · simp [stripTags, stripTagsFrom, hc]

theorem mem_of_mem_stripTags (s : List Char) : ∀ d ∈ stripTags s, d = ' ' ∨ d ∈ s := by
  induction s using tag_induction with
  | nil => exact List.forall_mem_nil _
  | tag t s ht ih =>
    rw [stripTags_tag ht]
    exact List.forall_mem_cons.2
      ⟨.inl rfl, fun d hd => (ih d hd).imp_right (List.mem_append_right t)⟩
  | char c s hc ih =>
    rw [stripTags_cons hc]
    exact List.forall_mem_cons.2
      ⟨.inr List.mem_cons_self, fun d hd => (ih d hd).imp_right (List.mem_cons_of_mem c)⟩

/-- **No tag is left**, and none arises. -/
theorem tagFree_stripTags (s : List Char) : TagFree (stripTags s) := by
  induction s using tag_induction with
  | nil => exact tagFree_nil
  | tag t s ht ih =>
    rw [stripTags_tag ht, tagFree_cons_iff]
    exact ⟨fun h => absurd (opensTag_cons_iff.1 h).1 (by decide), ih⟩
  | char c s hc ih =>
    rw [stripTags_cons hc, tagFree_cons_iff]
    refine ⟨fun hopens => hc ?_, ih⟩
    obtain ⟨rfl, hmem, hhead⟩ := opensTag_cons_iff.1 hopens
    have hs : '>' ∈ s := (mem_of_mem_stripTags s _ hmem).resolve_left (by decide)
    refine opensTag_cons_iff.2 ⟨rfl, hs, fun hfirst => hhead ?_⟩
    obtain ⟨rest, rfl⟩ := List.head?_eq_some_iff.1 hfirst
    rw [stripTags_cons fun h => absurd (opensTag_cons_iff.1 h).1 (by decide)]
    rfl

theorem stripTags_of_tagFree (h : TagFree s) : stripTags s = s := by
  induction s with
  | nil => rfl
  | cons c s ih =>
    rw [tagFree_cons_iff] at h
    rw [stripTags_cons h.1, ih h.2]

/-! ## Runs of white space -/

theorem isBlank_space : isBlank ' ' := rfl

theorem mem_of_mem_collapseFrom (inRun : Bool) (s : List Char) :
    ∀ d ∈ collapseFrom inRun s, d = ' ' ∨ d ∈ s := by
  fun_induction collapseFrom inRun s with
  | case1 => exact List.forall_mem_nil _
  | case2 c s hc ih => exact fun d hd => (ih d hd).imp_right (List.mem_cons_of_mem c)
  | case3 _ c s hc hrun ih =>
    exact List.forall_mem_cons.2
      ⟨.inl rfl, fun d hd => (ih d hd).imp_right (List.mem_cons_of_mem c)⟩
  | case4 _ c s hc ih =>
    exact List.forall_mem_cons.2
      ⟨.inr List.mem_cons_self, fun d hd => (ih d hd).imp_right (List.mem_cons_of_mem c)⟩

/-- The space is the only white space that is left. -/
theorem eq_space_of_mem_collapseFrom (inRun : Bool) (s : List Char) :
    ∀ d ∈ collapseFrom inRun s, isBlank d → d = ' ' := by
  fun_induction collapseFrom inRun s with
  | case1 => exact List.forall_mem_nil _
  | case2 c s hc ih => exact ih
  | case3 _ c s hc hrun ih => exact List.forall_mem_cons.2 ⟨fun _ => rfl, ih⟩
  | case4 _ c s hc ih => exact List.forall_mem_cons.2 ⟨fun h => absurd h hc, ih⟩

/-- No tag arises where white space gives way to a space. -/
theorem TagFree.collapseFrom (h : TagFree s) (inRun : Bool) : TagFree (collapseFrom inRun s) := by
  fun_induction Text.collapseFrom inRun s with
  | case1 => exact tagFree_nil
  | case2 c s hc ih => exact ih (tagFree_cons_iff.1 h).2
  | case3 _ c s hc hrun ih =>
    exact tagFree_cons_iff.2
      ⟨fun h => absurd (opensTag_cons_iff.1 h).1 (by decide), ih (tagFree_cons_iff.1 h).2⟩
  | case4 _ c s hc ih =>
    rw [tagFree_cons_iff] at h ⊢
    refine ⟨fun hopens => h.1 ?_, ih h.2⟩
    obtain ⟨rfl, hmem, hhead⟩ := opensTag_cons_iff.1 hopens
    have hs : '>' ∈ s := (mem_of_mem_collapseFrom false s _ hmem).resolve_left (by decide)
    refine opensTag_cons_iff.2 ⟨rfl, hs, fun hfirst => hhead ?_⟩
    obtain ⟨rest, rfl⟩ := List.head?_eq_some_iff.1 hfirst
    rfl

theorem twoSpaces_infix_cons_iff :
    [' ', ' '] <:+: c :: s ↔ c = ' ' ∧ s.head? = some ' ' ∨ [' ', ' '] <:+: s := by
  rw [List.infix_cons_iff]
  refine or_congr_left ?_
  cases s <;> simp [List.cons_prefix_cons, eq_comm]

/-- What has no space doubles none. -/
theorem not_twoSpaces_append (h : ¬ [' ', ' '] <:+: s) (ht : ' ' ∉ t) :
    ¬ [' ', ' '] <:+: s ++ t := by
  induction s with
  | nil => exact fun hpair => ht (hpair.subset List.mem_cons_self)
  | cons c s ih =>
    rw [twoSpaces_infix_cons_iff, not_or] at h
    rw [List.cons_append, twoSpaces_infix_cons_iff, not_or]
    refine ⟨?_, ih h.2⟩
    rintro ⟨rfl, hhead⟩
    rw [List.head?_append, Option.or_eq_some_iff] at hhead
    rcases hhead with hs | ⟨-, hfirst⟩
    · exact h.1 ⟨rfl, hs⟩
    · exact ht (List.mem_of_mem_head? hfirst)

/-- After a run of white space, which has its space already, no space follows. -/
theorem head?_collapseFrom_true (s : List Char) : (collapseFrom true s).head? ≠ some ' ' := by
  induction s with
  | nil => simp [collapseFrom]
  | cons c s ih =>
    rw [collapseFrom]
    split
    · exact ih
    · rename_i hc
      rintro ⟨⟩
      exact hc isBlank_space

theorem not_twoSpaces_collapseFrom (inRun : Bool) (s : List Char) :
    ¬ [' ', ' '] <:+: collapseFrom inRun s := by
  fun_induction collapseFrom inRun s with
  | case1 => simp
  | case2 c s hc ih => exact ih
  | case3 _ c s hc hrun ih =>
    rw [twoSpaces_infix_cons_iff]
    exact not_or.2 ⟨fun h => head?_collapseFrom_true s h.2, ih⟩
  | case4 _ c s hc ih =>
    rw [twoSpaces_infix_cons_iff]
    exact not_or.2 ⟨fun h => hc (h.1 ▸ isBlank_space), ih⟩

/-- A text with single spaces for all its white space is left as it is. -/
theorem collapseFrom_eq_self {inRun : Bool} (hblank : ∀ c ∈ s, isBlank c → c = ' ')
    (hsingle : ¬ [' ', ' '] <:+: s) (hhead : inRun → s.head? ≠ some ' ') :
    collapseFrom inRun s = s := by
  induction s generalizing inRun with
  | nil => rfl
  | cons c s ih =>
    rw [twoSpaces_infix_cons_iff, not_or] at hsingle
    have hs := List.forall_mem_of_forall_mem_cons hblank
    rw [collapseFrom]
    split
    · rename_i hc
      obtain rfl := hblank c List.mem_cons_self hc
      rw [if_neg fun hrun => hhead hrun rfl,
        ih hs hsingle.2 fun _ hfirst => hsingle.1 ⟨rfl, hfirst⟩]
    · rw [ih hs hsingle.2 (by simp)]

/-! ## The normal form -/

theorem isInfix_trimChars (s : List Char) : trimChars s <:+: s := by
  have h := (List.dropWhile_suffix isBlank (l := (s.dropWhile isBlank).reverse)).reverse
  rw [List.reverse_reverse] at h
  exact h.isInfix.trans (List.dropWhile_suffix isBlank).isInfix

/-- One line of plain text. -/
structure IsPlain (s : List Char) : Prop where
  tagFree : TagFree s
  eq_space : ∀ c ∈ s, isBlank c → c = ' '
  single : ¬ [' ', ' '] <:+: s
  head : s.head? ≠ some ' '
  last : s.getLast? ≠ some ' '

/-- **What is made of a text is one line of plain text.** -/
theorem isPlain_plain (s : List Char) : IsPlain (plain s) where
  tagFree := ((tagFree_stripTags s).collapseFrom false).part (isInfix_trimChars _)
  eq_space c hc := eq_space_of_mem_collapseFrom false _ c ((isInfix_trimChars _).subset hc)
  single h := not_twoSpaces_collapseFrom false _ (h.trans (isInfix_trimChars _))
  head h := absurd (head?_trimChars _ ' ' h) (by decide)
  last h := absurd (getLast?_trimChars _ ' ' h) (by decide)

/-- **One line of plain text is left as it is.** -/
theorem plain_eq_self (h : IsPlain s) : plain s = s := by
  have hends {o : Option Char} (ho : o ≠ some ' ') (hmem : ∀ c ∈ o, c ∈ s) :
      ∀ c ∈ o, isBlank c = false := by
    intro c hc
    rw [Bool.eq_false_iff]
    intro hblank
    obtain rfl := h.eq_space c (hmem c hc) hblank
    exact ho hc
  rw [plain, stripTags_of_tagFree h.tagFree, collapse,
    collapseFrom_eq_self h.eq_space h.single (by simp)]
  exact trimChars_eq_self (hends h.head fun _ => List.mem_of_mem_head?)
    (hends h.last fun _ => List.mem_of_mem_getLast?)

/-! ## Cutting -/

theorem clip_of_lt {limit : Nat} (h : limit < s.length) :
    clip limit s = s.take limit ++ ['.', '.', '.'] := if_pos h

theorem clip_of_le {limit : Nat} (h : s.length ≤ limit) : clip limit s = s :=
  if_neg (Nat.not_lt.2 h)

/-- **The mark of a cut** closes no tag, and it is no space that would double one before it. -/
theorem IsPlain.clip (h : IsPlain s) (limit : Nat) : IsPlain (clip limit s) := by
  rcases Nat.lt_or_ge limit s.length with hlt | hle
  · have hcut : s.take limit <:+: s := (List.take_prefix limit s).isInfix
    rw [clip_of_lt hlt]
    refine ⟨(h.tagFree.part hcut).append (by decide), ?_,
      not_twoSpaces_append (fun hpair => h.single (hpair.trans hcut)) (by decide), ?_, by simp⟩
    · intro c hc hblank
      rcases List.mem_append.1 hc with hc | hc
      · exact h.eq_space c (hcut.subset hc) hblank
      · have hdot : c = '.' := by simpa using hc
        exact absurd (hdot ▸ hblank) (by decide)
    · rw [List.head?_append, List.head?_take]
      split
      · decide
      · cases hs : s.head? with
        | none => decide
        | some c => exact fun hc => h.head (hs.trans hc)
  · rwa [clip_of_le hle]

/-- A text that has been cut is cut at the same place. -/
theorem clip_clip (limit : Nat) (s : List Char) : clip limit (clip limit s) = clip limit s := by
  rcases Nat.lt_or_ge limit s.length with hlt | hle
  · have hlen : (s.take limit).length = limit := List.length_take_of_le hlt.le
    rw [clip_of_lt hlt, clip_of_lt (by simp [hlen]), List.take_left' hlen]
  · rw [clip_of_le hle, clip_of_le hle]

theorem length_clip_le (limit : Nat) (s : List Char) : (clip limit s).length ≤ limit + 3 := by
  rcases Nat.lt_or_ge limit s.length with hlt | hle
  · rw [clip_of_lt hlt, List.length_append, List.length_take_of_le hlt.le]
    rfl
  · rw [clip_of_le hle]
    exact hle.trans (Nat.le_add_right limit 3)

/-- The texts that are not cut, or not once more. -/
theorem clip_eq_self_iff {limit : Nat} :
    clip limit s = s ↔
      s.length ≤ limit ∨ ∃ cut : List Char, cut.length = limit ∧ s = cut ++ ['.', '.', '.'] := by
  constructor
  · intro h
    rcases Nat.lt_or_ge limit s.length with hlt | hle
    · rw [clip_of_lt hlt] at h
      exact .inr ⟨s.take limit, List.length_take_of_le hlt.le, h.symm⟩
    · exact .inl hle
  · rintro (hle | ⟨cut, rfl, rfl⟩)
    · exact clip_of_le hle
    · rw [clip_of_lt (by simp), List.take_left]

end Text

/-! ## What is shown of an error -/

namespace IdentityError

open Text

theorem toList_compact (raw : String) : (compact raw).toList = clip limit (plain raw.toList) :=
  String.toList_ofList

theorem isPlain_compact (raw : String) : IsPlain (compact raw).toList := by
  rw [toList_compact]
  exact (isPlain_plain raw.toList).clip limit

theorem compact_compact (raw : String) : compact (compact raw) = compact raw := by
  rw [← String.toList_inj, toList_compact, plain_eq_self (isPlain_compact raw), toList_compact,
    clip_clip]

/-- **The texts that are shown as they are**: one line of plain text that is short enough, or that has
been cut. -/
theorem compact_eq_self_iff {raw : String} :
    compact raw = raw ↔
      IsPlain raw.toList ∧
        (raw.length ≤ limit ∨
          ∃ cut : List Char, cut.length = limit ∧ raw.toList = cut ++ ['.', '.', '.']) := by
  rw [← String.length_toList, ← clip_eq_self_iff, ← String.toList_inj, toList_compact]
  constructor
  · intro h
    have hplain : IsPlain raw.toList := h ▸ (isPlain_plain raw.toList).clip limit
    rw [plain_eq_self hplain] at h
    exact ⟨hplain, h⟩
  · rintro ⟨hplain, h⟩
    rw [plain_eq_self hplain, h]

/-- **What is shown of an error is one line of plain text**, whatever the error was: no part of it is a
tag, its only white space are single spaces inside it, it has at most 263 characters, and to do the
same once more changes nothing. Nor is anything done to an error that is such a line already, and has
not more than 260 characters or ends with the mark of a cut behind 260 others. -/
theorem compact_is_normal (raw : String) :
    TagFree (compact raw).toList ∧
      (∀ c ∈ (compact raw).toList, isBlank c → c = ' ') ∧
      ¬ [' ', ' '] <:+: (compact raw).toList ∧
      (compact raw).toList.head? ≠ some ' ' ∧
      (compact raw).toList.getLast? ≠ some ' ' ∧
      (compact raw).length ≤ 263 ∧
      compact (compact raw) = compact raw ∧
      (compact raw = raw ↔
        IsPlain raw.toList ∧
          (raw.length ≤ 260 ∨
            ∃ cut : List Char, cut.length = 260 ∧ raw.toList = cut ++ ['.', '.', '.'])) := by
  have hplain := isPlain_compact raw
  have hlength : (compact raw).length ≤ 263 := by
    rw [← String.length_toList, toList_compact]
    exact length_clip_le limit _
  exact ⟨hplain.tagFree, hplain.eq_space, hplain.single, hplain.head, hplain.last, hlength,
    compact_compact raw, compact_eq_self_iff⟩

/-- The tag is `<<b>`. The `>` behind it, the `<>` and the `<` that nothing closes are kept. -/
example : compact "a <<b>> \u2003 <> c < d" = "a > <> c < d" := by decide +kernel

end IdentityError

end Switchboard
