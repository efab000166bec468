import Mathlib.Data.List.TakeWhile
import Switchboard.Command.Load
import Switchboard.Proofs.ModelWrites
import Switchboard.Proofs.PlainText

/-!
# Errors without a text

An error of nothing but white space does not show. That is asked of the error as it was met; what is
shown of it is made later, when the tags are taken out. Of an error that consists of tags, with white
space or without, nothing is left by then, and the line shows all the same.

* `Text.OnlyMarkup` — tags and white space, and nothing else.
* `IdentityError.compact_eq_empty_iff` — these are the errors of which nothing is left.
* `IdentityError.shown_with_text_iff` — which errors show, and which of them have a text to show.
* `IdentityError.tags_shown_without_text` — a line without a text.
-/

set_option autoImplicit false

namespace Switchboard

namespace Text

variable {s : List Char}

/-- Tags and white space, and nothing else. -/
inductive OnlyMarkup : List Char → Prop where
  | nil : OnlyMarkup []
  | blank {c : Char} {s : List Char} (hc : isBlank c) (h : OnlyMarkup s) : OnlyMarkup (c :: s)
  | tag {t s : List Char} (ht : IsTag t) (h : OnlyMarkup s) : OnlyMarkup (t ++ s)

theorem forall_isBlank_stripTags_iff : (∀ c ∈ stripTags s, isBlank c) ↔ OnlyMarkup s := by
  constructor
  · induction s using tag_induction with
    | nil => exact fun _ => .nil
    | tag t s ht ih =>
      rw [stripTags_tag ht, List.forall_mem_cons]
      exact fun h => .tag ht (ih h.2)
    | char c s hc ih =>
      rw [stripTags_cons hc, List.forall_mem_cons]
      exact fun h => .blank h.1 (ih h.2)
  · intro h
    induction h with
    | nil => exact List.forall_mem_nil _
    | @blank c s hc h ih =>
      -- White space begins no tag.
      have hopens : ¬ OpensTag (c :: s) := by
        rw [opensTag_cons_iff]
        rintro ⟨rfl, -, -⟩
        cases hc
      rw [stripTags_cons hopens]
      exact List.forall_mem_cons.2 ⟨hc, ih⟩
    | tag ht h ih =>
      rw [stripTags_tag ht]
      exact List.forall_mem_cons.2 ⟨isBlank_space, ih⟩

instance (s : List Char) : Decidable (OnlyMarkup s) :=
  decidable_of_iff ((stripTags s).all isBlank) (List.all_eq_true.trans forall_isBlank_stripTags_iff)

theorem forall_isBlank_collapseFrom_iff {inRun : Bool} :
    (∀ c ∈ collapseFrom inRun s, isBlank c) ↔ ∀ c ∈ s, isBlank c := by
  fun_induction collapseFrom inRun s with
  | case1 => rfl
  | case2 c s hc ih => rw [ih, List.forall_mem_cons, and_iff_right hc]
  | case3 _ c s hc hrun ih =>
    rw [List.forall_mem_cons, List.forall_mem_cons, ih, and_iff_right hc, and_iff_right isBlank_space]
  | case4 _ c s hc ih => rw [List.forall_mem_cons, List.forall_mem_cons, ih]

theorem trimChars_eq_nil_iff : trimChars s = [] ↔ ∀ c ∈ s, isBlank c := by
  have hfront : (∀ c ∈ s.dropWhile isBlank, isBlank c) ↔ ∀ c ∈ s, isBlank c := by
    induction s with
    | nil => rfl
    | cons c s ih =>
      rw [List.dropWhile_cons]
      split
      · rename_i hc
        rw [ih, List.forall_mem_cons, and_iff_right hc]
      · rfl
  rw [← hfront, trimChars, List.reverse_eq_nil_iff, List.dropWhile_eq_nil_iff]
  simp only [List.mem_reverse]

theorem plain_eq_nil_iff : plain s = [] ↔ OnlyMarkup s := by
  rw [plain, trimChars_eq_nil_iff, collapse, forall_isBlank_collapseFrom_iff,
    forall_isBlank_stripTags_iff]

theorem clip_eq_nil_iff (limit : Nat) : clip limit s = [] ↔ s = [] := by
  rcases Nat.lt_or_ge limit s.length with hlt | hle
  · rw [clip_of_lt hlt]
    have hs : s ≠ [] := List.ne_nil_of_length_pos (Nat.zero_lt_of_lt hlt)
    simp [hs]
  · rw [clip_of_le hle]

end Text

namespace IdentityError

open Text

/-- **Nothing is left of an error** exactly if it is tags and white space. -/
theorem compact_eq_empty_iff {raw : String} : compact raw = "" ↔ OnlyMarkup raw.toList := by
  rw [← plain_eq_nil_iff, ← clip_eq_nil_iff limit, ← toList_compact,
    String.toList_eq_nil_iff]

/-- What leads the line of an error: the place and the workspace of the active profile, if that is
among the profiles. -/
def lead (s : Snapshot) : String :=
  match s.activeProfile.bind (placeOf? s.profiles) with
  | some (i, p) => "账号 #" ++ Nat.repr (i + 1) ++ " (" ++ p.displayWorkspace ++ "): "
  | none => ""

theorem format_eq (s : Snapshot) (raw : String) : format s raw = lead s ++ compact raw := by
  unfold format lead
  cases s.activeProfile.bind (placeOf? s.profiles) with
  | none => simp
  | some x => rfl

/-- **Which errors show, and which of them have a text to show.** In every mode a line shows exactly
for an error of that mode, or of none, that is not white space alone: what leads it, and what is left
of the error. That is nothing if the error consists of tags and white space, and only then. -/
theorem shown_with_text_iff (s : Snapshot) (m : Mode) (text : String) :
    shown s m = some text ↔
      ∃ raw, s.currentError = some raw ∧ (∀ tag ∈ s.currentErrorMode, tag = m) ∧
        (∃ c ∈ raw.toList, isBlank c = false) ∧ text = lead s ++ compact raw ∧
        (compact raw = "" ↔ OnlyMarkup raw.toList) := by
  rw [shown_eq_some_iff]
  refine exists_congr fun raw => ?_
  rw [format_eq, iff_true_intro compact_eq_empty_iff, and_true, isBlankText, List.all_eq_false]
  simp only [Bool.not_eq_true]
  tauto

/-- An error of tags alone puts a line on the screen that says nothing, or no more than the place of the
active profile, and the status line of a load ends where the error should follow. White space alone
shows nothing. -/
theorem tags_shown_without_text :
    let s : Snapshot := { currentError := some "<b></b>" }
    let t : Snapshot :=
      { activeProfile := some "a", currentError := some " <br> ",
        profiles := [{ name := "a", displayWorkspace := "W" }] }
    OnlyMarkup "<b></b>".toList ∧ shown s .gpt = some "" ∧
      OnlyMarkup " <br> ".toList ∧ shown t .gpt = some "账号 #1 (W): " ∧
      (Load.finish ⟨false, .gpt, none, none⟩ Engine.blank (.ok s)).1.status = "当前账号读取失败: " ∧
      shown { currentError := some " " } .gpt = none := by
  intro s t
  have hs : OnlyMarkup "<b></b>".toList := by decide +kernel
  have ht : OnlyMarkup " <br> ".toList := by decide +kernel
  refine ⟨hs, ?_, ht, ?_, by decide +kernel, by decide +kernel⟩
  · exact (shown_with_text_iff s .gpt "").2 ⟨"<b></b>", rfl, nofun, ⟨'<', by decide +kernel, rfl⟩,
      by decide +kernel, compact_eq_empty_iff⟩
  · exact (shown_with_text_iff t .gpt _).2 ⟨" <br> ", rfl, nofun, ⟨'<', by decide +kernel, rfl⟩,
      by decide +kernel, compact_eq_empty_iff⟩

end IdentityError

end Switchboard
