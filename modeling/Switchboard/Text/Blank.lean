/-!
# White space and trimming

* `isBlank` — the Unicode property `White_Space`.
* `trim` — drops the white space at both ends; `trim_idem` says a second run changes nothing.
* `filled` — the trimmed text of a value, unless nothing is left of it; `filled_of_filled` says that
  what is left is kept.
-/

set_option autoImplicit false

namespace Switchboard.Text

/-- The characters with the Unicode property `White_Space`. -/
def isBlank (c : Char) : Bool :=
  let n := c.toNat
  (9 ≤ n && n ≤ 13) || n == 0x20 || n == 0x85 || n == 0xA0 || n == 0x1680 ||
    (0x2000 ≤ n && n ≤ 0x200A) || n == 0x2028 || n == 0x2029 || n == 0x202F || n == 0x205F ||
    n == 0x3000

/-- The characters left when the white space at both ends is dropped. -/
def trimChars (s : List Char) : List Char :=
  ((s.dropWhile isBlank).reverse.dropWhile isBlank).reverse

/-- The text without the white space at its ends. -/
def trim (s : String) : String := String.ofList (trimChars s.toList)

/-- The trimmed text, unless it is empty. -/
def filled (s : String) : Option String :=
  let t := trim s
  if t.isEmpty then none else some t

/-- An absent value and a blank one count the same. -/
def filled? (s : Option String) : Option String := s.bind filled

/-- Nothing but white space. -/
def isBlankText (s : String) : Bool := s.toList.all isBlank

theorem dropWhile_eq_self {s : List Char} (h : ∀ c ∈ s.head?, isBlank c = false) :
    s.dropWhile isBlank = s := by
  cases s with
  | nil => rfl
  | cons c r => simp [h c (by simp)]

theorem head?_dropWhile (s : List Char) :
    ∀ c ∈ (s.dropWhile isBlank).head?, isBlank c = false := by
  intro c hc
  induction s with
  | nil => simp at hc
  | cons d r ih =>
    by_cases hd : isBlank d
    · exact ih (by simpa [hd] using hc)
    · have : d = c := by simpa [hd] using hc
      simpa [← this] using hd

theorem getLast?_dropWhile {s : List Char} (h : ∀ c ∈ s.getLast?, isBlank c = false) :
    ∀ c ∈ (s.dropWhile isBlank).getLast?, isBlank c = false := by
  induction s with
  | nil => simp
  | cons d r ih =>
    by_cases hd : isBlank d
    · cases r with
      | nil => simp [hd]
      | cons e r =>
        have := ih (by simpa [List.getLast?_cons_cons] using h)
        simpa [List.dropWhile_cons, hd] using this
    · simpa [List.dropWhile_cons, hd] using h

theorem head?_trimChars (s : List Char) : ∀ c ∈ (trimChars s).head?, isBlank c = false := by
  intro c hc
  rw [trimChars, List.head?_reverse] at hc
  refine getLast?_dropWhile (fun d hd => ?_) c hc
  rw [List.getLast?_reverse] at hd
  exact head?_dropWhile _ d hd

theorem getLast?_trimChars (s : List Char) :
    ∀ c ∈ (trimChars s).getLast?, isBlank c = false := by
  intro c hc
  rw [trimChars, List.getLast?_reverse] at hc
  exact head?_dropWhile _ c hc

theorem trimChars_eq_self {s : List Char} (hhead : ∀ c ∈ s.head?, isBlank c = false)
    (hlast : ∀ c ∈ s.getLast?, isBlank c = false) : trimChars s = s := by
  have e : s.reverse.dropWhile isBlank = s.reverse :=
    dropWhile_eq_self (by simpa [List.head?_reverse] using hlast)
  rw [trimChars, dropWhile_eq_self hhead, e, List.reverse_reverse]

/-- A trimmed text has no white space at its ends, so trimming it again keeps it. -/
theorem trimChars_idem (s : List Char) : trimChars (trimChars s) = trimChars s :=
  trimChars_eq_self (head?_trimChars s) (getLast?_trimChars s)

theorem trim_idem (s : String) : trim (trim s) = trim s := by
  simp [trim, trimChars_idem]

theorem filled_eq_some_iff {s t : String} :
    filled s = some t ↔ (trim s).isEmpty = false ∧ trim s = t := by
  simp [filled]

@[simp] theorem filled?_some (s : String) : filled? (some s) = filled s := Option.bind_some s filled

theorem filled_of_filled {s t : String} (h : filled s = some t) : filled t = some t := by
  obtain ⟨hne, rfl⟩ := filled_eq_some_iff.1 h
  rw [filled_eq_some_iff, trim_idem]
  exact ⟨hne, rfl⟩

theorem filled?_eq_some_iff {s : Option String} {t : String} :
    filled? s = some t ↔ ∃ raw, s = some raw ∧ filled raw = some t := Option.bind_eq_some_iff

@[simp] theorem filled?_idem (s : Option String) : filled? (filled? s) = filled? s := by
  cases h : filled? s with
  | none => rfl
  | some t =>
    obtain ⟨raw, -, ht⟩ := filled?_eq_some_iff.1 h
    rw [filled?_some]
    exact filled_of_filled ht

end Switchboard.Text
