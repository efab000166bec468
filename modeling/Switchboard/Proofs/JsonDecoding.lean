import Switchboard.Json.Decode
import Switchboard.Proofs.DistinctKeys
import Switchboard.Proofs.JsonReading

/-!
# What is written has a typed reading

Each decoder gives back the value that was written for it.

* `Numeral.ofText_decimal` — an integer of a 64-bit range is read as itself.
* `Decoder.optional_opt`, `Decoder.listOf_list` — optional values and lists are read if their parts
  are.
* `record_object` — a record is read if its fields stand in the order of its slots, each with a
  value of its slot's kind.
* `Faithful` — a type that is written and read as texts without loss, by `faithful_of_inverts`.
-/

set_option autoImplicit false

namespace Switchboard.Json

@[simp] theorem ok_bind {α β : Type} (a : α) (f : α → Except Flaw β) :
    (Except.ok a >>= f) = f a := rfl

@[simp] theorem map_ok {α β : Type} (f : α → β) (a : α) :
    f <$> (Except.ok a : Except Flaw α) = .ok (f a) := rfl

/-! ## Numbers -/

theorem all_isDigit_toDigits (n : Nat) : (Nat.toDigits 10 n).all Char.isDigit := by
  rw [List.all_eq_true]
  exact fun c hc => Nat.isDigit_of_mem_toDigits (by decide) (by decide) hc

/-- A natural number is written without a sign. -/
theorem head?_toDigits_ne_minus (n : Nat) : (Nat.toDigits 10 n).head? ≠ some '-' := by
  intro h
  have hd := Nat.isDigit_of_mem_toDigits (n := n) (by decide) (by decide) (List.mem_of_mem_head? h)
  exact absurd hd (by decide)

theorem unsigned_of_head?_ne {text : List Char} (h : text.head? ≠ some '-') :
    unsigned text = text := by
  unfold unsigned
  split
  · exact absurd rfl h
  · rfl

theorem unsigned_decimal (n : Int) : unsigned (decimal n) = Nat.toDigits 10 n.natAbs := by
  unfold decimal
  split
  · rfl
  · exact unsigned_of_head?_ne (head?_toDigits_ne_minus _)

theorem head?_decimal_iff {n : Int} : (decimal n).head? = some '-' ↔ n < 0 := by
  unfold decimal
  split
  · rename_i h
    simp [h]
  · rename_i h
    simp [h, head?_toDigits_ne_minus]

/-- **An integer that 64 bits can hold, with a sign or without, is read as itself.** -/
theorem Numeral.ofText_decimal {n : Int} (hmin : Int64.minValue.toInt ≤ n)
    (hmax : n < UInt64.size) : ofText (decimal n) = .integer n := by
  have hlow : Int64.minValue.toInt = -9223372036854775808 := by decide
  have hhigh : (UInt64.size : Int) = 18446744073709551616 := rfl
  unfold ofText
  rw [unsigned_decimal, if_pos (all_isDigit_toDigits _), Nat.ofDigitChars_ten_toDigits]
  simp only [head?_decimal_iff, UInt64.size]
  split
  · rw [if_pos (by omega)]
    congr 1
    omega
  · rw [if_pos (by omega)]
    congr 1
    omega

/-! ## Single values -/

namespace Decoder

@[simp] theorem string_string (s : String) : string (Json.string s).toDoc = .ok s := rfl

@[simp] theorem boolean_bool (b : Bool) : boolean (Json.bool b).toDoc = .ok b := rfl

theorem integer_int {n : Int} (hmin : Int64.minValue.toInt ≤ n) (hmax : n < UInt64.size) :
    integer (Json.int n).toDoc = .ok n := by
  simp only [integer, toDoc, Numeral.ofText_decimal hmin hmax]

@[simp] theorem int64_int64 (n : Int64) : int64 (Json.int64 n).toDoc = .ok n := by
  have hmin := n.minValue_le_toInt
  have hmax := n.toInt_le
  have hsize : Int64.maxValue.toInt < UInt64.size := by decide
  rw [int64, Json.int64, integer_int hmin (Int.lt_of_le_of_lt hmax hsize)]
  simp only [ok_bind, if_pos (And.intro hmin hmax), Int64.ofInt_toInt]

theorem integer_natCast {n : Nat} (h : n < UInt64.size) : integer (Json.int n).toDoc = .ok n :=
  integer_int (Int.le_trans (by decide) (Int.natCast_nonneg n)) (Int.ofNat_lt.2 h)

@[simp] theorem uint64_uint64 (n : UInt64) : uint64 (Json.uint64 n).toDoc = .ok n := by
  have hmax : n.toNat < UInt64.size := n.toNat_lt
  rw [uint64, Json.uint64, integer_natCast hmax, ok_bind,
    if_pos ⟨Int.natCast_nonneg _, Int.ofNat_lt.2 hmax⟩, Int.toNat_natCast, UInt64.ofNat_toNat]

@[simp] theorem uint32_int (n : UInt32) : uint32 (Json.int n.toNat).toDoc = .ok n := by
  have hmax : n.toNat < UInt32.size := n.toNat_lt
  rw [uint32, integer_natCast (Nat.lt_trans hmax (by decide)), ok_bind,
    if_pos ⟨Int.natCast_nonneg _, Int.ofNat_lt.2 hmax⟩, Int.toNat_natCast, UInt32.ofNat_toNat]

theorem oneOf_string {α : Type} {name? : String → Option α} {a : α} {s : String}
    (h : name? s = some a) : oneOf name? (Json.string s).toDoc = .ok a := by
  simp [oneOf, toDoc, h]

theorem toDoc_object_ne_null (fields : List (String × Json)) : toDoc (.object fields) ≠ .null :=
  nofun

/-! ## Optional values and lists -/

section

variable {α : Type} {f : Decoder α} {g : α → Json}

/-- An optional value is read if the value is, and if no value is written as `null`. -/
theorem optional_opt (h : ∀ a, f (g a).toDoc = .ok a) (hnull : ∀ a, (g a).toDoc ≠ .null)
    (o : Option α) : optional f (opt g o).toDoc = .ok o := by
  cases o with
  | none => rfl
  | some a =>
    have ha := h a
    simp only [opt]
    cases hd : (g a).toDoc with
    | null => exact absurd hd (hnull a)
    | _ =>
      rw [hd] at ha
      simp [optional, ha]

theorem mapM_itemDocs (h : ∀ a, f (g a).toDoc = .ok a) (xs : List α) :
    (itemDocs (xs.map g)).mapM f = .ok xs := by
  induction xs with
  | nil => rfl
  | cons x xs ih =>
    rw [List.map_cons, itemDocs, List.mapM_cons, h, ih]
    rfl

theorem listOf_list (h : ∀ a, f (g a).toDoc = .ok a) (xs : List α) :
    listOf f (list g xs).toDoc = .ok xs := mapM_itemDocs h xs

end

@[simp] theorem optional_string (o : Option String) :
    optional string (opt Json.string o).toDoc = .ok o := optional_opt string_string nofun o

@[simp] theorem optional_int64 (o : Option Int64) :
    optional int64 (opt Json.int64 o).toDoc = .ok o := optional_opt int64_int64 nofun o

end Decoder

/-! ## Records -/

/-- The fields stand in the order of the slots, each with a value of its slot's kind. -/
def Fits : List Slot → List (String × Json) → Prop
  | [], [] => True
  | s :: slots, (key, v) :: fields => s.key = key ∧ s.check v.toDoc = .ok () ∧ Fits slots fields
  | _, _ => False

/-- The fields of a record that was written. -/
def written (fields : List (String × Json)) : List (String × Doc) :=
  fields.map fun field => (field.1, field.2.toDoc)

theorem scan_fieldDocs {slots rest : List Slot} {seen : List String}
    {fields : List (String × Json)} (hfit : Fits rest fields)
    (hfind : ∀ s ∈ rest, slots.find? (·.key == s.key) = some s)
    (hseen : ∀ s ∈ rest, s.key ∉ seen) (hnodup : (rest.map (·.key)).Nodup) :
    Record.scan slots seen (fieldDocs fields) = .ok (written fields) := by
  induction rest, fields using Fits.induct generalizing seen with
  | case1 => rfl
  | case2 s rest key v fields ih =>
    obtain ⟨rfl, hcheck, hfit⟩ := hfit
    rw [List.map_cons, List.nodup_cons] at hnodup
    have hs := hseen s List.mem_cons_self
    have hfresh : ∀ t ∈ rest, t.key ∉ s.key :: seen := by
      intro t ht hmem
      rcases List.mem_cons.1 hmem with heq | hmem
      · exact hnodup.1 (heq ▸ List.mem_map_of_mem ht)
      · exact hseen t (List.mem_cons_of_mem s ht) hmem
    have hrest : Record.scan slots (s.key :: seen) (fieldDocs fields) = .ok (written fields) :=
      ih hfit (fun t ht => hfind t (List.mem_cons_of_mem s ht)) hfresh hnodup.2
    simp [fieldDocs, Record.scan, hfind s List.mem_cons_self, hs, hcheck, hrest, written]
  | case3 rest fields h₁ h₂ => simp [Fits] at hfit

/-- **A record that was written is read**, if its fields fit the slots and make the value. -/
theorem record_object {α : Type} {slots : List Slot} {make : Record → Except Flaw α}
    {fields : List (String × Json)} {a : α} (hnodup : (slots.map (·.key)).Nodup)
    (hfit : Fits slots fields) (hmake : make ⟨written fields, true⟩ = .ok a) :
    record slots make (toDoc (.object fields)) = .ok a := by
  have hscan : Record.scan slots [] (fieldDocs fields) = .ok (written fields) :=
    scan_fieldDocs hfit (fun s hs => find?_key hnodup hs) nofun hnodup
  simp [record, toDoc, Record.ofDoc, hscan, hmake]

/-! ## Texts -/

/-- The type is written and read as texts without loss. -/
structure Faithful {α : Type} (toJson : α → Json) (ofDoc : Decoder α) : Prop where
  /-- What is written is read again. -/
  decode_compact : ∀ a, decodeText ofDoc (toJson a).compact = .ok a
  /-- A text that is read and written again is read and written as it is from then on. -/
  compact_decode : ∀ text a, decodeText ofDoc text = .ok a →
    (fun b => (toJson b).compact) <$> decodeText ofDoc (toJson a).compact =
      .ok (toJson a).compact
  /-- No two values are written alike. -/
  compact_injective : ∀ a b, (toJson a).compact = (toJson b).compact → a = b

theorem faithful_of_inverts {α : Type} {toJson : α → Json} {ofDoc : Decoder α}
    (h : ∀ a, ofDoc (toJson a).toDoc = .ok a) : Faithful toJson ofDoc := by
  have hread (a : α) : decodeText ofDoc (toJson a).compact = .ok a := by
    simp [decodeText, Reading.ofText_compact, h]
  refine ⟨hread, fun text a _ => ?_, fun a b hab => ?_⟩
  · rw [hread]
    rfl
  · have hb := hread b
    rw [← hab, hread] at hb
    exact Except.ok.inj hb

end Switchboard.Json
