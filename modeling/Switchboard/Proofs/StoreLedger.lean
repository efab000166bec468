import Switchboard.Proofs.StoredSettings

/-!
# The store as a cell and a log

The store is made for two things: a cell that holds the settings saved last, and a log of switches
that only grows. Neither has anything to do with the other, and making the store ready once more
does nothing to either of them.

* `StoreOp` — what the store can be asked for; `StoreOp.exec` is what becomes of the store.
* `Ledger` — the cell and the log, and `Ledger.store` the store that holds them.
* `StoreOp.exec_store` — whatever a store is asked for, it goes on to hold the cell and the log of
  `Ledger.after`.
* `Store.cell_and_log` — so what is read of the settings is what was saved last, cleaned, and what
  is listed are the records created last, the newest first.
-/

set_option autoImplicit false

namespace Switchboard

/-- What a store can be asked for. -/
inductive StoreOp where
  | init
  | load
  | save (s : Settings)
  | add (r : SwitchRecord)
  | list (limit : UInt64)

namespace StoreOp

/-- The store after an operation; one that only reads leaves it as it is. -/
def exec (s : Store) : StoreOp → Except Store.Fault Store
  | init => s.init
  | load => s.load.map fun _ => s
  | save settings => s.save settings
  | add r => s.add r
  | list limit => (s.list limit).map fun _ => s

/-- The store after operations, one after another. -/
def execAll (s : Store) (ops : List StoreOp) : Except Store.Fault Store := ops.foldlM exec s

/-- The settings that are saved. -/
def saved? : StoreOp → Option Settings
  | save s => some s
  | _ => none

/-- The record that is created. -/
def created? : StoreOp → Option SwitchRecord
  | add r => some r
  | _ => none

end StoreOp

/-- The first record is not the later one, by the order that the database has for their times. -/
def SwitchRecord.NotAfter (r r' : SwitchRecord) : Prop :=
  Store.Cell.rankLe (Store.Cell.text r.createdAt).rank (Store.Cell.text r'.createdAt).rank

instance (r r' : SwitchRecord) : Decidable (r.NotAfter r') :=
  inferInstanceAs (Decidable (_ = true))

namespace Store

/-- A limit within the signed range is what it is. -/
theorem toInt_toInt64_of_lt {limit : UInt64} (h : limit.toNat < Nat.pow 2 63) :
    limit.toInt64.toInt = limit.toNat := by
  have h' : 2 * limit.toBitVec.toNat < 2 ^ 64 := by
    rw [UInt64.toNat_toBitVec, Nat.pow_succ 2 63, Nat.mul_comm 2]
    exact Nat.mul_lt_mul_of_pos_right h Nat.two_pos
  exact BitVec.toInt_eq_toNat_of_lt h'

/-- A limit beyond the signed range is negative. -/
theorem toInt64_neg_of_le {limit : UInt64} (h : Nat.pow 2 63 ≤ limit.toNat) :
    limit.toInt64 < 0 := by
  have h' : 2 ^ 63 ≤ limit.toNat := h
  rw [Int64.lt_iff_toInt_lt]
  have hlt := limit.toNat_lt
  have hsigned : limit.toInt64.toInt = limit.toNat - (2 ^ 64 : Int) := by
    have hwide : ¬ 2 * limit.toBitVec.toNat < 2 ^ 64 := by
      rw [UInt64.toNat_toBitVec]
      omega
    exact (BitVec.toInt_eq_toNat_cond limit.toBitVec).trans (if_neg hwide)
  rw [hsigned, Int64.toInt_zero]
  omega

/-- What is read of rows is what was written. -/
theorem HistoryRow.filterMap_record? (rs : List SwitchRecord) :
    (rs.map ofRecord).filterMap (·.record?) = rs := by
  simp [List.filterMap_map]

end Store

/-- A cell for settings and a log of switches. -/
structure Ledger where
  /-- The settings that were saved last. -/
  saved : Option Settings := none
  /-- The records, the one created last in front. -/
  records : List SwitchRecord := []

namespace Ledger

/-- The ledger after an operation. -/
def after (l : Ledger) : StoreOp → Ledger
  | .save s => { l with saved := some s }
  | .add r => { l with records := r :: l.records }
  | .init | .load | .list _ => l

/-- The tables that hold the ledger. -/
def database (l : Ledger) : Store.Database where
  settings := some (.ofSettings (l.saved.getD {}))
  history := l.records.map .ofRecord

/-- The store that holds the ledger. -/
def store (l : Ledger) : Store := .withDatabase l.database

/-- The records were created in the order of their times. -/
def IsOrdered (l : Ledger) : Prop := l.records.Pairwise fun r r' => r'.NotAfter r

variable {l : Ledger}

/-- What is read is what was saved last, cleaned. -/
theorem load_store (l : Ledger) : l.store.load = .ok (l.saved.getD {}).cleaned := by
  rw [store, Store.load_withDatabase rfl, Store.SettingsRow.settings?_ofSettings]
  rfl

/-- The newest rows are those that were inserted last. -/
theorem newestFirst_database (h : l.IsOrdered) :
    l.database.newestFirst = l.records.map .ofRecord := by
  refine List.mergeSort_of_pairwise ?_
  rw [database, List.pairwise_map]
  exact h

/-- What is listed, as long as there are no more rows than a signed word can count: a limit beyond
the signed range is none. -/
theorem list_store (h : l.IsOrdered) (hcount : l.records.length ≤ Nat.pow 2 63) (limit : UInt64) :
    l.store.list limit = .ok (l.records.take limit.toNat) := by
  have hrows : l.database.listed limit.toInt64 =
      (l.records.map .ofRecord).take limit.toNat := by
    rw [Store.Database.listed, newestFirst_database h]
    by_cases hlimit : limit.toNat < Nat.pow 2 63
    · have hsigned := Store.toInt_toInt64_of_lt hlimit
      rw [if_neg (by rw [Int64.lt_iff_toInt_lt, hsigned]; simp), hsigned, Int.toNat_natCast]
    · have hfar := Nat.not_lt.1 hlimit
      have hlength : (l.records.map Store.HistoryRow.ofRecord).length ≤ limit.toNat := by
        rw [List.length_map]
        exact hcount.trans hfar
      rw [if_pos (Store.toInt64_neg_of_le hfar), List.take_of_length_le hlength]
  have hread : l.store.list limit =
      .ok ((l.database.listed limit.toInt64).filterMap (·.record?)) := rfl
  rw [hread, hrows, ← List.map_take, Store.HistoryRow.filterMap_record?]

end Ledger

namespace StoreOp

/-- **One operation.** A store that holds a ledger does whatever it is asked for, and holds the
ledger after it. -/
theorem exec_store (op : StoreOp) (l : Ledger) : op.exec l.store = .ok (l.after op).store := by
  cases op with
  | load =>
    rw [exec, Ledger.load_store]
    rfl
  | init | save | add | list => rfl

/-- **Any number of operations.** -/
theorem execAll_store (ops : List StoreOp) (l : Ledger) :
    execAll l.store ops = .ok (ops.foldl Ledger.after l).store := by
  induction ops generalizing l with
  | nil => rfl
  | cons op ops ih =>
    rw [execAll, List.foldlM_cons, exec_store]
    exact ih (l.after op)

end StoreOp

namespace Ledger

/-- In the cell lie the settings that were saved last. -/
theorem saved_foldl_after (ops : List StoreOp) (l : Ledger) :
    (ops.foldl after l).saved = (ops.filterMap StoreOp.saved?).getLast?.or l.saved := by
  induction ops generalizing l with
  | nil => rfl
  | cons op ops ih =>
    rw [List.foldl_cons, ih]
    cases op with
    | save s => simp [after, StoreOp.saved?, List.getLast?_cons]
    | init | load | add | list => rfl

/-- In the log lie all records that were created. -/
theorem records_foldl_after (ops : List StoreOp) (l : Ledger) :
    (ops.foldl after l).records = (ops.filterMap StoreOp.created?).reverse ++ l.records := by
  induction ops generalizing l with
  | nil => rfl
  | cons op ops ih =>
    rw [List.foldl_cons, ih]
    cases op with
    | add r => simp [after, StoreOp.created?]
    | init | load | save | list => rfl

end Ledger

/-- **The store is a cell and a log.** In a fresh place, the store is made ready, and then asked for
anything, any number of times. It does it all, and then the settings read are the defaults if none
were saved, and those saved last, cleaned, if some were; and a list of some length is made up of so
many of the records created last, the newest first, each as it was created. A shorter list is the
front of a longer one. So it is if the times of the records are in order and a signed word can count
them. -/
theorem Store.cell_and_log (ops : List StoreOp)
    (hordered : (ops.filterMap StoreOp.created?).Pairwise SwitchRecord.NotAfter)
    (hcount : (ops.filterMap StoreOp.created?).length ≤ Nat.pow 2 63) :
    ∃ s, StoreOp.execAll {} (.init :: ops) = .ok s ∧
      s.load = .ok (((ops.filterMap StoreOp.saved?).getLast?.map Settings.cleaned).getD {}) ∧
      (∀ limit, s.list limit =
        .ok ((ops.filterMap StoreOp.created?).reverse.take limit.toNat)) ∧
      ∀ few many, few ≤ many → ∃ short long, s.list few = .ok short ∧ s.list many = .ok long ∧
        short <+: long := by
  have hexec : StoreOp.execAll {} (.init :: ops) = .ok (ops.foldl Ledger.after {}).store :=
    StoreOp.execAll_store ops {}
  have hsaved := Ledger.saved_foldl_after ops {}
  have hrecords := Ledger.records_foldl_after ops {}
  rw [Option.or_none] at hsaved
  rw [List.append_nil] at hrecords
  have hlist (limit : UInt64) : (ops.foldl Ledger.after {}).store.list limit =
      .ok ((ops.filterMap StoreOp.created?).reverse.take limit.toNat) := by
    rw [Ledger.list_store, hrecords]
    · rw [Ledger.IsOrdered, hrecords, List.pairwise_reverse]
      exact hordered
    · rw [hrecords, List.length_reverse]
      exact hcount
  refine ⟨_, hexec, ?_, hlist, fun few many h => ⟨_, _, hlist few, hlist many, ?_⟩⟩
  · rw [Ledger.load_store, hsaved]
    cases (ops.filterMap StoreOp.saved?).getLast? with
    | none => rfl
    | some s => rfl
  · exact List.take_prefix_take_left h

/-- Settings whose texts have blanks around them, and three switches, the last two of them at the
same time: the settings are read without the blanks, and a list of two has the last one in front. -/
theorem Store.cell_and_log_of_three :
    let settings : Settings :=
      { mode := .openCode, hookVersion := some " 26.1.0 ", remembered := ⟨some "\t", some "work "⟩ }
    let first : SwitchRecord := ⟨⟨.gpt, none, "a", "switched", some "已切换"⟩, "id-1",
      "2026-11-18T12:00:00+00:00"⟩
    let second : SwitchRecord := ⟨⟨.gpt, some "a", "b", "post_action_failed", none⟩, "id-2",
      "2026-11-18T12:00:00.250+00:00"⟩
    let third : SwitchRecord := ⟨⟨.openCode, some "b", "a", "switched", none⟩, "id-3",
      "2026-11-18T12:00:00.250+00:00"⟩
    let ops : List StoreOp :=
      [.add first, .load, .save settings, .add second, .init, .add third, .list 1]
    ∃ s, StoreOp.execAll {} (.init :: ops) = .ok s ∧
      s.load = .ok { mode := .openCode, hookVersion := some "26.1.0",
                     remembered := ⟨none, some "work"⟩ } ∧
      s.list 2 = .ok [third, second] := by
  intro settings first second third ops
  obtain ⟨s, hexec, hload, hlist, -⟩ :=
    Store.cell_and_log ops (by decide +kernel) (by decide +kernel)
  refine ⟨s, hexec, ?_, hlist 2⟩
  rw [hload]
  decide +kernel

end Switchboard
