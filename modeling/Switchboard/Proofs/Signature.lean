import Switchboard.Model
import Switchboard.Proofs.JsonReading

/-!
# What a signature tells

A signature is a digest of the snapshot's text, and the text holds the names of the profiles in
their order (`Snapshot.names_eq_of_compact_eq`). So two snapshots with the same signature have the
same names, unless their texts are a collision of the digest (`Snapshot.names_eq_or_collides`).
`Snapshot.signature_eq` gives a signature by the characters of the text, with which it can be computed.
-/

set_option autoImplicit false

namespace Switchboard

open Json

theorem Profile.names_eq_of_itemDocs_eq {ps qs : List Profile}
    (h : itemDocs (ps.map Profile.toJson) = itemDocs (qs.map Profile.toJson)) :
    ps.map (·.name) = qs.map (·.name) := by
  induction ps generalizing qs with
  | nil =>
    cases qs with
    | nil => rfl
    | cons q qs => cases h
  | cons p ps ih =>
    cases qs with
    | nil => cases h
    | cons q qs =>
      obtain ⟨hp, hps⟩ := List.cons.inj h
      have hname : p.name = q.name := by
        simp only [Profile.toJson, List.cons_append, toDoc, fieldDocs, Doc.object.injEq,
          List.cons.injEq, Prod.mk.injEq, Doc.string.injEq, Option.some.injEq] at hp
        exact hp.1.2
      rw [List.map_cons, List.map_cons, hname, ih hps]

namespace Snapshot

/-- The text of a snapshot tells the names of its profiles, and in which order they stand. -/
theorem names_eq_of_compact_eq {s t : Snapshot} (h : s.toJson.compact = t.toJson.compact) :
    s.names = t.names := by
  have hdoc : s.toJson.toDoc = t.toJson.toDoc := by
    have hs := Reading.ofText_compact s.toJson
    rw [h, Reading.ofText_compact t.toJson] at hs
    exact (congrArg Reading.doc hs).symm
  simp only [toJson, Json.list, toDoc, fieldDocs, Doc.object.injEq, List.cons.injEq,
    Prod.mk.injEq, Doc.array.injEq] at hdoc
  obtain ⟨-, -, -, -, -, -, -, ⟨-, hitems⟩, -⟩ := hdoc
  exact Profile.names_eq_of_itemDocs_eq hitems

/-- The texts of the two snapshots differ and have the same digest. -/
def Collides (s t : Snapshot) : Prop :=
  s.toJson.compact ≠ t.toJson.compact ∧ s.signature = t.signature

/-- Snapshots with one signature have the same names, or collide. -/
theorem names_eq_or_collides {s t : Snapshot} (h : s.signature = t.signature) :
    s.names = t.names ∨ s.Collides t := by
  by_cases htext : s.toJson.compact = t.toJson.compact
  · exact .inl (names_eq_of_compact_eq htext)
  · exact .inr ⟨htext, h⟩

end Snapshot

/-! ## Computing a signature -/

theorem toList_loop_eq (b : ByteArray) (i : Nat) (r : List UInt8) :
    ByteArray.toList.loop b i r = r.reverse ++ b.data.toList.drop i := by
  fun_induction ByteArray.toList.loop b i r with
  | case1 i r hi ih =>
    have hi' : i < b.data.toList.length := hi
    rw [ih, List.drop_eq_getElem_cons hi']
    simp [ByteArray.get!, getElem!_pos b.data i hi]
  | case2 i r hi =>
    have hi' : b.data.toList.length ≤ i := Nat.le_of_not_lt hi
    rw [List.drop_eq_nil_of_le hi', List.append_nil]

/-- The bytes of a text are those of its characters. -/
theorem toList_toUTF8_ofList (cs : List Char) :
    (String.ofList cs).toUTF8.toList = cs.flatMap String.utf8EncodeChar := by
  have hbytes : (String.ofList cs).toUTF8 = (cs.flatMap String.utf8EncodeChar).toByteArray := rfl
  rw [hbytes, ByteArray.toList, toList_loop_eq, List.reverse_nil, List.nil_append, List.drop_zero,
    List.toList_data_toByteArray]

/-- The signature without the text: no bytes are packed only to be unpacked again. -/
theorem Snapshot.signature_eq (s : Snapshot) :
    s.signature = Digest.hex (Digest.sha256 (s.toJson.chars.flatMap String.utf8EncodeChar)) := by
  rw [signature, Json.compact, toList_toUTF8_ofList]

end Switchboard
