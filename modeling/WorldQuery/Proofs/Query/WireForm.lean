import WorldQuery.Proofs.Felt
import WorldQuery.Proofs.Storage.Decoding
import WorldQuery.Query.Leaf

/-!
# Leaves on the wire

A value passes two coercions, that of the layout its row is decoded by and that of the schema. The
second alone settles the form of a leaf: `outputAsScalar_wireForm`. Where both are of one kind, the
second changes nothing, unless the kind is that of timestamps or the integer has no place on the
wire: `outputAsScalar_of_coerce`.
-/

namespace WorldQuery.Query

open Success

/-- The form of a leaf of a scalar kind. -/
def WireForm : Scalar → Datum → Prop
  | .address, d => ∃ s, d = .text s ∧ Felt.Canonical s
  | .felt, d => ∃ s, d = .text s ∧ Felt.Canonical s
  | .dateTime, d => ∃ s moment, d = .text s ∧ Time.Moment.utcText moment = .ok s
  | .int, d => ∃ i, d = .int i ∧ -2 ^ 31 ≤ i ∧ i ≤ 2 ^ 31 - 1
  | .boolean, d => ∃ b, d = .bool b
  | .string, d => ∃ s, d = .text s
  | .id, d => ∃ s, d = .text s

theorem fitsInt_iff {i : Int} : fitsInt i = true ↔ -2 ^ 31 ≤ i ∧ i ≤ 2 ^ 31 - 1 := by
  simp [fitsInt]

section Forms

variable {v out : Value} {d : Datum}

theorem felt_wireForm {s : String} (h : Felt.canonical d = .ok s) : Felt.Canonical s := by
  obtain ⟨n, rfl⟩ := Felt.exists_of_canonical h
  exact Felt.render_canonical n

theorem exists_moment {s : String} (h : Scalar.momentText d = .ok s) :
    ∃ moment, Time.Moment.utcText moment = .ok s := by
  unfold Scalar.momentText at h
  split at h
  · obtain ⟨moment, -, hmoment⟩ := bind_eq_ok_iff.mp (mapError_eq_ok_iff.mp h)
    exact ⟨moment, hmoment⟩
  · exact ⟨_, mapError_eq_ok_iff.mp h⟩
  · cases h

theorem intLeaf_wireForm (h : intLeaf v = .ok out) : WireForm .int out.toDatum := by
  obtain ⟨i, hi, hout⟩ := bind_eq_ok_iff.mp h
  split at hout
  · next b =>
    obtain rfl := pure_eq_ok_iff.mp hout
    obtain rfl : (if b then 1 else 0) = i := Except.ok.inj hi
    exact ⟨_, rfl, by split <;> decide, by split <;> decide⟩
  · split_ifs at hout with hfits
    obtain rfl := pure_eq_ok_iff.mp hout
    exact ⟨i, rfl, fitsInt_iff.mp hfits⟩

theorem stringLeaf_wireForm (h : stringLeaf v = .ok out) : WireForm .string out.toDatum := by
  cases v with
  | text | bool | int =>
    obtain rfl := Except.ok.inj h
    exact ⟨_, rfl⟩
  | null => cases h

theorem idLeaf_wireForm (h : idLeaf v = .ok out) : WireForm .id out.toDatum := by
  cases v with
  | text | int =>
    obtain rfl := Except.ok.inj h
    exact ⟨_, rfl⟩
  | bool | null => cases h

theorem booleanLeaf_wireForm (h : booleanLeaf v = .ok out) : WireForm .boolean out.toDatum := by
  cases v with
  | bool | int =>
    obtain rfl := Except.ok.inj h
    exact ⟨_, rfl⟩
  | text | null => cases h

theorem outputAsScalar_wireForm {kind : Scalar} (h : outputAsScalar kind v = .ok out) :
    WireForm kind out.toDatum := by
  cases kind with
  | address | felt =>
    obtain ⟨s, hs, rfl⟩ := map_eq_ok_iff.mp (mapError_eq_ok_iff.mp h)
    exact ⟨s, rfl, felt_wireForm hs⟩
  | dateTime =>
    obtain ⟨s, hs, rfl⟩ := map_eq_ok_iff.mp (mapError_eq_ok_iff.mp h)
    obtain ⟨moment, hmoment⟩ := exists_moment hs
    exact ⟨s, moment, rfl, hmoment⟩
  | int => exact intLeaf_wireForm h
  | string => exact stringLeaf_wireForm h
  | id => exact idLeaf_wireForm h
  | boolean => exact booleanLeaf_wireForm h

end Forms

/-- The decoded values of a kind that the wire carries as they are. -/
structure Carried (kind : Scalar) (v : Value) : Prop where
  not_dateTime : kind ≠ .dateTime
  fits : ∀ i, v = .int i → -2 ^ 31 ≤ i ∧ i ≤ 2 ^ 31 - 1

/-- The coercion of the schema changes no value that the same coercion has made. -/
theorem outputAsScalar_of_coerce {kind : Scalar} {d : Datum} {v : Value}
    (h : kind.coerce d = .ok v) (hv : Carried kind v) : outputAsScalar kind v = .ok v := by
  cases kind with
  | address | felt =>
    obtain ⟨s, hs, rfl⟩ := map_eq_ok_iff.mp h
    obtain ⟨n, rfl⟩ := Felt.exists_of_canonical hs
    simp [outputAsScalar, Value.toDatum, Felt.canonical_render, Except.map, Except.mapError]
  | dateTime => exact absurd rfl hv.not_dateTime
  | int =>
    obtain ⟨i, -, rfl⟩ := map_eq_ok_iff.mp h
    have hfits := fitsInt_iff.mpr (hv.fits i rfl)
    simp [outputAsScalar, intLeaf, integerLeaf, bind, Except.bind, hfits, pure, Except.pure]
  | string | id | boolean =>
    obtain ⟨a, -, rfl⟩ := map_eq_ok_iff.mp h
    rfl

end WorldQuery.Query
