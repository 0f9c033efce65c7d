import WorldQuery.Coercion
import WorldQuery.Component
import WorldQuery.Store
import WorldQuery.Text.Blank
import Mathlib.Tactic

/-!
# Names and data as the store compares them

A table is found under its name in any case of the letters. The store takes two data for the same if
it orders neither before the other: texts and bytes are then equal to nothing but themselves, among
the data that a store can hold. Bytes that read like an empty text are blanks as a text, too.
-/

namespace WorldQuery

namespace Store

open Number.Binary64 (asciiLower)

variable {s : Store} {t : Table} {name : String}

theorem sameName_iff {a b : String} :
    sameName a b = true ↔ a.toList.map asciiLower = b.toList.map asciiLower := by
  unfold sameName
  exact beq_iff_eq

theorem table_eq_ok_iff : s.table name = .ok t ↔ s.reachable = true ∧ s.table? name = some t := by
  unfold table
  cases s.reachable with
  | false => simp
  | true => cases s.table? name <;> simp

theorem sameName_of_table (h : s.table name = .ok t) : sameName t.name name = true := by
  obtain ⟨-, hfound⟩ := table_eq_ok_iff.mp h
  unfold table? at hfound
  simpa using List.find?_some hfound

theorem table_of_cons {rest : List Table} (hname : sameName t.name name = true) :
    (Store.mk (t :: rest) true).table name = .ok t :=
  table_eq_ok_iff.mpr ⟨rfl, List.find?_cons_of_pos hname⟩

end Store

theorem Store.compareLex_eq_iff (xs ys : List Nat) :
    Store.compareData.compareLex xs ys = .eq ↔ xs = ys := by
  induction xs generalizing ys with
  | nil => cases ys <;> simp [Store.compareData.compareLex]
  | cons x xs ih =>
    cases ys with
    | nil => simp [Store.compareData.compareLex]
    | cons y ys => simp [Store.compareData.compareLex, Ordering.then_eq_eq, ih]

namespace Datum

/-- The data that a store can hold. -/
def IsStored : Datum → Prop
  | null | int _ | real _ | text _ | blob _ => True
  | _ => False

theorem beq_iff {d e : Datum} : (d == e) = true ↔ Store.compareData d e = .eq := by
  change (Store.compareData d e == .eq) = true ↔ _
  rw [beq_iff_eq]

theorem beq_text_iff {d : Datum} {text : String} : (d == .text text) = true ↔ d = .text text := by
  have hinj : Function.Injective Char.toNat := fun a b h => Char.toNat_inj.mp h
  rw [beq_iff]
  cases d with
  | text s =>
    simp only [Store.compareData, Store.compareLex_eq_iff, (List.map_injective_iff.mpr hinj).eq_iff,
      String.toList_inj, Datum.text.injEq]
  | _ => simp [Store.compareData, Store.kindRank, compare, compareOfLessAndEq]

theorem text_beq_iff {d : Datum} {text : String} : (.text text == d) = true ↔ d = .text text := by
  cases d with
  | text s => rw [beq_text_iff, eq_comm]
  | _ =>
    rw [beq_iff]
    simp [Store.compareData, Store.kindRank, compare, compareOfLessAndEq]

theorem text_beq_text (s t : String) : (Datum.text s == Datum.text t) = (s == t) := by
  rw [Bool.eq_iff_iff, beq_text_iff, beq_iff_eq, Datum.text.injEq]

theorem blob_beq_iff {d : Datum} (hd : d.IsStored) {bytes : List UInt8} :
    (.blob bytes == d) = true ↔ d = .blob bytes := by
  have hinj : Function.Injective UInt8.toNat := fun a b h => UInt8.toNat_inj.mp h
  rw [beq_iff]
  cases d with
  | blob others =>
    simp only [Store.compareData, Store.compareLex_eq_iff, (List.map_injective_iff.mpr hinj).eq_iff,
      Datum.blob.injEq]
    exact eq_comm
  | null | int i | real x | text s =>
    simp [Store.compareData, Store.kindRank, compare, compareOfLessAndEq]
  | bool _ | illFormed _ | moment _ | list _ | object _ => exact hd.elim

end Datum

/-! ### Texts of columns -/

theorem Component.readText_eq_ok_iff {d : Datum} {text : String} :
    Component.readText (some d) = .ok text ↔
      d = .text text ∨ ∃ bytes, d = .blob bytes ∧
        String.fromUTF8? (ByteArray.mk bytes.toArray) = some text := by
  unfold Component.readText Coercion.text
  cases d with
  | text s => simp [Coercion.text?, bind, Except.bind]
  | blob bytes =>
    cases h : String.fromUTF8? (ByteArray.mk bytes.toArray) <;>
      simp [Coercion.text?, h, bind, Except.bind]
  | _ => simp [Coercion.text?, bind, Except.bind]

/-- Among the bytes of a character one is no smaller than `128`, or is the character itself. -/
theorem Text.exists_mem_utf8EncodeChar (c : Char) :
    ∃ b ∈ String.utf8EncodeChar c, 128 ≤ b.toNat ∨ b.toNat = c.toNat := by
  unfold String.utf8EncodeChar
  have hval : c.val.toNat = c.toNat := rfl
  dsimp only
  split_ifs with hascii htwo hthree
  · refine ⟨_, List.mem_cons_self, Or.inr ?_⟩
    rw [UInt8.toNat_ofNat']
    omega
  all_goals
    refine ⟨_, List.mem_cons_self, Or.inl ?_⟩
    rw [UInt8.toNat_ofNat']
    omega

theorem Text.utf8Encode_of_fromUTF8? {bytes : List UInt8} {text : String}
    (h : String.fromUTF8? (ByteArray.mk bytes.toArray) = some text) :
    text.toList.flatMap String.utf8EncodeChar = bytes := by
  unfold String.fromUTF8? at h
  split_ifs at h with hvalid
  obtain rfl := Option.some.inj h
  have hencode : (String.fromUTF8 _ hvalid).toList.utf8Encode = ByteArray.mk bytes.toArray :=
    String.utf8Encode_toList
  have hbytes := congrArg (fun b => b.data.toList) hencode
  rw [List.utf8Encode, List.toList_data_toByteArray] at hbytes
  exact hbytes

theorem Store.isBlank_of_isSpace : ∀ n < 256, Store.isSpace (Char.ofNat n) = true →
    n < 128 ∧ Text.isBlank (Char.ofNat n) = true := by
  decide +kernel

theorem Text.isBlank_of_fromUTF8? {bytes : List UInt8} {text : String}
    (h : String.fromUTF8? (ByteArray.mk bytes.toArray) = some text)
    (hblank : ∀ b ∈ bytes, Store.isSpace (Char.ofNat b.toNat) = true) :
    ∀ c ∈ text.toList, Text.isBlank c = true := by
  intro c hc
  obtain ⟨b, hb, hbyte⟩ := exists_mem_utf8EncodeChar c
  have hspace := hblank b (utf8Encode_of_fromUTF8? h ▸ List.mem_flatMap.mpr ⟨c, hc, hb⟩)
  obtain ⟨hsmall, hbblank⟩ := Store.isBlank_of_isSpace b.toNat b.toNat_lt hspace
  have hself : b.toNat = c.toNat := hbyte.resolve_left (Nat.not_le_of_lt hsmall)
  rwa [hself, Char.ofNat_toNat] at hbblank

end WorldQuery
