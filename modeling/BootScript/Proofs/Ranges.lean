import BootScript.Proofs.BufferLines

/-!
# Ranges of a buffer

A copy and a search are held to the end of a buffer in different ways: a range that goes
beyond it is refused as a whole, while a search is cut short there.  Still they agree on
what stands where, so a search finds the first place from which a copy of one byte gives
the byte that is searched for.

Both can be carried out by taking slices.  No slice is ever taken that does not lie within
the bytes, however large the offsets are.
-/

namespace BootScript

namespace Contents

/-! ## Taking slices -/

/-- A search of so many places is a search of the slice that they make up. -/
theorem firstFrom_eq_idxOf? {bytes : Array UInt8} {value : UInt8} {position count : Nat}
    (inside : position + count ≤ bytes.size) :
    firstFrom bytes value position count =
      (((bytes.toList.drop position).take count).idxOf? value).map (position + ·) := by
  induction count generalizing position with
  | zero => rfl
  | succ count ih =>
      have here : position < bytes.toList.length := by
        rw [Array.length_toList]
        omega
      have same : bytes[position]? = some value ↔ bytes.toList[position] = value := by
        rw [← Array.getElem?_toList, List.getElem?_eq_getElem here, Option.some_inj]
      rw [firstFrom, ih (by omega), List.drop_eq_getElem_cons here, List.take_succ_cons,
        List.idxOf?_cons]
      by_cases found : bytes.toList[position] = value
      · rw [if_pos (same.mpr found), if_pos (beq_iff_eq.mpr found), Option.map_some, Nat.add_zero]
      · rw [if_neg (mt same.mp found), if_neg (mt beq_iff_eq.mp found), Option.map_map]
        congr 1
        funext place
        exact Nat.add_right_comm position 1 place

/-- The bytes from one place up to another.  There is no such slice unless the places are in
order and neither lies beyond the end. -/
def slice? (contents : Contents) (start stop : UInt64) : Option Bytes :=
  if start ≤ stop ∧ stop ≤ contents.size then
    some ((contents.bytes.toList.drop start.toNat).take (stop.toNat - start.toNat))
  else none

/-- A copy that takes a slice, unless the range is refused.  There is no answer where there is
no slice to take. -/
def copySlice? (contents : Contents) (offset length : UInt64) :
    Option (Except ImageError Bytes) :=
  if offset.toNat + length.toNat < UInt64.size ∧ offset + length ≤ contents.size then
    (contents.slice? offset (offset + length)).map .ok
  else some (.error (.outOfBounds offset length contents.size))

/-- A search that takes a slice, unless the range is empty.  There is no answer where there is
no slice to take. -/
def searchSlice? (contents : Contents) (value : UInt8) (offset stop : UInt64) :
    Option (Option UInt64) :=
  let stop := if stop ≤ contents.size then stop else contents.size
  if stop ≤ offset then some none
  else
    (contents.slice? offset stop).map fun range =>
      (range.idxOf? value).map fun place => offset + UInt64.ofNat place

section Slices

variable (contents : Contents) (value : UInt8) (offset stop : UInt64)

theorem toNat_clamp :
    (if stop ≤ contents.size then stop else contents.size).toNat =
      min stop.toNat contents.bytes.size := by
  have size := contents.toNat_size
  split
  · next within =>
      rw [UInt64.le_iff_toNat_le] at within
      omega
  · next beyond =>
      rw [UInt64.le_iff_toNat_le] at beyond
      omega

theorem copySlice?_eq (length : UInt64) :
    contents.copySlice? offset length = some (contents.read offset length) := by
  have bound := contents.size_lt
  have size := contents.toNat_size
  have words : UInt64.size = 0x10000000000000000 := rfl
  rw [copySlice?, read_eq]
  by_cases inside : offset.toNat + length.toNat ≤ contents.bytes.size
  · have sum : (offset + length).toNat = offset.toNat + length.toNat := by
      rw [UInt64.toNat_add]
      omega
    have forward : offset ≤ offset + length := by
      rw [UInt64.le_iff_toNat_le, sum]
      exact Nat.le_add_right _ _
    have within : offset + length ≤ contents.size := by
      rwa [UInt64.le_iff_toNat_le, sum, size]
    rw [if_pos ⟨by omega, within⟩, if_pos inside, slice?, if_pos ⟨forward, within⟩, sum,
      Nat.add_sub_cancel_left]
    rfl
  · -- A sum that fits a word lies beyond the end, and any other is refused as such.
    have refused : ¬(offset.toNat + length.toNat < UInt64.size ∧
        offset + length ≤ contents.size) := by
      rw [UInt64.le_iff_toNat_le, UInt64.toNat_add, size]
      omega
    rw [if_neg refused, if_neg inside]

theorem searchSlice?_eq :
    contents.searchSlice? value offset stop = some (contents.indexOf? value offset stop) := by
  have clamped := contents.toNat_clamp stop
  rw [searchSlice?, indexOf?]
  generalize (if stop ≤ contents.size then stop else contents.size) = clamp at clamped ⊢
  by_cases empty : clamp ≤ offset
  · have nothing : clamp.toNat - offset.toNat = 0 :=
      Nat.sub_eq_zero_of_le (UInt64.le_iff_toNat_le.mp empty)
    rw [if_pos empty, nothing]
    rfl
  · have forward : offset ≤ clamp := by
      rw [UInt64.le_iff_toNat_le] at empty ⊢
      omega
    have within : clamp ≤ contents.size := by
      rw [UInt64.le_iff_toNat_le, toNat_size]
      omega
    have inside : offset.toNat + (clamp.toNat - offset.toNat) ≤ contents.bytes.size := by
      rw [UInt64.le_iff_toNat_le] at forward
      omega
    rw [if_neg empty, slice?, if_pos ⟨forward, within⟩, firstFrom_eq_idxOf? inside,
      Option.map_some, Option.map_map]
    congr 2
    funext place
    rw [Function.comp_apply, UInt64.ofNat_add, UInt64.ofNat_toNat]

end Slices

end Contents

namespace Buffer

/-! ## What stands where -/

/-- A range of so many bytes at an offset. -/
def StandsAt (bytes : Bytes) (offset length : Nat) (range : Bytes) : Prop :=
  ∃ before after, bytes = before ++ range ++ after ∧ before.length = offset ∧
    range.length = length

/-- The place lies in the range and within the buffer, and a copy of one byte from it gives
the byte. -/
structure Shows (buffer : Buffer) (value : UInt8) (offset stop place : UInt64) : Prop where
  reached : offset ≤ place
  before : place < stop
  inside : place < buffer.size
  copies : buffer.read place 1 = .ok [value]

theorem standsAt_iff {bytes range : Bytes} {offset length : Nat} :
    StandsAt bytes offset length range ↔
      offset + length ≤ bytes.length ∧ (bytes.drop offset).take length = range := by
  constructor
  · rintro ⟨before, after, rfl, rfl, rfl⟩
    simp
  · rintro ⟨inside, rfl⟩
    refine ⟨bytes.take offset, (bytes.drop offset).drop length, ?_, ?_, ?_⟩
    · rw [List.append_assoc, List.take_append_drop, List.take_append_drop]
    · rw [List.length_take]
      omega
    · rw [List.length_take, List.length_drop]
      omega

section Whole

variable {contents : Contents} {value : UInt8} {offset stop place : UInt64}

theorem read_one_iff :
    ({ contents } : Buffer).read place 1 = .ok [value] ↔
      contents.bytes[place.toNat]? = some value := by
  have whole : ({ contents } : Buffer).read place 1 = contents.read place 1 := rfl
  rw [whole, Contents.read_eq, UInt64.toNat_one, ← Array.getElem?_toList]
  by_cases inside : place.toNat + 1 ≤ contents.bytes.size
  · have here : place.toNat < contents.bytes.toList.length := by
      rwa [Array.length_toList]
    rw [if_pos inside, List.drop_eq_getElem_cons here, List.take_succ_cons, List.take_zero,
      List.getElem?_eq_getElem here]
    simp
  · rw [if_neg inside, List.getElem?_eq_none (by rw [Array.length_toList]; omega)]
    simp

theorem shows_iff :
    ({ contents } : Buffer).Shows value offset stop place ↔
      offset.toNat ≤ place.toNat ∧
        place.toNat < offset.toNat + (min stop.toNat contents.bytes.size - offset.toNat) ∧
        contents.bytes[place.toNat]? = some value := by
  have size : ({ contents } : Buffer).size.toNat = contents.bytes.size := contents.toNat_size
  constructor
  · rintro ⟨reached, before, inside, copies⟩
    rw [UInt64.le_iff_toNat_le] at reached
    rw [UInt64.lt_iff_toNat_lt] at before inside
    exact ⟨reached, by omega, read_one_iff.mp copies⟩
  · rintro ⟨reached, inside, found⟩
    refine ⟨?_, ?_, ?_, read_one_iff.mpr found⟩
    · rwa [UInt64.le_iff_toNat_le]
    · rw [UInt64.lt_iff_toNat_lt]
      omega
    · rw [UInt64.lt_iff_toNat_lt]
      omega

theorem read_eq_ok_iff {length : UInt64} {range : Bytes} :
    ({ contents } : Buffer).read offset length = .ok range ↔
      StandsAt contents.bytes.toList offset.toNat length.toNat range := by
  have whole : ({ contents } : Buffer).read offset length = contents.read offset length := rfl
  rw [whole, Contents.read_eq, standsAt_iff, Array.length_toList]
  by_cases inside : offset.toNat + length.toNat ≤ contents.bytes.size
  · rw [if_pos inside, Except.ok.injEq]
    exact ⟨fun taken => ⟨inside, taken⟩, And.right⟩
  · rw [if_neg inside]
    exact iff_of_false nofun fun stands => inside stands.1

theorem toNat_of_byte {position : Nat} (found : contents.bytes[position]? = some value) :
    (UInt64.ofNat position).toNat = position := by
  have bound := contents.size_lt
  have inside : position < contents.bytes.size := (Array.getElem?_eq_some_iff.mp found).1
  rw [UInt64.toNat_ofNat']
  omega

theorem indexOf?_eq :
    ({ contents } : Buffer).indexOf? value offset stop =
      (Contents.firstFrom contents.bytes value offset.toNat
        (min stop.toNat contents.bytes.size - offset.toNat)).map UInt64.ofNat := by
  rw [indexOf?, Contents.indexOf?, Contents.toNat_clamp]

theorem indexOf?_eq_none_iff :
    ({ contents } : Buffer).indexOf? value offset stop = none ↔
      ∀ place, ¬({ contents } : Buffer).Shows value offset stop place := by
  rw [indexOf?_eq, Option.map_eq_none_iff, Contents.firstFrom_eq_none_iff]
  constructor
  · intro absent place shows
    obtain ⟨reached, inside, found⟩ := shows_iff.mp shows
    exact absent place.toNat reached inside found
  · intro absent position reached inside found
    refine absent (UInt64.ofNat position) (shows_iff.mpr ?_)
    rw [toNat_of_byte found]
    exact ⟨reached, inside, found⟩

theorem indexOf?_eq_some_iff :
    ({ contents } : Buffer).indexOf? value offset stop = some place ↔
      ({ contents } : Buffer).Shows value offset stop place ∧
        ∀ other, ({ contents } : Buffer).Shows value offset stop other → place ≤ other := by
  rw [indexOf?_eq, Option.map_eq_some_iff]
  constructor
  · rintro ⟨position, finds, rfl⟩
    obtain ⟨reached, inside, found, first⟩ := Contents.firstFrom_eq_some_iff.mp finds
    refine ⟨shows_iff.mpr ?_, fun other shows => ?_⟩
    · rw [toNat_of_byte found]
      exact ⟨reached, inside, found⟩
    · obtain ⟨further, -, also⟩ := shows_iff.mp shows
      rw [UInt64.le_iff_toNat_le, toNat_of_byte found, ← Nat.not_lt]
      exact fun earlier => first other.toNat further earlier also
  · rintro ⟨shows, least⟩
    obtain ⟨reached, inside, found⟩ := shows_iff.mp shows
    refine ⟨place.toNat, Contents.firstFrom_eq_some_iff.mpr ⟨reached, inside, found, ?_⟩,
      UInt64.ofNat_toNat⟩
    intro earlier further before also
    have shows : ({ contents } : Buffer).Shows value offset stop (UInt64.ofNat earlier) := by
      rw [shows_iff, toNat_of_byte also]
      exact ⟨further, by omega, also⟩
    have beyond := least _ shows
    rw [UInt64.le_iff_toNat_le, toNat_of_byte also] at beyond
    omega

end Whole

/-- A copy gives the range that was asked for, and is refused if the range ends beyond the
bytes, counted without wrapping.  A search gives the first place in its range from which a
copy of one byte gives the byte.  Both take slices only from within the bytes. -/
theorem reads_within (contents : Contents) :
    let buffer : Buffer := { contents }
    let bytes := contents.bytes.toList
    buffer.size.toNat = bytes.length ∧
      (∀ offset length,
        ((∃ range, buffer.read offset length = .ok range) ↔
            offset.toNat + length.toNat ≤ bytes.length) ∧
          (∀ range, buffer.read offset length = .ok range ↔
            StandsAt bytes offset.toNat length.toNat range) ∧
          (bytes.length < offset.toNat + length.toNat →
            buffer.read offset length = .error (.outOfBounds offset length buffer.size)) ∧
          contents.copySlice? offset length = some (buffer.read offset length)) ∧
      ∀ value offset stop,
        (∀ place, buffer.indexOf? value offset stop = some place ↔
            buffer.Shows value offset stop place ∧
              ∀ other, buffer.Shows value offset stop other → place ≤ other) ∧
          (buffer.indexOf? value offset stop = none ↔
            ∀ place, ¬buffer.Shows value offset stop place) ∧
          contents.searchSlice? value offset stop = some (buffer.indexOf? value offset stop) := by
  intro buffer bytes
  have size : bytes.length = contents.bytes.size := Array.length_toList
  refine ⟨contents.toNat_size.trans size.symm, fun offset length => ?_, fun value offset stop =>
    ⟨fun place => indexOf?_eq_some_iff, indexOf?_eq_none_iff,
      contents.searchSlice?_eq value offset stop⟩⟩
  refine ⟨⟨?_, ?_⟩, fun range => read_eq_ok_iff, fun beyond => ?_,
    contents.copySlice?_eq offset length⟩
  · rintro ⟨range, copies⟩
    exact (standsAt_iff.mp (read_eq_ok_iff.mp copies)).1
  · intro inside
    exact ⟨_, read_eq_ok_iff.mpr (standsAt_iff.mpr ⟨inside, rfl⟩)⟩
  · have whole : buffer.read offset length = contents.read offset length := rfl
    rw [whole, Contents.read_eq, if_neg (by omega)]
    rfl

/-- A range whose end wraps around is refused.  A search up to the greatest word finds the last
byte, and one that starts beyond its stop finds nothing. -/
theorem reads_within_wrapping :
    let contents : Contents := ⟨#[97, 98, 99, 10, 100, 98], by decide⟩
    let buffer : Buffer := { contents }
    let greatest : UInt64 := 0xffffffffffffffff
    buffer.read greatest 2 = .error (.outOfBounds greatest 2 6) ∧
      contents.copySlice? greatest 2 = some (.error (.outOfBounds greatest 2 6)) ∧
      buffer.Shows 98 2 greatest 5 ∧
      (∀ place, ¬buffer.Shows 98 greatest 3 place) ∧
      contents.searchSlice? 98 greatest 3 = some none := by
  intro contents buffer greatest
  obtain ⟨-, copies, searches⟩ := reads_within contents
  obtain ⟨-, -, wraps, slices⟩ := copies greatest 2
  obtain ⟨finds, -, -⟩ := searches 98 2 greatest
  obtain ⟨-, misses, stays⟩ := searches 98 greatest 3
  have refused : buffer.read greatest 2 = .error (.outOfBounds greatest 2 6) := wraps (by decide)
  have found : buffer.indexOf? 98 2 greatest = some 5 := by decide
  have missed : buffer.indexOf? 98 greatest 3 = none := by decide
  exact ⟨refused, slices.trans (congrArg some refused), ((finds 5).mp found).1, misses.mp missed,
    stays.trans (congrArg some missed)⟩

end Buffer

end BootScript
