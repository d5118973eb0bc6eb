/-!
# Byte counts

Positions in a text are byte offsets in its UTF-8 encoding.  No character is empty, so a beginning
of a text is determined by its size (`eq_of_byteCount_eq`).  A byte offset is a number of characters
only behind ASCII characters (`byteCount_eq_length_iff`).
-/

set_option autoImplicit false

namespace SignedDifference.Text

def byteCount : List Char → Nat
  | [] => 0
  | c :: later => c.utf8Size + byteCount later

theorem byteCount_append (first second : List Char) :
    byteCount (first ++ second) = byteCount first + byteCount second := by
  induction first with
  | nil => exact (Nat.zero_add _).symm
  | cons c first ih => rw [List.cons_append, byteCount, byteCount, ih, Nat.add_assoc]

theorem byteCount_reverse (text : List Char) : byteCount text.reverse = byteCount text := by
  induction text with
  | nil => rfl
  | cons c text ih =>
      rw [List.reverse_cons, byteCount_append, ih, byteCount, byteCount, byteCount, Nat.add_zero,
        Nat.add_comm]

theorem byteCount_ofList (text : List Char) :
    byteCount text = (String.ofList text).utf8ByteSize := by
  induction text with
  | nil => rfl
  | cons c text ih =>
      rw [byteCount, ih, String.ofList_cons, String.utf8ByteSize_append,
        String.utf8ByteSize_singleton]

theorem byteCount_toList (text : String) : byteCount text.toList = text.utf8ByteSize := by
  rw [byteCount_ofList, String.ofList_toList]

theorem eq_of_byteCount_eq :
    ∀ {first other back rest : List Char}, first ++ back = other ++ rest →
      byteCount first = byteCount other → first = other := by
  intro first
  induction first with
  | nil =>
      intro other back rest _ same
      cases other with
      | nil => rfl
      | cons c later =>
          have positive := c.utf8Size_pos
          simp only [byteCount] at same
          omega
  | cons c later ih =>
      intro other back rest joined same
      cases other with
      | nil =>
          have positive := c.utf8Size_pos
          simp only [byteCount] at same
          omega
      | cons d others =>
          simp only [List.cons_append, List.cons.injEq] at joined
          obtain ⟨rfl, joined⟩ := joined
          simp only [byteCount] at same
          rw [ih joined (by omega)]

theorem utf8Size_eq_one_iff {c : Char} : c.utf8Size = 1 ↔ c.toNat < 0x80 := by
  rw [Char.utf8Size_eq_one_iff, UInt32.le_iff_toNat_le]
  exact Nat.le_iff_lt_add_one

theorem length_le_byteCount (text : List Char) : text.length ≤ byteCount text := by
  induction text with
  | nil => exact Nat.le_refl 0
  | cons c text ih =>
      have positive := c.utf8Size_pos
      rw [List.length_cons, byteCount]
      omega

theorem byteCount_pos {text : List Char} (nonempty : text ≠ []) : 0 < byteCount text :=
  Nat.lt_of_lt_of_le (List.length_pos_iff.mpr nonempty) (length_le_byteCount text)

theorem byteCount_lt_append (front : List Char) {back : List Char} (nonempty : back ≠ []) :
    byteCount front < byteCount (front ++ back) := by
  rw [byteCount_append]
  exact Nat.lt_add_of_pos_right (byteCount_pos nonempty)

theorem byteCount_eq_length_iff {text : List Char} :
    byteCount text = text.length ↔ ∀ c ∈ text, c.toNat < 0x80 := by
  induction text with
  | nil => simp [byteCount]
  | cons c text ih =>
      have positive := c.utf8Size_pos
      have atLeast := length_le_byteCount text
      rw [List.forall_mem_cons, ← ih, ← utf8Size_eq_one_iff, byteCount, List.length_cons]
      omega

end SignedDifference.Text
