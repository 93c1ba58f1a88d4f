import ControlPlane.Proofs.Store.OwnKeys

/-!
The order of byte addresses. The bytes of texts are in the order of the texts
(`ByteAddress.compare_encode`), so addresses of keys whose namespaces hold no zero character are in
the order of the kinds and keys (`ByteAddress.compare_of`): the zero byte that ends a namespace is
below everything that can stand in a longer one.
-/

namespace ControlPlane.ByteAddress

/-! ### Bytes of characters -/

theorem compare_ofNat {m n : Nat} (hm : m < 256) (hn : n < 256) :
    compare (UInt8.ofNat m) (UInt8.ofNat n) = compare m n := by
  have lt : UInt8.ofNat m < UInt8.ofNat n ↔ m < n := by
    rw [UInt8.lt_iff_toNat_lt, UInt8.toNat_ofNat_of_lt' hm, UInt8.toNat_ofNat_of_lt' hn]
  have eq : UInt8.ofNat m = UInt8.ofNat n ↔ m = n := by
    rw [← UInt8.toNat_inj, UInt8.toNat_ofNat_of_lt' hm, UInt8.toNat_ofNat_of_lt' hn]
  show compareOfLessAndEq _ _ = compareOfLessAndEq _ _
  simp only [compareOfLessAndEq, lt, eq]

/-- Of two characters, the lower one has the lower bytes, whatever follows them. -/
theorem compare_utf8_of_lt {c d : Char} (lt : c < d) (x y : List UInt8) :
    compare (String.utf8EncodeChar c ++ x) (String.utf8EncodeChar d ++ y) = .lt := by
  have below : c.val.toNat < d.val.toNat := lt
  have scalar : d.val.toNat < 1114112 := by
    rcases d.valid with low | ⟨-, high⟩
    · exact Nat.lt_trans low (by decide)
    · exact high
  simp only [String.utf8EncodeChar]
  generalize c.val.toNat = m at *
  generalize d.val.toNat = n at *
  have digits (v : Nat) : v / 64 / 64 = v / 4096 ∧ v / 4096 / 64 = v / 262144 :=
    ⟨Nat.div_div_eq_div_mul v 64 64, Nat.div_div_eq_div_mul v 4096 64⟩
  have digits_m := digits m
  have digits_n := digits n
  -- One case for each pair of lengths: either the first bytes differ, or the digits to base 64 do.
  repeat' split
  all_goals
    simp (disch := omega) only [List.cons_append, List.nil_append, List.compare_cons_cons,
      compare_ofNat, Nat.mod_eq_of_lt, Ordering.then_eq_lt, Nat.compare_eq_lt, Nat.compare_eq_eq]
    omega

theorem utf8_ne_nil (c : Char) : String.utf8EncodeChar c ≠ [] := by
  intro none
  have length := String.length_utf8EncodeChar c
  rw [none, List.length_nil] at length
  exact absurd length.symm (Nat.ne_of_gt c.utf8Size_pos)

theorem compare_append_left (u x y : List UInt8) : compare (u ++ x) (u ++ y) = compare x y := by
  induction u with
  | nil => rfl
  | cons b u ih =>
    rw [List.cons_append, List.cons_append, List.compare_cons_cons, ih, Std.ReflOrd.compare_self]
    rfl

/-- The bytes of characters in a row are in the order of the characters. -/
theorem compare_flatMap_utf8 (l l' : List Char) :
    compare (l.flatMap String.utf8EncodeChar) (l'.flatMap String.utf8EncodeChar) =
      compare l l' := by
  induction l generalizing l' with
  | nil =>
    cases l' with
    | nil => rfl
    | cons d l' =>
      rw [List.flatMap_nil, List.flatMap_cons, List.compare_nil_cons]
      obtain ⟨b, rest, eq⟩ := List.exists_cons_of_ne_nil (utf8_ne_nil d)
      rw [eq, List.cons_append, List.compare_nil_cons]
  | cons c l ih =>
    cases l' with
    | nil =>
      rw [List.flatMap_nil, List.flatMap_cons, List.compare_cons_nil]
      obtain ⟨b, rest, eq⟩ := List.exists_cons_of_ne_nil (utf8_ne_nil c)
      rw [eq, List.cons_append, List.compare_cons_nil]
    | cons d l' =>
      rw [List.flatMap_cons, List.flatMap_cons, List.compare_cons_cons]
      cases order : compare c d with
      | lt =>
        exact compare_utf8_of_lt (compareOfLessAndEq_eq_lt.mp order) _ _
      | eq =>
        obtain rfl := Std.LawfulEqCmp.eq_of_compare order
        rw [compare_append_left, ih]
        rfl
      | gt =>
        have above : compare d c = .lt := Std.OrientedCmp.gt_iff_lt.mp order
        exact Std.OrientedCmp.gt_iff_lt.mpr
          (compare_utf8_of_lt (compareOfLessAndEq_eq_lt.mp above) _ _)

/-! ### Bytes of texts -/

theorem encode_eq (s : String) : encode s = s.toList.flatMap String.utf8EncodeChar := by
  show s.toByteArray.data.toList = _
  rw [← String.utf8Encode_toList]
  exact List.toList_data_toByteArray

theorem compare_eq_lt_iff {l l' : List Char} : compare l l' = .lt ↔ l < l' := by
  induction l generalizing l' with
  | nil => cases l' <;> simp
  | cons c l ih =>
    cases l' with
    | nil => simp
    | cons d l' =>
      have lower : compare c d = .lt ↔ c < d := compareOfLessAndEq_eq_lt
      rw [List.compare_cons_cons, Ordering.then_eq_lt, ih, List.cons_lt_cons_iff, lower,
        Entries.compare_eq_iff]

/-- Texts are in the order of their characters. -/
theorem compare_toList (s t : String) : compare s.toList t.toList = compare s t := by
  have lower {s t : String} : compare s.toList t.toList = .lt ↔ compare s t = .lt := by
    rw [compare_eq_lt_iff, ← String.lt_iff]
    exact compareOfLessAndEq_eq_lt.symm
  cases order : compare s t with
  | lt => exact lower.mpr order
  | eq => rw [Std.LawfulEqCmp.eq_of_compare order, Std.ReflOrd.compare_self]
  | gt => exact Std.OrientedCmp.gt_iff_lt.mpr (lower.mpr (Std.OrientedCmp.gt_iff_lt.mp order))

/-- The bytes of texts are in the order of the texts. -/
theorem compare_encode (s t : String) : compare (encode s) (encode t) = compare s t := by
  rw [encode_eq, encode_eq, compare_flatMap_utf8, compare_toList]

theorem zero_mem_utf8_iff {c : Char} : 0 ∈ String.utf8EncodeChar c ↔ c = '\x00' := by
  have isZero : c = '\x00' ↔ c.val.toNat = 0 := by
    rw [← Char.val_inj, ← UInt32.toNat_inj]
    rfl
  rw [isZero]
  simp only [String.utf8EncodeChar]
  generalize c.val.toNat = v
  have zero {n : Nat} (small : n < 256) : 0 = UInt8.ofNat n ↔ n = 0 := by
    rw [← UInt8.toNat_inj, UInt8.toNat_ofNat_of_lt' small]
    exact eq_comm
  repeat' split
  all_goals
    simp (disch := omega) only [List.mem_cons, List.not_mem_nil, or_false, zero] <;> omega

/-- A text has a zero byte exactly if it has a zero character. -/
theorem zero_mem_encode_iff {s : String} : 0 ∈ encode s ↔ '\x00' ∈ s.toList := by
  rw [encode_eq, List.mem_flatMap]
  simp only [zero_mem_utf8_iff, exists_eq_right]

/-! ### Bytes of keys -/

/-- Of bytes that are ended by a zero byte, and then followed by others, those before it count
first. -/
theorem compare_ended {a b : List UInt8} (ha : 0 ∉ a) (hb : 0 ∉ b) (x y : List UInt8) :
    compare (a ++ [0] ++ x) (b ++ [0] ++ y) = (compare a b).then (compare x y) := by
  have zero_lt {u : UInt8} (positive : u ≠ 0) : compare 0 u = .lt :=
    compareOfLessAndEq_eq_lt.mpr (UInt8.pos_iff_ne_zero.mpr positive)
  induction a generalizing b with
  | nil =>
    cases b with
    | nil => exact compare_append_left [0] x y
    | cons v b =>
      have positive : v ≠ 0 := fun eq => hb (eq ▸ List.mem_cons_self)
      simp [zero_lt positive]
  | cons u a ih =>
    have positive : u ≠ 0 := fun eq => ha (eq ▸ List.mem_cons_self)
    cases b with
    | nil =>
      have above : compare u 0 = .gt := Std.OrientedCmp.gt_iff_lt.mpr (zero_lt positive)
      simp [above]
    | cons v b =>
      simp only [List.cons_append, List.compare_cons_cons, Ordering.then_assoc]
      rw [ih (fun mem => ha (List.mem_cons_of_mem _ mem)) fun mem => hb (List.mem_cons_of_mem _ mem)]

theorem compare_keyBytes {a b : RecordKey} (ha : 0 ∉ encode a.namespace)
    (hb : 0 ∉ encode b.namespace) : compare (keyBytes a) (keyBytes b) = compare a b := by
  rw [keyBytes, keyBytes, namespaceBytes, namespaceBytes, compare_ended ha hb, compare_encode,
    compare_encode]
  rfl

/-- Addresses are in the order of the identities that they belong to. -/
theorem compare_of {a b : RecordId} (ha : 0 ∉ encode a.key.namespace)
    (hb : 0 ∉ encode b.key.namespace) :
    compare (Address.of a.kind a.key : ByteAddress) (Address.of b.kind b.key) = compare a b := by
  rw [compare_def, RecordId.compare_def]
  exact congrArg _ (compare_keyBytes ha hb)

end ControlPlane.ByteAddress
