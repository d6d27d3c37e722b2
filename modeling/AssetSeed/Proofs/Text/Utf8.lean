import AssetSeed.Text.Utf8
import Mathlib.Tactic.SplitIfs

/-!
# UTF-8 is read as it is written

The strict reader accepts the bytes of texts, and no other bytes. The bytes of a character are those
of the library of the language, so this says that the reader knows the whole encoding: the shortest
form of each character, and no surrogates.

## Main statements

* `Text.readScalar_eq_valid_iff` — one character.
* `Text.scalars_eq_iff` — characters one after the other.
* `Text.utf8Decode?_eq_some_iff` — texts.
-/

namespace AssetSeed.Text

/-! ## Bytes of texts -/

theorem loop_eq (bytes : ByteArray) (i : Nat) (read : Bytes) :
    ByteArray.toList.loop bytes i read = read.reverse ++ bytes.data.toList.drop i := by
  fun_induction ByteArray.toList.loop bytes i read with
  | case1 i read inside ih =>
    have inside : i < bytes.data.toList.length := inside
    rw [ih, List.drop_eq_getElem_cons inside]
    simp [ByteArray.get!, getElem!_pos bytes.data i inside]
  | case2 i read outside =>
    have outside : bytes.data.toList.length ≤ i := Nat.le_of_not_lt outside
    rw [List.drop_eq_nil_of_le outside, List.append_nil]

theorem utf8Encode_ofList (cs : List Char) :
    utf8Encode (String.ofList cs) = cs.flatMap String.utf8EncodeChar := by
  rw [utf8Encode, String.toUTF8_eq_toByteArray, String.toByteArray_ofList, List.utf8Encode,
    ByteArray.toList, loop_eq, List.toList_data_toByteArray]
  rfl

/-! ## One character -/

/-- The first byte of a character with the given number, and the bytes behind it. -/
inductive Shape (b : UInt8) (value : Nat) : Bytes → Prop
  | one : value < 128 → b.toNat = value → Shape b value []
  | two {x : UInt8} : 128 ≤ value → value < 2048 → b.toNat = value / 64 % 32 + 192 →
      x.toNat = value % 64 + 128 → Shape b value [x]
  | three {x y : UInt8} : 2048 ≤ value → value < 65536 → value.isValidChar →
      b.toNat = value / 4096 % 16 + 224 → x.toNat = value / 64 % 64 + 128 →
      y.toNat = value % 64 + 128 → Shape b value [x, y]
  | four {x y z : UInt8} : 65536 ≤ value → value < 1114112 → b.toNat = value / 262144 % 8 + 240 →
      x.toNat = value / 4096 % 64 + 128 → y.toNat = value / 64 % 64 + 128 →
      z.toNat = value % 64 + 128 → Shape b value [x, y, z]

theorem ofNat_eq_iff {n : Nat} (small : n < 256) {b : UInt8} : UInt8.ofNat n = b ↔ b.toNat = n := by
  rw [← UInt8.toNat_inj, UInt8.toNat_ofNat_of_lt' small, eq_comm]

theorem shape_iff {b : UInt8} {more : Bytes} {value : Nat} :
    Shape b value more ↔
      value.isValidChar ∧ String.utf8EncodeChar (Char.ofNat value) = b :: more := by
  have encoded (valid : value.isValidChar) : (Char.ofNat value).val.toNat = value := by
    rw [Char.ofNat, dif_pos valid]
    rfl
  constructor
  · intro shape
    have valid : value.isValidChar := by
      cases shape with
      | three _ _ valid _ _ _ => exact valid
      | _ => rw [Nat.isValidChar]; omega
    refine ⟨valid, ?_⟩
    rw [String.utf8EncodeChar, encoded valid]
    cases shape with
    | one ascii first => rw [if_pos (by omega), ← first, UInt8.ofNat_toNat]
    | two low high first second =>
      rw [if_neg (by omega), if_pos (by omega), (ofNat_eq_iff (by omega)).2 first,
        (ofNat_eq_iff (by omega)).2 second]
    | three low high _ first second third =>
      rw [if_neg (by omega), if_neg (by omega), if_pos (by omega),
        (ofNat_eq_iff (by omega)).2 first, (ofNat_eq_iff (by omega)).2 second,
        (ofNat_eq_iff (by omega)).2 third]
    | four low high first second third fourth =>
      rw [if_neg (by omega), if_neg (by omega), if_neg (by omega),
        (ofNat_eq_iff (by omega)).2 first, (ofNat_eq_iff (by omega)).2 second,
        (ofNat_eq_iff (by omega)).2 third, (ofNat_eq_iff (by omega)).2 fourth]
  · rintro ⟨valid, bytes⟩
    rw [String.utf8EncodeChar, encoded valid] at bytes
    have range := valid
    rw [Nat.isValidChar] at range
    split at bytes
    · obtain ⟨first, rfl⟩ := List.cons.inj bytes
      rw [ofNat_eq_iff (by omega)] at first
      exact .one (by omega) (by omega)
    split at bytes
    · obtain ⟨first, rfl⟩ := List.cons.inj bytes
      rw [ofNat_eq_iff (by omega)] at first
      exact .two (by omega) (by omega) first ((ofNat_eq_iff (by omega)).1 rfl)
    split at bytes
    · obtain ⟨first, rfl⟩ := List.cons.inj bytes
      rw [ofNat_eq_iff (by omega)] at first
      exact .three (by omega) (by omega) valid first ((ofNat_eq_iff (by omega)).1 rfl)
        ((ofNat_eq_iff (by omega)).1 rfl)
    · obtain ⟨first, rfl⟩ := List.cons.inj bytes
      rw [ofNat_eq_iff (by omega)] at first
      exact .four (by omega) (by omega) first ((ofNat_eq_iff (by omega)).1 rfl)
        ((ofNat_eq_iff (by omega)).1 rfl) ((ofNat_eq_iff (by omega)).1 rfl)

/-- A byte that can follow the first one of a character. -/
def Follows (b x : UInt8) : Prop :=
  128 ≤ x.toNat ∧ x.toNat ≤ 191 ∧ (b.toNat = 224 → 160 ≤ x.toNat) ∧
    (b.toNat = 237 → x.toNat ≤ 159) ∧ (b.toNat = 240 → 144 ≤ x.toNat) ∧
    (b.toNat = 244 → x.toNat ≤ 143)

/-- A byte that can stand further behind. -/
def Trails (x : UInt8) : Prop :=
  128 ≤ x.toNat ∧ x.toNat ≤ 191

theorem between_iff {b low high : UInt8} :
    (low ≤ b && b ≤ high) ↔ low.toNat ≤ b.toNat ∧ b.toNat ≤ high.toNat := by
  rw [Bool.and_eq_true, decide_eq_true_eq, decide_eq_true_eq, UInt8.le_iff_toNat_le,
    UInt8.le_iff_toNat_le]

theorem isContinuation_iff {x : UInt8} : isContinuation x ↔ Trails x :=
  between_iff

theorem inBounds_iff {b x : UInt8} :
    ((secondByteBounds b).1 ≤ x && x ≤ (secondByteBounds b).2) ↔ Follows b x := by
  have eq_iff (k : UInt8) : b = k ↔ b.toNat = k.toNat := UInt8.toNat_inj.symm
  rw [between_iff, Follows, secondByteBounds]
  simp only [eq_iff, UInt8.reduceToNat]
  split_ifs <;> simp only [UInt8.reduceToNat] <;> omega

/-- The bytes of a character are read as this character, whatever follows. -/
theorem Shape.readScalar_eq {b : UInt8} {more : Bytes} {value : Nat} (shape : Shape b value more)
    (rest : Bytes) :
    readScalar b (more ++ rest) = .valid (Char.ofNat value) (more.length + 1) := by
  simp only [readScalar, UInt8.lt_iff_toNat_lt, between_iff, UInt8.reduceToNat]
  cases shape with
  | one ascii first => rw [if_pos (by omega), first]; rfl
  | @two x low high first second =>
    have follows : Follows b x := by rw [Follows]; omega
    rw [if_neg (by omega), if_pos (by omega)]
    simp only [List.singleton_append, List.head?_cons, Option.filter_some, inBounds_iff.2 follows,
      if_true, List.length_singleton]
    congr
    rw [sixBits]
    omega
  | @three x y low high valid first second third =>
    rw [Nat.isValidChar] at valid
    have follows : Follows b x := by rw [Follows]; omega
    have trails : Trails y := by rw [Trails]; omega
    rw [if_neg (by omega), if_neg (by omega), if_pos (by omega)]
    simp only [List.cons_append, List.head?_cons, Option.filter_some, inBounds_iff.2 follows,
      if_true, isContinuation_iff.2 trails, List.getElem?_cons_succ, List.getElem?_cons_zero]
    congr
    rw [sixBits, sixBits]
    omega
  | @four x y z low high first second third fourth =>
    have follows : Follows b x := by rw [Follows]; omega
    have trails : Trails y := by rw [Trails]; omega
    have trails' : Trails z := by rw [Trails]; omega
    rw [if_neg (by omega), if_neg (by omega), if_neg (by omega), if_pos (by omega)]
    simp only [List.cons_append, List.head?_cons, Option.filter_some, inBounds_iff.2 follows,
      if_true, isContinuation_iff.2 trails, isContinuation_iff.2 trails', List.getElem?_cons_succ,
      List.getElem?_cons_zero]
    congr
    rw [sixBits, sixBits, sixBits]
    omega

/-- What is read as a character are its bytes. -/
theorem exists_shape {b : UInt8} {rest : Bytes} {c : Char} {width : Nat}
    (read : readScalar b rest = .valid c width) : ∃ value more after, Shape b value more ∧
      rest = more ++ after ∧ c = Char.ofNat value ∧ width = more.length + 1 := by
  have second_iff {x : UInt8} : (rest.head?.filter fun x =>
      (secondByteBounds b).1 ≤ x && x ≤ (secondByteBounds b).2) = some x ↔
        rest.head? = some x ∧ Follows b x := by
    rw [Option.filter_eq_some_iff, inBounds_iff]
  have tail_iff {i : Nat} {x : UInt8} :
      rest[i]?.filter isContinuation = some x ↔ rest[i]? = some x ∧ Trails x := by
    rw [Option.filter_eq_some_iff, isContinuation_iff]
  simp only [readScalar, UInt8.lt_iff_toNat_lt, between_iff, UInt8.reduceToNat] at read
  split_ifs at read with ascii two three four
  · cases read
    exact ⟨_, [], rest, .one ascii rfl, rfl, rfl, rfl⟩
  · split at read
    · next x second =>
      cases read
      obtain ⟨second, follows⟩ := second_iff.1 second
      obtain ⟨after, rfl⟩ := List.head?_eq_some_iff.1 second
      rw [Follows] at follows
      refine ⟨_, [x], after, .two ?_ ?_ ?_ ?_, rfl, rfl, rfl⟩ <;> rw [sixBits] <;> omega
    · cases read
  · split at read
    · cases read
    · cases read
    · next x y second third =>
      cases read
      obtain ⟨second, follows⟩ := second_iff.1 second
      obtain ⟨third, trails⟩ := tail_iff.1 third
      obtain ⟨after, rfl⟩ := List.head?_eq_some_iff.1 second
      rw [List.getElem?_cons_succ, ← List.head?_eq_getElem?] at third
      obtain ⟨after, rfl⟩ := List.head?_eq_some_iff.1 third
      rw [Follows] at follows
      rw [Trails] at trails
      refine ⟨_, [x, y], after, .three ?_ ?_ ?_ ?_ ?_ ?_, rfl, rfl, rfl⟩ <;>
        simp only [sixBits, Nat.isValidChar] <;> omega
  · split at read
    · cases read
    · cases read
    · cases read
    · next x y z second third fourth =>
      cases read
      obtain ⟨second, follows⟩ := second_iff.1 second
      obtain ⟨third, trails⟩ := tail_iff.1 third
      obtain ⟨fourth, trails'⟩ := tail_iff.1 fourth
      obtain ⟨after, rfl⟩ := List.head?_eq_some_iff.1 second
      rw [List.getElem?_cons_succ, ← List.head?_eq_getElem?] at third
      obtain ⟨after, rfl⟩ := List.head?_eq_some_iff.1 third
      rw [List.getElem?_cons_succ, List.getElem?_cons_succ, ← List.head?_eq_getElem?] at fourth
      obtain ⟨after, rfl⟩ := List.head?_eq_some_iff.1 fourth
      rw [Follows] at follows
      rw [Trails] at trails trails'
      refine ⟨_, [x, y, z], after, .four ?_ ?_ ?_ ?_ ?_ ?_, rfl, rfl, rfl⟩ <;>
        simp only [sixBits] <;> omega

theorem readScalar_eq_valid_iff {b : UInt8} {rest : Bytes} {c : Char} {width : Nat} :
    readScalar b rest = .valid c width ↔ ∃ more after, String.utf8EncodeChar c = b :: more ∧
      rest = more ++ after ∧ width = more.length + 1 := by
  constructor
  · intro read
    obtain ⟨value, more, after, shape, rfl, rfl, rfl⟩ := exists_shape read
    exact ⟨more, after, (shape_iff.1 shape).2, rfl, rfl⟩
  · rintro ⟨more, after, encoded, rfl, rfl⟩
    have valid : c.toNat.isValidChar := c.valid
    rw [← Char.ofNat_toNat c] at encoded ⊢
    exact (shape_iff.2 ⟨valid, encoded⟩).readScalar_eq after

/-! ## Characters one after the other -/

theorem scalars_length_append (passed rest : Bytes) :
    scalars passed.length (passed ++ rest) = scalars 0 rest := by
  induction passed with
  | nil => rfl
  | cons b passed ih => exact ih

theorem scalars_append (c : Char) (rest : Bytes) :
    scalars 0 (String.utf8EncodeChar c ++ rest) = some c :: scalars 0 rest := by
  obtain ⟨b, more, encoded⟩ := List.exists_cons_of_ne_nil (String.utf8EncodeChar_ne_nil (c := c))
  have read := readScalar_eq_valid_iff.2 ⟨more, rest, encoded, rfl, rfl⟩
  rw [encoded, List.cons_append, scalars, read]
  exact congrArg _ (scalars_length_append more rest)

/-- By induction on the characters; in the other direction each of them is taken off the bytes. -/
theorem scalars_eq_iff {bytes : Bytes} {cs : List Char} :
    scalars 0 bytes = cs.map some ↔ bytes = cs.flatMap String.utf8EncodeChar := by
  induction cs generalizing bytes with
  | nil =>
    cases bytes with
    | nil => exact ⟨fun _ => rfl, fun _ => rfl⟩
    | cons b rest =>
      refine ⟨fun read => ?_, nofun⟩
      rw [scalars] at read
      split at read <;> cases read
  | cons c cs ih =>
    constructor
    · intro read
      cases bytes with
      | nil => cases read
      | cons b rest =>
        rw [scalars] at read
        split at read
        · next c' width valid =>
          obtain ⟨more, after, encoded, rfl, rfl⟩ := readScalar_eq_valid_iff.1 valid
          rw [Nat.add_sub_cancel, scalars_length_append] at read
          obtain ⟨first, others⟩ := List.cons.inj read
          rw [List.flatMap_cons, ← ih.1 others, ← Option.some.inj first, encoded,
            List.cons_append]
        · cases read
    · rintro rfl
      rw [List.flatMap_cons, scalars_append, ih.2 rfl, List.map_cons]

theorem mapM_id_eq_some_iff {α : Type} {read : List (Option α)} {cs : List α} :
    read.mapM id = some cs ↔ read = cs.map some := by
  induction read generalizing cs with
  | nil => cases cs <;> simp
  | cons c? read ih =>
    cases c? with
    | none => cases cs <;> simp
    | some c =>
      rw [List.mapM_cons, id, Option.bind_eq_bind, Option.bind_some, Option.bind_eq_bind,
        Option.bind_eq_some_iff]
      cases cs with
      | nil => simp
      | cons c' cs => simp only [ih, pure, Option.some_inj, List.cons.injEq, List.map_cons,
          exists_eq_right_right, and_left_comm]

/-- Exactly the bytes of texts are read, each as the text whose bytes they are. -/
theorem utf8Decode?_eq_some_iff {bytes : Bytes} {text : String} :
    utf8Decode? bytes = some text ↔ bytes = utf8Encode text := by
  have spelled {cs : List Char} : String.ofList cs = text ↔ cs = text.toList := by
    rw [← String.toList_inj, String.toList_ofList]
  rw [← String.ofList_toList (s := text), utf8Encode_ofList, ← scalars_eq_iff,
    ← mapM_id_eq_some_iff, utf8Decode?, Option.map_eq_some_iff, String.ofList_toList]
  simp only [spelled, exists_eq_right]

end AssetSeed.Text
