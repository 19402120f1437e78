import Mathlib.Data.List.TakeWhile
import MessageIntake.Text.Utf8
/-!
# Reading back what was written

The bytes of a text are those of its characters, one after the other, and reading takes them off
again one character at a time.

Main statement: the bytes of a text are well-formed, and read back as the text, strictly and
lossily (`decode?_encode`, `decodeLossy_encode`).
-/

namespace MessageIntake.Utf8

/-! ### The bytes of a text -/

/-- **The bytes of characters**, one after the other. -/
def bytesOf (cs : List Char) : Bytes := cs.flatMap String.utf8EncodeChar

@[simp] theorem bytesOf_nil : bytesOf [] = [] := rfl

@[simp] theorem bytesOf_cons (c : Char) (cs : List Char) :
    bytesOf (c :: cs) = String.utf8EncodeChar c ++ bytesOf cs := rfl

@[simp] theorem bytesOf_append (cs ds : List Char) :
    bytesOf (cs ++ ds) = bytesOf cs ++ bytesOf ds := List.flatMap_append

/-- The list of a byte array is that of its data. -/
theorem toList_eq_toList_data (a : ByteArray) : a.toList = a.data.toList := by
  have loop : ∀ i r, ByteArray.toList.loop a i r = r.reverse ++ a.data.toList.drop i := by
    intro i r
    fun_induction ByteArray.toList.loop a i r with
    | case1 i r lt ih =>
      have lt' : i < a.data.toList.length := by simpa using lt
      rw [ih, List.drop_eq_getElem_cons lt']
      simp [ByteArray.get!, lt]
    | case2 i r ge =>
      rw [List.drop_eq_nil_of_le (by simpa using Nat.le_of_not_lt ge), List.append_nil]
  exact loop 0 []

/-- **The bytes of a text** are those of its characters. -/
theorem encode_ofList (cs : List Char) : encode (String.ofList cs) = bytesOf cs := by
  rw [encode, toList_eq_toList_data, String.toUTF8_eq_toByteArray, String.toByteArray_ofList,
    List.utf8Encode, List.toList_data_toByteArray, bytesOf]

theorem encode_eq (s : String) : encode s = bytesOf s.toList := by
  rw [← encode_ofList, String.ofList_toList]

/-! ### One character -/

/-- A byte within its bounds goes on with the character. -/
theorem continuation_ofNat {n acc m : Nat} {lo hi : UInt8} (rest : Bytes)
    (within : lo.toNat ≤ m ∧ m ≤ hi.toNat) :
    continuation (n + 1) lo hi acc (UInt8.ofNat m :: rest) =
      continuation n 0x80 0xbf (acc * 64 + (m - 0x80)) rest := by
  have := hi.toNat_lt
  have same : (UInt8.ofNat m).toNat = m := by simp; omega
  simp [continuation, UInt8.le_iff_toNat_le, same, within]

/-- What a first byte tells, by its number. -/
theorem next_ofNat {m : Nat} (lt : m < 256) (rest : Bytes) :
    next (UInt8.ofNat m) rest =
      if m < 0x80 then (some (Char.ofNat m), rest)
      else if 0xc2 ≤ m ∧ m ≤ 0xdf then continuation 1 0x80 0xbf (m - 0xc0) rest
      else if m = 0xe0 then continuation 2 0xa0 0xbf 0 rest
      else if m = 0xed then continuation 2 0x80 0x9f 0xd rest
      else if 0xe1 ≤ m ∧ m ≤ 0xef then continuation 2 0x80 0xbf (m - 0xe0) rest
      else if m = 0xf0 then continuation 3 0x90 0xbf 0 rest
      else if 0xf1 ≤ m ∧ m ≤ 0xf3 then continuation 3 0x80 0xbf (m - 0xf0) rest
      else if m = 0xf4 then continuation 3 0x80 0x8f 4 rest
      else (none, rest) := by
  have same : (UInt8.ofNat m).toNat = m := by simp; omega
  simp only [next, UInt8.lt_iff_toNat_lt, UInt8.le_iff_toNat_le, beq_iff_eq, ← UInt8.toNat_inj,
    same, Bool.and_eq_true, decide_eq_true_eq]
  rfl

/-- A byte that continues a character. -/
theorem continuation_tail {n acc k : Nat} (rest : Bytes) :
    continuation (n + 1) 0x80 0xbf acc (UInt8.ofNat (k % 64 + 0x80) :: rest) =
      continuation n 0x80 0xbf (acc * 64 + k % 64) rest := by
  have within : (0x80 : UInt8).toNat ≤ k % 64 + 0x80 ∧ k % 64 + 0x80 ≤ (0xbf : UInt8).toNat := by
    change 128 ≤ k % 64 + 128 ∧ k % 64 + 128 ≤ 191
    omega
  rw [continuation_ofNat rest within, Nat.add_sub_cancel]

/-- **The bytes of a character** are read as that character. -/
theorem next_utf8EncodeChar (c : Char) (rest : Bytes) :
    ∃ b bs, String.utf8EncodeChar c = b :: bs ∧ next b (bs ++ rest) = (some c, rest) := by
  have valid : c.val.toNat < 0xd800 ∨ 0xdfff < c.val.toNat ∧ c.val.toNat < 0x110000 := c.valid
  have same : Char.ofNat c.val.toNat = c := Char.ofNat_toNat c
  unfold String.utf8EncodeChar
  generalize c.val.toNat = v at valid same ⊢
  have found : ∀ {m : Nat}, m = v → continuation 0 0x80 0xbf m rest = (some c, rest) := by
    rintro m rfl
    rw [continuation, same]
  dsimp only
  -- by the number of bytes, and then by what the first one leaves open
  split
  · refine ⟨_, _, rfl, ?_⟩
    rw [next_ofNat (by omega), if_pos (by omega), same, List.nil_append]
  split
  · refine ⟨_, _, rfl, ?_⟩
    rw [next_ofNat (by omega), if_neg (by omega), if_pos (by omega), List.singleton_append,
      continuation_tail]
    exact found (by omega)
  split
  · refine ⟨_, _, rfl, ?_⟩
    rw [next_ofNat (by omega), if_neg (by omega), if_neg (by omega), List.cons_append,
      List.singleton_append]
    split
    · have within : (0xa0 : UInt8).toNat ≤ v / 64 % 64 + 128 ∧
          v / 64 % 64 + 128 ≤ (0xbf : UInt8).toNat := by
        change 160 ≤ v / 64 % 64 + 128 ∧ v / 64 % 64 + 128 ≤ 191
        omega
      rw [continuation_ofNat _ within, continuation_tail]
      exact found (by omega)
    split
    · have within : (0x80 : UInt8).toNat ≤ v / 64 % 64 + 128 ∧
          v / 64 % 64 + 128 ≤ (0x9f : UInt8).toNat := by
        change 128 ≤ v / 64 % 64 + 128 ∧ v / 64 % 64 + 128 ≤ 159
        omega
      rw [continuation_ofNat _ within, continuation_tail]
      exact found (by omega)
    · rw [if_pos (by omega), continuation_tail, continuation_tail]
      exact found (by omega)
  · refine ⟨_, _, rfl, ?_⟩
    rw [next_ofNat (by omega), if_neg (by omega), if_neg (by omega), if_neg (by omega),
      if_neg (by omega), if_neg (by omega), List.cons_append, List.cons_append,
      List.singleton_append]
    split
    · have within : (0x90 : UInt8).toNat ≤ v / 4096 % 64 + 128 ∧
          v / 4096 % 64 + 128 ≤ (0xbf : UInt8).toNat := by
        change 144 ≤ v / 4096 % 64 + 128 ∧ v / 4096 % 64 + 128 ≤ 191
        omega
      rw [continuation_ofNat _ within, continuation_tail, continuation_tail]
      exact found (by omega)
    split
    · rw [continuation_tail, continuation_tail, continuation_tail]
      exact found (by omega)
    · have within : (0x80 : UInt8).toNat ≤ v / 4096 % 64 + 128 ∧
          v / 4096 % 64 + 128 ≤ (0x8f : UInt8).toNat := by
        change 128 ≤ v / 4096 % 64 + 128 ∧ v / 4096 % 64 + 128 ≤ 143
        omega
      rw [if_pos (by omega), continuation_ofNat _ within, continuation_tail, continuation_tail]
      exact found (by omega)

/-! ### Whole texts -/

theorem scanOnto_bytesOf (done : List (Option Char)) (cs : List Char) :
    scanOnto done (bytesOf cs) = done.reverse ++ cs.map some := by
  induction cs generalizing done with
  | nil => rw [bytesOf_nil, scanOnto, List.map_nil, List.append_nil]
  | cons c cs ih =>
    obtain ⟨b, bs, bytes, step⟩ := next_utf8EncodeChar c (bytesOf cs)
    rw [bytesOf_cons, bytes, List.cons_append, scanOnto, step, ih]
    simp

/-- **Scanning the bytes of a text** gives its characters. -/
theorem scan_encode (s : String) : scan (encode s) = s.toList.map some := by
  rw [encode_eq, scan, scanOnto_bytesOf]
  rfl

/-- **The bytes of a text read as the text.** -/
theorem decode?_encode (s : String) : decode? (encode s) = .ok s := by
  have all : (s.toList.map some).all Option.isSome = true := by simp
  have chars : wellFormedStart (s.toList.map some) = s.toList := by
    rw [wellFormedStart, List.takeWhile_eq_self_iff.2 (by simp), List.filterMap_map]
    exact List.filterMap_some
  simp only [decode?, scan_encode, chars, all, if_true, String.ofList_toList]

/-- **What is well-formed** loses nothing by a lossy reading. -/
theorem decodeLossy_encode (s : String) : decodeLossy (encode s) = s := by
  rw [decodeLossy, scan_encode, List.map_map]
  change String.ofList (s.toList.map id) = s
  rw [List.map_id, String.ofList_toList]

end MessageIntake.Utf8
