import MessageIntake.Json.Printer
import MessageIntake.Json.Reader
import MessageIntake.Proofs.Text.Utf8
/-!
# Strings read back

A string is written between quotation marks, with an escape in the place of whatever could end it
or must not stand in it. The reader takes the escapes away again.

Main statement: behind its opening mark every string reads back as itself, whatever follows it
(`stringBody_quote`). So no text can leave its quotation marks.
-/

namespace MessageIntake.Json

open Utf8 (bytesOf)

/-! ### Bytes that stand for themselves -/

/-- **A byte that stands for itself** in a string. -/
def Plain (b : UInt8) : Prop := 0x20 ≤ b ∧ b ≠ 0x22 ∧ b ≠ 0x5c

theorem stringContent_plain {l : Bytes} (plain : ∀ b ∈ l, Plain b) (fuel : Nat)
    (content tail : Bytes) :
    stringContent (fuel + l.length) content (l ++ tail) =
      stringContent fuel (l.reverse ++ content) tail := by
  induction l generalizing content with
  | nil => rfl
  | cons b l ih =>
    obtain ⟨least, notMark, notSlash⟩ := plain b List.mem_cons_self
    rw [List.length_cons, ← Nat.add_assoc, List.cons_append, stringContent]
    rw [if_neg (by simpa using notMark), if_neg (by simpa using notSlash),
      if_neg (by simpa using least), ih fun b mem => plain b (List.mem_cons_of_mem _ mem)]
    simp

/-- **The bytes of a character** beyond the first 128 stand for themselves, as does any other that
needs no escape. -/
theorem plain_utf8EncodeChar {c : Char} (free : 0x20 ≤ c.toNat) (notMark : c ≠ '\x22')
    (notSlash : c ≠ '\\') : ∀ b ∈ String.utf8EncodeChar c, Plain b := by
  have apart : ∀ {n : Nat}, n < 256 → 0x80 ≤ n ∨ 0x20 ≤ n ∧ n ≠ 0x22 ∧ n ≠ 0x5c →
      Plain (UInt8.ofNat n) := by
    intro n lt high
    have same : (UInt8.ofNat n).toNat = n := by
      simp
      omega
    simp only [Plain, UInt8.le_iff_toNat_le, ne_eq, ← UInt8.toNat_inj, same]
    change 32 ≤ n ∧ n ≠ 34 ∧ n ≠ 92
    omega
  have mark : c.val.toNat ≠ 0x22 := fun same => notMark (Char.ext (UInt32.toNat_inj.1 same))
  have slash : c.val.toNat ≠ 0x5c := fun same => notSlash (Char.ext (UInt32.toNat_inj.1 same))
  have free : 0x20 ≤ c.val.toNat := free
  have valid : c.val.toNat < 0xd800 ∨ 0xdfff < c.val.toNat ∧ c.val.toNat < 0x110000 := c.valid
  unfold String.utf8EncodeChar
  generalize c.val.toNat = v at mark slash free valid
  dsimp only
  split
  · simp only [List.mem_singleton, forall_eq]
    exact apart (by omega) (by omega)
  split
  · simp only [List.mem_cons, List.not_mem_nil, or_false, forall_eq_or_imp, forall_eq]
    exact ⟨apart (by omega) (by omega), apart (by omega) (by omega)⟩
  split
  · simp only [List.mem_cons, List.not_mem_nil, or_false, forall_eq_or_imp, forall_eq]
    exact ⟨apart (by omega) (by omega), apart (by omega) (by omega), apart (by omega) (by omega)⟩
  · simp only [List.mem_cons, List.not_mem_nil, or_false, forall_eq_or_imp, forall_eq]
    exact ⟨apart (by omega) (by omega), apart (by omega) (by omega), apart (by omega) (by omega),
      apart (by omega) (by omega)⟩

/-! ### Escapes -/

theorem stringContent_escape {l tail : Bytes} {c : Char}
    (reads : escape (l ++ tail) = .ok (c, tail)) (fuel : Nat) (content : Bytes) :
    stringContent (fuel + 1) content (0x5c :: (l ++ tail)) =
      stringContent fuel ((String.utf8EncodeChar c).reverse ++ content) tail := by
  rw [stringContent, if_neg (by decide), if_pos (by decide), reads]
  dsimp only
  rw [Utf8.encode_ofList, Utf8.bytesOf_cons, Utf8.bytesOf_nil, List.append_nil]

/-- The byte of a hexadecimal digit. -/
theorem utf8EncodeChar_hexDigit : ∀ n < 16, ∃ b,
    String.utf8EncodeChar (hexDigit n) = [b] ∧ hexValue b = some n := by
  have bytes : ∀ n < 16, String.utf8EncodeChar (hexDigit n) = [UInt8.ofNat (hexDigit n).toNat] ∧
      hexValue (UInt8.ofNat (hexDigit n).toNat) = some n := by decide
  exact fun n lt => ⟨_, bytes n lt⟩

/-- The escape of a character that has no letter. -/
theorem escape_hexDigits {n : Nat} (lt : n < 0x20) (tail : Bytes) :
    escape (bytesOf ['u', '0', '0', hexDigit (n / 16), hexDigit (n % 16)] ++ tail) =
      .ok (Char.ofNat n, tail) := by
  obtain ⟨high, bytes, value⟩ := utf8EncodeChar_hexDigit (n / 16) (by omega)
  obtain ⟨low, bytes', value'⟩ := utf8EncodeChar_hexDigit (n % 16) (by omega)
  have written : bytesOf ['u', '0', '0', hexDigit (n / 16), hexDigit (n % 16)] ++ tail =
      0x75 :: 0x30 :: 0x30 :: high :: low :: tail := by
    simp only [Utf8.bytesOf_cons, Utf8.bytesOf_nil, bytes, bytes']
    rfl
  have read : hexEscape (0x30 :: 0x30 :: high :: low :: tail) = .ok (n, tail) := by
    have zero : hexValue 0x30 = some 0 := by decide
    have whole : ((0 * 16 + 0) * 16 + n / 16) * 16 + n % 16 = n := by omega
    simp only [hexEscape, zero, value, value', whole]
  have point :
      codePointEscape (0x30 :: 0x30 :: high :: low :: tail) = .ok (Char.ofNat n, tail) := by
    rw [codePointEscape, read]
    dsimp only
    rw [if_neg (by simp; omega), if_neg (by simp; omega)]
  rw [written, escape]
  simpa using point

/-- **A character is escaped**, by its letter or its number, or it stands for itself. -/
theorem escapeChar_cases (c : Char) :
    (∃ cs, escapeChar c = '\\' :: cs ∧ ∀ tail, escape (bytesOf cs ++ tail) = .ok (c, tail)) ∨
      escapeChar c = [c] ∧ ∀ b ∈ String.utf8EncodeChar c, Plain b := by
  have lettered : ∀ c ∈ ['\x22', '\\', '\x08', '\x0c', '\n', '\r', '\t'],
      ∃ cs, escapeChar c = '\\' :: cs ∧ ∀ tail, escape (bytesOf cs ++ tail) = .ok (c, tail) := by
    simp only [List.mem_cons, List.not_mem_nil, or_false, forall_eq_or_imp, forall_eq]
    exact ⟨⟨_, rfl, fun _ => rfl⟩, ⟨_, rfl, fun _ => rfl⟩, ⟨_, rfl, fun _ => rfl⟩,
      ⟨_, rfl, fun _ => rfl⟩, ⟨_, rfl, fun _ => rfl⟩, ⟨_, rfl, fun _ => rfl⟩,
      ⟨_, rfl, fun _ => rfl⟩⟩
  by_cases letter : c ∈ ['\x22', '\\', '\x08', '\x0c', '\n', '\r', '\t']
  · exact .inl (lettered c letter)
  · simp only [List.mem_cons, List.not_mem_nil, or_false, not_or] at letter
    obtain ⟨notMark, notSlash, rest⟩ := letter
    have numbered : escapeChar c = if c.toNat < 0x20 then
        ['\\', 'u', '0', '0', hexDigit (c.toNat / 16), hexDigit (c.toNat % 16)] else [c] := by
      simp [escapeChar, notMark, notSlash, rest]
    rw [numbered]
    split
    · next control =>
      refine .inl ⟨_, rfl, fun tail => ?_⟩
      rw [escape_hexDigits control, Char.ofNat_toNat]
    · next free => exact .inr ⟨rfl, plain_utf8EncodeChar (Nat.not_lt.1 free) notMark notSlash⟩

/-- **A character** is read back from what is written for it. -/
theorem stringContent_escapeChar (c : Char) :
    ∃ spent ≤ (bytesOf (escapeChar c)).length, ∀ fuel content tail,
      stringContent (fuel + spent) content (bytesOf (escapeChar c) ++ tail) =
        stringContent fuel ((String.utf8EncodeChar c).reverse ++ content) tail := by
  rcases escapeChar_cases c with ⟨cs, written, reads⟩ | ⟨written, plain⟩
  · have bytes : bytesOf (escapeChar c) = 0x5c :: bytesOf cs := by
      rw [written]
      rfl
    refine ⟨1, by simp [bytes], fun fuel content tail => ?_⟩
    rw [bytes, List.cons_append]
    exact stringContent_escape (reads tail) fuel content
  · rw [written, Utf8.bytesOf_cons, Utf8.bytesOf_nil, List.append_nil]
    exact ⟨_, le_rfl, fun fuel content tail => stringContent_plain plain fuel content tail⟩

/-! ### Whole strings -/

theorem stringContent_flatMap (cs : List Char) :
    ∃ spent ≤ (bytesOf (cs.flatMap escapeChar)).length, ∀ fuel content tail,
      stringContent (fuel + spent) content (bytesOf (cs.flatMap escapeChar) ++ tail) =
        stringContent fuel ((bytesOf cs).reverse ++ content) tail := by
  -- a character may take several steps of the reader, so that the fuel it spends is only bounded
  induction cs with
  | nil => exact ⟨0, le_rfl, fun _ _ _ => rfl⟩
  | cons c cs ih =>
    obtain ⟨one, one_le, first⟩ := stringContent_escapeChar c
    obtain ⟨more, more_le, others⟩ := ih
    refine ⟨more + one, ?_, fun fuel content tail => ?_⟩
    · rw [List.flatMap_cons, Utf8.bytesOf_append, List.length_append]
      omega
    · rw [List.flatMap_cons, Utf8.bytesOf_append, List.append_assoc, ← Nat.add_assoc, first, others,
        Utf8.bytesOf_cons, List.reverse_append, List.append_assoc]

/-- **A string reads back as itself** behind its opening mark. -/
theorem stringBody_quote (s : String) (rest : Bytes) :
    stringBody (bytesOf (s.toList.flatMap escapeChar) ++ 0x22 :: rest) = .ok (s, rest) := by
  obtain ⟨spent, spent_le, reads⟩ := stringContent_flatMap s.toList
  have fuel : (bytesOf (s.toList.flatMap escapeChar) ++ 0x22 :: rest).length + 1 =
      ((bytesOf (s.toList.flatMap escapeChar)).length - spent + rest.length + 1) + 1 + spent := by
    simp only [List.length_append, List.length_cons]
    omega
  rw [stringBody, fuel, reads, List.append_nil, stringContent, if_pos (by decide),
    List.reverse_reverse, stringText, ← Utf8.encode_eq, Utf8.decode?_encode]

/-- The bytes of a quoted string. -/
theorem bytesOf_quote (s : String) :
    bytesOf (quote s) = 0x22 :: (bytesOf (s.toList.flatMap escapeChar) ++ [0x22]) := by
  rw [quote, Utf8.bytesOf_cons, Utf8.bytesOf_append]
  rfl

end MessageIntake.Json
