/-
What is written with percent signs is read back.

There are two layers, and each has its own inverse. A byte written as a percent sign and two
digits is read as that byte, and a character that is left as it is stands for its own byte, so
reading the signs gives the bytes of the text (`percentBytes_percentEncode`). The bytes of a
text are read as that text (`decodeFrom_utf8Bytes`): the first byte of a character says how many
follow, and the bounds for the byte after it, which keep out everything that is no character,
are met by every character that there is.

Whoever writes an address may leave more characters as they are than the letters, digits and
four marks that are always left. It changes nothing, as long as they are ASCII and the percent
sign is not among them (`percentDecode_percentEncode`).
-/
import Taskbook.Text.Percent

set_option autoImplicit false

namespace Taskbook.Text

/-! ## Bytes of a text -/

/-- Reading a byte array from some position on gives what is left of the list it was made of. -/
theorem toList_loop_toByteArray (bytes : List UInt8) (i : Nat) (read : List UInt8) :
    ByteArray.toList.loop bytes.toByteArray i read = read.reverse ++ bytes.drop i := by
  fun_induction ByteArray.toList.loop bytes.toByteArray i read with
  | case1 i read h ih =>
    rw [List.size_toByteArray] at h
    have hget : bytes.toByteArray.get! i = bytes[i] := by
      simp [ByteArray.get!, h]
    rw [ih, List.drop_eq_getElem_cons h, List.reverse_cons, hget, List.append_assoc]
    rfl
  | case2 i read h =>
    rw [List.size_toByteArray, Nat.not_lt] at h
    rw [List.drop_eq_nil_of_le h, List.append_nil]

/-- The bytes of a character, as numbers. -/
def utf8Bytes (c : Char) : List Nat :=
  (String.utf8EncodeChar c).map UInt8.toNat

/-- The bytes of a text of one character are those of the character. -/
theorem toUTF8_singleton (c : Char) :
    (String.singleton c).toUTF8.toList.map UInt8.toNat = utf8Bytes c := by
  have hbytes : (String.singleton c).toUTF8.toList = String.utf8EncodeChar c := by
    rw [String.toUTF8_eq_toByteArray, String.toByteArray_singleton, List.utf8Encode_singleton,
      ByteArray.toList, toList_loop_toByteArray]
    rfl
  rw [hbytes, utf8Bytes]

theorem utf8Bytes_lt (c : Char) : ∀ byte ∈ utf8Bytes c, byte < 256 := by
  intro byte hbyte
  obtain ⟨own, -, rfl⟩ := List.mem_map.1 hbyte
  exact own.toNat_lt

/-- The bytes of a character by its number: one, or a first byte that says how many follow and the
number six bits at a time. -/
theorem utf8Bytes_eq (c : Char) :
    utf8Bytes c =
      if c.toNat < 0x80 then [c.toNat]
      else if c.toNat < 0x800 then [0xC0 + c.toNat / 64, 0x80 + c.toNat % 64]
      else if c.toNat < 0x10000 then
        [0xE0 + c.toNat / 4096, 0x80 + c.toNat / 64 % 64, 0x80 + c.toNat % 64]
      else
        [0xF0 + c.toNat / 262144, 0x80 + c.toNat / 4096 % 64, 0x80 + c.toNat / 64 % 64,
          0x80 + c.toNat % 64] := by
  have hmax : c.val.toNat < 0x110000 := by
    have hvalid := c.valid
    simp only [UInt32.isValidChar, Nat.isValidChar] at hvalid
    omega
  rw [utf8Bytes, String.utf8EncodeChar, Char.toNat]
  generalize c.val.toNat = v at hmax ⊢
  have hbyte : ∀ n, n < 256 → (UInt8.ofNat n).toNat = n := fun n hn => UInt8.toNat_ofNat_of_lt' hn
  by_cases hone : v < 0x80
  · rw [if_pos hone, if_pos (by omega), List.map_singleton, hbyte v (by omega)]
  · rw [if_neg hone, if_neg (by omega)]
    by_cases htwo : v < 0x800
    · rw [if_pos htwo, if_pos (by omega), List.map_cons, List.map_singleton,
        hbyte _ (by omega), hbyte _ (by omega), Nat.mod_eq_of_lt (by omega : v / 64 < 32),
        Nat.add_comm _ 192, Nat.add_comm _ 128]
    · rw [if_neg htwo, if_neg (by omega)]
      by_cases hthree : v < 0x10000
      · rw [if_pos hthree, if_pos (by omega), List.map_cons, List.map_cons, List.map_singleton,
          hbyte _ (by omega), hbyte _ (by omega), hbyte _ (by omega),
          Nat.mod_eq_of_lt (by omega : v / 4096 < 16), Nat.add_comm _ 224,
          Nat.add_comm (v / 64 % 64), Nat.add_comm (v % 64)]
      · rw [if_neg hthree, if_neg (by omega), List.map_cons, List.map_cons, List.map_cons,
          List.map_singleton, hbyte _ (by omega), hbyte _ (by omega), hbyte _ (by omega),
          hbyte _ (by omega), Nat.mod_eq_of_lt (by omega : v / 262144 < 8), Nat.add_comm _ 240,
          Nat.add_comm (v / 4096 % 64), Nat.add_comm (v / 64 % 64), Nat.add_comm (v % 64)]

/-! ## Reading the bytes of a character -/

/-- A byte that begins a character is taken in. -/
theorem decodeFrom_first {byte count low high : Nat} (rest : List Nat) (hbyte : 0x80 ≤ byte)
    (hlead : leadBounds? byte = some (count, low, high)) :
    decodeFrom none (byte :: rest)
      = decodeFrom (some ⟨count, low, high, leadValue byte count⟩) rest := by
  rw [decodeFrom, if_neg (by omega), hlead]

/-- A byte within the bounds is taken in too, and the bytes after it may be any that follow. -/
theorem decodeFrom_next {missing low high value byte : Nat} (rest : List Nat)
    (hlow : low ≤ byte) (hhigh : byte ≤ high) :
    decodeFrom (some ⟨missing + 2, low, high, value⟩) (byte :: rest)
      = decodeFrom (some ⟨missing + 1, 0x80, 0xBF, value * 64 + byte % 64⟩) rest := by
  simp [decodeFrom, hlow, hhigh]

/-- The last byte completes the character. -/
theorem decodeFrom_last {low high value byte : Nat} (rest : List Nat)
    (hlow : low ≤ byte) (hhigh : byte ≤ high) :
    decodeFrom (some ⟨1, low, high, value⟩) (byte :: rest)
      = Char.ofNat (value * 64 + byte % 64) :: decodeFrom none rest := by
  simp [decodeFrom, hlow, hhigh]

/-- A first byte of two takes any byte after it. -/
theorem leadBounds?_two {byte : Nat} (hlow : 0xC2 ≤ byte) (hhigh : byte ≤ 0xDF) :
    leadBounds? byte = some (1, 0x80, 0xBF) := by
  simp [leadBounds?, hlow, hhigh]

/-- A first byte of three takes any byte after it, unless the character would be one that fewer
bytes spell, or half of a pair. -/
theorem leadBounds?_three {byte next : Nat} (hlow : 0xE0 ≤ byte) (hhigh : byte ≤ 0xEF)
    (hnext : 0x80 ≤ next ∧ next ≤ 0xBF) (hshort : byte = 0xE0 → 0xA0 ≤ next)
    (hpair : byte = 0xED → next ≤ 0x9F) :
    ∃ low high, leadBounds? byte = some (2, low, high) ∧ low ≤ next ∧ next ≤ high := by
  simp only [leadBounds?, Bool.and_eq_true, decide_eq_true_eq]
  rw [if_neg (by omega)]
  by_cases hfirst : byte = 0xE0
  · exact ⟨0xA0, 0xBF, by rw [if_pos hfirst], hshort hfirst, hnext.2⟩
  · by_cases hhalf : byte = 0xED
    · exact ⟨0x80, 0x9F, by rw [if_neg hfirst, if_pos hhalf], hnext.1, hpair hhalf⟩
    · refine ⟨0x80, 0xBF, ?_, hnext.1, hnext.2⟩
      rw [if_neg hfirst, if_neg hhalf, if_pos (by omega)]

/-- A first byte of four takes any byte after it, unless the character would be one that fewer
bytes spell, or beyond the last. -/
theorem leadBounds?_four {byte next : Nat} (hlow : 0xF0 ≤ byte) (hhigh : byte ≤ 0xF4)
    (hnext : 0x80 ≤ next ∧ next ≤ 0xBF) (hshort : byte = 0xF0 → 0x90 ≤ next)
    (hlast : byte = 0xF4 → next ≤ 0x8F) :
    ∃ low high, leadBounds? byte = some (3, low, high) ∧ low ≤ next ∧ next ≤ high := by
  simp only [leadBounds?, Bool.and_eq_true, decide_eq_true_eq]
  rw [if_neg (by omega), if_neg (by omega), if_neg (by omega), if_neg (by omega)]
  by_cases hfirst : byte = 0xF0
  · exact ⟨0x90, 0xBF, by rw [if_pos hfirst], hshort hfirst, hnext.2⟩
  · by_cases hmiddle : byte ≤ 0xF3
    · refine ⟨0x80, 0xBF, ?_, hnext.1, hnext.2⟩
      rw [if_neg hfirst, if_pos (by omega)]
    · refine ⟨0x80, 0x8F, ?_, hnext.1, hlast (by omega)⟩
      rw [if_neg hfirst, if_neg (by omega), if_pos (by omega)]

/-- **The bytes of a character are read as that character.** -/
theorem decodeFrom_utf8Bytes (c : Char) (rest : List Nat) :
    decodeFrom none (utf8Bytes c ++ rest) = c :: decodeFrom none rest := by
  have hvalid : c.toNat < 0xD800 ∨ 0xDFFF < c.toNat ∧ c.toNat < 0x110000 := by
    have h := c.valid
    simp only [UInt32.isValidChar, Nat.isValidChar] at h
    exact h
  rw [utf8Bytes_eq]
  generalize hv : c.toNat = v at hvalid
  have hc : Char.ofNat v = c := by rw [← hv, Char.ofNat_toNat]
  split
  · next hone => rw [List.singleton_append, decodeFrom, if_pos hone, hc]
  · split
    · rw [List.cons_append, List.cons_append, List.nil_append,
        decodeFrom_first _ (by omega) (leadBounds?_two (by omega) (by omega)),
        decodeFrom_last _ (by omega) (by omega)]
      have hvalue : leadValue (0xC0 + v / 64) 1 * 64 + (0x80 + v % 64) % 64 = v := by
        rw [show leadValue (0xC0 + v / 64) 1 = (0xC0 + v / 64) % 32 from rfl]
        omega
      rw [hvalue, hc]
    · split
      · obtain ⟨low, high, hlead, hlow, hhigh⟩ := @leadBounds?_three (0xE0 + v / 4096)
          (0x80 + v / 64 % 64) (by omega) (by omega) (by omega) (by omega) (by omega)
        rw [List.cons_append, List.cons_append, List.cons_append, List.nil_append,
          decodeFrom_first _ (by omega) hlead, decodeFrom_next _ hlow hhigh,
          decodeFrom_last _ (by omega) (by omega)]
        have hvalue : (leadValue (0xE0 + v / 4096) 2 * 64 + (0x80 + v / 64 % 64) % 64) * 64
            + (0x80 + v % 64) % 64 = v := by
          rw [show leadValue (0xE0 + v / 4096) 2 = (0xE0 + v / 4096) % 16 from rfl]
          omega
        rw [hvalue, hc]
      · obtain ⟨low, high, hlead, hlow, hhigh⟩ := @leadBounds?_four (0xF0 + v / 262144)
          (0x80 + v / 4096 % 64) (by omega) (by omega) (by omega) (by omega) (by omega)
        rw [List.cons_append, List.cons_append, List.cons_append, List.cons_append,
          List.nil_append, decodeFrom_first _ (by omega) hlead, decodeFrom_next _ hlow hhigh,
          decodeFrom_next _ (by omega) (by omega), decodeFrom_last _ (by omega) (by omega)]
        have hvalue : ((leadValue (0xF0 + v / 262144) 3 * 64 + (0x80 + v / 4096 % 64) % 64) * 64
            + (0x80 + v / 64 % 64) % 64) * 64 + (0x80 + v % 64) % 64 = v := by
          rw [show leadValue (0xF0 + v / 262144) 3 = (0xF0 + v / 262144) % 8 from rfl]
          omega
        rw [hvalue, hc]

/-- The bytes of a text are read as that text. -/
theorem decodeFrom_flatMap_utf8Bytes (text : List Char) :
    decodeFrom none (text.flatMap utf8Bytes) = text := by
  induction text with
  | nil => rfl
  | cons c rest ih => rw [List.flatMap_cons, decodeFrom_utf8Bytes, ih]

/-! ## Reading percent signs -/

/-- The digit for a number below sixteen. -/
def hexDigit (n : Nat) : Char :=
  if n < 10 then Char.ofNat (48 + n) else Char.ofNat (55 + n)

theorem percentByte_eq (byte : Nat) :
    percentByte byte = ['%', hexDigit (byte / 16), hexDigit (byte % 16)] := rfl

theorem hexValue?_hexDigit : ∀ n < 16, hexValue? (hexDigit n) = some n := by decide

theorem hexDigit_lt : ∀ n < 16, (hexDigit n).toNat < 0x80 := by decide

/-- A character that stands for its own byte: it is ASCII, and not the percent sign. -/
def StandsForItself (c : Char) : Prop :=
  c.toNat < 0x80 ∧ c ≠ '%'

instance (c : Char) : Decidable (StandsForItself c) :=
  inferInstanceAs (Decidable (c.toNat < 0x80 ∧ c ≠ '%'))

/-- For the characters of a given text this is computed. -/
theorem forall_standsForItself {text : List Char}
    (h : (text.all fun c => decide (StandsForItself c)) = true) : ∀ c ∈ text, StandsForItself c :=
  fun c hc => of_decide_eq_true (List.all_eq_true.1 h c hc)

theorem utf8Bytes_of_standsForItself {c : Char} (h : StandsForItself c) :
    utf8Bytes c = [c.toNat] := by
  rw [utf8Bytes_eq, if_pos h.1]

theorem percentBytes_cons {c : Char} (h : c ≠ '%') (rest : List Char) :
    percentBytes (c :: rest) = c.toNat :: percentBytes rest := by
  rw [percentBytes]
  exact fun _ _ _ hsign _ => h hsign

/-- A byte that is written out is read as that byte. -/
theorem percentBytes_percentByte {byte : Nat} (h : byte < 256) (rest : List Char) :
    percentBytes (percentByte byte ++ rest) = byte :: percentBytes rest := by
  have hvalue : byte / 16 * 16 + byte % 16 = byte := by omega
  rw [percentByte_eq, List.cons_append, List.cons_append, List.cons_append, List.nil_append,
    percentBytes, hexValue?_hexDigit _ (by omega), hexValue?_hexDigit _ (by omega)]
  dsimp only
  rw [hvalue]

theorem percentBytes_flatMap_percentByte {bytes : List Nat} (h : ∀ byte ∈ bytes, byte < 256)
    (rest : List Char) :
    percentBytes (bytes.flatMap percentByte ++ rest) = bytes ++ percentBytes rest := by
  induction bytes with
  | nil => rfl
  | cons byte others ih =>
    obtain ⟨hbyte, hothers⟩ := List.forall_mem_cons.1 h
    rw [List.flatMap_cons, List.append_assoc, percentBytes_percentByte hbyte, ih hothers,
      List.cons_append]

/-! ## Writing -/

/-- The character is left as it is. -/
def isLeft (allowed : List Char) (c : Char) : Bool :=
  c.isAlphanum || "_.-~".toList.contains c || allowed.contains c

/-- What is written for a character. -/
def written (allowed : List Char) (c : Char) : List Char :=
  if isLeft allowed c then [c] else (utf8Bytes c).flatMap percentByte

theorem toList_percentEncode (allowed : List Char) (text : String) :
    (percentEncode allowed text).toList = text.toList.flatMap (written allowed) := by
  rw [percentEncode, String.toList_ofList]
  refine congrArg (text.toList.flatMap ·) (funext fun c => ?_)
  rw [written, ← toUTF8_singleton, List.flatMap_map]
  rfl

/-- Letters and digits are ASCII. -/
theorem toNat_lt_of_isAlphanum {c : Char} (h : c.isAlphanum = true) : c.toNat < 0x80 := by
  have hkind : ((c.isUpper || c.isLower) || c.isDigit) = true := h
  rw [Bool.or_eq_true, Bool.or_eq_true] at hkind
  rcases hkind with (hupper | hlower) | hdigit
  · have hlast : c.val ≤ 'Z'.val := (of_decide_eq_true hupper).2
    exact Nat.lt_of_le_of_lt (UInt32.le_iff_toNat_le.1 hlast) (by decide)
  · have hlast : c.val ≤ 'z'.val := of_decide_eq_true (Bool.and_eq_true_iff.1 hlower).2
    exact Nat.lt_of_le_of_lt (UInt32.le_iff_toNat_le.1 hlast) (by decide)
  · have hlast : c.val ≤ '9'.val := of_decide_eq_true (Bool.and_eq_true_iff.1 hdigit).2
    exact Nat.lt_of_le_of_lt (UInt32.le_iff_toNat_le.1 hlast) (by decide)

section

variable {allowed : List Char} (hallowed : ∀ c ∈ allowed, StandsForItself c)
include hallowed

/-- Whatever is left as it is stands for itself. -/
theorem standsForItself_of_isLeft {c : Char} (h : isLeft allowed c = true) :
    StandsForItself c := by
  rw [isLeft, Bool.or_eq_true, Bool.or_eq_true] at h
  rcases h with (halnum | hmark) | hallow
  · refine ⟨toNat_lt_of_isAlphanum halnum, ?_⟩
    rintro rfl
    exact absurd halnum (by decide)
  · exact forall_standsForItself (by decide) c (List.contains_iff_mem.1 hmark)
  · exact hallowed c (List.contains_iff_mem.1 hallow)

/-- What is written for a character is read as its bytes. -/
theorem percentBytes_written (c : Char) (rest : List Char) :
    percentBytes (written allowed c ++ rest) = utf8Bytes c ++ percentBytes rest := by
  rw [written]
  split
  · next hleft =>
    have hself := standsForItself_of_isLeft hallowed hleft
    rw [List.singleton_append, percentBytes_cons hself.2, utf8Bytes_of_standsForItself hself]
    rfl
  · exact percentBytes_flatMap_percentByte (utf8Bytes_lt c) rest

/-- Reading the percent signs gives the bytes of the text. -/
theorem percentBytes_flatMap_written (text : List Char) :
    percentBytes (text.flatMap (written allowed)) = text.flatMap utf8Bytes := by
  induction text with
  | nil => rfl
  | cons c rest ih => rw [List.flatMap_cons, percentBytes_written hallowed, ih, List.flatMap_cons]

/-- Nothing but ASCII is written. -/
theorem toNat_written_lt (c : Char) : ∀ d ∈ written allowed c, d.toNat < 0x80 := by
  intro d hd
  rw [written] at hd
  split at hd
  · next hleft =>
    rw [List.mem_singleton.1 hd]
    exact (standsForItself_of_isLeft hallowed hleft).1
  · obtain ⟨byte, hbyte, hmem⟩ := List.mem_flatMap.1 hd
    have hlt := utf8Bytes_lt c byte hbyte
    rw [percentByte_eq] at hmem
    rcases hmem with _ | ⟨_, _ | ⟨_, _ | ⟨_, ⟨⟩⟩⟩⟩
    · decide
    · exact hexDigit_lt _ (by omega)
    · exact hexDigit_lt _ (by omega)

end

/-- Over ASCII, the percent signs are read first and the bytes after that. -/
theorem percentDecode_of_ascii {text : List Char} (h : ∀ c ∈ text, c.toNat < 0x80) :
    percentDecode text = decodeFrom none (percentBytes text) := by
  have hfold : ∀ text : List Char, (∀ c ∈ text, c.toNat < 0x80) →
      text.foldr (fun (c : Char) (state : List Char × List Char) =>
        if c.toNat < 0x80 then (c :: state.1, state.2)
        else ([], c :: decodeFrom none (percentBytes state.1) ++ state.2)) ([], [])
        = (text, []) := by
    intro text
    induction text with
    | nil => exact fun _ => rfl
    | cons c rest ih =>
      intro hascii
      obtain ⟨hc, hrest⟩ := List.forall_mem_cons.1 hascii
      rw [List.foldr_cons, ih hrest, if_pos hc]
  rw [percentDecode]
  dsimp only
  rw [hfold text h, List.append_nil]

/-- **What is written with percent signs is read back**, behind any beginning that stands for
itself. -/
theorem percentDecode_percentEncode {allowed start : List Char}
    (hallowed : ∀ c ∈ allowed, StandsForItself c) (hstart : ∀ c ∈ start, StandsForItself c)
    (text : String) :
    percentDecode (start ++ (percentEncode allowed text).toList) = start ++ text.toList := by
  have hbytes : ∀ rest : List Char, percentBytes (start ++ rest)
      = start.flatMap utf8Bytes ++ percentBytes rest := by
    intro rest
    induction start with
    | nil => rfl
    | cons c others ih =>
      obtain ⟨hc, hothers⟩ := List.forall_mem_cons.1 hstart
      rw [List.cons_append, percentBytes_cons hc.2, ih hothers, List.flatMap_cons,
        utf8Bytes_of_standsForItself hc]
      rfl
  have hascii : ∀ c ∈ start ++ (percentEncode allowed text).toList, c.toNat < 0x80 := by
    intro c hc
    rcases List.mem_append.1 hc with hbefore | hbehind
    · exact (hstart c hbefore).1
    · rw [toList_percentEncode] at hbehind
      obtain ⟨own, -, hwritten⟩ := List.mem_flatMap.1 hbehind
      exact toNat_written_lt hallowed own c hwritten
  rw [percentDecode_of_ascii hascii, hbytes, toList_percentEncode,
    percentBytes_flatMap_written hallowed, ← List.flatMap_append, decodeFrom_flatMap_utf8Bytes]

end Taskbook.Text
