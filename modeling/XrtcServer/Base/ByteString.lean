import Mathlib.Data.List.Infix
import Mathlib.Algebra.Order.Ring.Int
import Mathlib.Tactic.Common

/-!
# Byte strings

`std::string` and network buffers are sequences of bytes. This file has the operations of
`std::string` the server uses, the string helpers of `rtc_base/string_encode.h`, which are not part
of the repository and follow their documented behaviour, and reads in network and in host byte
order.

`substr` is partial: a start position past the end throws `std::out_of_range`, and whether that can
happen is the subject of `Pc/SdpSafety.lean`.
-/

namespace XrtcServer

/-- The bytes of a `std::string` or of a network buffer. -/
abbrev ByteString := List UInt8

/-- The bytes of a string literal. -/
def lit (s : String) : ByteString := s.toList.map fun c ↦ c.toNat.toUInt8

namespace ByteString

/-- `s.substr(pos)`; `none` is `std::out_of_range`. -/
def substr (s : ByteString) (pos : ℕ) : Option ByteString :=
  if pos ≤ s.length then some (s.drop pos) else none

theorem substr_eq_none {s : ByteString} {pos : ℕ} : s.substr pos = none ↔ s.length < pos := by
  rw [substr]
  by_cases h : pos ≤ s.length
  · rw [if_pos h]
    simpa using h
  · rw [if_neg h]
    simpa using h

theorem substr_eq_some {s t : ByteString} {pos : ℕ} :
    s.substr pos = some t ↔ pos ≤ s.length ∧ s.drop pos = t := by
  rw [substr]
  by_cases h : pos ≤ s.length <;> simp [h]

/-- `s.find(pat) != std::string::npos`. -/
def contains (s pat : ByteString) : Bool := decide (pat <:+: s)

theorem length_le_of_contains {s pat : ByteString} (h : s.contains pat = true) :
    pat.length ≤ s.length :=
  (of_decide_eq_true h).length_le

/-- `rtc::split`: the pieces between delimiters, empty ones included. -/
def split (d : UInt8) (s : ByteString) : List ByteString := s.splitOn d

theorem split_ne_nil (d : UInt8) (s : ByteString) : split d s ≠ [] := List.splitOn_ne_nil d s

/-- `rtc::tokenize`: the non-empty pieces between delimiters. -/
def tokenize (d : UInt8) (s : ByteString) : List ByteString :=
  (split d s).filter fun t ↦ !t.isEmpty

theorem ne_nil_of_mem_tokenize {d : UInt8} {s t : ByteString} (h : t ∈ tokenize d s) : t ≠ [] := by
  have := (List.mem_filter.mp h).2
  simpa using this

/-- `rtc::tokenize_first`: the text before the first delimiter and the text after the run of
delimiters that starts there; `none` when there is no delimiter. -/
def tokenizeFirst (d : UInt8) (s : ByteString) : Option (ByteString × ByteString) :=
  if d ∈ s then
    some (s.takeWhile (· ≠ d), (s.dropWhile (· ≠ d)).dropWhile (· = d))
  else none

/-- `::tolower` in the C locale. -/
def toLower (b : UInt8) : UInt8 := if 65 ≤ b ∧ b ≤ 90 then b + 32 else b

/-! ## Reading integers -/

/-- `rtc::GetBE16` at `pos`, and `uint16_t` of a buffer in network order. -/
def be16 (s : ByteString) (pos : ℕ) : ℕ :=
  (s.getD pos 0).toNat * 256 + (s.getD (pos + 1) 0).toNat

/-- `rtc::GetBE32` at `pos`. -/
def be32 (s : ByteString) (pos : ℕ) : ℕ := be16 s pos * 65536 + be16 s (pos + 2)

/-- A `uint32_t` member of a struct laid over the buffer at `pos`; the host is little-endian. -/
def le32 (s : ByteString) (pos : ℕ) : ℕ :=
  (s.getD pos 0).toNat + 256 * (s.getD (pos + 1) 0).toNat + 65536 * (s.getD (pos + 2) 0).toNat
    + 16777216 * (s.getD (pos + 3) 0).toNat

theorem be16_lt (s : ByteString) (pos : ℕ) : be16 s pos < 65536 := by
  have h₁ := (s.getD pos 0).toNat_lt
  have h₂ := (s.getD (pos + 1) 0).toNat_lt
  rw [be16]
  omega

theorem be16_take {s : ByteString} {n pos : ℕ} (h : pos + 2 ≤ n) :
    be16 (s.take n) pos = be16 s pos := by
  have hget (i : ℕ) (hi : i < n) : (s.take n).getD i 0 = s.getD i 0 := by
    rw [List.getD_eq_getElem?_getD, List.getElem?_take_of_lt hi, ← List.getD_eq_getElem?_getD]
  rw [be16, be16, hget pos (by omega), hget (pos + 1) (by omega)]

theorem be16_drop (s : ByteString) (n pos : ℕ) : be16 (s.drop n) pos = be16 s (n + pos) := by
  have hget (i : ℕ) : (s.drop n).getD i 0 = s.getD (n + i) 0 := by
    rw [List.getD_eq_getElem?_getD, List.getElem?_drop, ← List.getD_eq_getElem?_getD]
  rw [be16, be16, hget, hget, Nat.add_assoc]

theorem le32_append {s t : ByteString} {pos : ℕ} (h : pos + 4 ≤ s.length) :
    le32 (s ++ t) pos = le32 s pos := by
  have hget (n : ℕ) (hn : n < s.length) : (s ++ t).getD n 0 = s.getD n 0 := by
    rw [List.getD_eq_getElem?_getD, List.getElem?_append_left hn, ← List.getD_eq_getElem?_getD]
  rw [le32, le32, hget pos (by omega), hget (pos + 1) (by omega), hget (pos + 2) (by omega),
    hget (pos + 3) (by omega)]

/-- A big-endian `uint16_t` on the wire; the value is taken modulo `2^16`. -/
def putBE16 (n : ℕ) : ByteString := [(n / 256).toUInt8, n.toUInt8]

/-- A big-endian `uint32_t` on the wire; the value is taken modulo `2^32`. -/
def putBE32 (n : ℕ) : ByteString := putBE16 (n / 65536) ++ putBE16 n

/-- A `uint32_t` as the host stores it. -/
def putLE32 (n : ℕ) : ByteString :=
  [n.toUInt8, (n / 256).toUInt8, (n / 65536).toUInt8, (n / 16777216).toUInt8]

@[simp] theorem length_putLE32 (n : ℕ) : (putLE32 n).length = 4 := rfl

@[simp] theorem length_putBE16 (n : ℕ) : (putBE16 n).length = 2 := rfl

@[simp] theorem length_putBE32 (n : ℕ) : (putBE32 n).length = 4 := rfl

theorem be16_append_right (s t : ByteString) (pos : ℕ) :
    be16 (s ++ t) (s.length + pos) = be16 t pos := by
  have hget (n : ℕ) : (s ++ t).getD (s.length + n) 0 = t.getD n 0 := by
    rw [List.getD_eq_getElem?_getD, List.getElem?_append_right (Nat.le_add_right ..),
      Nat.add_sub_cancel_left, ← List.getD_eq_getElem?_getD]
  rw [be16, be16, hget, Nat.add_assoc, hget]

theorem be32_append_right (s t : ByteString) (pos : ℕ) :
    be32 (s ++ t) (s.length + pos) = be32 t pos := by
  rw [be32, be32, be16_append_right, Nat.add_assoc, be16_append_right]

theorem be16_putBE16 (n : ℕ) (s : ByteString) : be16 (putBE16 n ++ s) 0 = n % 65536 := by
  have hget (n : ℕ) : n.toUInt8.toNat = n % 256 := by simp
  simp only [be16, putBE16, List.cons_append, List.getD_cons_zero, List.getD_cons_succ, hget]
  omega

theorem be32_putBE32 (n : ℕ) (s : ByteString) : be32 (putBE32 n ++ s) 0 = n % 2 ^ 32 := by
  have hlow : be16 (putBE32 n ++ s) 2 = n % 65536 := by
    rw [putBE32, List.append_assoc]
    exact (be16_append_right (putBE16 (n / 65536)) _ 0).trans (be16_putBE16 n s)
  have hhigh : be16 (putBE32 n ++ s) 0 = n / 65536 % 65536 := by
    rw [putBE32, List.append_assoc, be16_putBE16]
  rw [be32, hhigh, hlow]
  omega

end ByteString

/-- The `int` that is `n` modulo `2^32`. -/
def toInt32 (n : ℕ) : ℤ := if n % 2 ^ 32 < 2 ^ 31 then n % 2 ^ 32 else n % 2 ^ 32 - 2 ^ 32

theorem toInt32_of_lt {n : ℕ} (h : n < 2 ^ 31) : toInt32 n = n := by
  rw [toInt32]
  split_ifs <;> omega

/-! ## Steps that can fail -/

theorem mapM_eq_none {α β : Type} {f : α → Option β} {l : List α} :
    l.mapM f = none ↔ ∃ a ∈ l, f a = none := by
  induction l with
  | nil => simp
  | cons a l ih =>
    rw [List.mapM_cons]
    rcases h : f a with _ | b
    · simp [h]
    · rcases h' : l.mapM f with _ | bs
      · simpa [h, h'] using ih.mp h'
      · have := mt ih.mpr (by simp [h'])
        simpa [h] using this

theorem mapM_eq_some {α β : Type} {f : α → Option β} {g : α → β} {l : List α}
    (h : ∀ a ∈ l, f a = some (g a)) : l.mapM f = some (l.map g) := by
  induction l with
  | nil => rfl
  | cons a l ih =>
    rw [List.mapM_cons, h a List.mem_cons_self, ih fun b hb ↦ h b (List.mem_cons_of_mem a hb)]
    rfl

end XrtcServer
