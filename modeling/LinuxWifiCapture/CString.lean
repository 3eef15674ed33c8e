import Mathlib.Data.Nat.Digits

/-!
# C strings, `snprintf` and the string comparisons

`capture_linux_wifi.c` builds every interface name and every channel string with
`snprintf`, and compares strings with `strcmp`, `strcasecmp` and `strncasecmp`.  This file
fixes how the model reads those calls.

A C string is a Lean `String` whose characters are the `char`s before the terminating NUL,
one character per byte, so `strlen` is `String.length`.  The numbers printed are `%u` of an
`unsigned int` and `%d` of a loop counter in `0 .. 99`, both the decimal numeral `Nat.repr`
prints, and the `%08X` and `%02X` of the uuid; a `char *` printed with `%s` is
`formatStr`.

* `snprintf size s` keeps the first `size - 1` characters: the truncation that decides
  whether an interface name fits in `IFNAMSIZ`.
* `digitsValue_toDigits`: reading the digits of a numeral back, as the `%u` scanner of
  `Channel.Scanf` does, gives the number that was printed.
* `strcasecmpEq` and `strncasecmpEq` are the tests `strcasecmp (..) == 0` and
  `strncasecmp (..) == 0`, with `tolower` of the C locale, which only moves `A`..`Z`.

`STATUS_MAX`, the size of the message buffers, lives in the capture framework's header,
which is not part of the sources; no text the model builds is cut to it.
-/

namespace LinuxWifiCapture

/-- `IFNAMSIZ` of `<net/if.h>` on Linux: an interface name and its NUL fit in 16 bytes. -/
def ifnamsiz : Nat := 16

/-- `%u` (and `%d` of a non-negative value): the decimal numeral. -/
def formatNat (n : Nat) : String := Nat.repr n

/-- `%u` of an `unsigned int`. -/
def formatUnsigned (n : UInt32) : String := formatNat n.toNat

/-- `%0<width>X`: the upper-case hexadecimal numeral, padded with zeros to `width`. -/
def formatHex (width n : Nat) : String :=
  let ds := (Nat.toDigits 16 n).map Char.toUpper
  ⟨List.replicate (width - ds.length) '0' ++ ds⟩

/-- `%s` of a `char *`: glibc prints `(null)` for `NULL`. -/
def formatStr : Option String → String
  | some s => s
  | none => "(null)"

/-- `snprintf (buf, size, ..)` writes at most `size - 1` characters and the NUL. -/
def snprintf (size : Nat) (s : String) : String := ⟨s.data.take (size - 1)⟩

/-- A text shorter than the buffer is written whole. -/
theorem snprintf_of_length_lt {size : Nat} {s : String} (h : s.length < size) :
    snprintf size s = s := by
  have : s.data.length ≤ size - 1 := by
    have : s.length = s.data.length := rfl
    omega
  simp [snprintf, List.take_of_length_le this]

/-- `strcasecmp (a, b) == 0`. -/
def strcasecmpEq (a b : String) : Bool := a.data.map Char.toLower == b.data.map Char.toLower

/-- `strncasecmp (a, b, n) == 0` on two C strings: at most `n` characters are compared, and
a string that ends first meets the other's next character with its NUL. -/
def strncasecmpEq : List Char → List Char → Nat → Bool
  | _, _, 0 => true
  | [], [], _ => true
  | a :: as, b :: bs, n + 1 => a.toLower == b.toLower && strncasecmpEq as bs n
  | _, _, _ + 1 => false

/-! ## Decimal numerals -/

@[simp] theorem formatNat_data (n : Nat) : (formatNat n).data = Nat.toDigits 10 n := rfl

/-- The digits of a numeral in any base are written in front of what is already there. -/
theorem toDigitsCore_append {b : Nat} (hb : 1 < b) (fuel n : Nat) (ds : List Char)
    (h : n < fuel) : Nat.toDigitsCore b fuel n ds = Nat.toDigitsCore b fuel n [] ++ ds := by
  induction fuel generalizing n ds with
  | zero => omega
  | succ fuel ih =>
    simp only [Nat.toDigitsCore]
    split
    · rfl
    · next hq =>
      have hn : 0 < n := Nat.pos_of_ne_zero fun h0 => hq (by rw [h0, Nat.zero_div])
      have hlt : n / b < fuel := by have := Nat.div_lt_self hn hb; omega
      rw [ih _ _ hlt, ih _ [_] hlt, List.append_assoc, List.singleton_append]

/-- The value of a run of decimal digits, most significant first. -/
def digitsValue (ds : List Char) : Nat := ds.foldl (fun acc c => 10 * acc + (c.toNat - '0'.toNat)) 0

@[simp] theorem digitsValue_append_singleton (ds : List Char) (c : Char) :
    digitsValue (ds ++ [c]) = 10 * digitsValue ds + (c.toNat - '0'.toNat) := by
  simp [digitsValue]

theorem digitChar_facts : ∀ d, d < 10 →
    (Nat.digitChar d).isDigit = true ∧ (Nat.digitChar d).toNat - '0'.toNat = d := by
  decide

/-- Every character of a numeral is a digit. -/
theorem isDigit_of_mem_toDigitsCore (fuel n : Nat) (ds : List Char) (c : Char)
    (h : c ∈ Nat.toDigitsCore 10 fuel n ds) : c.isDigit = true ∨ c ∈ ds := by
  induction fuel generalizing n ds with
  | zero => exact .inr h
  | succ fuel ih =>
    have hd := (digitChar_facts (n % 10) (Nat.mod_lt _ (by decide))).1
    simp only [Nat.toDigitsCore] at h
    split at h
    · rcases List.mem_cons.mp h with rfl | h
      exacts [.inl hd, .inr h]
    · rcases ih _ _ h with h | h
      · exact .inl h
      · rcases List.mem_cons.mp h with rfl | h
        exacts [.inl hd, .inr h]

theorem isDigit_of_mem_formatNat {n : Nat} {c : Char} (h : c ∈ (formatNat n).data) :
    c.isDigit = true :=
  (isDigit_of_mem_toDigitsCore _ _ [] c h).resolve_right (List.not_mem_nil c)

theorem formatNat_data_ne_nil (n : Nat) : (formatNat n).data ≠ [] := by
  simp only [formatNat_data, Nat.toDigits, Nat.toDigitsCore]
  split
  · exact List.cons_ne_nil _ _
  · rw [toDigitsCore_append (by decide) _ _ _ (by omega)]
    simp

/-- Reading a numeral back gives the number. -/
theorem digitsValue_toDigitsCore (fuel n : Nat) (h : n < fuel) :
    digitsValue (Nat.toDigitsCore 10 fuel n []) = n := by
  induction fuel generalizing n with
  | zero => omega
  | succ fuel ih =>
    have hd := (digitChar_facts (n % 10) (Nat.mod_lt _ (by decide))).2
    simp only [Nat.toDigitsCore]
    split
    · show digitsValue ([] ++ [_]) = n
      rw [digitsValue_append_singleton, hd]
      show 10 * 0 + n % 10 = n
      omega
    · rw [toDigitsCore_append (by decide) _ _ _ (by omega), digitsValue_append_singleton,
        ih _ (by omega), hd]
      omega

@[simp] theorem digitsValue_toDigits (n : Nat) : digitsValue (Nat.toDigits 10 n) = n :=
  digitsValue_toDigitsCore _ _ (Nat.lt_succ_self n)

/-! ## Hexadecimal numerals -/

/-- The value of an upper-case hexadecimal digit. -/
def hexDigitValue (c : Char) : Nat :=
  if c.isDigit then c.toNat - '0'.toNat else c.toNat - 'A'.toNat + 10

/-- The value of a run of hexadecimal digits, most significant first. -/
def hexDigitsValue (ds : List Char) : Nat := ds.foldl (fun acc c => 16 * acc + hexDigitValue c) 0

@[simp] theorem hexDigitsValue_append_singleton (ds : List Char) (c : Char) :
    hexDigitsValue (ds ++ [c]) = 16 * hexDigitsValue ds + hexDigitValue c := by
  simp [hexDigitsValue]

theorem hexDigitValue_digitChar :
    ∀ d, d < 16 → hexDigitValue (Nat.digitChar d).toUpper = d := by
  decide

/-- The zeros `%0<width>X` pads with add nothing. -/
theorem hexDigitsValue_replicate_zero_append (k : Nat) (ds : List Char) :
    hexDigitsValue (List.replicate k '0' ++ ds) = hexDigitsValue ds := by
  induction k with
  | zero => rfl
  | succ k ih => exact ih

theorem hexDigitsValue_toDigitsCore (fuel n : Nat) (h : n < fuel) :
    hexDigitsValue ((Nat.toDigitsCore 16 fuel n []).map Char.toUpper) = n := by
  induction fuel generalizing n with
  | zero => omega
  | succ fuel ih =>
    have hd := hexDigitValue_digitChar (n % 16) (Nat.mod_lt _ (by decide))
    simp only [Nat.toDigitsCore]
    split
    · show hexDigitsValue ([] ++ [_]) = n
      rw [hexDigitsValue_append_singleton, hd]
      show 16 * 0 + n % 16 = n
      omega
    · rw [toDigitsCore_append (by decide) _ _ _ (by omega), List.map_append, List.map_singleton,
        hexDigitsValue_append_singleton, ih _ (by omega), hd]
      omega

/-- Reading `%0<width>X` back gives the number, whatever the width. -/
@[simp] theorem hexDigitsValue_formatHex (width n : Nat) :
    hexDigitsValue (formatHex width n).data = n := by
  rw [formatHex, hexDigitsValue_replicate_zero_append]
  exact hexDigitsValue_toDigitsCore _ _ (Nat.lt_succ_self n)

/-- `%0<width>X` of a value that fits in `width` digits writes exactly `width` characters. -/
theorem formatHex_length {width n : Nat} (hw : 0 < width) (hn : n < 16 ^ width) :
    (formatHex width n).length = width := by
  have := Nat.toDigitsCore_length 16 (by decide) (n + 1) n width hn hw
  simp only [formatHex, String.length, List.length_append, List.length_replicate,
    List.length_map]
  unfold Nat.toDigits
  omega

end LinuxWifiCapture
