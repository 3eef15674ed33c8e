import LinuxWifiCapture.CString

/-!
# The two `sscanf` patterns of `chantranslate_callback`

`chantranslate_callback` reads a channel string with two calls,

    sscanf (chanstr, "%uHT40%c", &parsechan, &mod)
    sscanf (chanstr, "%u%15[^-]-%u", &parsechan, parsetype, &parse_center1)

and branches on how many items each one assigned.  The model gives each pattern its own
function, whose result nests one `Option` per assigned item: the depth of the nesting is
the value `sscanf` returns.  A return of `EOF` and a return of 0 are both `none`; the
caller only asks `r <= 0`.

The conversions, as glibc performs them:

* `%u` skips blanks (`isspace`), takes an optional sign and a non-empty run of decimal
  digits, and stores `strtoul` of them as an `unsigned int` (`scanUnsigned`).  On an LP64
  target `strtoul` saturates at `ULONG_MAX = 2^64 - 1` and negates modulo `2^64`; the
  store then keeps the value modulo `2^32`.  So `-1` reads as `4294967295` and
  `4294967296` as `0`.
* a literal character of the format must equal the next input character;
* `%c` takes the next character, blank or not;
* `%15[^-]` takes between 1 and 15 characters other than `-`.

An input that runs out, or a character that does not match, ends the scan; the items
assigned before it stay assigned.

## Main results

* `scanUnsigned_digits_append`: `%u` on a run of digits takes exactly the run, whatever
  follows it as long as it is not a digit; so it reads back what `%u` printed
  (`scanUnsigned_formatUnsigned`).
* `scanNotDash_append`: `%15[^-]` takes exactly a short dash-free word that is followed by
  a dash or by the end of the input.
-/

namespace LinuxWifiCapture

/-- `isspace` in the C locale. -/
def cIsspace (c : Char) : Bool :=
  c == ' ' || c == '\t' || c == '\n' || c == '\x0b' || c == '\x0c' || c == '\r'

/-- The `unsigned int` that `%u` stores for a numeral of value `v`, read after a minus sign
when `neg`: `strtoul` on an LP64 target, then the conversion to `unsigned int`. -/
def strtoulToUnsigned (neg : Bool) (v : Nat) : UInt32 :=
  UInt32.ofNat (if 2 ^ 64 ≤ v then 2 ^ 64 - 1 else if neg then 2 ^ 64 - v else v)

/-- The sign `strtoul` accepts in front of the digits. -/
def scanSign : List Char → Bool × List Char
  | '-' :: s => (true, s)
  | '+' :: s => (false, s)
  | s => (false, s)

/-- The `%u` conversion: the value stored and the input left after the digits, or `none`
when no digit follows the blanks and the sign. -/
def scanUnsigned (s : List Char) : Option (UInt32 × List Char) :=
  let t := scanSign (s.dropWhile cIsspace)
  let ds := t.2.takeWhile Char.isDigit
  if ds = [] then none
  else some (strtoulToUnsigned t.1 (digitsValue ds), t.2.dropWhile Char.isDigit)

/-- The `%15[^-]` conversion: between 1 and 15 characters other than `-`. -/
def scanNotDash (s : List Char) : Option (List Char × List Char) :=
  let set := (s.takeWhile (· != '-')).take 15
  if set = [] then none else some (set, s.drop set.length)

/-- The `HT40%c` of the first pattern, after `%u`. -/
def scanHt40Tail : List Char → Option Char
  | 'H' :: 'T' :: '4' :: '0' :: mod :: _ => some mod
  | _ => none

/-- The `-%u` of the second pattern, after `%15[^-]`. -/
def scanCenterTail : List Char → Option UInt32
  | '-' :: t => (scanUnsigned t).map Prod.fst
  | _ => none

/-- `sscanf (chanstr, "%uHT40%c", &parsechan, &mod)`: `some (parsechan, none)` when it
returns 1, `some (parsechan, some mod)` when it returns 2. -/
def scanHt40 (s : List Char) : Option (UInt32 × Option Char) :=
  (scanUnsigned s).map fun p => (p.1, scanHt40Tail p.2)

/-- `sscanf (chanstr, "%u%15[^-]-%u", &parsechan, parsetype, &parse_center1)`: one level of
`some` per item assigned, so `some (parsechan, some (parsetype, some parse_center1))` when
it returns 3. -/
def scanChan (s : List Char) : Option (UInt32 × Option (List Char × Option UInt32)) :=
  (scanUnsigned s).map fun p => (p.1, (scanNotDash p.2).map fun q => (q.1, scanCenterTail q.2))

/-! ## Reading back a printed numeral -/

theorem ofNat_toNat_uint32 (n : UInt32) : UInt32.ofNat n.toNat = n :=
  UInt32.toNat.inj (UInt32.toNat_ofNat_of_lt n.toNat_lt_size)

/-- A number below `2^32` read without a sign is stored as it is. -/
theorem strtoulToUnsigned_toNat (n : UInt32) : strtoulToUnsigned false n.toNat = n := by
  have : n.toNat < 2 ^ 32 := n.toNat_lt_size
  rw [strtoulToUnsigned, if_neg (by omega), if_neg (by decide), ofNat_toNat_uint32]

theorem cIsspace_of_isDigit {c : Char} (h : c.isDigit = true) : cIsspace c = false := by
  simp only [Char.isDigit, Bool.and_eq_true, decide_eq_true_eq] at h
  simp only [cIsspace, Bool.or_eq_false_iff, beq_eq_false_iff_ne, ne_eq]
  refine ⟨⟨⟨⟨⟨?_, ?_⟩, ?_⟩, ?_⟩, ?_⟩, ?_⟩ <;> (rintro rfl; revert h; decide)

/-- `%u` on a run of digits that the rest of the input does not continue. -/
theorem scanUnsigned_digits_append (ds rest : List Char) (hne : ds ≠ [])
    (hds : ∀ c ∈ ds, c.isDigit = true) (hrest : ∀ c ∈ rest.head?, c.isDigit = false) :
    scanUnsigned (ds ++ rest) = some (strtoulToUnsigned false (digitsValue ds), rest) := by
  obtain ⟨c, cs, rfl⟩ := List.exists_cons_of_ne_nil hne
  have hdigit : c.isDigit = true := hds c (List.mem_cons_self _ _)
  have hsign : scanSign (c :: cs ++ rest) = (false, c :: cs ++ rest) := by
    simp only [List.cons_append, scanSign]
    split <;> simp_all [Char.isDigit]
  have hrest' : rest.takeWhile Char.isDigit = [] ∧ rest.dropWhile Char.isDigit = rest := by
    cases rest <;> simp_all
  simp only [scanUnsigned]
  rw [List.cons_append, List.dropWhile_cons_of_neg (by simp [cIsspace_of_isDigit hdigit]),
    ← List.cons_append, hsign, List.takeWhile_append_of_pos hds, List.dropWhile_append_of_pos hds,
    hrest'.1, hrest'.2, List.append_nil, if_neg hne]

/-- `%u` reads back what `%u` printed. -/
theorem scanUnsigned_formatUnsigned (n : UInt32) (rest : List Char)
    (hrest : ∀ c ∈ rest.head?, c.isDigit = false) :
    scanUnsigned ((formatUnsigned n).data ++ rest) = some (n, rest) := by
  rw [scanUnsigned_digits_append (formatUnsigned n).data _ (formatNat_data_ne_nil _)
    (fun _ => isDigit_of_mem_formatNat) hrest]
  simp [formatUnsigned, strtoulToUnsigned_toNat]

/-- `%15[^-]` takes a short dash-free word followed by a dash or by the end of the input. -/
theorem scanNotDash_append (w rest : List Char) (hw : ∀ c ∈ w, c ≠ '-')
    (hlen : w.length ≤ 15)
    (hne : w ≠ []) (hrest : rest = [] ∨ rest.head? = some '-') :
    scanNotDash (w ++ rest) = some (w, rest) := by
  have htake : (w ++ rest).takeWhile (· != '-') = w := by
    rw [List.takeWhile_append_of_pos (by simpa using hw)]
    rcases hrest with rfl | h
    · simp
    · cases rest with
      | nil => simp at h
      | cons r rs => simp_all
  simp [scanNotDash, htake, List.take_of_length_le hlen, hne]

end LinuxWifiCapture
