import Mathlib.Algebra.GroupWithZero.Nat
import Mathlib.Data.Nat.Log
import SyntaxReports.Fault
import SyntaxReports.Proofs.Lines

/-!
# Written values: one line that hides nothing

A fault over a foreign value quotes the value as it is written. The value may be any text, with line
ends in it and with characters that show nothing. A written value has these by their code points, so
that it consists of printable characters, and the message of a fault is a single line
(`Fault.unbroken_message`).

A number is written by its decimal digits (`length_toString`), and only so many of them are allowed
(`Foreign.isWritable_int`).
-/

namespace SyntaxReports

/-! ## Printable characters -/

namespace Printable

/-- The characters on a keyboard. -/
def isKey (c : Char) : Bool := 0x20 ≤ c.toNat && c.toNat < 0x7F

theorem isPrintable_of_isKey {c : Char} (h : isKey c = true) : isPrintable c = true := by
  have houtside : unprintableRanges.all
      (fun range => decide (range.2 < 0x20 ∨ 0x7F ≤ range.1)) = true := by decide +kernel
  rw [isPrintable, Bool.not_eq_true', List.any_eq_false]
  rintro ⟨first, last⟩ hrange
  have hout := of_decide_eq_true (List.all_eq_true.mp houtside _ hrange)
  simp only [isKey, Bool.and_eq_true, decide_eq_true_eq] at h ⊢
  omega

theorem isPrintable_of_mem_keys {cs : List Char} (hcs : cs.all isKey = true) {c : Char}
    (h : c ∈ cs) : isPrintable c = true :=
  isPrintable_of_isKey (List.all_eq_true.mp hcs c h)

theorem isPrintable_of_mem_hexDigits {count n : Nat} {c : Char} (h : c ∈ hexDigits count n) :
    isPrintable c = true := by
  have hdigit : ∀ d < 16, isKey (Nat.digitChar d) = true := by decide
  induction count generalizing n with
  | zero => cases h
  | succ count ih =>
    rcases List.mem_append.mp h with h | h
    · exact ih h
    · rw [List.mem_singleton.mp h]
      exact isPrintable_of_isKey (hdigit _ (Nat.mod_lt n (by decide)))

/-- A code point is written in printable characters. -/
theorem isPrintable_of_mem_escape {c d : Char} (h : d ∈ escape c) : isPrintable d = true := by
  have hescaped : ∀ letter count, isKey letter = true →
      d ∈ '\\' :: letter :: hexDigits count c.toNat → isPrintable d = true := by
    intro letter count hletter hd
    rcases List.mem_cons.mp hd with rfl | hd
    · exact isPrintable_of_isKey (by decide)
    rcases List.mem_cons.mp hd with rfl | hd
    · exact isPrintable_of_isKey hletter
    · exact isPrintable_of_mem_hexDigits hd
  rw [escape] at h
  split at h
  · exact hescaped 'x' 2 (by decide) h
  split at h
  · exact hescaped 'u' 4 (by decide) h
  · exact hescaped 'U' 8 (by decide) h

theorem isPrintable_of_isDigit {c : Char} (h : c.isDigit = true) : isPrintable c = true := by
  simp only [Char.isDigit, Bool.and_eq_true, decide_eq_true_eq, ge_iff_le,
    UInt32.le_iff_toNat_le] at h
  change 48 ≤ c.toNat ∧ c.toNat ≤ 57 at h
  refine isPrintable_of_isKey ?_
  rw [isKey, Bool.and_eq_true, decide_eq_true_eq, decide_eq_true_eq]
  omega

end Printable

/-- No printable character ends a line. -/
theorem LineEnd.isEnd_of_isPrintable {c : Char} (h : Printable.isPrintable c = true) :
    isEnd c = false := by
  have hends : ['\n', '\x0b', '\x0c', '\r', '\x1c', '\x1d', '\x1e', '\u0085', '\u2028',
      '\u2029'].all (!Printable.isPrintable ·) = true := by decide +kernel
  rw [Bool.eq_false_iff]
  intro hend
  have hother := List.all_eq_true.mp hends c (List.contains_iff_mem.mp hend)
  rw [h] at hother
  cases hother

/-! ## Numbers in decimal -/

/-- The number of decimal digits. -/
def digitCount (n : Nat) : Nat := Nat.log 10 n + 1

/-- A number has at most so many digits if it is below that power of ten. -/
theorem digitCount_le_iff {n count : Nat} (hcount : 0 < count) :
    digitCount n ≤ count ↔ n < 10 ^ count := by
  rw [digitCount, Nat.succ_le_iff]
  exact ⟨Nat.lt_pow_of_log_lt (by decide), Nat.log_lt_of_lt_pow' hcount.ne'⟩

theorem length_toString (n : Nat) : (toString n).length = digitCount n := by
  rw [Nat.toString_eq_ofList_toDigits, String.length_ofList]
  have hle : ∀ count, 0 < count → ((Nat.toDigits 10 n).length ≤ count ↔ digitCount n ≤ count) :=
    fun count hcount =>
      (Nat.length_toDigits_le_iff (by decide) hcount).trans (digitCount_le_iff hcount).symm
  exact le_antisymm ((hle _ (Nat.succ_pos _)).mpr le_rfl)
    ((hle _ Nat.length_toDigits_pos).mp le_rfl)

theorem isPrintable_of_mem_toString {n : Nat} {c : Char} (h : c ∈ (toString n).toList) :
    Printable.isPrintable c = true := by
  rw [Nat.toString_eq_ofList_toDigits, String.toList_ofList] at h
  exact Printable.isPrintable_of_isDigit (Nat.isDigit_of_mem_toDigits (by decide) (by decide) h)

/-- No line ends in a number. -/
theorem LineEnd.unbroken_toString (n : Nat) : Unbroken (toString n).toList :=
  fun _ hc => isEnd_of_isPrintable (isPrintable_of_mem_toString hc)

/-! ## Foreign values -/

namespace Foreign

/-- A number is written if it has no more digits than the limit says. -/
theorem isWritable_int (value : Int) :
    (int value).isWritable = true ↔ value.natAbs < 10 ^ Digit.maxDigits := by
  rw [isWritable, decide_eq_true_eq, length_toString, digitCount_le_iff (by decide)]

theorem isPrintable_of_mem_quoted {quote c d : Char} (hquote : Printable.isPrintable quote = true)
    (h : d ∈ quoted quote c) : Printable.isPrintable d = true := by
  have hmarked : ∀ mark, Printable.isPrintable mark = true → d ∈ ['\\', mark] →
      Printable.isPrintable d = true := by
    intro mark hmark hd
    rcases List.mem_cons.mp hd with rfl | hd
    · exact Printable.isPrintable_of_isKey (by decide)
    · rwa [List.mem_singleton.mp hd]
  rw [quoted] at h
  split at h
  · rename_i hc
    rcases hc with rfl | rfl
    · exact hmarked c hquote h
    · exact hmarked _ (Printable.isPrintable_of_isKey (by decide)) h
  iterate 3
    split at h
    · exact hmarked _ (Printable.isPrintable_of_isKey (by decide)) h
  split at h
  · rename_i hc
    rwa [List.mem_singleton.mp h]
  · exact Printable.isPrintable_of_mem_escape h

/-- A written value hides nothing. -/
theorem isPrintable_of_mem_written {value : Foreign} {c : Char} (h : c ∈ value.written.toList) :
    Printable.isPrintable c = true := by
  cases value with
  | null => exact Printable.isPrintable_of_mem_keys (by decide) h
  | bool value => cases value <;> exact Printable.isPrintable_of_mem_keys (by decide) h
  | int value =>
    cases value with
    | ofNat n => exact isPrintable_of_mem_toString h
    | negSucc n =>
      rcases List.mem_append.mp (String.toList_append ▸ h) with h | h
      · exact Printable.isPrintable_of_mem_keys (by decide) h
      · exact isPrintable_of_mem_toString h
  | text value =>
    have hquote : Printable.isPrintable (quoteFor value.toList) = true := by
      rw [quoteFor]
      split <;> exact Printable.isPrintable_of_isKey (by decide)
    rw [written, String.toList_ofList] at h
    rcases List.mem_append.mp h with h | h
    · rcases List.mem_cons.mp h with rfl | h
      · exact hquote
      · obtain ⟨d, -, h⟩ := List.mem_flatMap.mp h
        exact isPrintable_of_mem_quoted hquote h
    · rwa [List.mem_singleton.mp h]

theorem isPrintable_of_mem_excerpt {value : Foreign} {c : Char} (h : c ∈ value.excerpt.toList) :
    Printable.isPrintable c = true := by
  rw [excerpt] at h
  split at h
  · exact isPrintable_of_mem_written h
  · rw [String.toList_append, String.toList_ofList] at h
    rcases List.mem_append.mp h with h | h
    · exact isPrintable_of_mem_written (List.mem_of_mem_take h)
    · exact Printable.isPrintable_of_mem_keys (by decide) h

end Foreign

/-! ## Messages of faults -/

namespace Fault

theorem isPrintable_of_mem_message {fault : Fault} {c : Char} (h : c ∈ fault.message.toList) :
    Printable.isPrintable c = true := by
  cases fault with
  | unrecognized value =>
    change c ∈ ("Expected code to be unreachable, but got: " ++ value.excerpt).toList at h
    rcases List.mem_append.mp (String.toList_append ▸ h) with h | h
    · exact Printable.isPrintable_of_mem_keys (by decide +kernel) h
    · exact Foreign.isPrintable_of_mem_excerpt h
  | _ => exact Printable.isPrintable_of_mem_keys (by decide +kernel) h

/-- **The message of a fault is a single line**, whatever value it quotes. -/
theorem unbroken_message (fault : Fault) : LineEnd.Unbroken fault.message.toList :=
  fun _ hc => LineEnd.isEnd_of_isPrintable (isPrintable_of_mem_message hc)

/-- A line end and a blank that is no separator of words. -/
example : (unrecognized (.text "a\u2028b\u00a0'")).message =
    "Expected code to be unreachable, but got: \"a\\u2028b\\xa0'\"" := by decide +kernel

end Fault

end SyntaxReports
