import Mathlib.Tactic.SplitIfs
import ArpaNode.Core.Word
/-! `deserialize_limit` (`core/src/types/config.rs`), the serde visitor behind
`LoggerDescriptor::rolling_file_size`.  A size is a `u64`, a non-negative `i64`, or a string:
decimal digits, then an optional unit `b`, `kb`/`kib`, `mb`/`mib`, `gb`/`gib` or `tb`/`tib` in
any ASCII case, which multiplies them by a power of 1024.  `visitStr_ok_iff` says exactly which
strings are accepted, with which value, and that an accepted value never wraps past
`u64::MAX`.  Strings are lists of characters. -/

namespace ArpaNode.Core

/-! ### Characters and `str` methods -/

/-- `char::is_ascii_digit`: `'0'` to `'9'`. -/
def isAsciiDigit (c : Char) : Bool := 48 ≤ c.toNat && c.toNat ≤ 57

/-- `char::is_whitespace`: the characters of Unicode's `White_Space` property. -/
def isWhitespace (c : Char) : Bool :=
  let n := c.toNat
  (0x9 ≤ n && n ≤ 0xD) || n == 0x20 || n == 0x85 || n == 0xA0 || n == 0x1680 ||
    (0x2000 ≤ n && n ≤ 0x200A) || n == 0x2028 || n == 0x2029 || n == 0x202F ||
    n == 0x205F || n == 0x3000

/-- `str::trim`: the string without its leading and trailing whitespace. -/
def trim (s : List Char) : List Char :=
  ((s.dropWhile isWhitespace).reverse.dropWhile isWhitespace).reverse

/-- `str::eq_ignore_ascii_case`. -/
def eqIgnoreAsciiCase (a b : List Char) : Bool :=
  a.map Char.toLower == b.map Char.toLower

/-- One step of decimal parsing. -/
def digitStep (acc : Nat) (c : Char) : Nat := acc * 10 + (c.toNat - 48)

/-- The value of a string of decimal digits. -/
def decimalValue (ds : List Char) : Nat := ds.foldl digitStep 0

/-! ### `str::parse::<u64>` -/

/-- The digit loop of `u64::from_str`: each step multiplies by 10 and adds the digit, and it
fails on a character that is not a decimal digit or on a value past `u64::MAX`. -/
def parseDigits (acc : Nat) : List Char → Option Nat
  | [] => some acc
  | c :: cs =>
    if isAsciiDigit c then
      (checkedMul acc 10).bind fun m => (checkedAdd m (c.toNat - 48)).bind fun a => parseDigits a cs
    else none

/-- `str::parse::<u64>`: an optional `+`, then decimal digits; a lone sign is an error. -/
def parseU64 : List Char → Option Nat
  | [] => none
  | c :: ds =>
    if (c = '+' ∨ c = '-') ∧ ds = [] then none
    else if c = '+' then parseDigits 0 ds
    else parseDigits 0 (c :: ds)

/-! ### The visitor -/

/-- `serde::de::Unexpected`, for the two kinds the visitor reports. -/
inductive Unexpected where
  | signed (v : Int)
  | str (s : String)
  deriving DecidableEq, Repr

/-- `E::invalid_value(unexpected, expected)`. -/
structure InvalidValue where
  unexpected : Unexpected
  expected : String
  deriving DecidableEq, Repr

/-- The chain of unit tests of `visit_str`: the number scaled by the unit, `None` when the
product overflows, and an error for an unknown unit. -/
def scaleByUnit (number : Nat) (unit : List Char) : Except InvalidValue (Option Nat) :=
  if eqIgnoreAsciiCase unit ['b'] then .ok (some number)
  else if eqIgnoreAsciiCase unit ['k', 'b'] || eqIgnoreAsciiCase unit ['k', 'i', 'b'] then
    .ok (checkedMul number 1024)
  else if eqIgnoreAsciiCase unit ['m', 'b'] || eqIgnoreAsciiCase unit ['m', 'i', 'b'] then
    .ok (checkedMul number (1024 * 1024))
  else if eqIgnoreAsciiCase unit ['g', 'b'] || eqIgnoreAsciiCase unit ['g', 'i', 'b'] then
    .ok (checkedMul number (1024 * 1024 * 1024))
  else if eqIgnoreAsciiCase unit ['t', 'b'] || eqIgnoreAsciiCase unit ['t', 'i', 'b'] then
    .ok (checkedMul number (1024 * 1024 * 1024 * 1024))
  else .error ⟨.str (String.mk unit), "a valid unit"⟩

/-- `visit_str`: split at the first character that is not an ASCII digit, parse the trimmed
digits, and scale them by the trimmed rest when there is one. -/
def visitStr (v : String) : Except InvalidValue Nat :=
  let (number, unit) : List Char × Option (List Char) :=
    match v.toList.findIdx? (fun c => !isAsciiDigit c) with
    | some n => (trim (v.toList.take n), some (trim (v.toList.drop n)))
    | none => (trim v.toList, none)
  match parseU64 number with
  | none => .error ⟨.str (String.mk number), "a number"⟩
  | some number =>
    match unit with
    | none => .ok number
    | some unit =>
      match scaleByUnit number unit with
      | .error e => .error e
      | .ok (some n) => .ok n
      | .ok none => .error ⟨.str v, "a byte size"⟩

/-- The values `deserialize_any` hands the visitor. -/
inductive SizeValue where
  | u64 (v : Nat)
  | i64 (v : Int)
  | str (v : String)

/-- `deserialize_limit`. -/
def deserializeLimit : SizeValue → Except InvalidValue Nat
  | .u64 v => .ok v
  | .i64 v => if v < 0 then .error ⟨.signed v, "a non-negative number"⟩ else .ok v.toNat
  | .str v => visitStr v

/-! ### The digits and the rest of the string -/

theorem isWhitespace_of_isAsciiDigit {c : Char} (h : isAsciiDigit c) : isWhitespace c = false := by
  simp only [isAsciiDigit, Bool.and_eq_true, decide_eq_true_eq] at h
  simp only [isWhitespace, Bool.or_eq_false_iff, Bool.and_eq_false_iff, decide_eq_false_iff_not,
    beq_eq_false_iff_ne]
  omega

theorem dropWhile_whitespace_of_digits {d : List Char} (hd : ∀ c ∈ d, isAsciiDigit c) :
    d.dropWhile isWhitespace = d := by
  cases d with
  | nil => rfl
  | cons c cs =>
    simp [List.dropWhile_cons, isWhitespace_of_isAsciiDigit (hd c (List.mem_cons_self c cs))]

/-- Trimming digits changes nothing. -/
theorem trim_of_digits {d : List Char} (hd : ∀ c ∈ d, isAsciiDigit c) : trim d = d := by
  rw [trim, dropWhile_whitespace_of_digits hd,
    dropWhile_whitespace_of_digits fun c hc => hd c (List.mem_reverse.mp hc), List.reverse_reverse]

/-- The first character that is not a digit ends the digits `d`, if a rest `r` follows them. -/
theorem findIdx_nonDigit {d r : List Char} (hd : ∀ c ∈ d, isAsciiDigit c)
    (hr : ∀ c ∈ r.head?, isAsciiDigit c = false) :
    (d ++ r).findIdx? (fun c => !isAsciiDigit c) = if r = [] then none else some d.length := by
  induction d with
  | nil =>
    cases r with
    | nil => rfl
    | cons c cs => simp [hr c rfl]
  | cons c cs ih =>
    rw [List.cons_append, List.findIdx?_cons, List.findIdx?_succ,
      ih fun x hx => hd x (List.mem_cons_of_mem c hx)]
    by_cases h : r = [] <;> simp [h, hd c (List.mem_cons_self c cs)]

/-! ### Parsing the digits -/

theorem le_foldl_digitStep (acc : Nat) : ∀ ds : List Char, acc ≤ ds.foldl digitStep acc
  | [] => Nat.le_refl acc
  | c :: cs => Nat.le_trans (by simp only [digitStep]; omega) (le_foldl_digitStep _ cs)

/-- The digit loop returns the decimal value exactly when no step passes `u64::MAX`, that is,
when the final value does not. -/
theorem parseDigits_eq_some {ds : List Char} (hd : ∀ c ∈ ds, isAsciiDigit c) {acc n : Nat}
    (hacc : acc ≤ u64Max) :
    parseDigits acc ds = some n ↔
      ds.foldl digitStep acc ≤ u64Max ∧ ds.foldl digitStep acc = n := by
  induction ds generalizing acc with
  | nil => simp [parseDigits, hacc]
  | cons c cs ih =>
    have hc : isAsciiDigit c := hd c (List.mem_cons_self c cs)
    have hle := le_foldl_digitStep (digitStep acc c) cs
    simp only [digitStep] at hle
    by_cases h1 : acc * 10 ≤ u64Max
    · by_cases h2 : acc * 10 + (c.toNat - 48) ≤ u64Max
      · simp only [parseDigits, hc, if_true, checkedMul, checkedAdd, h1, h2, Option.some_bind,
          List.foldl_cons]
        exact ih (fun x hx => hd x (List.mem_cons_of_mem c hx)) h2
      · simp [parseDigits, hc, checkedMul, checkedAdd, h1, h2, digitStep]
        omega
    · simp [parseDigits, hc, checkedMul, h1, digitStep]
      omega

/-- On digits, `parse::<u64>` returns their value when there is at least one and the value fits
in a `u64`. -/
theorem parseU64_of_digits {d : List Char} (hd : ∀ c ∈ d, isAsciiDigit c) {n : Nat} :
    parseU64 d = some n ↔ d ≠ [] ∧ decimalValue d ≤ u64Max ∧ decimalValue d = n := by
  cases d with
  | nil => simp [parseU64]
  | cons c cs =>
    have hc := hd c (List.mem_cons_self c cs)
    have hplus : c ≠ '+' := by rintro rfl; simp [isAsciiDigit] at hc
    have hminus : c ≠ '-' := by rintro rfl; simp [isAsciiDigit] at hc
    simp only [parseU64, hplus, hminus, or_self, false_and, if_false, ne_eq, reduceCtorEq,
      not_false_eq_true, true_and, decimalValue]
    exact parseDigits_eq_some hd (Nat.zero_le _)

/-! ### Units -/

/-- The units a size may carry, with their multipliers. -/
def byteUnits : List (List Char × Nat) :=
  [(['b'], 1), (['k', 'b'], 2 ^ 10), (['k', 'i', 'b'], 2 ^ 10), (['m', 'b'], 2 ^ 20),
    (['m', 'i', 'b'], 2 ^ 20), (['g', 'b'], 2 ^ 30), (['g', 'i', 'b'], 2 ^ 30),
    (['t', 'b'], 2 ^ 40), (['t', 'i', 'b'], 2 ^ 40)]

/-- The unit chain scales a `u64` exactly by the multiplier of a unit of `byteUnits` that the
unit equals up to ASCII case, when the product fits in a `u64`. -/
theorem scaleByUnit_ok_some {k n : Nat} {u : List Char} (hk : k ≤ u64Max) :
    scaleByUnit k u = .ok (some n) ↔
      ∃ w m, (w, m) ∈ byteUnits ∧ eqIgnoreAsciiCase u w ∧ k * m ≤ u64Max ∧
        k * m = n := by
  have hb : Char.toLower 'b' = 'b' := by decide
  have hk' : Char.toLower 'k' = 'k' := by decide
  have hi : Char.toLower 'i' = 'i' := by decide
  have hm : Char.toLower 'm' = 'm' := by decide
  have hg : Char.toLower 'g' = 'g' := by decide
  have ht : Char.toLower 't' = 't' := by decide
  simp only [byteUnits, List.mem_cons, List.not_mem_nil, or_false, Prod.mk.injEq, or_and_right,
    exists_or, and_assoc, exists_and_left, exists_eq_left]
  simp only [scaleByUnit, eqIgnoreAsciiCase, List.map_cons, List.map_nil, hb, hk', hi, hm, hg, ht,
    Bool.or_eq_true, beq_iff_eq]
  generalize u.map Char.toLower = w
  by_cases h1 : w = ['b']
  · simp_all
  rw [if_neg h1]
  by_cases h2 : w = ['k', 'b'] ∨ w = ['k', 'i', 'b']
  · rcases h2 with h | h <;> simp_all
  rw [if_neg h2]
  by_cases h3 : w = ['m', 'b'] ∨ w = ['m', 'i', 'b']
  · rcases h3 with h | h <;> simp_all
  rw [if_neg h3]
  by_cases h4 : w = ['g', 'b'] ∨ w = ['g', 'i', 'b']
  · rcases h4 with h | h <;> simp_all
  rw [if_neg h4]
  by_cases h5 : w = ['t', 'b'] ∨ w = ['t', 'i', 'b']
  · rcases h5 with h | h <;> simp_all
  rw [if_neg h5]
  simp_all

/-! ### `visit_str` -/

/-- With the string split into its leading digits `d` and the rest `r`, `visit_str` accepts
exactly when the digits parse and either nothing follows them or the trimmed rest scales them
without overflow. -/
theorem visitStr_ok_of_split {v : String} {d r : List Char} (hv : v.toList = d ++ r)
    (hd : ∀ c ∈ d, isAsciiDigit c) (hr : ∀ c ∈ r.head?, isAsciiDigit c = false) {n : Nat} :
    visitStr v = .ok n ↔ ∃ k, parseU64 d = some k ∧
      (r = [] ∧ k = n ∨ r ≠ [] ∧ scaleByUnit k (trim r) = .ok (some n)) := by
  unfold visitStr
  rw [hv, findIdx_nonDigit hd hr]
  by_cases h0 : r = []
  · subst h0
    simp only [if_true, List.append_nil, trim_of_digits hd]
    cases parseU64 d <;> simp
  · simp only [h0, if_false, List.take_left, List.drop_left, trim_of_digits hd]
    cases parseU64 d with
    | none => simp
    | some k =>
      cases hs : scaleByUnit k (trim r) with
      | error e => simp [h0, hs]
      | ok o => cases o <;> simp [h0, hs]

/-- `visit_str` accepts `v` with value `n` exactly when `v` is a non-empty run of ASCII digits
`d` whose value fits in a `u64`, followed either by nothing, with `n` the value of `d`, or by a
rest `r` that, trimmed, is one of the units up to ASCII case, with `n` the value times the
unit's multiplier and that product within `u64::MAX`.  Every other string is an error. -/
theorem visitStr_ok_iff (v : String) (n : Nat) :
    visitStr v = .ok n ↔
      ∃ d r, v.toList = d ++ r ∧ d ≠ [] ∧ (∀ c ∈ d, isAsciiDigit c) ∧
        (∀ c ∈ r.head?, isAsciiDigit c = false) ∧ decimalValue d ≤ u64Max ∧
        (r = [] ∧ decimalValue d = n ∨
          ∃ u m, (u, m) ∈ byteUnits ∧ eqIgnoreAsciiCase (trim r) u ∧
            decimalValue d * m ≤ u64Max ∧ decimalValue d * m = n) := by
  constructor
  · intro h
    have hv := (List.takeWhile_append_dropWhile isAsciiDigit v.toList).symm
    have hd : ∀ c ∈ v.toList.takeWhile isAsciiDigit, isAsciiDigit c :=
      List.all_eq_true.mp List.all_takeWhile
    have hr : ∀ c ∈ (v.toList.dropWhile isAsciiDigit).head?, isAsciiDigit c = false := by
      intro c hc
      have h := List.head?_dropWhile_not isAsciiDigit v.toList
      rw [Option.mem_def.mp hc] at h
      exact h
    obtain ⟨k, hk, hrest⟩ := (visitStr_ok_of_split hv hd hr).mp h
    obtain ⟨hne, hle, rfl⟩ := (parseU64_of_digits hd).mp hk
    refine ⟨_, _, hv, hne, hd, hr, hle, ?_⟩
    rcases hrest with ⟨h0, rfl⟩ | ⟨-, hs⟩
    · exact .inl ⟨h0, rfl⟩
    · exact .inr ((scaleByUnit_ok_some hle).mp hs)
  · rintro ⟨d, r, hv, hne, hd, hr, hle, hrest⟩
    refine (visitStr_ok_of_split hv hd hr).mpr
      ⟨_, (parseU64_of_digits hd).mpr ⟨hne, hle, rfl⟩, ?_⟩
    rcases hrest with ⟨h0, rfl⟩ | hs
    · exact .inl ⟨h0, rfl⟩
    · refine .inr ⟨?_, (scaleByUnit_ok_some hle).mpr hs⟩
      rintro rfl
      obtain ⟨u, m, hu, heq, -⟩ := hs
      simp only [byteUnits, List.mem_cons, Prod.mk.injEq, List.not_mem_nil, or_false] at hu
      rcases hu with ⟨rfl, -⟩ | ⟨rfl, -⟩ | ⟨rfl, -⟩ | ⟨rfl, -⟩ | ⟨rfl, -⟩ | ⟨rfl, -⟩ | ⟨rfl, -⟩ |
        ⟨rfl, -⟩ | ⟨rfl, -⟩ <;> simp [trim, eqIgnoreAsciiCase] at heq

end ArpaNode.Core
