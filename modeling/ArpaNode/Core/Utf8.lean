import Mathlib.Tactic.SplitIfs
import ArpaNode.Core.Word
/-! UTF-8 as the committer server checks it with `String::from_utf8`.  The validation is
`core::str::from_utf8`'s (`run_utf8_validation`), taken one byte at a time: each character's
first byte fixes how many bytes follow and the range of the next one, and the error gives the
length of the valid prefix and of the invalid sequence, or none when the bytes end inside a
character.

A Rust `String` is its bytes, which are valid UTF-8; `RustString` carries that as a field, so
that two strings are equal exactly when their bytes are, as in Rust.  `from_utf8` keeps the
bytes it is given: it succeeds with them or fails, and succeeds on every string's bytes.

The scan accepts exactly the sequences of the table of well-formed byte sequences (`Utf8Char`),
and its error is `Utf8Error`'s documented one: `valid_up_to` is the length of the longest valid
prefix, and `error_len`, when present, one to three bytes.  Lean's own encoder
(`String.utf8EncodeChar`) produces only such sequences, so every string's bytes are accepted. -/

namespace ArpaNode.Core

/-- `Utf8Error`: the length of the valid prefix, and of the invalid sequence after it (`None`
when the input ends inside a character). -/
structure Utf8Error where
  validUpTo : Nat
  errorLen : Option Nat
  deriving DecidableEq, Repr

/-- Where validation stands: between characters, or inside the character that starts at
`start`, `read` of its bytes read and `left` to come, the next one in `lo..=hi`. -/
inductive Utf8Scan where
  | boundary
  | inside (start read left lo hi : Nat)
  deriving DecidableEq, Repr

/-- A first byte that is not ASCII: how many bytes follow it and the range of the next one
(`utf8_char_width` and the match on the first two bytes); `none` for a byte no character
starts with. -/
def leadByte (b : UInt8) : Option (Nat × Nat × Nat) :=
  let n := b.toNat
  if 0xC2 ≤ n ∧ n ≤ 0xDF then some (1, 0x80, 0xBF)
  else if n = 0xE0 then some (2, 0xA0, 0xBF)
  else if 0xE1 ≤ n ∧ n ≤ 0xEC then some (2, 0x80, 0xBF)
  else if n = 0xED then some (2, 0x80, 0x9F)
  else if 0xEE ≤ n ∧ n ≤ 0xEF then some (2, 0x80, 0xBF)
  else if n = 0xF0 then some (3, 0x90, 0xBF)
  else if 0xF1 ≤ n ∧ n ≤ 0xF3 then some (3, 0x80, 0xBF)
  else if n = 0xF4 then some (3, 0x80, 0x8F)
  else none

/-- Validation of the byte `b` at index `i`. -/
def scanByte (i : Nat) (b : UInt8) : Utf8Scan → Except Utf8Error Utf8Scan
  | .boundary =>
    if b.toNat < 0x80 then .ok .boundary
    else match leadByte b with
      | some (left, lo, hi) => .ok (.inside i 1 left lo hi)
      | none => .error ⟨i, some 1⟩
  | .inside start read left lo hi =>
    if lo ≤ b.toNat ∧ b.toNat ≤ hi then
      .ok (if left = 1 then .boundary else .inside start (read + 1) (left - 1) 0x80 0xBF)
    else .error ⟨start, some read⟩

/-- Validation of the bytes from index `i` on. -/
def scanFrom (i : Nat) : Utf8Scan → List UInt8 → Except Utf8Error Unit
  | .boundary, [] => .ok ()
  | .inside start _ _ _ _, [] => .error ⟨start, none⟩
  | st, b :: bs => (scanByte i b st).bind fun st' => scanFrom (i + 1) st' bs

theorem scanFrom_cons (i : Nat) (st : Utf8Scan) (b : UInt8) (bs : List UInt8) :
    scanFrom i st (b :: bs) = (scanByte i b st).bind fun st' => scanFrom (i + 1) st' bs := by
  cases st <;> rfl

/-- `run_utf8_validation`. -/
def runUtf8Validation (v : List UInt8) : Except Utf8Error Unit :=
  scanFrom 0 .boundary v

/-- A Rust `String`: its bytes, which are valid UTF-8. -/
@[ext] structure RustString where
  vec : List UInt8
  valid : (runUtf8Validation vec).toBool = true

instance : DecidableEq RustString := fun s t =>
  decidable_of_iff (s.vec = t.vec) ⟨RustString.ext, congrArg RustString.vec⟩

/-- `FromUtf8Error`: the bytes given back, and why they are not UTF-8. -/
structure FromUtf8Error where
  bytes : List UInt8
  utf8Error : Utf8Error
  deriving DecidableEq, Repr

/-- `String::from_utf8`. -/
def fromUtf8 (vec : List UInt8) : Except FromUtf8Error RustString :=
  match h : runUtf8Validation vec with
  | .ok () => .ok ⟨vec, by rw [h]; rfl⟩
  | .error e => .error ⟨vec, e⟩

theorem fromUtf8_vec {vec : List UInt8} {s : RustString} (h : fromUtf8 vec = .ok s) :
    s.vec = vec := by
  unfold fromUtf8 at h
  split at h
  · cases h
    rfl
  · cases h

theorem fromUtf8_self (s : RustString) : fromUtf8 s.vec = .ok s := by
  have hv := s.valid
  unfold fromUtf8
  split
  · rfl
  · rename_i h
    rw [h] at hv
    cases hv

/-- A continuation byte, `0x80..=0xBF`. -/
def IsTail (b : UInt8) : Prop := 0x80 ≤ b.toNat ∧ b.toNat ≤ 0xBF

/-- The well-formed UTF-8 encodings of one character, one constructor per row of the table of
well-formed byte sequences, with the range of each byte. -/
inductive Utf8Char : List UInt8 → Prop where
  | one {a : UInt8} : a.toNat ≤ 0x7F → Utf8Char [a]
  | two {a b : UInt8} : 0xC2 ≤ a.toNat → a.toNat ≤ 0xDF → IsTail b → Utf8Char [a, b]
  | e0 {a b c : UInt8} : a.toNat = 0xE0 → 0xA0 ≤ b.toNat → b.toNat ≤ 0xBF → IsTail c →
      Utf8Char [a, b, c]
  | e1ec {a b c : UInt8} : 0xE1 ≤ a.toNat → a.toNat ≤ 0xEC → IsTail b → IsTail c →
      Utf8Char [a, b, c]
  | ed {a b c : UInt8} : a.toNat = 0xED → 0x80 ≤ b.toNat → b.toNat ≤ 0x9F → IsTail c →
      Utf8Char [a, b, c]
  | eeef {a b c : UInt8} : 0xEE ≤ a.toNat → a.toNat ≤ 0xEF → IsTail b → IsTail c →
      Utf8Char [a, b, c]
  | f0 {a b c d : UInt8} : a.toNat = 0xF0 → 0x90 ≤ b.toNat → b.toNat ≤ 0xBF → IsTail c →
      IsTail d → Utf8Char [a, b, c, d]
  | f1f3 {a b c d : UInt8} : 0xF1 ≤ a.toNat → a.toNat ≤ 0xF3 → IsTail b → IsTail c →
      IsTail d → Utf8Char [a, b, c, d]
  | f4 {a b c d : UInt8} : a.toNat = 0xF4 → 0x80 ≤ b.toNat → b.toNat ≤ 0x8F → IsTail c →
      IsTail d → Utf8Char [a, b, c, d]

/-- Sequences of well-formed characters. -/
inductive Utf8Octets : List UInt8 → Prop where
  | nil : Utf8Octets []
  | cons {c rest : List UInt8} : Utf8Char c → Utf8Octets rest → Utf8Octets (c ++ rest)

/-- `n` continuation bytes, then well-formed characters. -/
def TailsThen : Nat → List UInt8 → Prop
  | 0, l => Utf8Octets l
  | n + 1, l => ∃ c r, l = c :: r ∧ IsTail c ∧ TailsThen n r

/-- The bytes on which validation, from a state, succeeds. -/
def ScanLang : Utf8Scan → List UInt8 → Prop
  | .boundary, l => Utf8Octets l
  | .inside _ _ left lo hi, l =>
    0 < left ∧ ∃ c r, l = c :: r ∧ lo ≤ c.toNat ∧ c.toNat ≤ hi ∧ TailsThen (left - 1) r

/-- Which row of the table a first byte that `leadByte` accepts is in. -/
theorem leadByte_cases {b : UInt8} {left lo hi : Nat} (h : leadByte b = some (left, lo, hi)) :
    0xC2 ≤ b.toNat ∧ b.toNat ≤ 0xDF ∧ left = 1 ∧ lo = 0x80 ∧ hi = 0xBF ∨
      b.toNat = 0xE0 ∧ left = 2 ∧ lo = 0xA0 ∧ hi = 0xBF ∨
      0xE1 ≤ b.toNat ∧ b.toNat ≤ 0xEC ∧ left = 2 ∧ lo = 0x80 ∧ hi = 0xBF ∨
      b.toNat = 0xED ∧ left = 2 ∧ lo = 0x80 ∧ hi = 0x9F ∨
      0xEE ≤ b.toNat ∧ b.toNat ≤ 0xEF ∧ left = 2 ∧ lo = 0x80 ∧ hi = 0xBF ∨
      b.toNat = 0xF0 ∧ left = 3 ∧ lo = 0x90 ∧ hi = 0xBF ∨
      0xF1 ≤ b.toNat ∧ b.toNat ≤ 0xF3 ∧ left = 3 ∧ lo = 0x80 ∧ hi = 0xBF ∨
      b.toNat = 0xF4 ∧ left = 3 ∧ lo = 0x80 ∧ hi = 0x8F := by
  dsimp only [leadByte] at h
  simp only [ite_eq_iff, Option.some.injEq, Prod.mk.injEq, reduceCtorEq, and_false, or_false] at h
  rcases h with ⟨h, rfl, rfl, rfl⟩ | ⟨-, ⟨h, rfl, rfl, rfl⟩ | ⟨-, ⟨h, rfl, rfl, rfl⟩ |
    ⟨-, ⟨h, rfl, rfl, rfl⟩ | ⟨-, ⟨h, rfl, rfl, rfl⟩ | ⟨-, ⟨h, rfl, rfl, rfl⟩ |
    ⟨-, ⟨h, rfl, rfl, rfl⟩ | ⟨-, h, rfl, rfl, rfl⟩⟩⟩⟩⟩⟩⟩ <;> simp [h]

/-- A first byte of a character, read at a boundary, opens that character. -/
theorem scanByte_lead {i : Nat} {b : UInt8} {left lo hi : Nat}
    (h : leadByte b = some (left, lo, hi)) :
    scanByte i b .boundary = .ok (.inside i 1 left lo hi) := by
  have h80 : ¬b.toNat < 0x80 := by
    have := leadByte_cases h
    omega
  simp only [scanByte, if_neg h80, h]

/-- Well-formed sequences that start with the byte `b`: what validation from a character
boundary asks after `b`. -/
theorem octets_cons (i : Nat) (b : UInt8) (l : List UInt8) :
    Utf8Octets (b :: l) ↔ ∃ st, scanByte i b .boundary = .ok st ∧ ScanLang st l := by
  constructor
  · intro h
    generalize hbl : b :: l = xs at h
    cases h with
    | nil => cases hbl
    | cons hc hr =>
      cases hc with
      | one ha =>
        obtain ⟨rfl, rfl⟩ := List.cons.inj hbl
        exact ⟨.boundary, by simp [scanByte, show b.toNat < 0x80 by omega], hr⟩
      | two ha ha' hb =>
        obtain ⟨rfl, rfl⟩ := List.cons.inj hbl
        have hl : leadByte b = some (1, 0x80, 0xBF) := by
          dsimp only [leadByte]
          rw [if_pos ⟨ha, ha'⟩]
        exact ⟨_, scanByte_lead hl, by decide, _, _, rfl, hb.1, hb.2, hr⟩
      | e0 ha hb hb' hc =>
        obtain ⟨rfl, rfl⟩ := List.cons.inj hbl
        have hl : leadByte b = some (2, 0xA0, 0xBF) := by
          dsimp only [leadByte]
          rw [if_neg (by omega), if_pos ha]
        exact ⟨_, scanByte_lead hl, by decide, _, _, rfl, hb, hb', _, _, rfl, hc, hr⟩
      | e1ec ha ha' hb hc =>
        obtain ⟨rfl, rfl⟩ := List.cons.inj hbl
        have hl : leadByte b = some (2, 0x80, 0xBF) := by
          dsimp only [leadByte]
          rw [if_neg (by omega), if_neg (by omega), if_pos ⟨ha, ha'⟩]
        exact ⟨_, scanByte_lead hl, by decide, _, _, rfl, hb.1, hb.2, _, _, rfl, hc, hr⟩
      | ed ha hb hb' hc =>
        obtain ⟨rfl, rfl⟩ := List.cons.inj hbl
        have hl : leadByte b = some (2, 0x80, 0x9F) := by
          dsimp only [leadByte]
          rw [if_neg (by omega), if_neg (by omega), if_neg (by omega), if_pos ha]
        exact ⟨_, scanByte_lead hl, by decide, _, _, rfl, hb, hb', _, _, rfl, hc, hr⟩
      | eeef ha ha' hb hc =>
        obtain ⟨rfl, rfl⟩ := List.cons.inj hbl
        have hl : leadByte b = some (2, 0x80, 0xBF) := by
          dsimp only [leadByte]
          rw [if_neg (by omega), if_neg (by omega), if_neg (by omega), if_neg (by omega),
            if_pos ⟨ha, ha'⟩]
        exact ⟨_, scanByte_lead hl, by decide, _, _, rfl, hb.1, hb.2, _, _, rfl, hc, hr⟩
      | f0 ha hb hb' hc hd =>
        obtain ⟨rfl, rfl⟩ := List.cons.inj hbl
        have hl : leadByte b = some (3, 0x90, 0xBF) := by
          dsimp only [leadByte]
          rw [if_neg (by omega), if_neg (by omega), if_neg (by omega), if_neg (by omega),
            if_neg (by omega), if_pos ha]
        exact ⟨_, scanByte_lead hl, by decide, _, _, rfl, hb, hb', _, _, rfl, hc, _, _, rfl, hd,
          hr⟩
      | f1f3 ha ha' hb hc hd =>
        obtain ⟨rfl, rfl⟩ := List.cons.inj hbl
        have hl : leadByte b = some (3, 0x80, 0xBF) := by
          dsimp only [leadByte]
          rw [if_neg (by omega), if_neg (by omega), if_neg (by omega), if_neg (by omega),
            if_neg (by omega), if_neg (by omega), if_pos ⟨ha, ha'⟩]
        exact ⟨_, scanByte_lead hl, by decide, _, _, rfl, hb.1, hb.2, _, _, rfl, hc, _, _, rfl,
          hd, hr⟩
      | f4 ha hb hb' hc hd =>
        obtain ⟨rfl, rfl⟩ := List.cons.inj hbl
        have hl : leadByte b = some (3, 0x80, 0x8F) := by
          dsimp only [leadByte]
          rw [if_neg (by omega), if_neg (by omega), if_neg (by omega), if_neg (by omega),
            if_neg (by omega), if_neg (by omega), if_neg (by omega), if_pos ha]
        exact ⟨_, scanByte_lead hl, by decide, _, _, rfl, hb, hb', _, _, rfl, hc, _, _, rfl, hd,
          hr⟩
  · rintro ⟨st, hst, hl⟩
    simp only [scanByte] at hst
    split_ifs at hst with h80
    · cases hst
      exact Utf8Octets.cons (c := [b]) (.one (by omega)) hl
    split at hst
    · next left lo hi hlead =>
      cases hst
      obtain ⟨-, c, r, rfl, hlo, hhi, ht⟩ := hl
      rcases leadByte_cases hlead with ⟨h1, h1', rfl, rfl, rfl⟩ | ⟨h2, rfl, rfl, rfl⟩ |
          ⟨h3, h3', rfl, rfl, rfl⟩ | ⟨h4, rfl, rfl, rfl⟩ | ⟨h5, h5', rfl, rfl, rfl⟩ |
          ⟨h6, rfl, rfl, rfl⟩ | ⟨h7, h7', rfl, rfl, rfl⟩ | ⟨h8, rfl, rfl, rfl⟩
      · exact Utf8Octets.cons (c := [b, c]) (.two h1 h1' ⟨hlo, hhi⟩) ht
      · obtain ⟨d, r, rfl, hd, ht⟩ := ht
        exact Utf8Octets.cons (c := [b, c, d]) (.e0 h2 hlo hhi hd) ht
      · obtain ⟨d, r, rfl, hd, ht⟩ := ht
        exact Utf8Octets.cons (c := [b, c, d]) (.e1ec h3 h3' ⟨hlo, hhi⟩ hd) ht
      · obtain ⟨d, r, rfl, hd, ht⟩ := ht
        exact Utf8Octets.cons (c := [b, c, d]) (.ed h4 hlo hhi hd) ht
      · obtain ⟨d, r, rfl, hd, ht⟩ := ht
        exact Utf8Octets.cons (c := [b, c, d]) (.eeef h5 h5' ⟨hlo, hhi⟩ hd) ht
      · obtain ⟨d, r, rfl, hd, e, r, rfl, he, ht⟩ := ht
        exact Utf8Octets.cons (c := [b, c, d, e]) (.f0 h6 hlo hhi hd he) ht
      · obtain ⟨d, r, rfl, hd, e, r, rfl, he, ht⟩ := ht
        exact Utf8Octets.cons (c := [b, c, d, e]) (.f1f3 h7 h7' ⟨hlo, hhi⟩ hd he) ht
      · obtain ⟨d, r, rfl, hd, e, r, rfl, he, ht⟩ := ht
        exact Utf8Octets.cons (c := [b, c, d, e]) (.f4 h8 hlo hhi hd he) ht
    · cases hst

/-- Validation of one byte, from any state, takes it to a state from which the rest of a
sequence is accepted exactly when the sequence is accepted. -/
theorem scanLang_cons (i : Nat) (st : Utf8Scan) (b : UInt8) (l : List UInt8) :
    ScanLang st (b :: l) ↔ ∃ st', scanByte i b st = .ok st' ∧ ScanLang st' l := by
  cases st with
  | boundary => exact octets_cons i b l
  | inside start read left lo hi =>
    simp only [ScanLang, scanByte, List.cons.injEq]
    constructor
    · rintro ⟨hpos, c, r, ⟨rfl, rfl⟩, hlo, hhi, ht⟩
      refine ⟨_, if_pos ⟨hlo, hhi⟩, ?_⟩
      match left, hpos, ht with
      | 1, _, ht => exact ht
      | n + 2, _, ⟨c, r, hl, hc, ht⟩ => exact ⟨by omega, c, r, hl, hc.1, hc.2, ht⟩
    · rintro ⟨st', hst, hl⟩
      split_ifs at hst with hr h1 <;> cases hst
      · subst h1
        exact ⟨Nat.one_pos, b, l, ⟨rfl, rfl⟩, hr.1, hr.2, hl⟩
      · obtain ⟨hpos, c, r, hlr, hlo, hhi, ht⟩ := hl
        obtain ⟨n, rfl⟩ : ∃ n, left = n + 2 := ⟨left - 2, by omega⟩
        exact ⟨by omega, b, l, ⟨rfl, rfl⟩, hr.1, hr.2, c, r, hlr, ⟨hlo, hhi⟩, ht⟩

/-- Validation from a state succeeds exactly on the bytes that state's language holds. -/
theorem scanFrom_ok_iff (i : Nat) (st : Utf8Scan) (l : List UInt8) :
    (scanFrom i st l).toBool = true ↔ ScanLang st l := by
  induction l generalizing i st with
  | nil =>
    cases st
    · simp [scanFrom, ScanLang, Except.toBool, Utf8Octets.nil]
    · simp [scanFrom, ScanLang, Except.toBool]
  | cons b l ih =>
    rw [scanLang_cons i, scanFrom_cons]
    cases scanByte i b st with
    | error e => simp [Except.toBool, Except.bind]
    | ok st' => simp [Except.bind, ih]

/-- `String::from_utf8` accepts exactly the well-formed UTF-8 sequences. -/
theorem fromUtf8_ok_iff (v : List UInt8) : (∃ s, fromUtf8 v = .ok s) ↔ Utf8Octets v := by
  refine Iff.trans ?_ (scanFrom_ok_iff 0 .boundary v)
  constructor
  · rintro ⟨s, hs⟩
    have hv := s.valid
    rwa [fromUtf8_vec hs] at hv
  · intro h
    exact ⟨⟨v, h⟩, fromUtf8_self ⟨v, h⟩⟩

/-! ### The error -/

/-- Where the character being validated started; between characters, the index itself. -/
def Utf8Scan.start (i : Nat) : Utf8Scan → Nat
  | .boundary => i
  | .inside start _ _ _ _ => start

/-- What holds of a validation state at index `i`: the character it is inside started `read`
bytes before `i`, with one to three of its bytes read and at most four in all. -/
def Utf8Scan.Valid (i : Nat) : Utf8Scan → Prop
  | .boundary => True
  | .inside start read left _ _ => start + read = i ∧ 1 ≤ read ∧ read + left ≤ 4 ∧ 0 < left

theorem Utf8Scan.start_le {i : Nat} {st : Utf8Scan} (hv : st.Valid i) : st.start i ≤ i := by
  cases st with
  | boundary => exact le_rfl
  | inside start read left lo hi =>
    obtain ⟨hs, -⟩ := hv
    exact hs ▸ Nat.le_add_right start read

/-- One byte keeps the invariant, and either ends the character or keeps where it started. -/
theorem Utf8Scan.Valid.step {i : Nat} {b : UInt8} {st st' : Utf8Scan} (hv : st.Valid i)
    (h : scanByte i b st = .ok st') :
    st'.Valid (i + 1) ∧ (st' = .boundary ∨ st'.start (i + 1) = st.start i) := by
  cases st with
  | boundary =>
    simp only [scanByte] at h
    split_ifs at h
    · cases h
      exact ⟨trivial, .inl rfl⟩
    split at h
    · next left lo hi hl =>
      cases h
      have hleft : 1 ≤ left ∧ left ≤ 3 := by
        have := leadByte_cases hl
        omega
      exact ⟨⟨rfl, le_rfl, by omega, hleft.1⟩, .inr rfl⟩
    · cases h
  | inside start read left lo hi =>
    obtain ⟨hs, hr, hl, hpos⟩ := hv
    simp only [scanByte] at h
    split_ifs at h with hb h1 <;> cases h
    · exact ⟨trivial, .inl rfl⟩
    · exact ⟨⟨by omega, by omega, by omega, by omega⟩, .inr rfl⟩

/-- A byte that fails reports the start of its character, and one to three bytes. -/
theorem scanByte_error {i : Nat} {b : UInt8} {st : Utf8Scan} {e : Utf8Error} (hv : st.Valid i)
    (h : scanByte i b st = .error e) :
    e.validUpTo = st.start i ∧ ∀ n ∈ e.errorLen, 1 ≤ n ∧ n ≤ 3 := by
  cases st with
  | boundary =>
    simp only [scanByte] at h
    split_ifs at h
    split at h
    · cases h
    · cases h
      exact ⟨rfl, by simp⟩
  | inside start read left lo hi =>
    obtain ⟨-, hr, hl, hpos⟩ := hv
    simp only [scanByte] at h
    split_ifs at h
    cases h
    exact ⟨rfl, by simp only [Option.mem_def, Option.some.injEq]; omega⟩

/-- A failed validation reports a position between the start of the current character and the
end, and one to three bytes when it names an invalid sequence. -/
theorem scanFrom_error_bounds {i : Nat} {st : Utf8Scan} {l : List UInt8} {e : Utf8Error}
    (hv : st.Valid i) (h : scanFrom i st l = .error e) :
    st.start i ≤ e.validUpTo ∧ e.validUpTo ≤ i + l.length ∧ ∀ n ∈ e.errorLen, 1 ≤ n ∧ n ≤ 3 := by
  induction l generalizing i st with
  | nil =>
    cases st with
    | boundary => cases h
    | inside start read left lo hi =>
      cases h
      exact ⟨le_rfl, Utf8Scan.start_le hv, by simp⟩
  | cons b l ih =>
    rw [scanFrom_cons] at h
    cases hb : scanByte i b st with
    | error e' =>
      rw [hb] at h
      cases h
      obtain ⟨he, hlen⟩ := scanByte_error hv hb
      have := Utf8Scan.start_le hv
      exact ⟨Nat.le_of_eq he.symm, by simp only [List.length_cons]; omega, hlen⟩
    | ok st' =>
      rw [hb] at h
      obtain ⟨hv', hst'⟩ := hv.step hb
      obtain ⟨hlo, hhi, hlen⟩ := ih hv' h
      have hstart : st.start i ≤ st'.start (i + 1) := by
        rcases hst' with rfl | heq
        · exact Nat.le_succ_of_le (Utf8Scan.start_le hv)
        · exact Nat.le_of_eq heq.symm
      exact ⟨Nat.le_trans hstart hlo, by simp only [List.length_cons]; omega, hlen⟩

/-- Validation of any prefix longer than the reported valid one fails too. -/
theorem scanFrom_take_error {i : Nat} {st : Utf8Scan} {l : List UInt8} {e : Utf8Error}
    (hv : st.Valid i) (h : scanFrom i st l = .error e) {k : Nat} (hk : e.validUpTo < i + k) :
    (scanFrom i st (l.take k)).toBool = false := by
  induction l generalizing i st k with
  | nil =>
    rw [List.take_nil, h]
    rfl
  | cons b l ih =>
    cases k with
    | zero =>
      cases st with
      | boundary => exact absurd hk (Nat.not_lt.mpr (scanFrom_error_bounds hv h).1)
      | inside => rfl
    | succ k =>
      rw [List.take_succ_cons, scanFrom_cons]
      rw [scanFrom_cons] at h
      cases hb : scanByte i b st with
      | error e' => rfl
      | ok st' =>
        rw [hb] at h
        exact ih (hv.step hb).1 h (by omega)

/-- Validation that fails after the bytes `pre`, from a state whose languages they extend to
well-formed sequences, reports a well-formed prefix of `pre ++ l`. -/
theorem scanFrom_error_take_octets {pre : List UInt8} {st : Utf8Scan} {l : List UInt8}
    {e : Utf8Error} (hv : st.Valid pre.length)
    (hlang : ∀ s, ScanLang st s → Utf8Octets (pre ++ s))
    (hstart : Utf8Octets (pre.take (st.start pre.length)))
    (h : scanFrom pre.length st l = .error e) :
    Utf8Octets ((pre ++ l).take e.validUpTo) := by
  induction l generalizing pre st with
  | nil =>
    cases st with
    | boundary => cases h
    | inside start read left lo hi =>
      cases h
      simpa using hstart
  | cons b l ih =>
    rw [scanFrom_cons] at h
    have hle := Utf8Scan.start_le hv
    cases hb : scanByte pre.length b st with
    | error e' =>
      rw [hb] at h
      cases h
      rw [(scanByte_error hv hb).1, List.take_append_of_le_length hle]
      exact hstart
    | ok st' =>
      rw [hb] at h
      obtain ⟨hv', hst'⟩ := hv.step hb
      have hlen : (pre ++ [b]).length = pre.length + 1 := List.length_append _ _
      have hlang' : ∀ s, ScanLang st' s → Utf8Octets (pre ++ [b] ++ s) := fun s hs => by
        simpa using hlang (b :: s) ((scanLang_cons pre.length st b s).mpr ⟨st', hb, hs⟩)
      have hstart' : Utf8Octets ((pre ++ [b]).take (st'.start (pre ++ [b]).length)) := by
        rcases hst' with rfl | heq
        · show Utf8Octets ((pre ++ [b]).take (pre ++ [b]).length)
          rw [List.take_length]
          simpa using hlang' [] .nil
        · rw [hlen, heq, List.take_append_of_le_length hle]
          exact hstart
      simpa using ih (hlen ▸ hv') hlang' hstart' (hlen ▸ h)

theorem fromUtf8_error {vec : List UInt8} {e : FromUtf8Error} (h : fromUtf8 vec = .error e) :
    e.bytes = vec ∧ runUtf8Validation vec = .error e.utf8Error := by
  unfold fromUtf8 at h
  split at h
  · cases h
  · next err herr =>
    cases h
    exact ⟨rfl, herr⟩

/-- `String::from_utf8`'s error gives back the bytes, and as `valid_up_to` the length of the
longest prefix of them that is valid UTF-8; its `error_len`, when present, is 1 to 3. -/
theorem fromUtf8_error_spec {v : List UInt8} {e : FromUtf8Error} (h : fromUtf8 v = .error e) :
    e.bytes = v ∧ e.utf8Error.validUpTo ≤ v.length ∧
      Utf8Octets (v.take e.utf8Error.validUpTo) ∧
      (∀ k, e.utf8Error.validUpTo < k → ¬Utf8Octets (v.take k)) ∧
      ∀ n ∈ e.utf8Error.errorLen, 1 ≤ n ∧ n ≤ 3 := by
  obtain ⟨hb, hr⟩ := fromUtf8_error h
  have hv : Utf8Scan.boundary.Valid 0 := trivial
  obtain ⟨-, hhi, hlen⟩ := scanFrom_error_bounds hv hr
  refine ⟨hb, by simpa using hhi, ?_, fun k hk hu => ?_, hlen⟩
  · simpa using @scanFrom_error_take_octets [] _ _ _ hv (fun _ hs => hs) .nil hr
  · have hok := (scanFrom_ok_iff 0 .boundary (v.take k)).mpr hu
    rw [scanFrom_take_error hv hr (by omega)] at hok
    cases hok

/-! ### Every string's bytes -/

theorem and_mask_or_eq_add (x j q : Nat) :
    (x &&& 2 ^ j - 1) ||| 2 ^ j * q = x % 2 ^ j + 2 ^ j * q := by
  rw [Nat.and_pow_two_sub_one_eq_mod, Nat.or_comm,
    ← Nat.mul_add_lt_is_or (Nat.mod_lt _ (Nat.two_pow_pos j)), Nat.add_comm]

/-- A byte's low `j` bits under the marker `c`, as `utf8EncodeChar` builds each byte. -/
theorem maskOr_toNat (x m c : UInt8) (j q : Nat) (hm : m.toNat = 2 ^ j - 1)
    (hc : c.toNat = 2 ^ j * q) : (x &&& m ||| c).toNat = x.toNat % 2 ^ j + 2 ^ j * q := by
  show (x &&& m).toNat ||| c.toNat = _
  rw [UInt8.and_toNat, hm, hc, and_mask_or_eq_add]

theorem uint32_le_iff_toNat (a b : UInt32) : a ≤ b ↔ a.toNat ≤ b.toNat :=
  Iff.rfl

theorem toUInt8_toNat (v : UInt32) : v.toUInt8.toNat = v.toNat % 256 :=
  BitVec.toNat_ofNat _ _

theorem shiftRight_toNat (v k : UInt32) (hk : k.toNat < 32) :
    (v >>> k).toNat = v.toNat / 2 ^ k.toNat := by
  show (v.toBitVec >>> (k % 32).toNat).toNat = _
  rw [BitVec.toNat_ushiftRight, Nat.shiftRight_eq_div_pow, UInt32.toNat_mod]
  exact congrArg (v.toNat / 2 ^ ·) (Nat.mod_eq_of_lt hk)

/-- Lean's encoding of a character, by the row of the table its scalar value falls in, is one of
the well-formed sequences. -/
theorem utf8Char_utf8EncodeChar (c : Char) : Utf8Char (String.utf8EncodeChar c) := by
  have hvalid : c.val.toNat < 0xD800 ∨ (0xDFFF < c.val.toNat ∧ c.val.toNat < 0x110000) :=
    c.valid
  have tail := fun x : UInt8 => maskOr_toNat x 0x3F 0x80 6 2 rfl rfl
  have lead2 := fun x : UInt8 => maskOr_toNat x 0x1F 0xC0 5 6 rfl rfl
  have lead3 := fun x : UInt8 => maskOr_toNat x 0x0F 0xE0 4 14 rfl rfl
  have lead4 := fun x : UInt8 => maskOr_toNat x 0x07 0xF0 3 30 rfl rfl
  have s6 : ∀ v : UInt32, (v >>> 6).toNat = v.toNat / 64 := fun v =>
    shiftRight_toNat v 6 (by decide)
  have s12 : ∀ v : UInt32, (v >>> 12).toNat = v.toNat / 4096 := fun v =>
    shiftRight_toNat v 12 (by decide)
  have s18 : ∀ v : UInt32, (v >>> 18).toNat = v.toNat / 262144 := fun v =>
    shiftRight_toNat v 18 (by decide)
  have h7f : (0x7F : UInt32).toNat = 0x7F := rfl
  have h7ff : (0x7FF : UInt32).toNat = 0x7FF := rfl
  have hffff : (0xFFFF : UInt32).toNat = 0xFFFF := rfl
  simp only [String.utf8EncodeChar, uint32_le_iff_toNat, h7f, h7ff, hffff]
  split_ifs with h1 h2 h3
  · exact .one (by rw [toUInt8_toNat]; omega)
  · refine .two ?_ ?_ ⟨?_, ?_⟩ <;> simp only [tail, lead2, toUInt8_toNat, s6] <;> omega
  · rcases (by omega : c.val.toNat < 0x1000 ∨ 0x1000 ≤ c.val.toNat ∧ c.val.toNat < 0xD000 ∨
      0xD000 ≤ c.val.toNat ∧ c.val.toNat < 0xE000 ∨ 0xE000 ≤ c.val.toNat) with h | h | h | h
    · refine .e0 ?_ ?_ ?_ ⟨?_, ?_⟩ <;> simp only [tail, lead3, toUInt8_toNat, s6, s12] <;> omega
    · refine .e1ec ?_ ?_ ⟨?_, ?_⟩ ⟨?_, ?_⟩ <;> simp only [tail, lead3, toUInt8_toNat, s6, s12] <;>
        omega
    · refine .ed ?_ ?_ ?_ ⟨?_, ?_⟩ <;> simp only [tail, lead3, toUInt8_toNat, s6, s12] <;> omega
    · refine .eeef ?_ ?_ ⟨?_, ?_⟩ ⟨?_, ?_⟩ <;> simp only [tail, lead3, toUInt8_toNat, s6, s12] <;>
        omega
  · rcases (by omega : c.val.toNat < 0x40000 ∨
      0x40000 ≤ c.val.toNat ∧ c.val.toNat < 0x100000 ∨ 0x100000 ≤ c.val.toNat) with h | h | h
    · refine .f0 ?_ ?_ ?_ ⟨?_, ?_⟩ ⟨?_, ?_⟩ <;>
        simp only [tail, lead4, toUInt8_toNat, s6, s12, s18] <;> omega
    · refine .f1f3 ?_ ?_ ⟨?_, ?_⟩ ⟨?_, ?_⟩ ⟨?_, ?_⟩ <;>
        simp only [tail, lead4, toUInt8_toNat, s6, s12, s18] <;> omega
    · refine .f4 ?_ ?_ ?_ ⟨?_, ?_⟩ ⟨?_, ?_⟩ <;>
        simp only [tail, lead4, toUInt8_toNat, s6, s12, s18] <;> omega

/-- Lean's encoding of a string is well-formed UTF-8. -/
theorem utf8Octets_flatMap_utf8EncodeChar (cs : List Char) :
    Utf8Octets (cs.flatMap String.utf8EncodeChar) := by
  induction cs with
  | nil => exact .nil
  | cons c cs ih => exact .cons (utf8Char_utf8EncodeChar c) ih

theorem fromUtf8_of_octets {v : List UInt8} (h : Utf8Octets v) :
    ∃ s : RustString, fromUtf8 v = .ok s ∧ s.vec = v :=
  let s : RustString := ⟨v, (scanFrom_ok_iff 0 .boundary v).mpr h⟩
  ⟨s, fromUtf8_self s, rfl⟩

/-- `String::from_utf8` accepts the bytes of every string, a sequence of Unicode scalar values
in the standard encoding, and gives them back as the string. -/
theorem fromUtf8_toUTF8 (s : String) :
    ∃ r : RustString, fromUtf8 s.toUTF8.data.toList = .ok r ∧ r.vec = s.toUTF8.data.toList :=
  fromUtf8_of_octets (utf8Octets_flatMap_utf8EncodeChar s.data)

/-- The bytes of `"A€"` cut after the euro sign's second byte. -/
def truncatedEuro : List UInt8 := [0x41, 0xE2, 0x82]

/-- On `"A€"` cut inside the euro sign, `from_utf8` reports the valid prefix `"A"` and no error
length: the input ends inside a character. -/
theorem truncatedEuro_error_spec :
    fromUtf8 truncatedEuro = .error ⟨truncatedEuro, ⟨1, none⟩⟩ ∧
      (truncatedEuro = truncatedEuro ∧ 1 ≤ truncatedEuro.length ∧
        Utf8Octets (truncatedEuro.take 1) ∧
        (∀ k, 1 < k → ¬Utf8Octets (truncatedEuro.take k)) ∧
        ∀ n ∈ (none : Option Nat), 1 ≤ n ∧ n ≤ 3) :=
  ⟨rfl, @fromUtf8_error_spec truncatedEuro ⟨truncatedEuro, ⟨1, none⟩⟩ rfl⟩

end ArpaNode.Core
