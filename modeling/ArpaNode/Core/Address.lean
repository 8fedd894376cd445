import Mathlib.Tactic.Ring
import ArpaNode.Core.Word
/-! Account addresses, `ethers`' `Address` (`H160`), and their parsing from the committer
request's string.  `fixed-hash`'s `FromStr` strips one `0x` and reads twenty bytes with
`rustc-hex`'s `FromHexIter`, which makes a byte of two hexadecimal digits of either case and
skips spaces, tabs, carriage returns and line feeds wherever they stand; anything but those
skipped characters after the twenty bytes is an error.  An address is modelled by the number
its bytes spell.

The parser accepts exactly the strings that are forty hexadecimal digits once the `0x` is
stripped and the skipped characters dropped, and reads their value. -/

namespace ArpaNode.Core

/-- `Address`, by the number its twenty bytes spell, most significant first. -/
structure Address where
  toNat : Nat
  deriving DecidableEq, Repr

/-- Modelled from `rustc-hex`: `FromHexError`, without the byte index of an invalid
character. -/
inductive FromHexError where
  | invalidHexCharacter (c : Char)
  | invalidHexLength
  deriving DecidableEq, Repr

/-- The value of a hexadecimal digit, in either case (`0-9`, `a-f`, `A-F`). -/
def hexDigitValue (c : Char) : Option Nat :=
  let n := c.toNat
  if 48 ≤ n ∧ n ≤ 57 then some (n - 48)
  else if 97 ≤ n ∧ n ≤ 102 then some (n - 87)
  else if 65 ≤ n ∧ n ≤ 70 then some (n - 55)
  else none

/-- Modelled from `rustc-hex`: the bytes `FromHexIter` skips, a space, `\r`, `\n` and `\t`. -/
def isHexSpace (c : Char) : Bool :=
  c == ' ' || c == '\r' || c == '\n' || c == '\t'

/-- Modelled from `rustc-hex`: `FromHexIter::next`, with `modulus` digits of the byte read into
`buf`, and what is left of the input.  A byte is two digits, with the skipped bytes around them
ignored; at the end of the input the iterator is done (`none`), unless one digit was read, which
is `InvalidHexLength`; any other character is `InvalidHexCharacter`. -/
def fromHexNext (modulus buf : Nat) : List Char → Option (Except FromHexError Nat) × List Char
  | [] => (if modulus ≠ 0 then some (.error .invalidHexLength) else none, [])
  | c :: cs =>
    match hexDigitValue c with
    | some d =>
      if modulus + 1 = 2 then (some (.ok (buf * 16 + d)), cs)
      else fromHexNext (modulus + 1) (buf * 16 + d) cs
    | none =>
      if isHexSpace c then fromHexNext modulus buf cs
      else (some (.error (.invalidHexCharacter c)), cs)

/-- Modelled from `fixed-hash`: the loop of `from_str` over the result's `n` bytes,
`*byte = iter.next().ok_or(InvalidHexLength)??`, each byte appended to the value `acc` read so
far; with what is left of the input. -/
def readHexBytes : Nat → List Char → Nat → Except FromHexError (Nat × List Char)
  | 0, cs, acc => .ok (acc, cs)
  | n + 1, cs, acc =>
    match fromHexNext 0 0 cs with
    | (none, _) => .error .invalidHexLength
    | (some (.error e), _) => .error e
    | (some (.ok byte), rest) => readHexBytes n rest (acc * 256 + byte)

/-- `input.strip_prefix("0x").unwrap_or(input)`. -/
def stripHexPrefix : List Char → List Char
  | '0' :: 'x' :: rest => rest
  | cs => cs

/-- Modelled from `fixed-hash`: `from_str` after the `0x` is stripped, which reads twenty bytes
and fails with `InvalidHexLength` if the iterator yields anything more. -/
def addressFromHex (input : List Char) : Except FromHexError Address :=
  match readHexBytes 20 input 0 with
  | .error e => .error e
  | .ok (v, rest) => if (fromHexNext 0 0 rest).1.isSome then .error .invalidHexLength else .ok ⟨v⟩

/-- `<Address as FromStr>::from_str`. -/
def addressFromStr (s : String) : Except FromHexError Address :=
  addressFromHex (stripHexPrefix s.toList)

/-- `req.id_address.parse()`, whose error the committer replaces by its own. -/
def parseAddress (s : String) : Option Address :=
  (addressFromStr s).toOption

/-! ### The skipped characters -/

/-- The characters of `cs` that `FromHexIter` does not skip. -/
def dropHexSpaces (cs : List Char) : List Char :=
  cs.filter fun c => !isHexSpace c

section Iter

variable {m b : Nat} {c : Char}

theorem hexDigitValue_of_isHexSpace (h : isHexSpace c = true) : hexDigitValue c = none := by
  simp only [isHexSpace, Bool.or_eq_true, beq_iff_eq] at h
  rcases h with ((rfl | rfl) | rfl) | rfl <;> decide

theorem fromHexNext_space (h : isHexSpace c = true) (cs : List Char) :
    fromHexNext m b (c :: cs) = fromHexNext m b cs := by
  simp [fromHexNext, hexDigitValue_of_isHexSpace h, h]

/-- `FromHexIter` yields the same from a string as from the characters it does not skip, and
leaves the same characters unskipped. -/
theorem fromHexNext_dropHexSpaces (m b : Nat) (cs : List Char) :
    fromHexNext m b (dropHexSpaces cs) =
      ((fromHexNext m b cs).1, dropHexSpaces (fromHexNext m b cs).2) := by
  induction cs generalizing m b with
  | nil => rfl
  | cons c cs ih =>
    by_cases hs : isHexSpace c = true
    · rw [fromHexNext_space hs, ← ih]
      simp [dropHexSpaces, hs]
    · have hdrop : dropHexSpaces (c :: cs) = c :: dropHexSpaces cs := by simp [dropHexSpaces, hs]
      rw [hdrop]
      cases hd : hexDigitValue c with
      | some d =>
        simp only [fromHexNext, hd]
        split_ifs
        · rfl
        · exact ih _ _
      | none => simp [fromHexNext, hd, hs, hdrop]

/-- Once a digit is read, the iterator yields something: a byte or an error. -/
theorem fromHexNext_isSome (hm : 0 < m) (b : Nat) (cs : List Char) :
    (fromHexNext m b cs).1.isSome := by
  induction cs generalizing m b with
  | nil => simp [fromHexNext, Nat.pos_iff_ne_zero.mp hm]
  | cons c cs ih =>
    unfold fromHexNext
    split
    · split_ifs
      · rfl
      · exact ih (Nat.succ_pos m) _
    · split_ifs
      · exact ih hm b
      · rfl

theorem readHexBytes_dropHexSpaces (n : Nat) (cs : List Char) (acc : Nat) :
    readHexBytes n (dropHexSpaces cs) acc =
      (readHexBytes n cs acc).map (Prod.map id dropHexSpaces) := by
  induction n generalizing cs acc with
  | zero => rfl
  | succ n ih =>
    simp only [readHexBytes, fromHexNext_dropHexSpaces]
    rcases fromHexNext 0 0 cs with ⟨_ | _ | byte, rest⟩
    · rfl
    · rfl
    · exact ih rest _

theorem addressFromHex_dropHexSpaces (cs : List Char) :
    addressFromHex (dropHexSpaces cs) = addressFromHex cs := by
  unfold addressFromHex
  rw [readHexBytes_dropHexSpaces]
  rcases readHexBytes 20 cs 0 with _ | ⟨v, rest⟩
  · rfl
  · simp only [Except.map, Prod.map, id, fromHexNext_dropHexSpaces]

end Iter

/-! ### What the parser accepts -/

/-- The value of a sequence of hexadecimal digits after `acc`, or `none` if one is not a
digit. -/
def hexValue : List Char → Nat → Option Nat
  | [], acc => some acc
  | c :: cs, acc => (hexDigitValue c).bind fun d => hexValue cs (acc * 16 + d)

section Accepted

variable {ds : List Char}

/-- Over characters none of which is skipped, `n` bytes are the first `2 * n` characters, read
as hexadecimal digits after `acc`. -/
theorem readHexBytes_eq_ok (hs : ∀ c ∈ ds, isHexSpace c = false) (n acc v : Nat)
    (rest : List Char) :
    readHexBytes n ds acc = .ok (v, rest) ↔
      2 * n ≤ ds.length ∧ rest = ds.drop (2 * n) ∧ hexValue (ds.take (2 * n)) acc = some v := by
  induction n generalizing ds acc with
  | zero => simp [readHexBytes, hexValue, eq_comm, and_comm]
  | succ n ih =>
    have h2 : 2 * (n + 1) = 2 * n + 1 + 1 := by omega
    match ds, hs with
    | [], _ => simp [readHexBytes, fromHexNext]
    | [c], hs =>
      have hc := hs c (List.mem_singleton_self c)
      cases hd : hexDigitValue c <;> simp [readHexBytes, fromHexNext, hd, hc] <;> omega
    | c₁ :: c₂ :: r, hs =>
      have hc₁ := hs c₁ (List.mem_cons_self _ _)
      have hc₂ := hs c₂ (List.mem_cons_of_mem _ (List.mem_cons_self _ _))
      cases hd₁ : hexDigitValue c₁ with
      | none => simp [readHexBytes, fromHexNext, hd₁, hc₁, h2, hexValue]
      | some d₁ =>
        cases hd₂ : hexDigitValue c₂ with
        | none => simp [readHexBytes, fromHexNext, hd₁, hd₂, hc₂, h2, hexValue]
        | some d₂ =>
          have hacc : acc * 256 + (d₁ * 16 + d₂) = (acc * 16 + d₁) * 16 + d₂ := by ring
          simp [readHexBytes, fromHexNext, hd₁, hd₂, h2, hexValue]
          rw [hacc]
          exact ih (fun c hc => hs c (List.mem_cons_of_mem _ (List.mem_cons_of_mem _ hc))) _

/-- Over characters none of which is skipped, the parser accepts exactly forty hexadecimal
digits and reads their value. -/
theorem addressFromHex_eq_ok (hs : ∀ c ∈ ds, isHexSpace c = false) (a : Address) :
    addressFromHex ds = .ok a ↔ ds.length = 40 ∧ hexValue ds 0 = some a.toNat := by
  unfold addressFromHex
  constructor
  · intro h
    split at h
    · cases h
    · next v rest hread =>
      obtain ⟨hlen, rfl, hv⟩ := (readHexBytes_eq_ok hs 20 0 v rest).mp hread
      split_ifs at h with hmore
      cases h
      have hnil : ds.drop 40 = [] := by
        rcases hr : ds.drop 40 with _ | ⟨c, r⟩
        · rfl
        · have hc := hs c (List.mem_of_mem_drop (hr ▸ List.mem_cons_self c r))
          rw [hr] at hmore
          exact absurd (by
            cases hd : hexDigitValue c <;>
              simp [fromHexNext, hd, hc, fromHexNext_isSome Nat.one_pos]) hmore
      have hle : ds.length ≤ 40 := by simpa using hnil
      exact ⟨by omega, by rwa [List.take_of_length_le hle] at hv⟩
  · rintro ⟨hlen, hv⟩
    have hread : readHexBytes 20 ds 0 = .ok (a.toNat, []) :=
      (readHexBytes_eq_ok hs 20 0 _ _).mpr
        ⟨by omega, by simp [hlen], by rwa [List.take_of_length_le (by omega)]⟩
    rw [hread]
    rfl

end Accepted

/-- The committer accepts an `id_address` exactly when, once one `0x` is stripped and every
space, tab, carriage return and line feed is dropped, it is forty hexadecimal digits of either
case; the address is their value. -/
theorem parseAddress_eq_some_iff (s : String) (a : Address) :
    parseAddress s = some a ↔
      (dropHexSpaces (stripHexPrefix s.toList)).length = 40 ∧
        hexValue (dropHexSpaces (stripHexPrefix s.toList)) 0 = some a.toNat := by
  have hs : ∀ c ∈ dropHexSpaces (stripHexPrefix s.toList), isHexSpace c = false := fun c hc => by
    simpa using (List.mem_filter.mp hc).2
  rw [← addressFromHex_eq_ok hs, addressFromHex_dropHexSpaces, parseAddress, addressFromStr]
  cases addressFromHex (stripHexPrefix s.toList) <;> simp [Except.toOption]

/-- A trailing space is skipped. -/
example : parseAddress "0x0000000000000000000000000000000000000002 " = some ⟨2⟩ := by decide

/-- Only a lower-case `0x` is stripped. -/
example : parseAddress "0X00000000000000000000000000000000000000ab" = none := by decide

end ArpaNode.Core
