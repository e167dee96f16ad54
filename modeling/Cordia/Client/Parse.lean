import Cordia.Client.Health
import Mathlib.Data.List.DropRight
import Mathlib.Algebra.Group.Nat.Basic
/-!
# Splitting, searching and reading integers out of a `str`

This module adds the rest of the Rust `str` API that the modelled code calls to the methods in
`Str`, again over `List Char`: `split(char)`, `strip_prefix`, `find`, and the
`<uN as FromStr>::from_str` that `str::parse` calls for an unsigned type.

`fromStr` accepts exactly an optional `+` followed by a non-empty run of ASCII digits whose value
fits in `N` bits (`fromStr_eq_some_iff`). Anything else is rejected: surrounding whitespace, a `-`,
an empty string and a value past the type's maximum. It reads back every number `Display` writes
(`fromStr_toDigits`). `trim` leaves no whitespace at either end and is idempotent (`trim_trim`).
-/

namespace Cordia.Client.Str

/-- `str::split` with a `char` pattern: the pieces between the separators, empty ones included. -/
def split (s : List Char) (sep : Char) : List (List Char) := s.splitOn sep

/-- `str::strip_prefix` with a string pattern. -/
def stripPrefix (s pat : List Char) : Option (List Char) :=
  if startsWith s pat then some (s.drop pat.length) else none

/-- `str::find` with a string pattern: the index of the first match. -/
def find (s pat : List Char) : Option Nat :=
  if pat.isPrefixOf s then some 0
  else match s with
    | [] => none
    | _ :: cs => (find cs pat).map (· + 1)

/-- `char::to_digit(10)` on a digit. -/
def digitValue (c : Char) : Nat := c.toNat - '0'.toNat

/-- The digit loop of `from_str_radix(src, 10)`: every byte must be a digit, and the running value
is `checked_mul(10)` then `checked_add(digit)`, which fail past `2^w - 1`. The second check
implies the first, so one bound is tested. -/
def parseDigits (w : Nat) : Nat → List Char → Option Nat
  | acc, [] => some acc
  | acc, c :: cs =>
    if c.isDigit ∧ acc * 10 + digitValue c < 2 ^ w then parseDigits w (acc * 10 + digitValue c) cs
    else none

/-- `<uN as FromStr>::from_str`, that is `from_str_radix(src, 10)`, for `N = w`, with the error
dropped as `.ok()` drops it. An empty string is `Empty`; a lone sign is `InvalidDigit`; a leading `+`
is skipped. An unsigned type takes no `-`, so a leading `-` fails as a digit. -/
def fromStr (w : Nat) : List Char → Option Nat
  | [] => none
  | ['+'] | ['-'] => none
  | '+' :: ds => parseDigits w 0 ds
  | ds => parseDigits w 0 ds

/-- The value of a run of decimal digits, stated without the loop. -/
def numeral (ds : List Char) : Nat := ds.foldl (fun a c => a * 10 + digitValue c) 0

/-- What `from_str` reads `s` as, stated without the loop: `n`, when `s` is an optional `+` and
then a non-empty run of ASCII digits of value `n` below `2^w`. -/
abbrev ReadsAs (w : Nat) (s : List Char) (n : Nat) : Prop :=
  ∃ ds, (s = ds ∨ s = '+' :: ds) ∧ ds ≠ [] ∧ (∀ c ∈ ds, c.isDigit) ∧ numeral ds = n ∧ n < 2 ^ w

/-! ## Splitting and stripping -/

theorem not_mem_of_mem_split {s o : List Char} {sep : Char} (h : o ∈ split s sep) : sep ∉ o := by
  induction s generalizing o with
  | nil => simp_all [split]
  | cons c cs ih =>
    simp only [split, List.splitOn, List.splitOnP_cons] at h ih
    split at h
    · rcases List.mem_cons.1 h with rfl | h
      · exact List.not_mem_nil _
      · exact ih h
    · obtain ⟨o', os, hs⟩ := List.exists_cons_of_ne_nil (List.splitOnP_ne_nil (· == sep) cs)
      rw [hs] at h ih
      rcases List.mem_cons.1 h with rfl | h
      · simp only [List.mem_cons, not_or]
        exact ⟨fun h' => ‹¬(c == sep) = true› (by simp [h']), ih (List.mem_cons_self _ _)⟩
      · exact ih (List.mem_cons_of_mem _ h)

theorem split_intercalate {os : List (List Char)} {sep : Char} (hsep : ∀ o ∈ os, sep ∉ o)
    (hos : os ≠ []) : split ([sep].intercalate os) sep = os :=
  List.splitOn_intercalate os sep hsep hos

theorem head?_split (s : List Char) (sep : Char) :
    (split s sep).head? = some (s.takeWhile (· != sep)) := by
  induction s with
  | nil => rfl
  | cons c cs ih =>
    simp only [split, List.splitOn, List.splitOnP_cons, List.takeWhile_cons] at ih ⊢
    by_cases h : c = sep
    · simp [h]
    · obtain ⟨o, os, hs⟩ := List.exists_cons_of_ne_nil (List.splitOnP_ne_nil (· == sep) cs)
      rw [hs] at ih ⊢
      simp_all

@[simp] theorem stripPrefix_append (pat rest : List Char) :
    stripPrefix (pat ++ rest) pat = some rest := by
  simp [stripPrefix, startsWith_append]

theorem stripPrefix_eq_some {s pat rest : List Char} :
    stripPrefix s pat = some rest ↔ s = pat ++ rest := by
  constructor
  · unfold stripPrefix
    split
    · rintro ⟨⟩; exact eq_append_of_startsWith ‹_›
    · rintro ⟨⟩
  · rintro rfl; exact stripPrefix_append pat rest

/-! ## `find` -/

/-- `find` stops at the first match. -/
theorem find_le_of_infix {pat : List Char} :
    ∀ {s : List Char} (a b : List Char), s = a ++ pat ++ b → ∃ i, find s pat = some i ∧ i ≤ a.length
  | s, a, b, hs => by
    unfold find
    split
    · exact ⟨0, rfl, Nat.zero_le _⟩
    · rename_i hpre
      cases a with
      | nil => exact absurd (List.isPrefixOf_iff_prefix.2 ⟨b, by simp [hs]⟩) hpre
      | cons c a =>
        subst hs
        obtain ⟨i, hi, hle⟩ := find_le_of_infix (s := a ++ pat ++ b) a b rfl
        refine ⟨i + 1, ?_, by simp; omega⟩
        show (find (a ++ pat ++ b) pat).map (· + 1) = _
        rw [hi]; rfl

theorem find_lt_length {s pat : List Char} {i : Nat} (h : find s pat = some i) (hp : pat ≠ []) :
    i < s.length := by
  induction s generalizing i with
  | nil =>
    unfold find at h
    split at h
    · obtain ⟨c, cs, rfl⟩ := List.exists_cons_of_ne_nil hp
      simp at *
    · cases h
  | cons c cs ih =>
    unfold find at h
    split at h
    · cases h; simp
    · simp only [Option.map_eq_some'] at h
      obtain ⟨j, hj, rfl⟩ := h
      simpa using ih hj

/-! ## Reading integers -/

section FromStr

variable {w : Nat}

theorem le_foldl_digits : ∀ (a : Nat) (cs : List Char),
    a ≤ cs.foldl (fun a c => a * 10 + digitValue c) a
  | _, [] => le_refl _
  | a, c :: cs => le_trans (by omega) (le_foldl_digits (a * 10 + digitValue c) cs)

/-- The loop against the value it computes. -/
theorem parseDigits_eq_some_iff {n : Nat} : ∀ {acc : Nat} (cs : List Char), acc < 2 ^ w →
    (parseDigits w acc cs = some n ↔
      (∀ c ∈ cs, c.isDigit) ∧ cs.foldl (fun a c => a * 10 + digitValue c) acc = n ∧ n < 2 ^ w)
  | acc, [], h => by
    simp only [parseDigits, Option.some.injEq, List.not_mem_nil, false_implies, implies_true,
      List.foldl_nil, true_and]
    constructor
    · rintro rfl; exact ⟨rfl, h⟩
    · rintro ⟨rfl, -⟩; rfl
  | acc, c :: cs, _ => by
    rw [parseDigits]
    split
    · rename_i hc
      rw [parseDigits_eq_some_iff cs hc.2]
      simp [hc.1]
    · rename_i hc
      constructor
      · intro h; cases h
      · rintro ⟨hd, hf, hn⟩
        have := le_foldl_digits (acc * 10 + digitValue c) cs
        simp only [List.foldl_cons] at hf
        exact absurd ⟨hd c (List.mem_cons_self _ _), by omega⟩ hc

theorem fromStr_cons_of_ne {c : Char} (hc : c ≠ '+') (cs : List Char) :
    fromStr w (c :: cs) = parseDigits w 0 (c :: cs) := by
  unfold fromStr
  split <;> simp_all [parseDigits]

/-- **What `from_str` accepts.** An optional `+`, then a non-empty run of ASCII digits whose value
fits in `w` bits; the result is that value. -/
theorem fromStr_eq_some_iff {s : List Char} {n : Nat} : fromStr w s = some n ↔ ReadsAs w s n := by
  have h0 : 0 < 2 ^ w := Nat.two_pow_pos w
  constructor
  · intro h
    match s, h with
    | c :: cs, h =>
      by_cases hp : c = '+'
      · subst hp
        cases cs with
        | nil => cases h
        | cons d ds =>
          have hplus : fromStr w ('+' :: d :: ds) = parseDigits w 0 (d :: ds) := rfl
          rw [hplus, parseDigits_eq_some_iff _ h0] at h
          exact ⟨d :: ds, .inr rfl, List.cons_ne_nil _ _, h⟩
      · rw [fromStr_cons_of_ne hp, parseDigits_eq_some_iff _ h0] at h
        exact ⟨c :: cs, .inl rfl, List.cons_ne_nil _ _, h⟩
  · rintro ⟨ds, hs, hne, hdig, rfl, hlt⟩
    obtain ⟨d, ds', rfl⟩ := List.exists_cons_of_ne_nil hne
    have hp : parseDigits w 0 (d :: ds') = some (numeral (d :: ds')) :=
      (parseDigits_eq_some_iff _ h0).2 ⟨hdig, rfl, hlt⟩
    rcases hs with rfl | rfl
    · have hd : d ≠ '+' := fun h => by simpa [h] using hdig d (List.mem_cons_self _ _)
      rw [fromStr_cons_of_ne hd, hp]
    · exact hp

/-- `Nat.digitChar` writes each digit as the character `to_digit` reads back. -/
theorem digitChar_spec : ∀ d, d < 10 →
    (Nat.digitChar d).isDigit ∧ digitValue (Nat.digitChar d) = d := by
  decide

/-- One step of `Nat.toDigitsCore`: the last digit goes in front of what is written so far. -/
theorem toDigitsCore_succ (fuel n : Nat) (ds : List Char) :
    Nat.toDigitsCore 10 (fuel + 1) n ds =
      if n / 10 = 0 then Nat.digitChar (n % 10) :: ds
      else Nat.toDigitsCore 10 fuel (n / 10) (Nat.digitChar (n % 10) :: ds) := rfl

theorem toDigitsCore_spec : ∀ (fuel n : Nat) (ds : List Char), n < fuel →
    (∀ c ∈ Nat.toDigitsCore 10 fuel n ds, c.isDigit ∨ c ∈ ds) ∧
      (Nat.toDigitsCore 10 fuel n ds).foldl (fun a c => a * 10 + digitValue c) 0 =
        ds.foldl (fun a c => a * 10 + digitValue c) n
  | 0, _, _, h => absurd h (Nat.not_lt_zero _)
  | fuel + 1, n, ds, h => by
    have hd := digitChar_spec (n % 10) (Nat.mod_lt n (by decide))
    have hmem : ∀ c ∈ Nat.digitChar (n % 10) :: ds, c.isDigit ∨ c ∈ ds := fun c hc =>
      (List.mem_cons.1 hc).imp (fun h : c = _ => h ▸ hd.1) id
    rw [toDigitsCore_succ]
    split
    · exact ⟨hmem, by rw [List.foldl_cons, hd.2]; congr 1; omega⟩
    · obtain ⟨ih1, ih2⟩ := toDigitsCore_spec fuel (n / 10) (Nat.digitChar (n % 10) :: ds) (by omega)
      refine ⟨fun c hc => (ih1 c hc).elim .inl (hmem c), ?_⟩
      rw [ih2, List.foldl_cons, hd.2]
      congr 1
      omega

/-- **`from_str` reads back what `Display` writes**, for every value of the type. -/
theorem fromStr_toDigits {n : Nat} (h : n < 2 ^ w) : fromStr w (Nat.toDigits 10 n) = some n := by
  obtain ⟨hdig, hval⟩ := toDigitsCore_spec (n + 1) n [] (Nat.lt_succ_self n)
  simp only [List.not_mem_nil, or_false, List.foldl_nil] at hdig hval
  have hne : Nat.toDigitsCore 10 (n + 1) n [] ≠ [] := by
    intro he
    rw [he, List.foldl_nil] at hval
    subst hval
    exact absurd he (by decide)
  exact fromStr_eq_some_iff.2 ⟨_, .inl rfl, hne, hdig, hval, h⟩

end FromStr

/-! ## `trim` -/

section Trim

theorem trim_eq (s : List Char) : trim s = (s.dropWhile isWhitespace).rdropWhile isWhitespace := rfl

theorem head?_dropWhile {p : Char → Bool} (l : List Char) :
    ∀ c ∈ (l.dropWhile p).head?, p c = false := by
  intro c hc
  have := List.head?_dropWhile_not p l
  rw [hc] at this
  simpa using this

/-- `trim` leaves no whitespace at the front. -/
theorem head?_trim (s : List Char) : ∀ c ∈ (trim s).head?, isWhitespace c = false := by
  obtain ⟨t, ht⟩ := List.rdropWhile_prefix isWhitespace (s.dropWhile isWhitespace)
  rw [trim_eq]
  intro c hc
  obtain ⟨r, hr⟩ : ∃ r, (s.dropWhile isWhitespace).rdropWhile isWhitespace = c :: r := by
    cases h : (s.dropWhile isWhitespace).rdropWhile isWhitespace <;> simp_all
  apply head?_dropWhile s
  rw [← ht, hr]
  rfl

/-- `trim` leaves no whitespace at the back. -/
theorem getLast?_trim (s : List Char) : ∀ c ∈ (trim s).getLast?, isWhitespace c = false := by
  intro c hc
  rw [trim_eq] at hc
  have hne : (s.dropWhile isWhitespace).rdropWhile isWhitespace ≠ [] := by
    rintro h; simp [h] at hc
  rw [List.getLast?_eq_getLast _ hne, Option.mem_some_iff] at hc
  subst hc
  simpa using List.rdropWhile_last_not _ _ hne

theorem trim_eq_self {s : List Char} (hh : ∀ c ∈ s.head?, isWhitespace c = false)
    (hl : ∀ c ∈ s.getLast?, isWhitespace c = false) : trim s = s := by
  have hd : s.dropWhile isWhitespace = s := by
    cases s with
    | nil => rfl
    | cons c cs => exact List.dropWhile_cons_of_neg (by simpa using hh c rfl)
  rw [trim_eq, hd, List.rdropWhile_eq_self_iff]
  intro hs
  simpa using hl _ (List.getLast?_eq_getLast s hs)

/-- A string is its own `trim` iff neither end is whitespace. -/
theorem trim_eq_self_iff {s : List Char} :
    trim s = s ↔
      (∀ c ∈ s.head?, isWhitespace c = false) ∧ (∀ c ∈ s.getLast?, isWhitespace c = false) := by
  refine ⟨fun h => ?_, fun h => trim_eq_self h.1 h.2⟩
  rw [← h]
  exact ⟨head?_trim s, getLast?_trim s⟩

/-- `trim` is idempotent. -/
theorem trim_trim (s : List Char) : trim (trim s) = trim s :=
  trim_eq_self (head?_trim s) (getLast?_trim s)

theorem mem_of_mem_trim {s : List Char} {c : Char} (h : c ∈ trim s) : c ∈ s :=
  (List.dropWhile_subset _) ((List.rdropWhile_prefix _ _).subset h)

end Trim

end Cordia.Client.Str
