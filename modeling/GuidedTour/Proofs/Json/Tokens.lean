import GuidedTour.Json.Document
import GuidedTour.Json
import Mathlib.Data.List.TakeDrop
import Mathlib.Data.List.TakeWhile
import Mathlib.Tactic.Linarith

/-!
# Tokens of written values

A number ends where nothing that follows can belong to it, so the number at the head of a text is the same whatever
token comes next. The digits of an integer are read as the integer while it fits 64 bits, and a string literal is read
as the text that it was written for, whatever characters the text has.

Main results:

* `scanNumber_append` - a number is read up to what cannot belong to it.
* `scanNumber_integer` - the text of an integer is read as the integer.
* `scanText_quoted` - a string literal is read as its text.
-/

namespace GuidedTour.Json

/-! ## Numbers -/

/-- Whether a character behind a number would be read as part of it. -/
def extendsNumber (c : Char) : Bool := c.isDigit || c == '.' || c == 'e' || c == 'E'

/-- What follows a number, if anything, is no part of it. -/
def Ends (rest : List Char) : Prop := ∀ c ∈ rest.head?, extendsNumber c = false

theorem Ends.head {c : Char} {rest : List Char} (h : Ends (c :: rest)) :
    c.isDigit = false ∧ c ≠ '.' ∧ c ≠ 'e' ∧ c ≠ 'E' := by
  have hc := h c rfl
  simp only [extendsNumber, Bool.or_eq_false_iff, beq_eq_false_iff_ne] at hc
  exact ⟨hc.1.1.1, hc.1.1.2, hc.1.2, hc.2⟩

section Append

variable {cs rest : List Char}

/-- The digits at the head of a text are the same when it goes on, unless with a digit. -/
theorem spanDigits_append (hRest : Ends rest) :
    spanDigits (cs ++ rest) = ((spanDigits cs).1, (spanDigits cs).2 ++ rest) := by
  simp only [spanDigits, List.span_eq_takeWhile_dropWhile]
  induction cs with
  | nil =>
    -- the digits end with the text, and what follows does not begin with one
    cases rest with
    | nil => rfl
    | cons c rest => simp [hRest.head.1]
  | cons c cs ih =>
    cases hc : c.isDigit with
    | true => simpa [hc] using ih
    | false => simp [hc]

theorem takeMinus_append (hCs : cs ≠ []) : takeMinus (cs ++ rest) = ((takeMinus cs).1, (takeMinus cs).2 ++ rest) := by
  cases cs with
  | nil => exact absurd rfl hCs
  | cons c cs =>
    by_cases hc : c = '-'
    · subst hc
      rfl
    · simp [takeMinus, hc]

theorem takeSign_append (hCs : cs ≠ []) :
    Decimal.takeSign (cs ++ rest) = ((Decimal.takeSign cs).1, (Decimal.takeSign cs).2 ++ rest) := by
  cases cs with
  | nil => exact absurd rfl hCs
  | cons c cs =>
    by_cases hMinus : c = '-'
    · subst hMinus
      rfl
    by_cases hPlus : c = '+'
    · subst hPlus
      rfl
    simp [Decimal.takeSign, hMinus, hPlus]

theorem scanFraction_append {part : Option (List Char)} {tail : List Char} (hRest : Ends rest)
    (h : scanFraction cs = some (part, tail)) : scanFraction (cs ++ rest) = some (part, tail ++ rest) := by
  cases cs with
  | nil =>
    cases h
    cases rest with
    | nil => rfl
    | cons c rest => simp [scanFraction, hRest.head.2.1]
  | cons c cs =>
    simp only [scanFraction, List.cons_append] at h ⊢
    split at h
    · rename_i hc
      rw [if_pos hc, spanDigits_append hRest]
      simp only at h ⊢
      split at h
      · cases h
      · rename_i hDigits
        cases h
        rw [if_neg hDigits]
    · rename_i hc
      cases h
      rw [if_neg hc]
      rfl

theorem scanExponent_append {part : Option (Bool × List Char)} {tail : List Char} (hRest : Ends rest)
    (h : scanExponent cs = some (part, tail)) : scanExponent (cs ++ rest) = some (part, tail ++ rest) := by
  cases cs with
  | nil =>
    cases h
    cases rest with
    | nil => rfl
    | cons c rest => simp [scanExponent, hRest.head.2.2]
  | cons c cs =>
    simp only [scanExponent, List.cons_append] at h ⊢
    split at h
    · rename_i hc
      -- an exponent has digits, so there is a character for the sign to be looked for in
      have hCs : cs ≠ [] := by
        rintro rfl
        simp [Decimal.takeSign, spanDigits, List.span_eq_takeWhile_dropWhile] at h
      rw [if_pos hc, takeSign_append hCs]
      simp only [spanDigits_append hRest] at h ⊢
      split at h
      · cases h
      · rename_i hDigits
        cases h
        rw [if_neg hDigits]
    · rename_i hc
      cases h
      rw [if_neg hc]
      rfl

/-- A number is read up to what cannot belong to it. -/
theorem scanNumber_append {n : Number} {tail : List Char} (hToken : scanNumber cs = some (n, tail))
    (hRest : Ends rest) : scanNumber (cs ++ rest) = some (n, tail ++ rest) := by
  have hCs : cs ≠ [] := by
    rintro rfl
    simp [scanNumber, takeMinus, spanDigits, List.span_eq_takeWhile_dropWhile] at hToken
  simp only [scanNumber, takeMinus_append hCs, spanDigits_append hRest] at hToken ⊢
  split at hToken
  · cases hToken
  · rename_i hWhole
    rw [if_neg hWhole]
    simp only [Option.bind_eq_bind, Option.bind_eq_some_iff, Prod.exists] at hToken ⊢
    -- the fraction and the exponent stop where they stopped before
    obtain ⟨fraction, rest', hFraction, exponent, rest'', hExponent, hNumber⟩ := hToken
    cases hNumber
    exact ⟨fraction, rest' ++ rest, scanFraction_append hRest hFraction, exponent, tail ++ rest,
      scanExponent_append hRest hExponent, rfl⟩

end Append

/-- A number begins with a digit or a minus sign, so with nothing that begins another token. -/
theorem head_of_scanNumber {cs rest : List Char} {n : Number} (h : scanNumber cs = some (n, rest)) :
    ∃ c tail, cs = c :: tail ∧ ∀ d, d ≠ '-' → d.isDigit = false → c ≠ d := by
  cases cs with
  | nil => simp [scanNumber, takeMinus, spanDigits, List.span_eq_takeWhile_dropWhile] at h
  | cons c cs =>
    refine ⟨c, cs, rfl, ?_⟩
    rintro d hMinus hDigit rfl
    simp [scanNumber, takeMinus, spanDigits, List.span_eq_takeWhile_dropWhile, hMinus, hDigit] at h

theorem isBlank_eq_false {c : Char} (hc : ∀ d, d ≠ '-' → d.isDigit = false → c ≠ d) : isBlank c = false := by
  simp [isBlank, hc ' ' (by decide) (by decide), hc '\n' (by decide) (by decide), hc '\t' (by decide) (by decide),
    hc '\r' (by decide) (by decide)]

/-! ## Integers -/

/-- The number that an integer is read as. -/
def Number.ofInt : Int → Number
  | .ofNat n => .natural n
  | .negSucc n => .negative (n + 1)

theorem le_ofDigitChars (cs : List Char) (acc : Nat) : acc ≤ Nat.ofDigitChars 10 cs acc := by
  rw [Nat.ofDigitChars_eq_ofDigitChars_zero]
  have hPower : 0 < 10 ^ cs.length := Nat.pow_pos (by decide)
  nlinarith

theorem takeSignificand_eq {cs : List Char} {acc : Nat} (h : Nat.ofDigitChars 10 cs acc ≤ significandLimit) :
    takeSignificand acc cs = (Nat.ofDigitChars 10 cs acc, cs.length) := by
  induction cs generalizing acc with
  | nil => rfl
  | cons c cs ih =>
    have hNext : acc * 10 + digitValue c = 10 * acc + (c.toNat - '0'.toNat) := by rw [digitValue, Nat.mul_comm]
    rw [Nat.ofDigitChars_cons] at h ⊢
    -- the value only grows with further digits, so no digit is cut off on the way
    have hSmall := Nat.le_trans (le_ofDigitChars cs _) h
    rw [takeSignificand, hNext, if_neg (Nat.not_lt.mpr hSmall), ih h, List.length_cons]

/-- The digits of a number do not begin with a zero, unless it is zero. -/
theorem head_toDigits {n : Nat} (hn : 0 < n) : (Nat.toDigits 10 n).head? ≠ some '0' := by
  induction n using Nat.strong_induction_on with
  | _ n ih =>
    by_cases hSmall : n < 10
    · rw [Nat.toDigits_of_lt_base hSmall, List.head?_cons]
      simpa [Nat.digitChar_eq_zero] using Nat.ne_of_gt hn
    · -- the first digit is the first digit of a tenth
      obtain ⟨c, cs, hDigits⟩ := List.exists_cons_of_ne_nil (Nat.toDigits_ne_nil (n := n / 10) (b := 10))
      have hHead := ih (n / 10) (by omega) (by omega)
      rw [Nat.toDigits_of_base_le (by decide) (by omega), hDigits]
      rwa [hDigits] at hHead

theorem spanDigits_toDigits (n : Nat) : spanDigits (Nat.toDigits 10 n) = (Nat.toDigits 10 n, []) := by
  have hDigits : ∀ c ∈ Nat.toDigits 10 n, c.isDigit = true :=
    fun c hc => Nat.isDigit_of_mem_toDigits (by decide) (by decide) hc
  rw [spanDigits, List.span_eq_takeWhile_dropWhile, List.takeWhile_eq_self_iff.mpr hDigits,
    List.dropWhile_eq_nil_iff.mpr hDigits]

/-- No digits of a number begin with a needless zero. -/
theorem proper_toDigits (n : Nat) :
    ((Nat.toDigits 10 n).isEmpty ||
      ((Nat.toDigits 10 n).head? == some '0' && decide (1 < (Nat.toDigits 10 n).length))) = false := by
  rcases Nat.eq_zero_or_pos n with rfl | hn
  · rfl
  · simp [Nat.toDigits_ne_nil, head_toDigits hn]

/-- The text of an integer is read as the integer while it fits 64 bits. -/
theorem scanNumber_integer {i : Int} (hLow : -0x8000000000000000 ≤ i) (hHigh : i < 0x10000000000000000) :
    scanNumber (toString i).toList = some (.ofInt i, []) := by
  have hValue : ∀ n : Nat, n ≤ significandLimit →
      takeSignificand 0 (Nat.toDigits 10 n) = (n, (Nat.toDigits 10 n).length) := by
    intro n hn
    rw [takeSignificand_eq (by rwa [Nat.ofDigitChars_ten_toDigits]), Nat.ofDigitChars_ten_toDigits]
  -- a natural number is up to the range without a sign, a negative one to the range with it
  cases i with
  | ofNat n =>
    have hText : (toString (Int.ofNat n)).toList = Nat.toDigits 10 n := by
      show (Nat.repr n).toList = _
      rw [Nat.repr_eq_ofList_toDigits, String.toList_ofList]
    have hMinus : takeMinus (Nat.toDigits 10 n) = (false, Nat.toDigits 10 n) := by
      cases hDigits : Nat.toDigits 10 n with
      | nil => rfl
      | cons c cs =>
        have hc : c.isDigit = true :=
          Nat.isDigit_of_mem_toDigits (by decide) (by decide) (hDigits ▸ List.mem_cons_self)
        have hMinus : c ≠ '-' := by
          rintro rfl
          exact absurd hc (by decide)
        simp [takeMinus, hMinus]
    have hn : n ≤ significandLimit := by
      rw [Int.ofNat_eq_natCast] at hHigh
      simp only [significandLimit]
      omega
    rw [hText]
    simp [scanNumber, hMinus, spanDigits_toDigits, proper_toDigits, scanFraction, scanExponent, numberOf, hValue n hn,
      Number.ofInt]
  | negSucc n =>
    have hText : (toString (Int.negSucc n)).toList = '-' :: Nat.toDigits 10 (n + 1) := by
      show ("-" ++ Nat.repr (n + 1)).toList = _
      simp only [Nat.repr_eq_ofList_toDigits, String.toList_append, String.toList_ofList]
      rfl
    have hn : n + 1 ≤ significandLimit := by simp only [significandLimit]; omega
    have hn' : ¬ 0x8000000000000000 < n + 1 := by omega
    rw [hText]
    simp [scanNumber, takeMinus, spanDigits_toDigits, proper_toDigits, scanFraction, scanExponent, numberOf,
      hValue (n + 1) hn, Number.ofInt]
    omega

/-! ## String literals -/

/-- Whether a character is written with the number of its code unit. -/
def isNumbered (c : Char) : Bool :=
  c.toNat < 32 && c != '\n' && c != '\r' && c != '\t' && c != '\x08' && c != '\x0c'

/-- The piece of a literal that a character is read as. -/
def pieceOf (c : Char) : Piece := if isNumbered c then .unit c.toNat else .char c

/-- Two hexadecimal digits name a code unit below 256. -/
theorem hex4?_hexDigit {n : Nat} (hn : n < 32) : hex4? '0' '0' (hexDigit (n / 16)) (hexDigit n) = some n := by
  decide +revert

/-- However a character is escaped, it is read as one piece. -/
theorem scanPieces_escapeChar (c : Char) (acc : List Piece) (rest : List Char) :
    scanPieces acc (escapeChar c ++ rest) = scanPieces (pieceOf c :: acc) rest := by
  unfold escapeChar
  split_ifs with hQuote hSlash hFeed hReturn hTab hBack hForm hSmall
  · subst hQuote; rfl
  · subst hSlash; rfl
  · subst hFeed; rfl
  · subst hReturn; rfl
  · subst hTab; rfl
  · subst hBack; rfl
  · subst hForm; rfl
  · -- a control character without a letter of its own
    have hPiece : pieceOf c = .unit c.toNat := by simp [pieceOf, isNumbered, *]
    simp only [List.cons_append, List.nil_append, scanPieces, hex4?_hexDigit hSmall, hPiece]
  · -- a character that stands for itself
    have hPiece : pieceOf c = .char c := by simp [pieceOf, isNumbered, hSmall]
    simp [scanPieces, hSlash, hSmall, hPiece]

theorem scanPieces_quoted (cs : List Char) (acc : List Piece) (rest : List Char) :
    scanPieces acc (cs.flatMap escapeChar ++ '"' :: rest) = some ((cs.map pieceOf).reverse ++ acc, rest) := by
  induction cs generalizing acc with
  | nil => simp [scanPieces]
  | cons c cs ih =>
    rw [List.flatMap_cons, List.append_assoc, scanPieces_escapeChar, ih]
    simp

/-- A code unit that is no half of a pair stands for itself, whatever follows it. -/
theorem joinPieces_unit {n : Nat} (hn : n < 0xD800) (acc : List Char) (rest : List Piece) :
    joinPieces acc (.unit n :: rest) = joinPieces (Char.ofNat n :: acc) rest := by
  have hAlone : ¬ (0xD800 ≤ n ∧ n ≤ 0xDFFF) := by omega
  cases rest with
  | nil => simp only [joinPieces, if_neg hAlone]
  | cons p rest =>
    cases p with
    | char d => simp only [joinPieces, if_neg hAlone]
    | unit k => rw [joinPieces, if_neg (by omega), if_neg (by omega)]

theorem joinPieces_pieceOf (cs acc : List Char) : joinPieces acc (cs.map pieceOf) = some (acc.reverse ++ cs) := by
  induction cs generalizing acc with
  | nil => simp [joinPieces]
  | cons c cs ih =>
    have hPiece : joinPieces acc (pieceOf c :: cs.map pieceOf) = joinPieces (c :: acc) (cs.map pieceOf) := by
      by_cases hNumbered : isNumbered c = true
      · -- control characters lie far below the halves of pairs
        have hSmall : c.toNat < 0xD800 := by
          simp only [isNumbered, Bool.and_eq_true, decide_eq_true_eq] at hNumbered
          omega
        rw [pieceOf, if_pos hNumbered, joinPieces_unit hSmall, Char.ofNat_toNat]
      · rw [pieceOf, if_neg hNumbered, joinPieces]
    rw [List.map_cons, hPiece, ih]
    simp

/-- A string literal is read as the text that it was written for. -/
theorem scanText_quoted (s : String) (rest : List Char) :
    scanText (s.toList.flatMap escapeChar ++ '"' :: rest) = some (some s, rest) := by
  rw [scanText, scanPieces_quoted]
  simp [joinPieces_pieceOf]

end GuidedTour.Json
