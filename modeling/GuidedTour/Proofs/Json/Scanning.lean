import GuidedTour.Json.Source
import GuidedTour.Proofs.Json.Spelling
import GuidedTour.Proofs.Json.Tokens
import Mathlib.Data.List.DropRight

/-!
# Texts are read as the value that was written

The reader passes over white space between tokens, so all texts of a value are read as one and the same document. The
fuel of the reader bounds how deep it descends; twice the length of a text is always enough, since every descent but
one in two takes a character.

Main results:

* `Readable` - what the reader takes without loss.
* `scansValue_succ` / `scansItems_succ` / `scansFields_succ` - one more unit of fuel reads one token further.
* `ofText_spelled` - every text of a value is read as the value, to its end.
-/

namespace GuidedTour.Json

/-! ## Values and their documents -/

/-- The number that a real is read as. -/
def Number.ofReal (x : Decimal.Binary) : Number :=
  ((scanNumber x.compact.toList).map (·.1)).getD .outOfRange

/-- The text of a real is a number, which is read as some number of single precision. -/
structure ReadsBack (x : Decimal.Binary) (value : Float32) : Prop where
  token : scanNumber x.compact.toList = some (.ofReal x, [])
  value : Decode.Source.real (Document.number (.ofReal x)) = pure value

/-- The reader takes the value: integers fit 64 bits, reals are read back, and containers are nested at most so
deep. -/
inductive Readable : Nat → Json → Prop where
  | null (depth : Nat) : Readable depth .null
  | bool (depth : Nat) (b : Bool) : Readable depth (.bool b)
  | integer (depth : Nat) {i : Int} (hLow : -0x8000000000000000 ≤ i) (hHigh : i < 0x10000000000000000) :
      Readable depth (.integer i)
  | real (depth : Nat) {x : Decimal.Binary} {value : Float32} (hBack : ReadsBack x value) : Readable depth (.real x)
  | text (depth : Nat) (s : String) : Readable depth (.text s)
  | list {depth : Nat} {items : List Json} (hItems : ∀ v ∈ items, Readable depth v) :
      Readable (depth + 1) (.list items)
  | object {depth : Nat} {members : List (String × Json)} (hMembers : ∀ m ∈ members, Readable depth m.2) :
      Readable (depth + 1) (.object members)

mutual

/-- What a text of the value is read as, in a container of the level before. -/
def document (level : Nat) : Json → Document
  | .null => .null
  | .bool b => .bool b
  | .integer i => .number (.ofInt i)
  | .real x => .number (.ofReal x)
  | .text s => .text (some s)
  | .list items => .list level (documentItems (level + 1) items)
  | .object members => .object level (documentFields (level + 1) members)

/-- What the items of a list are read as. -/
def documentItems (level : Nat) : List Json → Items
  | [] => .done
  | v :: rest => .item (document level v) (documentItems level rest)

/-- What the members of an object are read as. -/
def documentFields (level : Nat) : List (String × Json) → Fields
  | [] => .done
  | (k, v) :: rest => .field (some k) (document level v) (documentFields level rest)

end

/-! ## White space -/

theorem skipBlanks_append {w cs : List Char} (hw : Blanks w) : skipBlanks (w ++ cs) = skipBlanks cs := by
  induction w with
  | nil => rfl
  | cons c w ih =>
    rw [List.cons_append, skipBlanks, List.dropWhile_cons_of_pos (hw c List.mem_cons_self)]
    exact ih fun d hd => hw d (List.mem_cons_of_mem c hd)

theorem skipBlanks_cons {c : Char} (cs : List Char) (hc : isBlank c = false) : skipBlanks (c :: cs) = c :: cs := by
  simp [skipBlanks, hc]

/-- The blanks before a key end at its quotation mark. -/
theorem skipBlanks_key {w : List Char} (hw : Blanks w) (k : String) (cs : List Char) :
    skipBlanks (w ++ (quote k).toList ++ ':' :: cs) = (quote k).toList ++ ':' :: cs := by
  rw [List.append_assoc, skipBlanks_append hw, quote, String.toList_ofList]
  exact skipBlanks_cons _ (by decide)

theorem skipBlanks_skipBlanks (cs : List Char) : skipBlanks (skipBlanks cs) = skipBlanks cs :=
  List.dropWhile_idempotent isBlank cs

/-- What begins with white space, a comma or a closing bracket is no part of a number. -/
theorem ends_append {w rest : List Char} (hw : Blanks w) (hRest : Ends rest) : Ends (w ++ rest) := by
  cases w with
  | nil => exact hRest
  | cons c w =>
    intro d hd
    obtain rfl : c = d := by simpa using hd
    have hBlank := hw c List.mem_cons_self
    simp only [isBlank, Bool.or_eq_true, decide_eq_true_eq] at hBlank
    rcases hBlank with ((rfl | rfl) | rfl) | rfl <;> decide

/-! ## How texts begin -/

/-- What a value's text begins with. -/
theorem Spells.head {v : Json} {cs : List Char} {depth : Nat} (h : Spells v cs) (hRead : Readable depth v) :
    ∃ c rest, cs = c :: rest ∧ isBlank c = false ∧ c ≠ ']' := by
  have hNumber : ∀ {cs n}, scanNumber cs = some (n, []) → ∃ c rest, cs = c :: rest ∧ isBlank c = false ∧ c ≠ ']' := by
    intro cs n hToken
    obtain ⟨c, tail, rfl, hc⟩ := head_of_scanNumber hToken
    exact ⟨c, tail, rfl, isBlank_eq_false hc, hc ']' (by decide) (by decide)⟩
  cases h with
  | null => exact ⟨'n', _, rfl, by decide, by decide⟩
  | bool b => cases b <;> exact ⟨_, _, rfl, by decide, by decide⟩
  | integer i =>
    cases hRead with
    | integer _ hLow hHigh => exact hNumber (scanNumber_integer hLow hHigh)
  | real x =>
    cases hRead with
    | real _ hBack => exact hNumber hBack.token
  | text s => exact ⟨'"', _, by rw [quote, String.toList_ofList], by decide, by decide⟩
  | list hItems => exact ⟨'[', _, rfl, by decide, by decide⟩
  | object hMembers => exact ⟨'\x7b', _, rfl, by decide, by decide⟩

/-! ## One step of the reader -/

/-- With so much fuel, a value is read from any of its texts that is short enough. -/
def ScansValue (fuel : Nat) : Prop :=
  ∀ {v : Json} {w cs : List Char} {depth : Nat} (level : Nat) (rest : List Char), Spells v cs → Readable depth v →
    Blanks w → Ends rest → 2 * cs.length ≤ fuel → scanValue fuel level (w ++ (cs ++ rest)) = (document level v, rest)

/-- The same for the items of a list. -/
def ScansItems (fuel : Nat) : Prop :=
  ∀ {v : Json} {items : List Json} {cs : List Char} {depth : Nat} (level : Nat) (rest : List Char),
    SpellsItems (v :: items) cs → (∀ a ∈ v :: items, Readable depth a) → 2 * cs.length < fuel →
      scanItems fuel level (cs ++ rest) = (documentItems level (v :: items), rest)

/-- The same for the members of an object. -/
def ScansFields (fuel : Nat) : Prop :=
  ∀ {m : String × Json} {members : List (String × Json)} {cs : List Char} {depth : Nat} (level : Nat)
    (rest : List Char), SpellsMembers (m :: members) cs → (∀ a ∈ m :: members, Readable depth a.2) →
    2 * cs.length < fuel →
      scanFields fuel level (cs ++ rest) = (documentFields level (m :: members), rest)

theorem scanValue_number {fuel level : Nat} {cs rest : List Char} {n : Number}
    (hToken : scanNumber cs = some (n, [])) (hRest : Ends rest) :
    scanValue (fuel + 1) level (cs ++ rest) = (.number n, rest) := by
  obtain ⟨c, tail, rfl, hc⟩ := head_of_scanNumber hToken
  have hScan := scanNumber_append hToken hRest
  rw [List.cons_append, List.nil_append] at hScan
  rw [List.cons_append, scanValue, skipBlanks_cons _ (isBlank_eq_false hc)]
  -- by its first character the text is no string, list or object, and no keyword either
  split
  · rename_i h; cases h
  · rename_i h; exact absurd (List.cons.inj h).1 (hc _ (by decide) (by decide))
  · rename_i h; exact absurd (List.cons.inj h).1 (hc _ (by decide) (by decide))
  · rename_i h; exact absurd (List.cons.inj h).1 (hc _ (by decide) (by decide))
  · rename_i h
    obtain ⟨rfl, rfl⟩ := List.cons.inj h
    rw [if_neg (hc _ (by decide) (by decide)), if_neg (hc _ (by decide) (by decide)),
      if_neg (hc _ (by decide) (by decide)), hScan]

/-- White space before a value is passed over. -/
theorem scanValue_blanks {fuel level : Nat} {w cs : List Char} (hw : Blanks w) :
    scanValue fuel level (w ++ cs) = scanValue fuel level cs := by
  cases fuel with
  | zero => rfl
  | succ fuel => rw [scanValue, scanValue, skipBlanks_append hw]

theorem scanValue_skipBlanks (fuel level : Nat) (cs : List Char) :
    scanValue fuel level (skipBlanks cs) = scanValue fuel level cs := by
  cases fuel with
  | zero => rfl
  | succ fuel => rw [scanValue, scanValue, skipBlanks_skipBlanks]

theorem scanItems_skipBlanks (fuel level : Nat) (cs : List Char) :
    scanItems fuel level (skipBlanks cs) = scanItems fuel level cs := by
  cases fuel with
  | zero => rfl
  | succ fuel => rw [scanItems, scanItems, skipBlanks_skipBlanks]

theorem scanFields_skipBlanks (fuel level : Nat) (cs : List Char) :
    scanFields fuel level (skipBlanks cs) = scanFields fuel level cs := by
  cases fuel with
  | zero => rfl
  | succ fuel => rw [scanFields, scanFields, skipBlanks_skipBlanks]

/-- The items of a list do not begin with its closing bracket, unless there are none. -/
theorem SpellsItems.head {v : Json} {items : List Json} {cs : List Char} {depth : Nat}
    (h : SpellsItems (v :: items) cs) (hRead : Readable depth v) (rest : List Char) :
    ∃ c tail, skipBlanks (cs ++ rest) = c :: tail ∧ c ≠ ']' := by
  cases h with
  | last hw hv hw' =>
    obtain ⟨c, tail, rfl, hBlank, hc⟩ := hv.head hRead
    simp only [List.append_assoc, skipBlanks_append hw]
    exact ⟨c, _, skipBlanks_cons _ hBlank, hc⟩
  | more hw hv hw' hRest =>
    obtain ⟨c, tail, rfl, hBlank, hc⟩ := hv.head hRead
    simp only [List.append_assoc, skipBlanks_append hw]
    exact ⟨c, _, skipBlanks_cons _ hBlank, hc⟩

/-- The members of an object begin with a key, unless there are none. -/
theorem SpellsMembers.head {m : String × Json} {members : List (String × Json)} {cs : List Char}
    (h : SpellsMembers (m :: members) cs) (rest : List Char) : ∃ tail, skipBlanks (cs ++ rest) = '"' :: tail := by
  have hKey : ∀ {w}, Blanks w → ∀ k cs, ∃ tail,
      skipBlanks (w ++ (quote k).toList ++ ':' :: cs ++ rest) = '"' :: tail := by
    intro w hw k cs
    rw [List.append_assoc, List.cons_append, skipBlanks_key hw, quote, String.toList_ofList]
    exact ⟨_, rfl⟩
  cases h with
  | last hw hu hv hw' => exact hKey hw _ _
  | more hw hu hv hw' hRest => exact hKey hw _ _

theorem scansValue_succ {fuel : Nat} (hItems : ScansItems fuel) (hFields : ScansFields fuel) :
    ScansValue (fuel + 1) := by
  intro v w cs depth level rest h hRead hw hRest hFuel
  rw [scanValue_blanks hw]
  cases h with
  | null => simp [scanValue, skipBlanks, isBlank, keyword, dropWord?, document]
  | bool b => cases b <;> simp [scanValue, skipBlanks, isBlank, keyword, dropWord?, document]
  | integer i =>
    cases hRead with
    | integer _ hLow hHigh => exact scanValue_number (scanNumber_integer hLow hHigh) hRest
  | real x =>
    cases hRead with
    | real _ hBack => exact scanValue_number hBack.token hRest
  | text s =>
    rw [quote, String.toList_ofList, List.cons_append, List.append_assoc, List.singleton_append, scanValue,
      skipBlanks_cons _ (by decide)]
    simp only [scanText_quoted, document]
  | @list items body hSpelled =>
    cases hRead with
    | list hAll =>
      rw [List.length_cons] at hFuel
      rw [List.cons_append, scanValue, skipBlanks_cons _ (by decide)]
      cases items with
      | nil =>
        cases hSpelled
        rfl
      | cons v items =>
        -- the bracket has been taken, which pays for descending to the items
        obtain ⟨c, tail, hHead, hc⟩ := hSpelled.head (hAll v List.mem_cons_self) rest
        have hScan := hItems (level + 1) rest hSpelled hAll (by omega)
        rw [← scanItems_skipBlanks, hHead] at hScan
        simp only [hHead]
        split
        · rename_i h; exact absurd (List.cons.inj h).1 hc
        · rw [hScan, document]
  | @object members body hSpelled =>
    cases hRead with
    | object hAll =>
      rw [List.length_cons] at hFuel
      rw [List.cons_append, scanValue, skipBlanks_cons _ (by decide)]
      cases members with
      | nil =>
        cases hSpelled
        rfl
      | cons m members =>
        obtain ⟨tail, hHead⟩ := hSpelled.head rest
        have hScan := hFields (level + 1) rest hSpelled hAll (by omega)
        rw [← scanFields_skipBlanks, hHead] at hScan
        simp only [hHead]
        split
        · rename_i h; exact absurd (List.cons.inj h).1 (by decide)
        · rw [hScan, document]

theorem ends_cons {c : Char} {rest : List Char} (hc : extendsNumber c = false) : Ends (c :: rest) := by
  intro d hd
  obtain rfl : c = d := by simpa using hd
  exact hc

/-- Behind an item there is a comma, a bracket, or a fault. -/
theorem scanItems_step {fuel level : Nat} {cs : List Char} (hHead : ∃ c tail, skipBlanks cs = c :: tail ∧ c ≠ ']') :
    scanItems (fuel + 1) level cs =
      match skipBlanks (scanValue fuel level cs).2 with
      | ',' :: rest =>
        (.item (scanValue fuel level cs).1 (scanItems fuel level rest).1, (scanItems fuel level rest).2)
      | ']' :: rest => (.item (scanValue fuel level cs).1 .done, rest)
      | _ => (.item (scanValue fuel level cs).1 .broken, []) := by
  obtain ⟨c, tail, hCs, hc⟩ := hHead
  rw [scanItems]
  split
  · rename_i h; rw [hCs] at h; cases h
  · rename_i h; rw [hCs] at h; exact absurd (List.cons.inj h).1 hc
  · rewrite [scanValue_skipBlanks]
    rfl

theorem scansItems_succ {fuel : Nat} (hValue : ScansValue fuel) (hItems : ScansItems fuel) :
    ScansItems (fuel + 1) := by
  intro v items cs depth level rest h hAll hFuel
  rw [scanItems_step (h.head (hAll v List.mem_cons_self) rest)]
  -- an item ends before its blanks, a comma or the bracket, none of which could belong to a number
  cases h with
  | @last w w' body _ hw hv hw' =>
    simp only [List.length_append, List.length_singleton] at hFuel
    have hScan := hValue level (w' ++ ']' :: rest) hv (hAll v List.mem_cons_self) hw
      (ends_append hw' (ends_cons (by decide))) (by omega)
    have hText : w ++ body ++ w' ++ [']'] ++ rest = w ++ (body ++ (w' ++ ']' :: rest)) := by simp
    rw [hText, hScan]
    simp only [skipBlanks_append hw', skipBlanks_cons rest (show isBlank ']' = false by decide), documentItems]
  | @more w w' body body' _ next items hw hv hw' hRest =>
    simp only [List.length_append, List.length_cons] at hFuel
    have hScan := hValue level (w' ++ ',' :: (body' ++ rest)) hv (hAll v List.mem_cons_self) hw
      (ends_append hw' (ends_cons (by decide))) (by omega)
    have hMore := hItems level rest hRest (fun a ha => hAll a (List.mem_cons_of_mem v ha)) (by omega)
    have hText : w ++ body ++ w' ++ ',' :: body' ++ rest = w ++ (body ++ (w' ++ ',' :: (body' ++ rest))) := by simp
    rw [hText, hScan]
    simp only [skipBlanks_append hw', skipBlanks_cons (body' ++ rest) (show isBlank ',' = false by decide), hMore]
    rfl

/-- Behind a key there is a colon and a value, and behind it a comma, a brace, or a fault. -/
theorem scanFields_step {fuel level : Nat} {cs rest : List Char} {k : String}
    (hKey : skipBlanks cs = (quote k).toList ++ ':' :: rest) :
    scanFields (fuel + 1) level cs =
      match skipBlanks (scanValue fuel level rest).2 with
      | ',' :: more => (.field (some k) (scanValue fuel level rest).1 (scanFields fuel level more).1,
          (scanFields fuel level more).2)
      | '\x7d' :: more => (.field (some k) (scanValue fuel level rest).1 .done, more)
      | _ => (.field (some k) (scanValue fuel level rest).1 .broken, []) := by
  have hQuoted : (quote k).toList ++ ':' :: rest = '"' :: (k.toList.flatMap escapeChar ++ '"' :: ':' :: rest) := by
    rw [quote, String.toList_ofList]
    simp
  rw [scanFields, hKey, hQuoted]
  simp only [scanText_quoted]
  rewrite [skipBlanks_cons rest (show isBlank ':' = false by decide)]
  rfl

theorem scansFields_succ {fuel : Nat} (hValue : ScansValue fuel) (hFields : ScansFields fuel) :
    ScansFields (fuel + 1) := by
  intro m members cs depth level rest h hAll hFuel
  cases h with
  | @last w u w' body k v hw hu hv hw' =>
    simp only [List.length_append, List.length_cons] at hFuel
    have hScan := hValue level (w' ++ '\x7d' :: rest) hv (hAll (k, v) List.mem_cons_self) hu
      (ends_append hw' (ends_cons (by decide))) (by omega)
    have hText : w ++ (quote k).toList ++ ':' :: (u ++ body ++ w' ++ ['\x7d']) ++ rest =
        w ++ (quote k).toList ++ ':' :: (u ++ (body ++ (w' ++ '\x7d' :: rest))) := by simp
    rw [hText, scanFields_step (skipBlanks_key hw k _), hScan]
    simp only [skipBlanks_append hw', skipBlanks_cons rest (show isBlank '\x7d' = false by decide), documentFields]
  | @more w u w' body body' k v next members hw hu hv hw' hRest =>
    simp only [List.length_append, List.length_cons] at hFuel
    have hScan := hValue level (w' ++ ',' :: (body' ++ rest)) hv (hAll (k, v) List.mem_cons_self) hu
      (ends_append hw' (ends_cons (by decide))) (by omega)
    have hMore := hFields level rest hRest (fun a ha => hAll a (List.mem_cons_of_mem _ ha)) (by omega)
    have hText : w ++ (quote k).toList ++ ':' :: (u ++ body ++ w' ++ ',' :: body') ++ rest =
        w ++ (quote k).toList ++ ':' :: (u ++ (body ++ (w' ++ ',' :: (body' ++ rest)))) := by simp
    rw [hText, scanFields_step (skipBlanks_key hw k _), hScan]
    simp only [skipBlanks_append hw', skipBlanks_cons (body' ++ rest) (show isBlank ',' = false by decide), hMore]
    rfl

/-! ## Whole texts -/

/-- Twice its length is fuel enough for every text. -/
theorem scans (fuel : Nat) : ScansValue fuel ∧ ScansItems fuel ∧ ScansFields fuel := by
  -- on the fuel, for all three at once, since each descends to another
  induction fuel with
  | zero =>
    refine ⟨?_, fun level rest h hAll hFuel => absurd hFuel (Nat.not_lt_zero _),
      fun level rest h hAll hFuel => absurd hFuel (Nat.not_lt_zero _)⟩
    intro v w cs depth level rest h hRead hw hRest hFuel
    -- no value has an empty text
    obtain ⟨c, tail, rfl, -⟩ := h.head hRead
    simp at hFuel
  | succ fuel ih =>
    obtain ⟨hValue, hItems, hFields⟩ := ih
    exact ⟨scansValue_succ hItems hFields, scansItems_succ hValue hItems, scansFields_succ hValue hFields⟩

/-- Every text of a value is read as the value, to its end. -/
theorem ofText_spelled {v : Json} {s : String} {depth : Nat} (h : Spells v s.toList) (hRead : Readable depth v) :
    Document.ofText s = ⟨document 1 v, true⟩ := by
  have hEnds : Ends [] := fun c hc => by cases hc
  have hScan := (scans (2 * s.toList.length + 2)).1 1 [] h hRead .nil hEnds (by omega)
  rw [List.nil_append, List.append_nil] at hScan
  rw [Document.ofText, hScan]
  rfl

end GuidedTour.Json
