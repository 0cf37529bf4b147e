import GuidedTour.Text.Width.Classes

/-!
# Columns of a text

How many terminal columns a text takes. Most texts take the sum of their characters' columns; a few
characters join what follows them, so a text is measured from its end to its head, with a memory of what
stands behind.

* `width` - the columns of a text.
-/

namespace GuidedTour.Text

namespace Width

/-- What stands behind a character, as far as it matters for the character's columns. -/
inductive Behind where
  | nothing
  | lineFeed
  /-- A selector that asks for an emoji; `joined` if a joiner and an emoji stand behind it. -/
  | emojiSelector (joined : Bool)
  /-- A selector that asks for text. -/
  | textSelector
  | emoji
  | skinTone
  /-- A joiner with an emoji behind it. -/
  | joinedEmoji
  /-- An Arabic alef, perhaps behind marks. -/
  | alef
  | lamed
  /-- A joiner with a Hebrew lamed behind it. -/
  | joinedLamed
  /-- A Khmer letter that can stand below another. -/
  | subscriptLetter
  | lisuTone
  | tifinagh
  | joinedTifinagh
  | tifinaghJoiner
  deriving DecidableEq

/-- The Arabic letters that form a ligature behind a lam. -/
def isAlef (n : Nat) : Bool :=
  n == 0x622 || n == 0x623 || n == 0x625 || n == 0x627 || (0x671 ≤ n && n ≤ 0x673) || n == 0x675 ||
  n == 0x773 || n == 0x774 || (0x870 ≤ n && n ≤ 0x882)

/-- The Arabic letters that form a ligature before an alef. -/
def isLam (n : Nat) : Bool :=
  n == 0x644 || (0x6B5 ≤ n && n ≤ 0x6B8) || n == 0x76A || n == 0x8A6 || n == 0x8C7

/-- The Khmer letters with a form below the line. -/
def isSubscriptLetter (n : Nat) : Bool :=
  0x1780 ≤ n && n ≤ 0x17AF &&
  ! [0x1783, 0x1788, 0x178D, 0x1794, 0x1799, 0x179A, 0x179E, 0x179F, 0x17A1, 0x17A3, 0x17A4, 0x17A5,
    0x17A6, 0x17A8, 0x17A9, 0x17AA, 0x17AD, 0x17AE].contains n

/-- The Tifinagh consonants. -/
def isTifinagh (n : Nat) : Bool := (0x2D31 ≤ n && n ≤ 0x2D65) || n == 0x2D6F

/-- Characters that an emoji selector turns into an emoji. -/
def takesEmojiSelector (c : Char) : Bool := emojiByRequest.includes c || emojiByDefault.includes c

/-- The columns of a character on its own, and what it is to the character before it. -/
def alone (c : Char) : Int × Behind :=
  let n := c.toNat
  if n = 0xFE0F then (0, .emojiSelector false)
  else if n = 0xFE0E then (0, .textSelector)
  else if 0x1F3FB ≤ n ∧ n ≤ 0x1F3FF then (2, .skinTone)
  else if 0x1F1E6 ≤ n ∧ n ≤ 0x1F1FF then (1, .nothing)
  else if zero.includes c then (0, .nothing)
  else if emojiByDefault.includes c then (2, .emoji)
  else if wide.includes c then (2, .nothing)
  else if isAlef n then (1, .alef)
  else if n = 0x5DC then (1, .lamed)
  else if isSubscriptLetter n then (1, .subscriptLetter)
  else if n = 0xA4FC ∨ n = 0xA4FD then (1, .lisuTone)
  else if isTifinagh n then (1, .tifinagh)
  else (1, .nothing)

/-- The columns of a character beyond Latin before `behind`. -/
def beyondLatin (c : Char) (behind : Behind) : Int × Behind :=
  let n := c.toNat
  match behind with
  | .emojiSelector joined =>
    if takesEmojiSelector c then (if joined then 0 else 2, .emoji)
    else if joined ∧ n = 0x20E3 then (0, .joinedEmoji)
    else alone c
  | .textSelector =>
    if emojiByDefault.includes c && !(0x1F200 ≤ n && n ≤ 0x1F2FF) then (1, .nothing) else alone c
  | .alef =>
    if isLam n then (0, .nothing)
    else if zero.includes c && n ≠ 0x200C && n ≠ 0x200D then (0, .alef)
    else alone c
  | .lamed => if n = 0x200D then (0, .joinedLamed) else alone c
  | .joinedLamed => if n = 0x5D0 then (0, .nothing) else alone c
  | .subscriptLetter => if n = 0x17D2 then (-1, .nothing) else alone c
  | .lisuTone => if 0xA4F8 ≤ n ∧ n ≤ 0xA4FB then (0, .nothing) else alone c
  | .tifinagh =>
    if n = 0x200D then (0, .joinedTifinagh)
    else if n = 0x2D7F then (1, .tifinaghJoiner)
    else alone c
  | .joinedTifinagh => if isTifinagh n then (0, .nothing) else alone c
  | .tifinaghJoiner => if isTifinagh n then (-1, .nothing) else alone c
  | .skinTone =>
    if modifiableEmoji.includes c then (0, .emoji)
    else if n = 0x200D then (0, .joinedEmoji)
    else alone c
  | .emoji => if n = 0x200D then (0, .joinedEmoji) else alone c
  | .joinedEmoji =>
    if n = 0xFE0F then (0, .emojiSelector true)
    else if 0x1F3FB ≤ n ∧ n ≤ 0x1F3FF then (0, .skinTone)
    else if emojiByDefault.includes c then (0, .emoji)
    else alone c
  | .nothing | .lineFeed => alone c

/-- The columns of a character before `behind`, and what it is to the character before it. Up to the
no-break space every character takes one column, controls included. -/
def step (c : Char) (behind : Behind) : Int × Behind :=
  let n := c.toNat
  if n ≤ 0xA0 then
    match behind with
    | .emojiSelector joined =>
      if takesEmojiSelector c then (if joined then 0 else 2, .emoji) else (1, if n = 10 then .lineFeed else .nothing)
    | .lineFeed => if n = 13 then (0, .nothing) else (1, if n = 10 then .lineFeed else .nothing)
    | _ => (1, if n = 10 then .lineFeed else .nothing)
  else beyondLatin c behind

end Width

/-- The columns of a text. -/
def width (s : String) : Nat :=
  (s.toList.foldr (fun c (acc : Int × Width.Behind) =>
    let (n, behind) := Width.step c acc.2
    (acc.1 + n, behind)) (0, .nothing)).1.toNat

end GuidedTour.Text
