import GuidedTour.Json.Document
import GuidedTour.Json

/-!
# Texts of a value

A value has many texts: white space may stand between its tokens. `Spells` says which characters are a text of a value,
and both layouts of the writer are.

Main results:

* `spells_render` - a value on one line is a text of it.
* `spells_pretty` - so is a value over several lines, at any depth.
-/

namespace GuidedTour.Json

/-- Nothing but white space. -/
def Blanks (w : List Char) : Prop := ∀ c ∈ w, isBlank c = true

theorem Blanks.nil : Blanks [] := fun _ h => absurd h List.not_mem_nil

theorem blanks_newLine (depth : Nat) : Blanks (newLine depth).toList := by
  intro c hc
  rw [newLine, String.toList_append, List.mem_append] at hc
  rcases hc with hc | hc
  · -- the break itself
    obtain rfl : c = '\n' := by simpa using hc
    decide
  · -- the indentation
    rw [String.toList_ofList] at hc
    obtain rfl : c = ' ' := (List.mem_replicate.mp hc).2
    decide

theorem blanks_space : Blanks [' '] := by
  intro c hc
  obtain rfl : c = ' ' := by simpa using hc
  decide

mutual

/-- The characters are a text of the value. -/
inductive Spells : Json → List Char → Prop where
  | null : Spells .null "null".toList
  | bool (b : Bool) : Spells (.bool b) (if b then "true" else "false").toList
  | integer (i : Int) : Spells (.integer i) (toString i).toList
  | real (x : Decimal.Binary) : Spells (.real x) x.compact.toList
  | text (s : String) : Spells (.text s) (quote s).toList
  | list {items : List Json} {cs : List Char} (hItems : SpellsItems items cs) : Spells (.list items) ('[' :: cs)
  | object {members : List (String × Json)} {cs : List Char} (hMembers : SpellsMembers members cs) :
      Spells (.object members) ('\x7b' :: cs)

/-- The characters are a text of the items of a list, from behind its bracket to the closing one. -/
inductive SpellsItems : List Json → List Char → Prop where
  | empty : SpellsItems [] [']']
  | last {w w' cs : List Char} {v : Json} (hw : Blanks w) (hv : Spells v cs) (hw' : Blanks w') :
      SpellsItems [v] (w ++ cs ++ w' ++ [']'])
  | more {w w' cs cs' : List Char} {v next : Json} {rest : List Json} (hw : Blanks w) (hv : Spells v cs)
      (hw' : Blanks w') (hRest : SpellsItems (next :: rest) cs') :
      SpellsItems (v :: next :: rest) (w ++ cs ++ w' ++ ',' :: cs')

/-- The characters are a text of the members of an object, from behind its brace to the closing one. -/
inductive SpellsMembers : List (String × Json) → List Char → Prop where
  | empty : SpellsMembers [] ['\x7d']
  | last {w u w' cs : List Char} {k : String} {v : Json} (hw : Blanks w) (hu : Blanks u) (hv : Spells v cs)
      (hw' : Blanks w') : SpellsMembers [(k, v)] (w ++ (quote k).toList ++ ':' :: (u ++ cs ++ w' ++ ['\x7d']))
  | more {w u w' cs cs' : List Char} {k : String} {v : Json} {next : String × Json} {rest : List (String × Json)}
      (hw : Blanks w) (hu : Blanks u) (hv : Spells v cs) (hw' : Blanks w')
      (hRest : SpellsMembers (next :: rest) cs') :
      SpellsMembers ((k, v) :: next :: rest) (w ++ (quote k).toList ++ ':' :: (u ++ cs ++ w' ++ ',' :: cs'))

end

/-! ## One line -/

mutual

-- by recursion over the value: on one line every blank of a text is empty

/-- A value on one line is a text of it. -/
theorem spells_render : (v : Json) → Spells v v.render.toList
  | .null => .null
  | .bool b => .bool b
  | .integer i => .integer i
  | .real x => .real x
  | .text s => .text s
  | .list items => by
    have hItems := Spells.list (spells_renderItems items)
    simpa [render, String.toList_append] using hItems
  | .object members => by
    have hMembers := Spells.object (spells_renderMembers members)
    simpa [render, String.toList_append] using hMembers

theorem spells_renderItems : (items : List Json) → SpellsItems items ((renderItems items).toList ++ [']'])
  | [] => .empty
  | [v] => by
    have hLast := SpellsItems.last .nil (spells_render v) .nil
    simpa only [renderItems, List.nil_append, List.append_nil] using hLast
  | v :: next :: rest => by
    have hMore := SpellsItems.more .nil (spells_render v) .nil (spells_renderItems (next :: rest))
    rw [renderItems]
    · simpa [String.toList_append] using hMore
    · -- a list that goes on is not the list of one item
      exact List.cons_ne_nil next rest

theorem spells_renderMembers : (members : List (String × Json)) →
    SpellsMembers members ((renderMembers members).toList ++ ['\x7d'])
  | [] => .empty
  | [(k, v)] => by
    have hLast := SpellsMembers.last (k := k) .nil .nil (spells_render v) .nil
    simpa [renderMembers, String.toList_append] using hLast
  | (k, v) :: next :: rest => by
    have hMore := SpellsMembers.more (k := k) .nil .nil (spells_render v) .nil (spells_renderMembers (next :: rest))
    rw [renderMembers]
    · simpa [String.toList_append] using hMore
    · exact List.cons_ne_nil next rest

end

/-! ## Several lines -/

mutual

-- an item stands one level deeper than its list, whose closing bracket is back at the level of the list

/-- A value over several lines is a text of it. -/
theorem spells_pretty : (v : Json) → (depth : Nat) → Spells v (v.pretty depth).toList
  | .null, _ => .null
  | .bool b, _ => .bool b
  | .integer i, _ => .integer i
  | .real x, _ => .real x
  | .text s, _ => .text s
  | .list items, depth => by
    have hItems := spells_prettyItems items depth (depth + 1)
    -- an empty list has no line of its own for its bracket
    cases items with
    | nil => simpa [pretty] using Spells.list .empty
    | cons v rest => simpa [pretty, String.toList_append] using Spells.list (hItems (List.cons_ne_nil v rest))
  | .object members, depth => by
    have hMembers := spells_prettyMembers members depth (depth + 1)
    cases members with
    | nil => simpa [pretty] using Spells.object .empty
    | cons m rest => simpa [pretty, String.toList_append] using Spells.object (hMembers (List.cons_ne_nil m rest))

theorem spells_prettyItems : (items : List Json) → (outer depth : Nat) → items ≠ [] →
    SpellsItems items ((prettyItems depth items).toList ++ (newLine outer).toList ++ [']'])
  | [], _, _, h => absurd rfl h
  | [v], outer, depth, _ => by
    have hLast := SpellsItems.last (blanks_newLine depth) (spells_pretty v depth) (blanks_newLine outer)
    simpa [prettyItems, String.toList_append] using hLast
  | v :: next :: rest, outer, depth, _ => by
    have hRest := spells_prettyItems (next :: rest) outer depth (List.cons_ne_nil next rest)
    have hMore := SpellsItems.more (blanks_newLine depth) (spells_pretty v depth) .nil hRest
    rw [prettyItems]
    · simpa [String.toList_append] using hMore
    · exact List.cons_ne_nil next rest

theorem spells_prettyMembers : (members : List (String × Json)) → (outer depth : Nat) → members ≠ [] →
    SpellsMembers members ((prettyMembers depth members).toList ++ (newLine outer).toList ++ ['\x7d'])
  | [], _, _, h => absurd rfl h
  | [(k, v)], outer, depth, _ => by
    have hLast := SpellsMembers.last (k := k) (blanks_newLine depth) blanks_space (spells_pretty v depth)
      (blanks_newLine outer)
    simpa [prettyMembers, String.toList_append] using hLast
  | (k, v) :: next :: rest, outer, depth, _ => by
    have hRest := spells_prettyMembers (next :: rest) outer depth (List.cons_ne_nil next rest)
    have hMore := SpellsMembers.more (k := k) (blanks_newLine depth) blanks_space (spells_pretty v depth) .nil hRest
    rw [prettyMembers]
    · simpa [String.toList_append] using hMore
    · exact List.cons_ne_nil next rest

end

end GuidedTour.Json
