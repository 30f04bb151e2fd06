import Std.Data.HashMap
/-!
# Tables

Values under indices, which are walked through in the order of a hash table with lists: lists for
the hashes of texts, and lists for whole numbers from before texts are needed. What is looked up
comes to the front of its list.
-/

namespace PluginBuild.Shell.Record

/-- An index of a table. A whole number is the same index as its text. -/
inductive Index
  | number (n : Int)
  | text (text : String)

/-- The text of an index. -/
def Index.shown : Index → String
  | .number n => toString n
  | .text s => s

/-- A table. -/
structure Table (α : Type) where
  values : Std.HashMap String α
  /-- The number of lists. -/
  width : Nat
  /-- The indices by the hashes of their texts, unless no text has been needed. -/
  byText : Option (Array (List String))
  byNumber : Array (List Int)
  /-- The number of values, if they have been put under the numbers from one on all at once. -/
  parts : Option Nat

namespace Table

/-- The number of lists of a table that is new. -/
def startWidth : Nat := 64

/-- How many indices there are for each list before there are twice as many lists. -/
def listLimit : Nat := 12

/-- The table without values. -/
def empty {α : Type} : Table α :=
  ⟨∅, startWidth, none, Array.replicate startWidth [], none⟩

/-- The hash of a text. -/
def hash (text : String) : Nat :=
  (text.toList.foldl (fun (h : UInt32) c => (h ^^^ UInt32.ofNat c.toNat) * 16777619)
    2166136261).toNat

/-- The number of the list for a text. -/
def listOfText (width : Nat) (text : String) : Nat := hash text % width

/-- The number of the list for a whole number. -/
def listOfNumber (width : Nat) (n : Int) : Nat := (n % (width : Int)).toNat

/-- Lists with an item at the front of one of them. -/
def putFirst {β : Type} [BEq β] (lists : Array (List β)) (list : Nat) (item : β) :
    Array (List β) :=
  lists.modify list fun items => item :: items.erase item

/-- Twice as many lists, of which the second half has the items that belong there. -/
def halves {β : Type} (listOf : β → Nat) (lists : Array (List β)) : Array (List β) :=
  let kept := lists.mapIdx fun i items => items.filter fun item => listOf item = i
  let moved := lists.mapIdx fun i items => items.filter fun item => listOf item ≠ i
  kept ++ moved

/-- The table with twice as many lists. -/
def doubled {α : Type} (t : Table α) : Table α :=
  let width := 2 * t.width
  { t with
    width
    byText := t.byText.map (halves (listOfText width))
    byNumber := halves (listOfNumber width) t.byNumber }

/-- The table with one more value than before. -/
def added {α : Type} (text : String) (value : α) (t : Table α) : Table α :=
  let t := { t with values := t.values.insert text value }
  if listLimit * t.width < t.values.size then t.doubled else t

/-- The number of lists for a number of values. `fuel` bounds how often it is doubled. -/
def widthFor (count : Nat) : Nat → Nat → Nat
  | 0, width => width
  | fuel + 1, width => if listLimit * width < count then widthFor count fuel (2 * width) else width

/-- The table with lists for the numbers of its values. -/
def asLists {α : Type} (t : Table α) : Table α :=
  match t.parts with
  | none => t
  | some count =>
    let width := widthFor count count startWidth
    { t with
      width
      byText := none
      byNumber := (List.range count).foldl (fun lists (i : Nat) =>
        let n : Int := Int.ofNat i + 1
        putFirst lists (listOfNumber width n) n) (Array.replicate width [])
      parts := none }

/-- The table with lists for texts. -/
def withTexts {α : Type} (t : Table α) : Table α :=
  let t := t.asLists
  match t.byText with
  | some _ => t
  | none =>
    let texts := t.byNumber.toList.flatMap fun items => items.map toString
    { t with
      byText := some (texts.foldl (fun lists text =>
        putFirst lists (listOfText t.width text) text) (Array.replicate t.width [])) }

/-- The table after the look-up of a text. -/
def seekText {α : Type} (text : String) (initial : Option α) (t : Table α) : Table α :=
  let t := t.withTexts
  let t :=
    match initial with
    | some value => if t.values.contains text then t else t.added text value
    | none => t
  if t.values.contains text then
    { t with byText := t.byText.map fun lists => putFirst lists (listOfText t.width text) text }
  else t

/-- The table after the look-up of a whole number. -/
def seekNumber {α : Type} (n : Int) (initial : Option α) (t : Table α) : Table α :=
  let text := toString n
  let isPart := t.parts.any fun count => 1 ≤ n ∧ n ≤ count
  if isPart then t
  else if t.parts.isSome ∧ initial.isNone then t
  else
    let t := t.asLists
    let isListed := ((t.byNumber[listOfNumber t.width n]?).getD []).contains n
    let t :=
      if isListed then t
      else if t.byText.isSome then t.seekText text initial
      else
        match initial with
        | some value => t.added text value
        | none => t
    if t.values.contains text then
      { t with byNumber := putFirst t.byNumber (listOfNumber t.width n) n }
    else t

/-- The table after the look-up of an index, with an initial value there if there has been none and
one is given. -/
def seek {α : Type} (index : Index) (initial : Option α) (t : Table α) : Table α :=
  if t.values.isEmpty ∧ initial.isNone then t
  else
    match index with
    | .number n => t.seekNumber n initial
    | .text text => t.seekText text initial

/-- The value under an index. -/
def get? {α : Type} (t : Table α) (index : Index) : Option α := t.values.get? index.shown

/-- The table with a value under an index. -/
def put {α : Type} (index : Index) (value : α) (t : Table α) : Table α :=
  let t := t.seek index (some value)
  { t with values := t.values.insert index.shown value }

/-- The whole number whose text is a text. -/
def numberOf? (text : String) : Option Int :=
  text.toInt?.bind fun n => if toString n = text then some n else none

/-- The table without the value under an index. -/
def erase {α : Type} (index : Index) (t : Table α) : Table α :=
  let text := index.shown
  if !t.values.contains text then t.seek index none
  else
    let t :=
      match index with
      | .number _ => t.asLists
      | .text _ => t.withTexts
    let values := t.values.erase text
    if values.isEmpty then empty
    else
      { t with
        values
        byText := t.byText.map fun lists =>
          lists.modify (listOfText t.width text) (·.erase text)
        byNumber :=
          match numberOf? text with
          | some n => t.byNumber.modify (listOfNumber t.width n) (·.erase n)
          | none => t.byNumber }

/-- The table with lists for texts, and its indices in the order in which they are walked
through. -/
def indices {α : Type} (t : Table α) : List String × Table α :=
  if t.values.isEmpty then ([], t)
  else
    let t := t.withTexts
    (((t.byText.getD #[]).toList).flatten, t)

/-- The table of values under the numbers from one on. -/
def ofList {α : Type} (values : List α) : Table α :=
  let numbered := values.zipIdx.map fun (value, i) => (toString (i + 1), value)
  if values.isEmpty then empty
  else { (empty : Table α) with values := .ofList numbered, parts := some values.length }

end Table

end PluginBuild.Shell.Record
