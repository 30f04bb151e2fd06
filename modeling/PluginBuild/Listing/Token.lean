import PluginBuild.Text.Blank
/-!
# Tokens of a declaration

A declaration is a sequence of words, each of which a group in parentheses may follow. Literals,
scopes in brackets and generic arguments belong to the word they stand in; comments between tokens
are dropped.
-/

namespace PluginBuild.Listing

open Text

/-- A word with the group that follows it directly. -/
structure Token where
  word : String
  /-- What stands between the parentheses. -/
  group : Option String
deriving DecidableEq

/-- The literal that goes on after its opening quote, closing quote included, and the text after
it. A backslash keeps the next character from closing the literal. -/
def literal (quote : Char) : List Char → List Char × List Char
  | [] => ([], [])
  | c :: rest =>
    if c = '\\' then
      match rest with
      | [] => ([c], [])
      | d :: rest' =>
        let more := literal quote rest'
        (c :: d :: more.1, more.2)
    else if c = quote then ([c], rest)
    else
      let more := literal quote rest
      (c :: more.1, more.2)

/-- What the characters before a character inside brackets make of it. -/
inductive Inside
  | plain
  | literal (quote : Char)
  | escaped (quote : Char)
  | comment
deriving DecidableEq

/-- The mode after a character inside brackets. -/
def Inside.step (inside : Inside) (c : Char) (next : Option Char) : Inside :=
  match inside with
  | .plain =>
    if c = '\'' ∨ c = '"' then .literal c
    else if c = '/' ∧ next = some '/' then .comment
    else .plain
  | .literal quote => if c = '\\' then .escaped quote else if c = quote then .plain else inside
  | .escaped quote => .literal quote
  | .comment => if c = '\n' then .plain else .comment

/-- The number of brackets open after a character. Brackets in literals and line comments do not
count. -/
def depthAfter (opening closing : Char) (depth : Nat) (inside after : Inside) (c : Char) : Nat :=
  if inside = .plain ∧ after = .plain then
    if c = opening then depth + 1 else if c = closing then depth - 1 else depth
  else depth

/-- The part of the text inside `depth` brackets up to the one that closes the outermost, which is
included, and the text after it. -/
def nested (opening closing : Char) (depth : Nat) (inside : Inside) :
    List Char → List Char × List Char
  | [] => ([], [])
  | c :: rest =>
    let after := inside.step c rest.head?
    let depth := depthAfter opening closing depth inside after c
    if depth = 0 then ([c], rest)
    else
      let more := nested opening closing depth after rest
      (c :: more.1, more.2)

/-- What a character of a word draws into the word after it: the rest of a literal, a scope or
generic arguments. -/
def partAfter (c : Char) (rest : List Char) : List Char × List Char :=
  if c = '\'' ∨ c = '"' then literal c rest
  else if c = '[' then nested '[' ']' 1 .plain rest
  else if c = '<' then nested '<' '>' 1 .plain rest
  else ([], rest)

/-- A literal is a beginning of the text. -/
theorem literal_append (quote : Char) (s : List Char) :
    (literal quote s).1 ++ (literal quote s).2 = s := by
  fun_induction literal quote s <;> simp +zetaDelta [*]

/-- A bracketed part is a beginning of the text. -/
theorem nested_append (opening closing : Char) (depth : Nat) (inside : Inside) (s : List Char) :
    (nested opening closing depth inside s).1 ++ (nested opening closing depth inside s).2 = s := by
  induction s generalizing depth inside with
  | nil => rfl
  | cons c rest ih =>
    rw [nested]
    dsimp only
    split
    · rfl
    · simp [ih]

/-- What a character draws into its word is a beginning of the text after it. -/
theorem partAfter_append (c : Char) (rest : List Char) :
    (partAfter c rest).1 ++ (partAfter c rest).2 = rest := by
  unfold partAfter
  split
  · exact literal_append _ _
  · split
    · exact nested_append _ _ _ _ _
    · split
      · exact nested_append _ _ _ _ _
      · rfl

/-- The text after a drawn part is no longer than the text. -/
theorem length_partAfter_le (c : Char) (rest : List Char) :
    (partAfter c rest).2.length ≤ rest.length := by
  have h := congrArg List.length (partAfter_append c rest)
  simp only [List.length_append] at h
  omega

/-- Whether a character ends a word that it does not stand inside of. -/
def endsWord (c : Char) : Bool := isBlank c || c == '('

/-- The word at the start of the text, and the text after it. -/
def takeWord : List Char → List Char × List Char
  | [] => ([], [])
  | c :: rest =>
    if endsWord c then ([], c :: rest)
    else
      let part := partAfter c rest
      let more := takeWord part.2
      (c :: (part.1 ++ more.1), more.2)
termination_by s => s.length
decreasing_by exact Nat.lt_succ_of_le (length_partAfter_le c rest)

/-- The group at the start of the text, without its parentheses, and the text after it. An
unclosed group ends one character before the text does. -/
def takeGroup : List Char → Option (List Char) × List Char
  | [] => (none, [])
  | c :: rest =>
    if c = '(' then
      let group := nested '(' ')' 1 .plain rest
      (some group.1.dropLast, group.2)
    else (none, c :: rest)

/-- The text after the end of a block comment that the text starts in. -/
def afterBlockComment : List Char → List Char
  | [] => []
  | c :: rest => if c = '*' ∧ rest.head? = some '/' then rest.drop 1 else afterBlockComment rest

/-- A word is a beginning of the text. -/
theorem takeWord_append (s : List Char) : (takeWord s).1 ++ (takeWord s).2 = s := by
  fun_induction takeWord s with
  | case1 => rfl
  | case2 => rfl
  | case3 c rest hc part more ih =>
    simp only [List.cons_append, List.append_assoc]
    rw [ih, partAfter_append]

/-- The text after a group is no longer than the text, and shorter where a group starts it. -/
theorem length_takeGroup_le (s : List Char) : (takeGroup s).2.length ≤ s.length := by
  cases s with
  | nil => exact Nat.le_refl _
  | cons c rest =>
    have h := congrArg List.length (nested_append '(' ')' 1 .plain rest)
    simp only [List.length_append] at h
    rw [takeGroup]
    split
    · simp only [List.length_cons]; omega
    · exact Nat.le_refl _

/-- The text after a block comment is no longer than the text. -/
theorem length_afterBlockComment_le (s : List Char) :
    (afterBlockComment s).length ≤ s.length := by
  induction s with
  | nil => exact Nat.le_refl _
  | cons c rest ih =>
    rw [afterBlockComment]
    split
    · simp; omega
    · simp; omega

/-- A text that starts with no blank gives up at least one character to its first token. -/
theorem length_afterToken_lt (c : Char) (rest : List Char) (h : isBlank c = false) :
    (takeGroup (takeWord (c :: rest)).2).2.length < (c :: rest).length := by
  by_cases hc : c = '('
  · have hword : takeWord (c :: rest) = ([], c :: rest) := by simp [takeWord, endsWord, hc]
    have hn := congrArg List.length (nested_append '(' ')' 1 .plain rest)
    simp only [List.length_append] at hn
    rw [hword, takeGroup, if_pos hc, List.length_cons]
    dsimp only
    omega
  · have hw := congrArg List.length (takeWord_append (c :: rest))
    have hg := length_takeGroup_le (takeWord (c :: rest)).2
    have hpos : 0 < (takeWord (c :: rest)).1.length := by simp [takeWord, endsWord, h, hc]
    simp only [List.length_append] at hw
    omega

/-- The tokens of a text. -/
def tokenize : List Char → List Token
  | [] => []
  | c :: rest =>
    if isBlank c then tokenize rest
    else if c = '/' ∧ rest.head? = some '/' then tokenize (rest.dropWhile (· ≠ '\n'))
    else if c = '/' ∧ rest.head? = some '*' then tokenize (afterBlockComment (rest.drop 1))
    else
      let word := takeWord (c :: rest)
      let group := takeGroup word.2
      ⟨String.ofList word.1, group.1.map String.ofList⟩ :: tokenize group.2
termination_by s => s.length
decreasing_by
  · simp
  · exact Nat.lt_succ_of_le (List.dropWhile_sublist _).length_le
  · have := length_afterBlockComment_le (rest.drop 1)
    simp only [List.length_drop, List.length_cons] at *
    omega
  · exact length_afterToken_lt c rest (by simp_all)

end PluginBuild.Listing
