import PluginBuild.Toml.Value
/-!
# Tokens of TOML text

The marks, words, strings and line ends of a TOML text. Blanks and comments between them say
nothing, but that some marks must stand together.
-/

namespace PluginBuild.Toml

/-- A token of TOML text. -/
inductive Token
  /-- A bracket, brace, comma or equals sign, and whether it stands right after another token. -/
  | mark (c : Char) (joined : Bool)
  /-- A name, a number or a row of them with dots between. -/
  | word (chars : List Char)
  /-- A string, and whether it may go over several lines. -/
  | string (value : String) (long : Bool)
  | lineEnd

/-- Whether a character may stand in a comment or a string as it is. -/
def isPrintable (c : Char) : Bool := c = '\t' || (0x20 ≤ c.toNat && c.toNat ≠ 0x7F)

/-- Whether a character can stand in a word. -/
def isWordChar (c : Char) : Bool :=
  c.isAlphanum || c == '_' || c == '-' || c == '+' || c == '.' || c == ':'

/-- Whether a character is a mark. -/
def isMark (c : Char) : Bool :=
  c == '[' || c == ']' || c == '\x7b' || c == '\x7d' || c == ',' || c == '='

/-- Whether a blank that is no line end. -/
def isSpace (c : Char) : Bool := c == ' ' || c == '\t'

/-- The character with a code, where there is one. -/
def charOf? (code : Nat) : Option Char :=
  if code.isValidChar then some (Char.ofNat code) else none

/-- The character whose code is written with `count` digits, and the text after them. -/
def takeCode? (count : Nat) (s : List Char) : Option (Char × List Char) :=
  if s.length < count then none
  else ((Text.digits? 16 (s.take count)).bind charOf?).map (·, s.drop count)

/-- The character that an escape stands for, and the text after it. -/
def takeEscape? : List Char → Option (Char × List Char)
  | [] => none
  | c :: rest =>
    if c = 'u' then takeCode? 4 rest
    else if c = 'U' then takeCode? 8 rest
    else if c = '/' then none
    else (Json.escaped? c).map (·, rest)

/-- The text after a code is no longer. -/
theorem length_takeCode_le {count : Nat} {s : List Char} {r : Char × List Char}
    (h : takeCode? count s = some r) : r.2.length ≤ s.length := by
  rw [takeCode?] at h
  split at h
  · simp at h
  · obtain ⟨_, _, rfl⟩ := Option.map_eq_some_iff.1 h
    simp

/-- The text after an escape is shorter. -/
theorem length_takeEscape_lt {s : List Char} {r : Char × List Char} (h : takeEscape? s = some r) :
    r.2.length < s.length := by
  cases s with
  | nil => simp [takeEscape?] at h
  | cons c rest =>
    rw [takeEscape?] at h
    split at h
    · exact Nat.lt_succ_of_le (length_takeCode_le h)
    split at h
    · exact Nat.lt_succ_of_le (length_takeCode_le h)
    split at h
    · simp at h
    · obtain ⟨_, _, rfl⟩ := Option.map_eq_some_iff.1 h
      simp

/-- The string up to a closing quote on the same line, and the text after it. Only strings in double
quotes have escapes. -/
def shortString (quote : Char) (chars : List Char) (s : List Char) :
    Option (String × List Char) :=
  match s with
  | [] => none
  | c :: rest =>
    if c = quote then some (String.ofList chars.reverse, rest)
    else if c = '\\' ∧ quote = '"' then
      match _h : takeEscape? rest with
      | none => none
      | some r => shortString quote (r.1 :: chars) r.2
    else if isPrintable c then shortString quote (c :: chars) rest
    else none
termination_by s.length
decreasing_by
  · exact Nat.lt_succ_of_lt (length_takeEscape_lt _h)
  · simp

/-- The number of quotes that a text starts with. -/
def quoteCount (quote : Char) (s : List Char) : Nat := (s.takeWhile (· = quote)).length

/-- What follows the blanks and line ends at the start of a text. A carriage return belongs to a
line end only right before a line feed. -/
def skipBlanks : List Char → List Char
  | [] => []
  | c :: rest =>
    if isSpace c ∨ c = '\n' ∨ (c = '\r' ∧ rest.head? = some '\n') then skipBlanks rest
    else c :: rest

/-- What follows the blanks and line ends is no longer. -/
theorem length_skipBlanks_le (s : List Char) : (skipBlanks s).length ≤ s.length := by
  induction s with
  | nil => simp [skipBlanks]
  | cons c rest ih =>
    rw [skipBlanks]
    split
    · exact Nat.le_succ_of_le ih
    · exact Nat.le_refl _

/-- What follows the blanks and line ends at the start of a text, if a line end is among them. -/
def afterLineEnd? (s : List Char) : Option (List Char) :=
  let rest := s.dropWhile isSpace
  if rest.head? = some '\n' ∨ rest.take 2 = ['\r', '\n'] then some (skipBlanks rest) else none

/-- What follows the blanks and line ends is no longer. -/
theorem length_afterLineEnd_le {s r : List Char} (h : afterLineEnd? s = some r) :
    r.length ≤ s.length := by
  simp only [afterLineEnd?] at h
  split at h
  · simp only [Option.some.injEq] at h
    subst h
    exact Nat.le_trans (length_skipBlanks_le _) (List.dropWhile_sublist _).length_le
  · simp at h

/-- The string up to three closing quotes, and the text after it. One or two quotes belong to the
string, also right before the closing ones. -/
def longString (quote : Char) (chars : List Char) (s : List Char) :
    Option (String × List Char) :=
  match s with
  | [] => none
  | c :: rest =>
    if c = quote then
      let count := quoteCount quote rest
      if 2 ≤ count then
        let inside := min (count - 2) 2
        some (String.ofList (List.replicate inside quote ++ chars).reverse,
          rest.drop (inside + 2))
      else longString quote (c :: chars) rest
    else if c = '\\' ∧ quote = '"' then
      match _h : afterLineEnd? rest with
      | some rest => longString quote chars rest
      | none =>
        match _h : takeEscape? rest with
        | none => none
        | some r => longString quote (r.1 :: chars) r.2
    else if c = '\r' then
      match rest with
      | [] => none
      | d :: rest => if d = '\n' then longString quote (d :: chars) rest else none
    else if isPrintable c ∨ c = '\n' then longString quote (c :: chars) rest
    else none
termination_by s.length
decreasing_by
  · simp
  · exact Nat.lt_succ_of_le (length_afterLineEnd_le _h)
  · exact Nat.lt_succ_of_lt (length_takeEscape_lt _h)
  · simp +arith
  · simp

/-- A text without the line end that it starts with. -/
def dropLineEnd : List Char → List Char
  | [] => []
  | c :: rest =>
    if c = '\n' then rest else if c = '\r' ∧ rest.head? = some '\n' then rest.drop 1 else c :: rest

/-- The string after an opening quote, and the text after it. -/
def takeString (quote : Char) (rest : List Char) : Option (Token × List Char) :=
  if 2 ≤ quoteCount quote rest then
    (longString quote [] (dropLineEnd (rest.drop 2))).map fun r => (.string r.1 true, r.2)
  else (shortString quote [] rest).map fun r => (.string r.1 false, r.2)

/-- The word that goes on here, and the text after it. One blank may part a date from a time. -/
def takeWord (s : List Char) : List Char × List Char :=
  let word := s.takeWhile isWordChar
  let rest := s.dropWhile isWordChar
  if afterShape? "dddd-dd-dd".toList word = some [] ∧
      (afterShape? " dd:".toList rest).isSome then
    (word ++ ' ' :: (rest.drop 1).takeWhile isWordChar, (rest.drop 1).dropWhile isWordChar)
  else (word, rest)

/-- The token that starts with a character that is neither blank nor a comment, and the text after
it. -/
def takeToken? (joined : Bool) (c : Char) (rest : List Char) : Option (Token × List Char) :=
  if isMark c then some (.mark c joined, rest)
  else if c = '\n' then some (.lineEnd, rest)
  else if c = '\r' ∧ rest.head? = some '\n' then some (.lineEnd, rest.drop 1)
  else if c = '"' ∨ c = '\'' then takeString c rest
  else if isWordChar c then some (.word (takeWord (c :: rest)).1, (takeWord (c :: rest)).2)
  else none

/-- The text after a comment, if nothing in it is forbidden. -/
def afterComment? : List Char → Option (List Char)
  | [] => some []
  | c :: rest =>
    if c = '\n' ∨ (c = '\r' ∧ rest.head? = some '\n') then some (c :: rest)
    else if isPrintable c then afterComment? rest
    else none

/-- The text after a comment is no longer. -/
theorem length_afterComment_le {s r : List Char} (h : afterComment? s = some r) :
    r.length ≤ s.length := by
  induction s with
  | nil => simp [afterComment?] at h; simp [h]
  | cons c rest ih =>
    rw [afterComment?] at h
    split at h
    · simp only [Option.some.injEq] at h; simp [← h]
    · split at h
      · exact Nat.le_succ_of_le (ih h)
      · simp at h

/-- The text after a short string is no longer. -/
theorem length_shortString_le {quote : Char} {chars s : List Char} {r : String × List Char}
    (h : shortString quote chars s = some r) : r.2.length ≤ s.length := by
  fun_induction shortString quote chars s with
  | case1 => simp at h
  | case2 => simp only [Option.some.injEq] at h; subst h; simp
  | case3 => simp at h
  | case4 chars c rest _ _ r' hr ih =>
    have := ih h
    have := length_takeEscape_lt hr
    simp only [List.length_cons]; omega
  | case5 chars c rest _ _ _ ih => have := ih h; simp only [List.length_cons]; omega
  | case6 => simp at h

/-- The text after a long string is no longer. -/
theorem length_longString_le {quote : Char} {chars s : List Char} {r : String × List Char}
    (h : longString quote chars s = some r) : r.2.length ≤ s.length := by
  fun_induction longString quote chars s with
  | case1 => simp at h
  | case2 =>
    simp only [Option.some.injEq] at h; subst h
    simp only [List.length_drop, List.length_cons]; omega
  | case3 _ _ _ _ ih => have := ih h; simp only [List.length_cons]; omega
  | case4 chars c rest _ _ rest' hr ih =>
    have := ih h
    have := length_afterLineEnd_le hr
    simp only [List.length_cons]; omega
  | case5 => simp at h
  | case6 chars c rest _ _ _ r' hr ih =>
    have := ih h
    have := length_takeEscape_lt hr
    simp only [List.length_cons]; omega
  | case7 => simp at h
  | case8 _ _ _ _ ih => have := ih h; simp only [List.length_cons]; omega
  | case9 => simp at h
  | case10 chars c rest _ _ _ _ ih => have := ih h; simp only [List.length_cons]; omega
  | case11 => simp at h

/-- A text without a line end at its start is no longer. -/
theorem length_dropLineEnd_le (s : List Char) : (dropLineEnd s).length ≤ s.length := by
  cases s with
  | nil => simp [dropLineEnd]
  | cons c rest =>
    rw [dropLineEnd]
    split
    · simp
    · split
      · simp only [List.length_drop, List.length_cons]; omega
      · simp

/-- The text after a token is no longer than the text after the token's first character. -/
theorem length_takeToken_le {joined : Bool} {c : Char} {rest : List Char} {r : Token × List Char}
    (h : takeToken? joined c rest = some r) : r.2.length ≤ rest.length := by
  unfold takeToken? at h
  split at h
  · simp only [Option.some.injEq] at h; subst h; simp
  split at h
  · simp only [Option.some.injEq] at h; subst h; simp
  split at h
  · simp only [Option.some.injEq] at h; subst h; simp
  split at h
  · unfold takeString at h
    split at h
    · obtain ⟨a, ha, rfl⟩ := Option.map_eq_some_iff.1 h
      have := length_longString_le ha
      have := length_dropLineEnd_le (rest.drop 2)
      simp only [List.length_drop] at this
      simp only; omega
    · obtain ⟨a, ha, rfl⟩ := Option.map_eq_some_iff.1 h
      exact length_shortString_le ha
  split at h
  · next hword =>
    simp only [Option.some.injEq] at h
    subst h
    have hdrop : ((c :: rest).dropWhile isWordChar).length ≤ rest.length := by
      rw [List.dropWhile_cons_of_pos hword]
      exact (List.dropWhile_sublist _).length_le
    simp only [takeWord]
    split
    · refine Nat.le_trans (List.dropWhile_sublist _).length_le ?_
      simp only [List.length_drop]; omega
    · exact hdrop
  · simp at h

/-- The tokens of a text. -/
def tokensFrom (joined : Bool) (s : List Char) : Option (List Token) :=
  match s with
  | [] => some []
  | c :: rest =>
    if isSpace c then tokensFrom false rest
    else if c = '#' then
      match _h : afterComment? rest with
      | none => none
      | some rest => tokensFrom false rest
    else match _h : takeToken? joined c rest with
      | none => none
      | some r => (tokensFrom true r.2).map (r.1 :: ·)
termination_by s.length
decreasing_by
  · simp
  · exact Nat.lt_succ_of_le (length_afterComment_le _h)
  · exact Nat.lt_succ_of_le (length_takeToken_le _h)

/-- The tokens of a text, which a byte order mark may precede. -/
def tokens? (s : List Char) : Option (List Token) :=
  tokensFrom false (if s.head? = some '\uFEFF' then s.drop 1 else s)

end PluginBuild.Toml
