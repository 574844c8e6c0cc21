import Dialogue.Number.Hex

/-!
# Quoted TOML text

Text between double quotes may hold escapes, text between single quotes holds none.
Between three quotes text may run over several lines.
-/

namespace Dialogue.Toml

/-- Whether a character may stand in text and comments: tabs and all that is no
control character. -/
def isPlain (char : Char) : Bool :=
  char == '\t' || (0x20 ≤ char.toNat && char.toNat != 0x7F)

/-- The character with a code. -/
def charOf? (code : Nat) : Option Char :=
  if code < 0xD800 ∨ 0xDFFF < code ∧ code < 0x110000 then some (Char.ofNat code) else none

/-- The character behind a backslash, and what follows it. -/
def escape? : List Char → Option (Char × List Char)
  | 'b' :: rest => some ('\x08', rest)
  | 't' :: rest => some ('\t', rest)
  | 'n' :: rest => some ('\n', rest)
  | 'f' :: rest => some ('\x0c', rest)
  | 'r' :: rest => some ('\r', rest)
  | 'e' :: rest => some ('\x1b', rest)
  | '"' :: rest => some ('"', rest)
  | '\\' :: rest => some ('\\', rest)
  | 'x' :: a :: b :: rest =>
      ((hexNumber? [a, b]).bind charOf?).map fun char => (char, rest)
  | 'u' :: a :: b :: c :: d :: rest =>
      ((hexNumber? [a, b, c, d]).bind charOf?).map fun char => (char, rest)
  | 'U' :: a :: b :: c :: d :: e :: f :: g :: h :: rest =>
      ((hexNumber? [a, b, c, d, e, f, g, h]).bind charOf?).map fun char => (char, rest)
  | _ => none

theorem length_escape? {chars : List Char} {result : Char × List Char}
    (hescape : escape? chars = some result) : result.2.length < chars.length := by
  unfold escape? at hescape
  split at hescape
  all_goals first
    | simp only [Option.map_eq_some_iff, Option.some.injEq] at hescape
      first
        | subst hescape
          simp
        | obtain ⟨_, _, rfl⟩ := hescape
          simp only [List.length_cons]
          omega
    | simp at hescape

/-- What follows a backslash at the end of a line: the text from the next character on
that is neither blank nor a line break. -/
def continued? (chars : List Char) : Option (List Char) :=
  match chars.dropWhile (fun char => char == ' ' || char == '\t') with
  | '\n' :: rest => some (rest.dropWhile isGap)
  | '\r' :: '\n' :: rest => some (rest.dropWhile isGap)
  | _ => none
where
  /-- Whether a character is left out behind the end of a line. -/
  isGap (char : Char) : Bool :=
    char == ' ' || char == '\t' || char == '\n' || char == '\r'

theorem length_continued? {chars rest : List Char} (hcontinued : continued? chars = some rest) :
    rest.length < chars.length := by
  have hdrop (test : Char → Bool) (list : List Char) :
      (list.dropWhile test).length ≤ list.length :=
    (List.dropWhile_sublist test).length_le
  have hstart := hdrop (fun char => char == ' ' || char == '\t') chars
  unfold continued? at hcontinued
  split at hcontinued
  case h_1 rest heq =>
    have hrest := hdrop continued?.isGap rest
    rw [heq, List.length_cons] at hstart
    cases hcontinued
    omega
  case h_2 rest heq =>
    have hrest := hdrop continued?.isGap rest
    rw [heq, List.length_cons, List.length_cons] at hstart
    cases hcontinued
    omega
  case h_3 => simp at hcontinued

/-- The rest of a text after its opening quote, with the characters read so far in
reverse, up to the closing quote. -/
def readBasic (read : List Char) (chars : List Char) : Option (String × List Char) :=
  match chars with
  | '"' :: rest => some (String.ofList read.reverse, rest)
  | '\\' :: rest =>
      match _hescape : escape? rest with
      | some (char, after) => readBasic (char :: read) after
      | none => none
  | char :: rest => if isPlain char then readBasic (char :: read) rest else none
  | [] => none
termination_by chars.length
decreasing_by
  · exact Nat.lt_succ_of_lt (length_escape? _hescape)
  · exact Nat.lt_succ_self _

/-- The closing quotes at the front, of which two may belong to the text, and what
follows them. -/
def close? (quote : Char) (chars : List Char) : Option (List Char × List Char) :=
  let count := min 5 (chars.takeWhile (· == quote)).length
  if 3 ≤ count then some (List.replicate (count - 3) quote, chars.drop count) else none

/-- The rest of a text over several lines after its opening quotes. -/
def readBasicLines (read : List Char) (chars : List Char) : Option (String × List Char) :=
  match close? '"' chars with
  | some (quotes, rest) => some (String.ofList (read.reverse ++ quotes), rest)
  | none =>
      match chars with
      | '\\' :: rest =>
          match _hcontinued : continued? rest with
          | some after => readBasicLines read after
          | none =>
              match _hescape : escape? rest with
              | some (char, after) => readBasicLines (char :: read) after
              | none => none
      | '\n' :: rest => readBasicLines ('\n' :: read) rest
      | '\r' :: '\n' :: rest => readBasicLines ('\n' :: '\r' :: read) rest
      | char :: rest => if isPlain char then readBasicLines (char :: read) rest else none
      | [] => none
termination_by chars.length
decreasing_by
  · exact Nat.lt_succ_of_lt (length_continued? _hcontinued)
  · exact Nat.lt_succ_of_lt (length_escape? _hescape)
  · exact Nat.lt_succ_self _
  · exact Nat.lt_succ_of_lt (Nat.lt_succ_self _)
  · exact Nat.lt_succ_self _

/-- A text without escapes after its opening quote. -/
def readLiteral (chars : List Char) : Option (String × List Char) :=
  match chars.span (· != '\'') with
  | (text, _ :: rest) => if text.all isPlain then some (String.ofList text, rest) else none
  | _ => none

/-- The rest of a text without escapes over several lines after its opening quotes. -/
def readLiteralLines (read : List Char) : List Char → Option (String × List Char)
  | [] => none
  | char :: rest =>
      match close? '\'' (char :: rest) with
      | some (quotes, rest) => some (String.ofList (read.reverse ++ quotes), rest)
      | none =>
          if isPlain char || char == '\n' || char == '\r' && rest.head? == some '\n' then
            readLiteralLines (char :: read) rest
          else none

/-- Leaves out the line break behind opening quotes. -/
def skipFirstBreak : List Char → List Char
  | '\n' :: rest => rest
  | '\r' :: '\n' :: rest => rest
  | chars => chars

/-- A quoted text at the front. -/
def readQuoted : List Char → Option (String × List Char)
  | '"' :: '"' :: '"' :: rest => readBasicLines [] (skipFirstBreak rest)
  | '"' :: rest => readBasic [] rest
  | '\'' :: '\'' :: '\'' :: rest => readLiteralLines [] (skipFirstBreak rest)
  | '\'' :: rest => readLiteral rest
  | _ => none

/-- A quoted text on one line at the front. -/
def readQuotedLine : List Char → Option (String × List Char)
  | '"' :: rest => readBasic [] rest
  | '\'' :: rest => readLiteral rest
  | _ => none

end Dialogue.Toml
