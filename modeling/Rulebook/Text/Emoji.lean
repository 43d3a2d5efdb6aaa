-- Emoji by name. In a text for a screen a name between two colons stands
-- for its emoji; behind the name there may be the form that is asked for.
import Rulebook.Text.Blank
import Rulebook.Text.EmojiNames
import Rulebook.Text.Split

namespace Rulebook.Text

/-! ## Names -/

/-- The words of a line two by two. -/
def pairs : List (List Char) → List (String × String)
  | name :: emoji :: rest => (String.ofList name, String.ofList emoji) :: pairs rest
  | _ => []

/-- All names with their emoji. -/
def emojiNames : List (String × String) := emojiLines.flatMap fun l => pairs (words l.toList)

/-- A letter in its small form, among the letters that names are made of. -/
def smallLetter (c : Char) : Char :=
  if ('A' ≤ c ∧ c ≤ 'Z') ∨ ('À' ≤ c ∧ c ≤ 'Þ' ∧ c ≠ '×') then Char.ofNat (c.toNat + 32)
  else if c = '\u212a' then 'k'
  else if c = '\u212b' then 'å'
  else c

/-- The forms that may be asked for, and the mark of each. -/
def emojiForms : List (List Char × Char) :=
  [("-emoji".toList, '\ufe0f'), ("-text".toList, '\ufe0e')]

/-- A code without the form it asks for, and the mark of that. -/
def emojiForm (code : List Char) : List Char × List Char :=
  match emojiForms.find? fun f => f.1.isSuffixOf code with
  | some f => (code.take (code.length - f.1.length), [f.2])
  | none => (code, [])

/-- The emoji that a code stands for. -/
def emoji? (code : List Char) : Option (List Char) :=
  let (name, mark) := emojiForm code
  (emojiNames.lookup (String.ofList (name.map smallLetter))).map fun e => e.toList ++ mark

/-! ## Texts -/

/-- The code between two colons that a text begins with. -/
def emojiCode? : List Char → Option (List Char)
  | ':' :: cs =>
    let code := cs.takeWhile fun c => c != ':' && !isBlank c
    if (cs.drop code.length).head? == some ':' then some code else none
  | _ => none

/-- A text with emoji in the place of their codes. The first `skip`
characters belong to the code before. -/
def withEmojiFrom : Nat → List Char → List Char
  | _, [] => []
  | skip + 1, _ :: cs => withEmojiFrom skip cs
  | 0, c :: cs =>
    match emojiCode? (c :: cs) with
    | some code =>
      (emoji? code).getD (':' :: code ++ [':']) ++ withEmojiFrom (code.length + 1) cs
    | none => c :: withEmojiFrom 0 cs

/-- A text with emoji in the place of their codes. A code without an emoji
stays, and neither of its colons begins another code. -/
def withEmoji (s : String) : String := String.ofList (withEmojiFrom 0 s.toList)

end Rulebook.Text
