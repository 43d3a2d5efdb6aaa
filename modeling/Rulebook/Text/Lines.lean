-- Ends of lines. In text from files a carriage return, alone or in front of
-- a line feed, ends a line as a line feed does.

namespace Rulebook.Text

/-- The text with a line feed at the end of every line. -/
def lineFeeds : List Char → List Char
  | '\r' :: '\n' :: cs => '\n' :: lineFeeds cs
  | '\r' :: cs => '\n' :: lineFeeds cs
  | c :: cs => c :: lineFeeds cs
  | [] => []

end Rulebook.Text
