namespace Kanban.Text

/-- The letters that join several, with the capitals of these. -/
def joinedLetters : List (Char × List Char) :=
  [('\u00df', ['S', 'S']), ('\ufb00', ['F', 'F']), ('\ufb01', ['F', 'I']), ('\ufb02', ['F', 'L']),
    ('\ufb03', ['F', 'F', 'I']), ('\ufb04', ['F', 'F', 'L']), ('\ufb05', ['S', 'T']),
    ('\ufb06', ['S', 'T'])]

def capital (c : Char) : List Char :=
  if c == '\u0131' then ['I']
  else if c == '\u017f' then ['S']
  else ((joinedLetters.find? (·.1 == c)).map (·.2)).getD [c.toUpper]

def capitals (text : String) : String :=
  String.ofList (text.toList.flatMap capital)

end Kanban.Text
