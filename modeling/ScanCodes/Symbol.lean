/-!
# Symbols on keys

The punctuation that a key name may consist of, with the words it is spelled by.

## Main definitions

* `Symbol.table`: every symbol with its words.
* `Symbol.words?`: the words of one character, if it is a symbol.
-/

namespace ScanCodes.Symbol

/-- Every symbol with the words that stand for it. -/
def table : List (Char × String) := [
  ('*', "STAR"),
  ('+', "PLUS"),
  ('-', "MINUS"),
  ('/', "SLASH"),
  ('\\', "BACKSLASH"),
  ('=', "EQUALS"),
  ('(', "LEFT PARENTHESIS"),
  (')', "RIGHT PARENTHESIS"),
  ('\x7b', "LEFT BRACE"),
  ('\x7d', "RIGHT BRACE"),
  ('[', "LEFT BRACKET"),
  (']', "RIGHT BRACKET"),
  ('<', "LESS THAN"),
  ('>', "GREATER THAN"),
  ('!', "EXCLAMATION MARK"),
  ('@', "AT SYMBOL"),
  ('#', "POUND SIGN"),
  ('$', "DOLLAR SIGN"),
  ('^', "CARET"),
  ('&', "AMPERSAND"),
  ('_', "UNDERSCORE"),
  ('\x60', "GRAVE ACCENT"),
  ('~', "TILDE"),
  ('|', "PIPE"),
  ('.', "PERIOD"),
  (',', "COMMA"),
  (';', "SEMICOLON"),
  (':', "COLON"),
  ('"', "DOUBLE QUOTE"),
  ('\'', "SINGLE QUOTE"),
  ('?', "QUESTION MARK")]

/-- The words of a character that is a symbol. -/
def words? (c : Char) : Option String :=
  table.lookup c

end ScanCodes.Symbol
