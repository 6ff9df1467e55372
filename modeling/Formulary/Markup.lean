import Formulary.Token.Scan
/-!
# Display markup

A formula is rendered token by token: operators between spaces, function names behind a backslash,
everything else as it is. Display markup also drops the multiplication sign behind a letter or digit,
and a clean copy drops the backslashes.
-/

set_option autoImplicit false
namespace Formulary.Markup

/-- The markup of one token. -/
def ofToken (cfg : Config) (t : Token) : List Char :=
  if cfg.isOperator t.text then ' ' :: t.text.toList ++ [' ']
  else if cfg.isFunction t.text then '\\' :: t.text.toList
  else t.text.toList

/-- Drops each multiplication sign behind a letter or digit, with a blank between them if there is
one. -/
def dropTimes : List Char → List Char
  | [] => []
  | c :: '*' :: rest => if c.isAlphanum then c :: dropTimes rest else c :: dropTimes ('*' :: rest)
  | c :: s :: '*' :: rest =>
    if c.isAlphanum && Text.isBlank s then c :: dropTimes rest else c :: dropTimes (s :: '*' :: rest)
  | c :: rest => c :: dropTimes rest

/-- Drops each backslash that is not followed by another one. -/
def dropBackslashes : List Char → List Char
  | [] => []
  | '\\' :: '\\' :: rest => '\\' :: dropBackslashes ('\\' :: rest)
  | '\\' :: rest => dropBackslashes rest
  | c :: rest => c :: dropBackslashes rest

/-- The markup of a formula. -/
def ofFormula (cfg : Config) (formula : String) : String :=
  String.ofList ((Token.scan cfg formula).flatMap (ofToken cfg))

/-- The markup of a formula without multiplication signs behind letters and digits. -/
def display (cfg : Config) (formula : String) : String :=
  String.ofList (dropTimes (ofFormula cfg formula).toList)

/-- A markup as plain text. -/
def clean (markup : String) : String := String.ofList (dropBackslashes markup.toList)

end Formulary.Markup
