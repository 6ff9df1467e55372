import Formulary.Config
import Formulary.Token
/-!
# Scanning a formula

The scanner goes through the text once and keeps the characters that are not yet part of a token
pending. A function name, a symbol, a parenthesis or a blank ends the pending token; between letters
and digits that stand side by side it also enters the implicit operator. A text is never refused.
-/

set_option autoImplicit false
namespace Formulary
namespace Config

/-- The first function, in the order of the configuration, whose name begins the text. -/
def functionAt? (cfg : Config) (cs : List Char) : Option String :=
  cfg.functions.keys.find? fun name => name.toList.isPrefixOf cs

/-- A parenthesis or the symbol of an operator. -/
def isSymbol (cfg : Config) (c : Char) : Bool :=
  c == '(' || c == ')' || cfg.isOperator (String.singleton c)

/-- The operator that the scanner enters between factors. -/
def implicitToken (cfg : Config) : Token := ⟨.operator, cfg.implicitOperator⟩

end Config

namespace Token

/-- A parenthesis or an operator. -/
def ofSymbol (c : Char) : Token :=
  if c = '(' then lparen else if c = ')' then rparen else ⟨.operator, String.singleton c⟩

/-- The token of the pending characters, if there are any. -/
def ofPending : List Char → List Token
  | [] => []
  | cs => [⟨if isNumeral cs then .number else .identifier, String.ofList cs⟩]

def startsWithLetter : List Char → Bool
  | [] => false
  | c :: _ => c.isAlpha

/-- The tokens of a text behind pending characters. A digit right before a letter is a token of its
own, and a letter or digit behind a pending letter begins a new one. -/
def scanFrom (cfg : Config) (pending : List Char) : List Char → List Token
  | [] => ofPending pending
  | c :: cs =>
    match cfg.functionAt? (c :: cs) with
    | some name =>
      ofPending pending ++ ⟨.identifier, name⟩ :: scanFrom cfg [] (cs.drop (name.length - 1))
    | none =>
      if cfg.isSymbol c then ofPending pending ++ ofSymbol c :: scanFrom cfg [] cs
      else if Text.isBlank c then ofPending pending ++ scanFrom cfg [] cs
      else if c.isDigit && pending.any Char.isAlpha then
        ofPending pending ++ cfg.implicitToken :: scanFrom cfg [c] cs
      else if c.isDigit && startsWithLetter cs then
        ofPending pending ++
          ⟨.number, String.singleton c⟩ :: cfg.implicitToken :: scanFrom cfg [] cs
      else if c.isAlpha && pending.any Char.isAlpha then
        ofPending pending ++ cfg.implicitToken :: scanFrom cfg [c] cs
      else scanFrom cfg (pending ++ [c]) cs
termination_by cs => cs.length
decreasing_by all_goals simp_wf; try omega

/-- The tokens of a formula. -/
def scan (cfg : Config) (formula : String) : List Token := scanFrom cfg [] formula.toList

/-- The texts of the tokens with single spaces between them. -/
def join (tokens : List Token) : String := " ".intercalate (tokens.map Token.text)

/-- Whether a token is the name of a variable: letters that name no function and no operator. -/
def isVariable (cfg : Config) (t : Token) : Bool :=
  t.kind == .identifier && !t.text.isEmpty && t.text.toList.all Char.isAlpha &&
    !cfg.isOperator t.text && !cfg.isFunction t.text

/-- Adds a name behind the others, unless it is one of them. -/
def addName (names : List String) (name : String) : List String :=
  if name ∈ names then names else names ++ [name]

end Token

/-- The variables of a formula, each once, in the order of first appearance. -/
def Config.variableNames (cfg : Config) (formula : String) : List String :=
  (((Token.scan cfg formula).filter (·.isVariable cfg)).map Token.text).foldl Token.addName []

end Formulary
