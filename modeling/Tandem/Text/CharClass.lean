import Tandem.Text.Octet

/-!
# Classes of ASCII characters

The classes that patterns and character sets can name. No byte beyond ASCII is in any of them.
-/

namespace Tandem.CharClass

/-- An upper case letter. -/
def isUpper (c : Char) : Bool :=
  'A' ≤ c && c ≤ 'Z'

/-- A lower case letter. -/
def isLower (c : Char) : Bool :=
  'a' ≤ c && c ≤ 'z'

/-- A letter. -/
def isAlpha (c : Char) : Bool :=
  isUpper c || isLower c

/-- A decimal digit. -/
def isDigit (c : Char) : Bool :=
  '0' ≤ c && c ≤ '9'

/-- A space or a tab. -/
def isBlank (c : Char) : Bool :=
  c == ' ' || c == '\t'

/-- White space. -/
def isSpace (c : Char) : Bool :=
  c == ' ' || (9 ≤ c.toNat && c.toNat ≤ 13)

/-- A character that can be printed, the space included. -/
def isPrint (c : Char) : Bool :=
  ' ' ≤ c && c ≤ '~'

/-- A character that can be seen. -/
def isGraph (c : Char) : Bool :=
  '!' ≤ c && c ≤ '~'

/-- The classes by name. -/
def named : List (String × (Char → Bool)) :=
  [("alnum", fun c => isAlpha c || isDigit c), ("alpha", isAlpha), ("blank", isBlank),
    ("cntrl", fun c => c.toNat < 32 || c.toNat == 127), ("digit", isDigit), ("graph", isGraph),
    ("lower", isLower), ("print", isPrint),
    ("punct", fun c => isGraph c && !isAlpha c && !isDigit c), ("space", isSpace),
    ("upper", isUpper),
    ("xdigit", fun c => isDigit c || ('a' ≤ c.toLower && c.toLower ≤ 'f' && isAlpha c))]

/-- The class of a name. -/
def ofName? (name : Octets) : Option (Char → Bool) :=
  (named.find? fun entry => entry.1.toList == name).map (·.2)

/-- All characters that stand for a byte. -/
def all : Octets :=
  (List.range 256).map Char.ofNat

end Tandem.CharClass
