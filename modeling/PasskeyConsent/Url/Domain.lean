import PasskeyConsent.Url.Folding
import PasskeyConsent.Url.Composition
import PasskeyConsent.Url.Direction
import PasskeyConsent.Url.Joiner
import PasskeyConsent.Url.Punycode
import PasskeyConsent.Text.Split
/-!
# Domain names

A domain name as it is sent: folded, in normal form C, and each label that is not ASCII written in Punycode behind
`xn--`.  A label that already is in that form has to stand for one that folding and composing leave as it is.  Delimiters
of an address, characters that do not show, joiners that do nothing and mixtures of two directions are refused; hyphens,
underscores and empty labels are not.
-/
namespace PasskeyConsent.Domain

def isRefused (c : Char) : Bool :=
  c.toNat ≤ 0x20 || c.toNat == 0x7F || "%#/:<>?@[\\]^|".toList.contains c

def mark : List Char := ['x', 'n', '-', '-']

/-- The most characters of a label that is not ASCII, and of one in Punycode. -/
def labelLimit : Nat := 1000

def codeLimit : Nat := 2000

/-- A label that is not too long, not begun by a mark, and without a joiner that does nothing. -/
def isProper (label : List Char) : Bool :=
  label.length ≤ labelLimit && !label.head?.any Composition.isMark && Joiner.fits [] label

/-- A label of letters that folding keeps, in normal form. -/
def isSettled (label : List Char) : Bool := label.all Folding.isKept && Composition.normalForm label == label

/-- A label as it reads and as it is sent. -/
structure Label where
  letters : List Char
  sent : List Char

/-- The label that a folded text is. -/
def Label.ofFolded (text : List Char) : Option Label :=
  if mark.isPrefixOf text then do
    let code := text.drop mark.length
    if codeLimit < code.length then none
    let letters ← Punycode.decode code
    if letters.all Punycode.isBasic ∨ letters.any isRefused ∨ !isSettled letters ∨ !isProper letters then none
    else some ⟨letters, text⟩
  else if text.all Punycode.isBasic then some ⟨text, text⟩
  else if isProper text then some ⟨text, mark ++ Punycode.encode text⟩
  else none

def joinLabels : List (List Char) → List Char
  | [] => []
  | [l] => l
  | l :: rest => l ++ '.' :: joinLabels rest

/-- The form in which a domain name is sent. -/
def send (name : List Char) : Option (List Char) := do
  let folded := Composition.normalForm (← Folding.fold name)
  if folded.any isRefused then none
  let labels ← (Text.splitAt '.' folded).mapM Label.ofFolded
  if Direction.fits (labels.map (·.letters)) then some (joinLabels (labels.map (·.sent))) else none

end PasskeyConsent.Domain
